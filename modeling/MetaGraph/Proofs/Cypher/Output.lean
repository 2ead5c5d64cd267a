/-
What publishing comes to. The script of all files is made first, and only
then it is written; so a script that cannot be made leaves all files as they
are. Whether a text can be written at a path depends on the path alone, and
the file there holds the text afterwards.
-/
import MetaGraph.Component.Publishers
import MetaGraph.Proofs.Except
import MetaGraph.Proofs.Files.Directory

namespace MetaGraph.Cypher

variable {c : CypherConfig} {tag path text : String} {s s' : FileStore} {script : List Statement}
  {report : PublishReport}

/-! ## The file of a script -/

theorem read_writeOutput (h : CypherPublisher.writeOutput s path text = (.ok (), s')) :
    s'.read path = .ok (Utf8.encode text) := by
  unfold CypherPublisher.writeOutput at h
  dsimp only at h
  split at h
  · cases h
  split at h
  · rename_i hw
    cases h
    exact FileStore.read_write hw
  · cases h

/-- Some text can be written at the path, once the directories on the way to it are made. -/
def CanWrite (s : FileStore) (path : String) : Prop :=
  ∃ text s', CypherPublisher.writeOutput s path text = (.ok (), s')

/-- Where some text can be written, any text can. -/
theorem CanWrite.writeOutput (h : CanWrite s path) (text : String) :
    ∃ s', CypherPublisher.writeOutput s path text = (.ok (), s') := by
  obtain ⟨other, s₁, written⟩ := h
  unfold CypherPublisher.writeOutput at written ⊢
  dsimp only at written ⊢
  split at written
  · cases written
  rename_i s₂ _
  split at written
  · rename_i hw
    obtain ⟨p, hp, -⟩ := except_bind_ok.1 hw
    have any : s₂.write path (Utf8.encode text) = .ok (s₂.put p (.file (Utf8.encode text))) :=
      except_bind_ok.2 ⟨p, hp, rfl⟩
    exact ⟨s₂.put p (.file (Utf8.encode text)), by simp only [any]⟩
  · cases written

/-! ## Publishing -/

/-- What publishing tells when the script has been written, or could not be. -/
def outcome (report : PublishReport) :
    Except FileError Unit × FileStore → Except PublishError PublishReport × FileStore
  | (.ok (), s) => (.ok report, s)
  | (.error e, s) => (.error (.io e), s)

theorem publish_of_compile (compiled : CypherPublisher.compile c tag s = .ok (script, report)) :
    CypherPublisher.publish c tag s =
      outcome report (CypherPublisher.writeOutput s c.outputPath (scriptText script)) := by
  rw [CypherPublisher.publish, compiled]
  dsimp only
  rcases CypherPublisher.writeOutput s c.outputPath _ with ⟨_ | _, _⟩ <;> rfl

theorem publish_of_compile_error {e : PublishError} (h : CypherPublisher.compile c tag s = .error e) :
    CypherPublisher.publish c tag s = (.error e, s) := by
  rw [CypherPublisher.publish, h]

theorem publish_ok (h : CypherPublisher.publish c tag s = (.ok report, s')) :
    ∃ script, CypherPublisher.compile c tag s = .ok (script, report) ∧
      CypherPublisher.writeOutput s c.outputPath (scriptText script) = (.ok (), s') := by
  cases compiled : CypherPublisher.compile c tag s with
  | error e =>
    rw [publish_of_compile_error compiled] at h
    cases h
  | ok made =>
    obtain ⟨script, told⟩ := made
    rw [publish_of_compile compiled] at h
    rcases hw : CypherPublisher.writeOutput s c.outputPath (scriptText script) with ⟨_ | _, _⟩ <;>
      rw [hw] at h <;> cases h
    exact ⟨script, rfl, hw⟩

/-- A script that is made is published where it can be written. -/
theorem CanWrite.publish (h : CanWrite s c.outputPath)
    (compiled : CypherPublisher.compile c tag s = .ok (script, report)) :
    ∃ s', CypherPublisher.publish c tag s = (.ok report, s') ∧
      s'.read c.outputPath = .ok (Utf8.encode (scriptText script)) := by
  obtain ⟨s', written⟩ := h.writeOutput (scriptText script)
  exact ⟨s', by rw [publish_of_compile compiled, written]; rfl, read_writeOutput written⟩

end MetaGraph.Cypher
