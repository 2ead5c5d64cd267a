/-
Templates that are written from texts and fields. Every brace of a text is
doubled and every field stands between single braces, so wherever the two meet
the braces are cut as they were written: each text is rendered as itself, and
each field as its value, which is not looked at again.
-/
import MetaGraph.Proofs.Text.Trim
import MetaGraph.Template

namespace MetaGraph.Template

/-! ## Writing templates -/

/-- The name of a field that can be told from what stands around it. -/
structure FieldName where
  name : String
  noClosing : '\x7d' ∉ name.toList
  noOpening : name.toList.head? ≠ some '\x7b'
  trimmed : Text.NoOuterBlank name.toList

/-- A text of blanks. -/
structure Padding where
  text : String
  blank : Text.AllBlank text.toList

/-- What templates are written from: texts, and fields with blanks in front of and behind their names. -/
inductive Segment where
  | text (s : String)
  | field (front : Padding) (name : FieldName) (back : Padding)

/-- One character, twice if it is a brace. -/
def doubledChar (c : Char) : List Char := if c = '\x7b' ∨ c = '\x7d' then [c, c] else [c]

/-- The text with every brace doubled. -/
def escape (s : String) : String := String.ofList (s.toList.flatMap doubledChar)

namespace Segment

def written : Segment → String
  | text s => escape s
  | field front name back => "\x7b" ++ front.text ++ name.name ++ back.text ++ "\x7d"

def fieldName? : Segment → Option String
  | text _ => none
  | field _ name _ => some name.name

/-- The text a segment stands for. A field that is missing stands for none. -/
def shown (record : Record) : Segment → String
  | text s => s
  | field _ name _ => ((record.get? name.name).map Json.cellText).getD ""

/-- The pieces a segment is read as. -/
def pieces : Segment → List Piece
  | text s => s.toList.map .char
  | field _ name _ => [.field name.name]

end Segment

/-- The template the segments are written as. -/
def writtenAll (segments : List Segment) : String := String.join (segments.map Segment.written)

/-- The first field, in the order of the template, that the record does not have. -/
def firstAbsent? (record : Record) (segments : List Segment) : Option String :=
  (segments.filterMap Segment.fieldName?).find? fun name => (record.get? name).isNone

/-! ## Reading them -/

theorem piecesFrom_brace {c : Char} (h : c = '\x7b' ∨ c = '\x7d') (cs : List Char) :
    piecesFrom none (c :: c :: cs) = .char c :: piecesFrom none cs := by
  rcases h with rfl | rfl <;> rfl

theorem piecesFrom_plain {c : Char} (h : ¬ (c = '\x7b' ∨ c = '\x7d')) (cs : List Char) :
    piecesFrom none (c :: cs) = .char c :: piecesFrom none cs := by
  obtain ⟨opening, closing⟩ := not_or.1 h
  rw [piecesFrom.eq_def]
  split <;> simp_all

/-- A text with its braces doubled is read as the characters it has. -/
theorem piecesFrom_doubled (cs rest : List Char) :
    piecesFrom none (cs.flatMap doubledChar ++ rest) = cs.map .char ++ piecesFrom none rest := by
  induction cs with
  | nil => rfl
  | cons c cs ih =>
    rw [List.flatMap_cons, List.append_assoc, List.map_cons, List.cons_append, ← ih, doubledChar]
    split
    · exact piecesFrom_brace ‹_› _
    · exact piecesFrom_plain ‹_› _

/-- What is read of a placeholder goes on to the next closing brace. -/
theorem piecesFrom_some {cs : List Char} (h : '\x7d' ∉ cs) (read rest : List Char) :
    piecesFrom (some read) (cs ++ '\x7d' :: rest) =
      .field (String.ofList (Text.trimChars (read ++ cs))) :: piecesFrom none rest := by
  induction cs generalizing read with
  | nil => simp [piecesFrom]
  | cons c cs ih =>
    obtain ⟨other, later⟩ := not_or.1 (mt List.mem_cons.2 h)
    rw [List.cons_append, piecesFrom, if_neg (Ne.symm other), ih later]
    simp

theorem piecesFrom_opening {cs : List Char} (h : cs.head? ≠ some '\x7b') :
    piecesFrom none ('\x7b' :: cs) = piecesFrom (some []) cs := by
  cases cs with
  | nil => rfl
  | cons c cs =>
    have other : c ≠ '\x7b' := fun h' => h (congrArg some h')
    rw [piecesFrom.eq_def]
    simp [other]

theorem head?_append_ne {c : Char} {front back : List Char} (h : front.head? ≠ some c) (h' : back.head? ≠ some c) :
    (front ++ back).head? ≠ some c := by
  cases front with
  | nil => exact h'
  | cons => exact h

theorem Padding.notMem (p : Padding) {c : Char} (h : Text.isBlank c = false) : c ∉ p.text.toList := by
  intro hc
  rw [p.blank c hc] at h
  cases h

/-- What stands between the braces of a placeholder is read as the name of its field. -/
theorem piecesFrom_field (front back : Padding) (f : FieldName) (rest : List Char) :
    piecesFrom none ('\x7b' :: (front.text.toList ++ f.name.toList ++ back.text.toList ++ '\x7d' :: rest)) =
      .field f.name :: piecesFrom none rest := by
  have starts (p : Padding) : p.text.toList.head? ≠ some '\x7b' :=
    fun h => p.notMem (by decide) (List.mem_of_mem_head? h)
  have single : (front.text.toList ++ f.name.toList ++ back.text.toList ++ '\x7d' :: rest).head? ≠ some '\x7b' :=
    head?_append_ne (head?_append_ne (head?_append_ne (starts front) f.noOpening) (starts back)) (by simp)
  have unclosed : '\x7d' ∉ front.text.toList ++ f.name.toList ++ back.text.toList := by
    simp only [List.mem_append, not_or]
    exact ⟨⟨front.notMem (by decide), f.noClosing⟩, back.notMem (by decide)⟩
  rw [piecesFrom_opening single, piecesFrom_some unclosed, List.nil_append,
    Text.trimChars_append front.blank back.blank f.trimmed, String.ofList_toList]

/-- One segment is read as it was written, whatever comes behind it. -/
theorem piecesFrom_written (s : Segment) (rest : List Char) :
    piecesFrom none (s.written.toList ++ rest) = s.pieces ++ piecesFrom none rest := by
  cases s with
  | text s => simpa [Segment.written, Segment.pieces, escape] using piecesFrom_doubled s.toList rest
  | field front name back => simpa [Segment.written, Segment.pieces] using piecesFrom_field front back name rest

/-- A template is read as the segments it was written from. -/
theorem pieces_writtenAll (segments : List Segment) :
    pieces (writtenAll segments).toList = segments.flatMap Segment.pieces := by
  rw [pieces, writtenAll]
  induction segments with
  | nil => rfl
  | cons s segments ih =>
    rw [List.map_cons, String.join_cons, String.toList_append, piecesFrom_written, ih, List.flatMap_cons]

/-! ## Filling them -/

section Fill

variable {template : String} {record : Record}

theorem fillAll_chars (cs : List Char) (ps : List Piece) :
    fillAll template record (cs.map .char ++ ps) = (fillAll template record ps).map (cs ++ ·) := by
  induction cs with
  | nil => cases h : fillAll template record ps <;> exact h
  | cons c cs ih =>
    rw [List.map_cons, List.cons_append, fillAll, ih]
    cases fillAll template record ps <;> rfl

theorem fillAll_field {name : String} {value : Json} (h : record.get? name = some value) (ps : List Piece) :
    fillAll template record (.field name :: ps) =
      (fillAll template record ps).map (value.cellText.toList ++ ·) := by
  rw [fillAll, Piece.fill, h]
  cases fillAll template record ps <;> rfl

theorem fillAll_absent {name : String} (h : record.get? name = none) (ps : List Piece) :
    fillAll template record (.field name :: ps) = .error (.missingField name template) := by
  rw [fillAll, Piece.fill, h]
  rfl

/-- The segments are filled in order, up to the first field that is missing. -/
theorem fillAll_pieces (segments : List Segment) : fillAll template record (segments.flatMap Segment.pieces) =
    match firstAbsent? record segments with
    | some name => .error (.missingField name template)
    | none => .ok (segments.flatMap fun s => (s.shown record).toList) := by
  induction segments with
  | nil => rfl
  | cons s segments ih =>
    rw [List.flatMap_cons, List.flatMap_cons]
    cases s with
    | text s =>
      have same : firstAbsent? record (.text s :: segments) = firstAbsent? record segments := rfl
      rw [Segment.pieces, fillAll_chars, ih, same]
      cases firstAbsent? record segments <;> rfl
    | field front name back =>
      cases found : record.get? name.name with
      | none =>
        have here : firstAbsent? record (.field front name back :: segments) = some name.name := by
          simp [firstAbsent?, Segment.fieldName?, found]
        exact here ▸ fillAll_absent found _
      | some value =>
        have later : firstAbsent? record (.field front name back :: segments) = firstAbsent? record segments := by
          simp [firstAbsent?, Segment.fieldName?, found]
        have shown : (Segment.field front name back).shown record = value.cellText := by
          simp [Segment.shown, found]
        rw [later, shown, Segment.pieces, List.singleton_append, fillAll_field found, ih]
        cases firstAbsent? record segments <;> rfl

end Fill

/-- **Written templates.** Rendering one gives back its texts and puts in the values of its fields as they
are, or names the first field that is missing. In particular every text that is escaped is given back. -/
theorem render_written :
    (∀ (segments : List Segment) (record : Record), render (writtenAll segments) record =
      match firstAbsent? record segments with
      | some name => .error (.missingField name (writtenAll segments))
      | none => .ok (String.join (segments.map (Segment.shown record)))) ∧
    ∀ (s : String) (record : Record), render (escape s) record = .ok s := by
  have rendered (segments : List Segment) (record : Record) : render (writtenAll segments) record =
      match firstAbsent? record segments with
      | some name => .error (.missingField name (writtenAll segments))
      | none => .ok (String.join (segments.map (Segment.shown record))) := by
    rw [render, pieces_writtenAll, fillAll_pieces]
    cases firstAbsent? record segments with
    | some name => rfl
    | none =>
      refine congrArg Except.ok (String.toList_inj.1 ?_)
      simp [String.toList_join, List.flatMap_map]
  refine ⟨rendered, fun s record => ?_⟩
  simpa [writtenAll, Segment.written, Segment.shown, firstAbsent?, Segment.fieldName?, String.join_cons] using
    rendered [.text s] record

/-- Braces of a text next to those of a field, and a value that looks like a placeholder. -/
theorem render_braces :
    render "\x7b\x7b\x7b f \x7d\x7d\x7d" [("f", .text "\x7bg\x7d")] = .ok "\x7b\x7bg\x7d\x7d" ∧
    render "\x7b\x7b\x7b f \x7d\x7d\x7d" [] = .error (.missingField "f" "\x7b\x7b\x7b f \x7d\x7d\x7d") := by
  let blank : Padding := ⟨" ", by decide +kernel⟩
  let f : FieldName := ⟨"f", by decide +kernel, by decide +kernel, by decide +kernel⟩
  let segments : List Segment := [.text "\x7b", .field blank f blank, .text "\x7d"]
  have written : writtenAll segments = "\x7b\x7b\x7b f \x7d\x7d\x7d" := by decide +kernel
  have present := render_written.1 segments [("f", .text "\x7bg\x7d")]
  have absent := render_written.1 segments []
  rw [written] at present absent
  exact ⟨present, absent⟩

end MetaGraph.Template
