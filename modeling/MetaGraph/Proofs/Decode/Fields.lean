/-
What a decoded structure is put together from: its fields one by one, each
decoded from what is given for it or left at its default.
-/
import MetaGraph.Model.Metric

namespace MetaGraph

section Shape

variable {α β : Type} {s : Shape (β → α)} {name : String} {item : Decoder β} {source : FieldSource}
  {start : Nat} {a : α}

/-- A field that has to be given is decoded from what is given for it. -/
theorem Shape.build_required_given (h : (s.required name item).build source start = .ok a) :
    ∃ f b position d, s.build source start = .ok f ∧ a = f b ∧
      source.given position name = some d ∧ item source.origin d = .ok b := by
  simp only [Shape.required, Shape.andField, bind, Except.bind] at h
  split at h
  · cases h
  rename_i f hf
  split at h
  · rename_i d given
    cases hd : item source.origin d with
    | error e =>
      rw [hd] at h
      cases h
    | ok b =>
      rw [hd] at h
      cases h
      exact ⟨f, b, _, d, hf, rfl, given, hd⟩
  · cases h

theorem Shape.build_required_ok (h : (s.required name item).build source start = .ok a) :
    ∃ f b, s.build source start = .ok f ∧ a = f b := by
  obtain ⟨f, b, -, -, hf, hb, -⟩ := Shape.build_required_given h
  exact ⟨f, b, hf, hb⟩

theorem Shape.build_optional_ok {value : β}
    (h : (s.optional name item value).build source start = .ok a) :
    ∃ f b, s.build source start = .ok f ∧ a = f b ∧
      (b = value ∨ ∃ d, item source.origin d = .ok b) := by
  simp only [Shape.optional, Shape.andField, bind, Except.bind] at h
  split at h
  · cases h
  rename_i f hf
  split at h
  · rename_i d _
    cases hd : item source.origin d with
    | error e =>
      rw [hd] at h
      cases h
    | ok b =>
      rw [hd] at h
      cases h
      exact ⟨f, b, hf, rfl, .inr ⟨d, hd⟩⟩
  · cases h
    exact ⟨f, value, hf, rfl, .inl rfl⟩

theorem Field.stringList_ok {origin : Origin} {d : Datum} {items : List String}
    (h : Field.stringList origin d = .ok items) : "" ∉ items := by
  have filtered : ∃ all : List String, items = all.filter (· ≠ "") := by
    simp only [Field.stringList, bind, Except.bind, pure, Except.pure, throw, throwThe,
      MonadExceptOf.throw] at h
    split at h
    · exact ⟨_, (Except.ok.inj h).symm⟩
    · exact ⟨_, (Except.ok.inj h).symm⟩
    · split at h
      · exact ⟨_, (Except.ok.inj h).symm⟩
      · cases h
    · cases h
  obtain ⟨all, rfl⟩ := filtered
  simp

end Shape

/-- The fields of a record, by their names. -/
def Field.recordSource (record : Record) : FieldSource :=
  ⟨.json, fun _ name => KeyMap.get? (Json.toEntries record) name, fun _ name => .missingField name⟩

/-- A record is bound by building a structure out of its entries. -/
theorem Field.build_recordSource {α : Type} {name : String} {shape : Shape α} {record : Record} {a : α}
    (h : Field.ofRecord name shape record = .ok a) : shape.build (recordSource record) 0 = .ok a := by
  unfold Field.ofRecord at h
  split at h
  case h_2 => cases h
  rename_i a' built
  cases h
  simp only [Shape.ofEntries, bind, Except.bind] at built
  split at built
  · cases built
  · exact built

theorem Field.ofRecord_ok {α : Type} {name : String} {shape : Shape α} {record : Record} {a : α}
    (h : Field.ofRecord name shape record = .ok a) : ∃ source start, shape.build source start = .ok a :=
  ⟨_, _, build_recordSource h⟩

/-- What is given for a field of a record is the record's value, whatever the field's position. -/
theorem Field.given_recordSource (record : Record) (position : Nat) (name : String) :
    (recordSource record).given position name = (record.get? name).map Json.toDatum := by
  change List.lookup name (Json.toEntries record) = (List.lookup name record).map Json.toDatum
  induction record with
  | nil => rfl
  | cons entry rest ih =>
    obtain ⟨key, value⟩ := entry
    rw [Json.toEntries, List.lookup_cons, List.lookup_cons, ih]
    cases name == key <;> rfl

/-- The tags of a metric are not empty. -/
theorem Metric.tags_given {name : String} {record : Record} {m : Metric}
    (h : Field.ofRecord name Metric.shape record = .ok m) : "" ∉ m.tags := by
  obtain ⟨source, start, built⟩ := Field.ofRecord_ok h
  -- The fields are peeled off from the last one on.
  obtain ⟨_, tags, built₆, rfl, given⟩ := Shape.build_optional_ok built
  obtain ⟨_, type, built₅, rfl, -⟩ := Shape.build_optional_ok built₆
  obtain ⟨_, description, built₄, rfl, -⟩ := Shape.build_optional_ok built₅
  obtain ⟨_, expression, built₃, rfl⟩ := Shape.build_required_ok built₄
  obtain ⟨_, name, built₂, rfl⟩ := Shape.build_required_ok built₃
  obtain ⟨_, dashboardName, built₁, rfl⟩ := Shape.build_required_ok built₂
  obtain ⟨_, dashboardGroup, built₀, rfl⟩ := Shape.build_required_ok built₁
  cases built₀
  rcases given with rfl | ⟨d, hd⟩
  · exact List.not_mem_nil
  · exact Field.stringList_ok hd

/-- The tags of a dashboard are not empty. -/
theorem Dashboard.tags_given {name : String} {record : Record} {d : Dashboard}
    (h : Field.ofRecord name Dashboard.shape record = .ok d) : "" ∉ d.tags := by
  obtain ⟨source, start, built⟩ := Field.ofRecord_ok h
  obtain ⟨_, dashboardUrl, built₁₁, rfl, -⟩ := Shape.build_optional_ok built
  obtain ⟨_, groupUrl, built₁₀, rfl, -⟩ := Shape.build_optional_ok built₁₁
  obtain ⟨_, createdTimestamp, built₉, rfl, -⟩ := Shape.build_optional_ok built₁₀
  obtain ⟨_, groupDescription, built₈, rfl, -⟩ := Shape.build_optional_ok built₉
  obtain ⟨_, dashboardId, built₇, rfl, -⟩ := Shape.build_optional_ok built₈
  obtain ⟨_, groupId, built₆, rfl, -⟩ := Shape.build_optional_ok built₇
  obtain ⟨_, product, built₅, rfl, -⟩ := Shape.build_optional_ok built₆
  obtain ⟨_, cluster, built₄, rfl, -⟩ := Shape.build_optional_ok built₅
  obtain ⟨_, tags, built₃, rfl, given⟩ := Shape.build_optional_ok built₄
  obtain ⟨_, description, built₂, rfl, -⟩ := Shape.build_optional_ok built₃
  obtain ⟨_, name, built₁, rfl⟩ := Shape.build_required_ok built₂
  obtain ⟨_, group, built₀, rfl⟩ := Shape.build_required_ok built₁
  cases built₀
  rcases given with rfl | ⟨d, hd⟩
  · exact List.not_mem_nil
  · exact Field.stringList_ok hd

end MetaGraph
