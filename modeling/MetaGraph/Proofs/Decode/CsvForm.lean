/-
Records of CSV files and of JSON documents. In a CSV file all values are
texts: a scalar stands as its text, and a list as the texts of its items with
commas between them. Models are built alike from both.
-/
import MetaGraph.Proofs.Decimal.Integer
import MetaGraph.Proofs.Decode.Alike
import MetaGraph.Proofs.Run.Claimed
import MetaGraph.Proofs.Text.Pieces

namespace MetaGraph

/-! ## The CSV form of a record -/

/-- The text of a string, a boolean or an integer of 64 bits. -/
inductive ScalarText : Json → String → Prop
  | text (s : String) : ScalarText (.text s) s
  | bool (b : Bool) : ScalarText (.bool b) (if b then "true" else "false")
  | int {n : Int} : Decimal.i64Min ≤ n → n ≤ Decimal.i64Max →
    ScalarText (.int n) (String.ofList (Json.intText n))

/-- The text of a list. The texts of the items hold no commas, and have no blanks at their ends. -/
inductive ListText : Json → String → Prop
  | array {items : List Json} {texts : List String} : List.Forall₂ ScalarText items texts →
    (∀ t ∈ texts, ',' ∉ t.toList ∧ Text.trim t = t) → ListText (.array items) (",".intercalate texts)

namespace ModelKind

/-- The names of the fields of a model. -/
def fieldNames : ModelKind → List String
  | badge => BadgeSet.shape.names
  | watermark => WatermarkFields.shape.names
  | columnStat => ColumnStatFields.shape.names
  | dashboard => Dashboard.shape.names
  | lastExecution => LastExecution.shape.names
  | lastModified => LastModified.shape.names
  | dashboardQuery => DashboardQuery.shape.names
  | dashboardTable => DashboardTable.shape.names
  | execution => Execution.shape.names
  | metric => Metric.shape.names

/-- The names of the fields that hold lists. -/
def listNames : ModelKind → List String
  | badge => ["badges"]
  | dashboard | metric => ["tags"]
  | dashboardTable => ["table_ids"]
  | _ => []

def scalarNames (kind : ModelKind) : List String := kind.fieldNames.filter (· ∉ kind.listNames)

/-- The value of a field in a JSON document and in a CSV file. What is not a field of the model
may be anything. -/
inductive CsvValue (kind : ModelKind) (name : String) : Json → Json → Prop
  | scalar {v : Json} {t : String} : name ∈ kind.scalarNames → ScalarText v t → CsvValue kind name v (.text t)
  | list {v : Json} {t : String} : name ∈ kind.listNames → ListText v t → CsvValue kind name v (.text t)
  | other (v : Json) : name ∉ kind.fieldNames → CsvValue kind name v v

/-- The same record from a JSON document and from a CSV file. -/
def CsvForm (kind : ModelKind) : Record → Record → Prop := KeyMap.Related kind.CsvValue

end ModelKind

/-! ## Decoders -/

/-- The data of related values. -/
def OnData (R : Json → String → Prop) (d d' : Datum) : Prop := ∃ v t, R v t ∧ d = v.toDatum ∧ d' = .text t

namespace Field

/-- What decoders look at in a scalar, they find in its text. -/
theorem scalar_of_text {v : Json} {t : String} (h : ScalarText v t) :
    ∃ s, Scalar.ofDatum? v.toDatum = some s ∧ s.toText = t ∧ Agree s.toInt (Scalar.text t).toInt ∧
      (s = .text t ∨ (∀ t', s ≠ .text t') ∧ Text.trim t ≠ "") := by
  cases h with
  | text s => exact ⟨_, rfl, rfl, .refl _, .inl rfl⟩
  | bool b =>
    refine ⟨.bool b, rfl, rfl, ?_, .inr ⟨nofun, ?_⟩⟩
    · cases b <;> exact .error _ _
    · cases b <;> decide
  | @int n hl hh =>
    refine ⟨.int n, if_pos ⟨hl, hh⟩, rfl, ?_, .inr ⟨nofun, ?_⟩⟩
    · rw [Scalar.toInt, Scalar.toInt, Decimal.trim_intText, Decimal.int64, String.toList_ofList,
        Decimal.integer_intText hl hh]
      exact .ok n
    · rw [Decimal.trim_intText]
      exact Decimal.ofList_intText_ne_empty n

theorem agreesOn_string : string.AgreesOn (OnData ScalarText) := by
  rintro d d' ⟨v, t, h, rfl, rfl⟩
  obtain ⟨s, hs, text, -, -⟩ := scalar_of_text h
  have left : string .json v.toDatum = .ok s.toText := by simp [string, scalar, hs, Except.map]
  rw [left, text]
  exact .ok t

theorem agreesOn_int : int.AgreesOn (OnData ScalarText) := by
  rintro d d' ⟨v, t, h, rfl, rfl⟩
  obtain ⟨s, hs, -, number, -⟩ := scalar_of_text h
  have left : int .json v.toDatum = s.toInt := by simp [int, scalar, hs, bind, Except.bind]
  rw [left]
  exact number

theorem option_scalar {v : Json} {t : String} (h : ScalarText v t) {s : Scalar}
    (hs : Scalar.ofDatum? v.toDatum = some s) : Decoder.option scalar .json v.toDatum = .ok (some s) := by
  cases h <;> simp only [Json.toDatum, Decoder.option, scalar] at * <;> rw [hs] <;> rfl

theorem agreesOn_optString : optString.AgreesOn (OnData ScalarText) := by
  rintro d d' ⟨v, t, h, rfl, rfl⟩
  obtain ⟨s, hs, text, -, -⟩ := scalar_of_text h
  have left : optString .json v.toDatum = .ok (if t = "" then none else some t) := by
    simp only [optString, option_scalar h hs, bind, Except.bind, text]
    rfl
  rw [left]
  exact .refl _

theorem agreesOn_optInt : optInt.AgreesOn (OnData ScalarText) := by
  rintro d d' ⟨v, t, h, rfl, rfl⟩
  obtain ⟨s, hs, -, number, plain⟩ := scalar_of_text h
  rcases plain with rfl | ⟨other, given⟩
  · have left : optInt .json v.toDatum = optInt .json (.text t) := by
      simp only [optInt, option_scalar h hs, bind, Except.bind]
      rfl
    rw [left]
    exact .refl _
  · have left : optInt .json v.toDatum = some <$> s.toInt := by
      simp only [optInt, option_scalar h hs, bind, Except.bind]
    have right : optInt .json (.text t) = some <$> (Scalar.text t).toInt := if_neg given
    rw [left, right]
    exact number.map some

theorem scalars_of_texts {items : List Json} {texts : List String}
    (h : List.Forall₂ ScalarText items texts) :
    ∃ scalars, (Json.toData items).mapM Scalar.ofDatum? = some scalars ∧
      scalars.map Scalar.toText = texts := by
  induction h with
  | nil => exact ⟨[], rfl, rfl⟩
  | cons first _ ih =>
    obtain ⟨s, hs, text, -, -⟩ := scalar_of_text first
    obtain ⟨scalars, hm, rest⟩ := ih
    exact ⟨s :: scalars, by simp [Json.toData, hs, hm], by rw [List.map_cons, text, rest]⟩

/-- The items of a list's text are its items, but for the item of the empty text. -/
theorem filter_commaItems {texts : List String} (h : ∀ t ∈ texts, ',' ∉ t.toList ∧ Text.trim t = t) :
    (commaItems (",".intercalate texts)).filter (· ≠ "") = texts.filter (· ≠ "") := by
  have pieces := Text.splitOn_intercalate fun t ht => (h t ht).1
  rw [commaItems, show "," = String.singleton ',' from rfl, pieces]
  split
  · rename_i none
    rw [none]
    decide
  · have plain : texts.map Text.trim = texts :=
      (List.map_congr_left fun t ht => (h t ht).2).trans (List.map_id _)
    rw [plain]

theorem agreesOn_stringList : stringList.AgreesOn (OnData ListText) := by
  rintro d d' ⟨v, t, h, rfl, rfl⟩
  obtain @⟨items, texts, related, plain⟩ := h
  obtain ⟨scalars, hm, same⟩ := scalars_of_texts related
  have left : stringList .json (Json.array items).toDatum = .ok (texts.filter (· ≠ "")) := by
    simp only [stringList, Json.toDatum, hm, same]
    rfl
  have right : stringList .json (.text (",".intercalate texts)) = .ok (texts.filter (· ≠ "")) := by
    simp only [stringList, bind, Except.bind, pure, Except.pure, filter_commaItems plain]
  rw [left, right]
  exact .ok _

end Field

/-! ## Models -/

theorem Json.toEntries_eq (r : Record) : Json.toEntries r = r.map fun x => (x.1, x.2.toDatum) := by
  induction r with
  | nil => rfl
  | cons x rest ih => rw [Json.toEntries, ih, List.map_cons]

namespace ModelKind

/-- The data of related values of a field. -/
def EntryData (kind : ModelKind) (name : String) (d d' : Datum) : Prop :=
  ∃ v w, kind.CsvValue name v w ∧ d = v.toDatum ∧ d' = w.toDatum

variable {kind : ModelKind} {name : String}

theorem agreesOn_scalar {α : Type} {item : Decoder α} (hi : item.AgreesOn (OnData ScalarText))
    (hn : name ∈ kind.scalarNames) : item.AgreesOn (kind.EntryData name) := by
  rintro _ _ ⟨v, w, h, rfl, rfl⟩
  obtain ⟨field, single⟩ := List.mem_filter.1 hn
  cases h with
  | scalar _ text => exact hi _ _ ⟨v, _, text, rfl, rfl⟩
  | list other _ => exact absurd other (of_decide_eq_true single)
  | other other => exact absurd field other

theorem agreesOn_list {α : Type} {item : Decoder α} (hi : item.AgreesOn (OnData ListText))
    (hn : name ∈ kind.fieldNames ∧ name ∈ kind.listNames) : item.AgreesOn (kind.EntryData name) := by
  rintro _ _ ⟨v, w, h, rfl, rfl⟩
  cases h with
  | scalar other _ => exact absurd hn.2 (of_decide_eq_true (List.mem_filter.1 other).2)
  | list _ text => exact hi _ _ ⟨v, _, text, rfl, rfl⟩
  | other other => exact absurd hn.1 other

theorem agree_ofRecord {α : Type} {s : Shape α} (hs : s.AgreesOn kind.EntryData) {json csv : Record}
    (h : kind.CsvForm json csv) (title : String) :
    Agree (Field.ofRecord title s json) (Field.ofRecord title s csv) := by
  have related : KeyMap.Related kind.EntryData (Json.toEntries json) (Json.toEntries csv) := by
    rw [Json.toEntries_eq, Json.toEntries_eq, KeyMap.Related, List.forall₂_map_left_iff,
      List.forall₂_map_right_iff]
    exact List.Forall₂.imp (fun x y hxy => ⟨hxy.1, x.2, y.2, hxy.2, rfl, rfl⟩) h
  have decoded := hs.ofEntries related
  unfold Field.ofRecord
  generalize s.ofEntries .json (Json.toEntries json) = x at decoded
  generalize s.ofEntries .json (Json.toEntries csv) = y at decoded
  cases decoded with
  | error e e' => exact .error _ _
  | ok a => exact .ok a

theorem string_field (hn : name ∈ kind.scalarNames) : Field.string.AgreesOn (kind.EntryData name) :=
  agreesOn_scalar Field.agreesOn_string hn

theorem optString_field (hn : name ∈ kind.scalarNames) : Field.optString.AgreesOn (kind.EntryData name) :=
  agreesOn_scalar Field.agreesOn_optString hn

theorem int_field (hn : name ∈ kind.scalarNames) : Field.int.AgreesOn (kind.EntryData name) :=
  agreesOn_scalar Field.agreesOn_int hn

theorem optInt_field (hn : name ∈ kind.scalarNames) : Field.optInt.AgreesOn (kind.EntryData name) :=
  agreesOn_scalar Field.agreesOn_optInt hn

theorem stringList_field (hn : name ∈ kind.fieldNames ∧ name ∈ kind.listNames) :
    Field.stringList.AgreesOn (kind.EntryData name) :=
  agreesOn_list Field.agreesOn_stringList hn

theorem agreesOn_watermark : WatermarkFields.shape.AgreesOn (EntryData .watermark) :=
  Shape.agreesOn_done _
    |>.required (string_field (by decide))
    |>.required (string_field (by decide))
    |>.required (string_field (by decide))
    |>.required (string_field (by decide))
    |>.required (string_field (by decide))
    |>.optional (string_field (by decide)) _
    |>.optional (string_field (by decide)) _

theorem agreesOn_columnStat : ColumnStatFields.shape.AgreesOn (EntryData .columnStat) :=
  Shape.agreesOn_done _
    |>.required (string_field (by decide))
    |>.required (string_field (by decide))
    |>.required (string_field (by decide))
    |>.required (string_field (by decide))
    |>.required (string_field (by decide))
    |>.required (string_field (by decide))
    |>.optional (string_field (by decide)) _
    |>.optional (string_field (by decide)) _
    |>.optional (optString_field (by decide)) _

theorem agreesOn_dashboard : Dashboard.shape.AgreesOn (EntryData .dashboard) :=
  Shape.agreesOn_done _
    |>.required (string_field (by decide))
    |>.required (string_field (by decide))
    |>.optional (optString_field (by decide)) _
    |>.optional (stringList_field (by decide)) _
    |>.optional (string_field (by decide)) _
    |>.optional (string_field (by decide)) _
    |>.optional (optString_field (by decide)) _
    |>.optional (optString_field (by decide)) _
    |>.optional (optString_field (by decide)) _
    |>.optional (optInt_field (by decide)) _
    |>.optional (optString_field (by decide)) _
    |>.optional (optString_field (by decide)) _

theorem agreesOn_lastExecution : LastExecution.shape.AgreesOn (EntryData .lastExecution) :=
  Shape.agreesOn_done _
    |>.required (string_field (by decide))
    |>.required (string_field (by decide))
    |>.required (int_field (by decide))
    |>.required (string_field (by decide))
    |>.optional (string_field (by decide)) _
    |>.optional (string_field (by decide)) _

theorem agreesOn_lastModified : LastModified.shape.AgreesOn (EntryData .lastModified) :=
  Shape.agreesOn_done _
    |>.required (string_field (by decide))
    |>.required (string_field (by decide))
    |>.required (int_field (by decide))
    |>.optional (string_field (by decide)) _
    |>.optional (string_field (by decide)) _

theorem agreesOn_dashboardQuery : DashboardQuery.shape.AgreesOn (EntryData .dashboardQuery) :=
  Shape.agreesOn_done _
    |>.required (string_field (by decide))
    |>.required (string_field (by decide))
    |>.required (string_field (by decide))
    |>.optional (optString_field (by decide)) _
    |>.optional (optString_field (by decide)) _
    |>.optional (optString_field (by decide)) _
    |>.optional (string_field (by decide)) _
    |>.optional (string_field (by decide)) _

theorem agreesOn_dashboardTable : DashboardTable.shape.AgreesOn (EntryData .dashboardTable) :=
  Shape.agreesOn_done _
    |>.required (string_field (by decide))
    |>.required (string_field (by decide))
    |>.optional (stringList_field (by decide)) _
    |>.optional (string_field (by decide)) _
    |>.optional (string_field (by decide)) _

theorem agreesOn_execution : Execution.shape.AgreesOn (EntryData .execution) :=
  Shape.agreesOn_done _
    |>.required (string_field (by decide))
    |>.required (string_field (by decide))
    |>.required (string_field (by decide))
    |>.required (int_field (by decide))
    |>.required (string_field (by decide))
    |>.optional (string_field (by decide)) _
    |>.optional (string_field (by decide)) _

theorem agreesOn_metric : Metric.shape.AgreesOn (EntryData .metric) :=
  Shape.agreesOn_done _
    |>.required (string_field (by decide))
    |>.required (string_field (by decide))
    |>.required (string_field (by decide))
    |>.required (string_field (by decide))
    |>.optional (optString_field (by decide)) _
    |>.optional (optString_field (by decide)) _
    |>.optional (stringList_field (by decide)) _

/-- The two forms of a record are about the same. -/
theorem agree_subject (hk : kind ≠ .badge) {json csv : Record} (h : kind.CsvForm json csv) :
    Agree (kind.subject json) (kind.subject csv) := by
  cases kind with
  | badge => exact absurd rfl hk
  | watermark => exact (agree_ofRecord agreesOn_watermark h _).bind fun _ => .refl _
  | columnStat => exact (agree_ofRecord agreesOn_columnStat h _).bind fun _ => .refl _
  | dashboard => exact (agree_ofRecord agreesOn_dashboard h _).bind fun _ => .refl _
  | lastExecution => exact (agree_ofRecord agreesOn_lastExecution h _).bind fun _ => .refl _
  | lastModified => exact (agree_ofRecord agreesOn_lastModified h _).bind fun _ => .refl _
  | dashboardQuery => exact (agree_ofRecord agreesOn_dashboardQuery h _).bind fun _ => .refl _
  | dashboardTable => exact (agree_ofRecord agreesOn_dashboardTable h _).bind fun _ => .refl _
  | execution => exact (agree_ofRecord agreesOn_execution h _).bind fun _ => .refl _
  | metric => exact (agree_ofRecord agreesOn_metric h _).bind fun _ => .refl _

/-- **Records from CSV files and JSON documents bind alike.** Either no model is built of any of
the two forms, or the models are the same, with the same elements to hand out, and so are the
claims after them. -/
theorem build_csvForm (hk : kind ≠ .badge) {json csv : Record} (h : kind.CsvForm json csv) (c : Claims) :
    (∃ e e', kind.build json c = .error e ∧ kind.build csv c = .error e') ∨
      ∃ m c', kind.build json c = .ok (m, c') ∧ kind.build csv c = .ok (m, c') := by
  rw [build_eq, build_eq]
  generalize hx : kind.subject json = x
  generalize hy : kind.subject csv = y
  have same : Agree x y := hx ▸ hy ▸ agree_subject hk h
  cases same with
  | error e e' => exact .inl ⟨e, e', rfl, rfl⟩
  | ok s => exact .inr ⟨_, _, rfl, rfl⟩

/-- A dashboard as a JSON document has it. -/
def dashboardJson : Record :=
  [("created_timestamp", .int (-7)), ("dashboard_group", .text "sales"), ("dashboard_name", .int 12),
    ("owner", .null), ("product", .bool true), ("tags", .array [.text "daily", .text "", .int 3])]

/-- The same dashboard as a CSV file has it. -/
def dashboardCsv : Record :=
  [("created_timestamp", .text "-7"), ("dashboard_group", .text "sales"), ("dashboard_name", .text "12"),
    ("owner", .null), ("product", .text "true"), ("tags", .text "daily,,3")]

/-- From both forms the same dashboard is built. -/
theorem build_csvForm_dashboard : dashboard ≠ badge ∧ dashboard.CsvForm dashboardJson dashboardCsv ∧
    ∃ m c', dashboard.build dashboardJson {} = .ok (m, c') ∧
      dashboard.build dashboardCsv {} = .ok (m, c') := by
  have number (n : Int) (text : String) (h : String.ofList (Json.intText n) = text)
      (hl : Decimal.i64Min ≤ n) (hh : n ≤ Decimal.i64Max) : ScalarText (.int n) text := h ▸ .int hl hh
  have tags : ListText (.array [.text "daily", .text "", .int 3]) (",".intercalate ["daily", "", "3"]) :=
    .array (.cons (.text _) (.cons (.text _) (.cons (number 3 "3" (by decide) (by decide) (by decide)) .nil)))
      (by decide)
  have form : dashboard.CsvForm dashboardJson dashboardCsv := by
    refine .cons ⟨rfl, .scalar (by decide) (number (-7) "-7" (by decide) (by decide) (by decide))⟩ ?_
    refine .cons ⟨rfl, .scalar (by decide) (.text _)⟩ ?_
    refine .cons ⟨rfl, .scalar (by decide) (number 12 "12" (by decide) (by decide) (by decide))⟩ ?_
    refine .cons ⟨rfl, .other _ (by decide)⟩ ?_
    refine .cons ⟨rfl, .scalar (by decide) (.bool true)⟩ ?_
    exact .cons ⟨rfl, .list (by decide) tags⟩ .nil
  refine ⟨by decide, form, ?_⟩
  rcases build_csvForm (by decide) form {} with ⟨e, -, failed, -⟩ | built
  · have given : (dashboard.build dashboardJson {}).toOption.isSome = true := by decide +kernel
    rw [failed] at given
    cases given
  · exact built

end ModelKind

end MetaGraph
