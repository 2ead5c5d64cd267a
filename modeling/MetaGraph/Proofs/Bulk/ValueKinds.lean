/-
What graphs take values for. In files for Neo4j the name of an attribute marks
values that are published bare, as numbers and booleans; in files for Neptune
each column has the type of the JSON value in it. So a marked value has one
kind in both graphs exactly if it is no text, and the value of a statistic,
which is a text whatever its record holds, never has.
-/
import MetaGraph.Proofs.Bulk.Formats
import MetaGraph.Proofs.Cypher.Published
import MetaGraph.Proofs.Decimal.Integer
import MetaGraph.Proofs.Decode.Fields

namespace MetaGraph

/-- What a graph takes a value for. -/
inductive ValueKind where
  | text
  | number
  | boolean
deriving DecidableEq, Repr

/-- The kind of a JSON value. Lists and objects are held as texts, and null is not held. -/
def Json.kind? : Json → Option ValueKind
  | .null => none
  | .bool _ => some .boolean
  | .int _ | .float _ => some .number
  | .text _ | .array _ | .object _ => some .text

namespace Cypher

/-- The kind of what stands bare in a statement. -/
def bareKind (s : String) : ValueKind :=
  if s.toList.map Char.toLower ∈ ["true".toList, "false".toList] then .boolean else .number

/-- The kind of a value in a statement: what is quoted is a text, whatever it writes. -/
def Value.kind : Value → ValueKind
  | .quoted _ => .text
  | .bare s => bareKind s

/-- The kinds of the values that a property is set to. -/
def kindsSet (property : String) (sets : List Assignment) : List ValueKind :=
  (sets.filter (·.property = property)).map (·.value.kind)

end Cypher

namespace Neptune

/-- The types of columns, with the kinds of what they hold. -/
def typeKinds : List (String × ValueKind) :=
  [("String", .text), ("Long", .number), ("Double", .number), ("Bool", .boolean)]

/-- The kind of what a column holds of a property, if it holds any of it. -/
def columnKind? (property column : String) : Option ValueKind :=
  (typeKinds.find? fun type => column = property ++ ":" ++ type.1).map Prod.snd

/-- The kinds of the columns that hold a property. -/
def columnKinds (property : String) (row : Row) : List ValueKind := row.columns.filterMap (columnKind? property)

end Neptune

/-! ## Numbers are written in digits -/

namespace Binary64

/-- All digits of a decimal stand in its text. -/
theorem mem_magnitude {l : Layout} {digits : Nat} {k : Int} {c : Char} (hc : c ∈ Nat.toDigits 10 digits) :
    c ∈ l.magnitude digits k := by
  have out (p : Int) : c ∈ l.writtenOut (Nat.toDigits 10 digits) p := by
    unfold Layout.writtenOut
    split
    · simp [hc]
    · dsimp only
      split
      · simp [hc]
      · rw [List.mem_append, List.mem_cons]
        rw [← List.take_append_drop p.toNat (Nat.toDigits 10 digits), List.mem_append] at hc
        exact hc.imp_right .inr
  have exponent (p : Int) : c ∈ Layout.withExponent (Nat.toDigits 10 digits) p := by
    refine List.mem_append_left _ (List.mem_append_left _ ?_)
    split
    · rename_i ds
      rw [ds, List.mem_cons] at hc
      exact List.mem_cons.2 (hc.imp_right (List.mem_cons_of_mem _))
    · exact hc
  unfold Layout.magnitude
  split
  · exact out _
  · dsimp only
    split
    · exact out _
    · exact exponent _

theorem exists_isDigit_text {x : Binary64} (h : x.isFinite = true) (l : Layout) :
    ∃ c ∈ (x.text l).toList, c.isDigit = true := by
  unfold isFinite at h
  split at h
  case h_2 => cases h
  rename_i negative m q hv
  simp only [text, hv, String.toList_ofList, List.mem_append]
  by_cases hm : m = 0
  · refine ⟨'0', .inr ?_, rfl⟩
    rw [if_pos hm]
    split <;> decide
  · obtain ⟨c, hc⟩ := List.exists_mem_of_ne_nil _ (Nat.toDigits_ne_nil (b := 10) (n := (shortest m q).1))
    refine ⟨c, .inr ?_, Decimal.isDigit_of_mem_toDigits hc⟩
    rw [if_neg hm]
    exact mem_magnitude hc

end Binary64

theorem Json.exists_isDigit_intText (n : Int) : ∃ c ∈ intText n, c.isDigit = true := by
  obtain ⟨c, hc⟩ := List.exists_mem_of_ne_nil _ (Nat.toDigits_ne_nil (b := 10) (n := n.natAbs))
  refine ⟨c, ?_, Decimal.isDigit_of_mem_toDigits hc⟩
  unfold intText
  split
  · exact List.mem_cons_of_mem _ hc
  · exact hc

theorem Text.mem_trimChars_of_isDigit {cs : List Char} {c : Char} (hc : c ∈ cs) (digit : c.isDigit = true) :
    c ∈ trimChars cs := by
  obtain ⟨front, back, blank, blank', whole⟩ := exists_trimChars cs
  have solid := isBlank_of_isDigit digit
  have outside {bs : List Char} (h : AllBlank bs) : c ∉ bs := fun hb => by simp [h c hb] at solid
  rw [whole] at hc
  simpa [outside blank, outside blank'] using hc

namespace Cypher

/-- The name of a boolean holds no digit. -/
theorem bareKind_of_isDigit {s : String} {c : Char} (hc : c ∈ s.toList) (digit : c.isDigit = true) :
    bareKind s = .number := by
  have kept : c.toLower = c := by
    unfold Char.toLower
    refine dif_neg fun upper => ?_
    have above : 65 ≤ c.toNat := by simpa [UInt32.le_iff_toNat_le] using upper.1
    have small := (Text.toNat_of_isDigit digit).2
    omega
  have lower : c ∈ s.toList.map Char.toLower := kept ▸ List.mem_map_of_mem hc
  rw [bareKind, if_neg]
  intro name
  have letters : ∀ cs ∈ ["true".toList, "false".toList], cs.any Char.isDigit = false := by decide
  exact List.any_eq_false.1 (letters _ name) c lower digit

theorem bareKind_ne_text (s : String) : bareKind s ≠ .text := by
  unfold bareKind
  split <;> exact nofun

theorem isFinite_of_isLiteral {x : Binary64} {l : Binary64.Layout} (h : isLiteral (x.text l) = true) :
    x.isFinite = true := by
  unfold Binary64.text at h
  unfold Binary64.isFinite
  split at h
  · exact absurd h (by decide)
  · split at h <;> exact absurd h (by decide)
  · rename_i hv
    rw [hv]

/-- What a literal writes has the kind of the value, if the value is no text. -/
theorem kind?_of_isLiteral {v : Json} (literal : isLiteral v.cellText = true) (plain : v.kind? ≠ some .text) :
    v.kind? = some (bareKind (Text.trim v.cellText)) := by
  have number {s : String} (digit : ∃ c ∈ s.toList, c.isDigit = true) : bareKind (Text.trim s) = .number := by
    obtain ⟨c, hc, digit⟩ := digit
    exact bareKind_of_isDigit (String.toList_ofList ▸ Text.mem_trimChars_of_isDigit hc digit) digit
  cases v with
  | null => cases literal
  | bool b => cases b <;> decide
  | int n =>
    rw [number (String.toList_ofList.symm ▸ Json.exists_isDigit_intText n)]
    rfl
  | float x =>
    have written : (Json.float x).cellText = x.text .json := String.ofList_toList
    rw [written] at literal ⊢
    rw [number (x.exists_isDigit_text (isFinite_of_isLiteral literal) .json)]
    rfl
  | _ => exact absurd rfl plain

end Cypher

/-! ## The kinds of a property in both graphs -/

namespace Neptune

theorem kind?_eq (v : Json) : v.kind? = (valueType? v).bind (typeKinds.lookup ·) := by
  cases v <;> rfl

/-- A column holds the property whose name stands before the last colon. -/
theorem columnKind?_typed (property name : String) {type : String} (h : type ∈ typeKinds.map Prod.fst) :
    columnKind? property (name ++ ":" ++ type) = if name = property then typeKinds.lookup type else none := by
  have plain : ∀ type ∈ typeKinds.map Prod.fst, ':' ∉ type.toList := by decide
  by_cases hn : name = property
  · rw [if_pos hn, hn]
    simp only [typeKinds, List.map_cons, List.map_nil, List.mem_cons, List.not_mem_nil, or_false] at h
    rcases h with rfl | rfl | rfl | rfl <;> simp [columnKind?, typeKinds, List.lookup_cons]
  · rw [if_neg hn, columnKind?, Option.map_eq_none_iff, List.find?_eq_none]
    intro other ho same
    have texts := congrArg String.toList (of_decide_eq_true same)
    simp only [String.toList_append, List.append_assoc] at texts
    exact hn (String.toList_inj.1 (Text.back_inj (plain type h) (plain _ (List.mem_map_of_mem ho)) texts).1)

theorem columnKind?_untyped (property : String) {column : String} (h : ':' ∉ column.toList) :
    columnKind? property column = none := by
  rw [columnKind?, Option.map_eq_none_iff, List.find?_eq_none]
  intro type _ same
  rw [of_decide_eq_true same] at h
  simp at h

/-- The columns of a property hold the values of the attributes that have it as their plain name. -/
theorem columnKinds_nodeRow (property : String) (n : Node) : columnKinds property (nodeRow n) =
    (n.attributes.filter fun a => plainName a.1 = property).filterMap fun a => a.2.kind? := by
  have front : ∀ column ∈ ["~id", "~label"], columnKind? property column = none := fun column hc =>
    columnKind?_untyped property ((by decide : ∀ column ∈ ["~id", "~label"], ':' ∉ column.toList) column hc)
  have each (a : String × Json) : ((attribute? a).map Prod.fst).bind (columnKind? property) =
      if plainName a.1 = property then a.2.kind? else none := by
    obtain ⟨name, v⟩ := a
    rw [attribute?, kind?_eq]
    cases hv : valueType? v with
    | none => simp
    | some type =>
      have known : type ∈ typeKinds.map Prod.fst := by
        cases columnType_of_valueType? hv <;> decide
      exact columnKind?_typed property (plainName name) known
  have attributes : columnKinds property (attributeColumns n.attributes) =
      (n.attributes.filter fun a => plainName a.1 = property).filterMap fun a => a.2.kind? := by
    rw [columnKinds, Row.columns, attributeColumns, List.map_filterMap, List.filterMap_filterMap,
      List.filterMap_filter]
    refine List.filterMap_congr fun a _ => (each a).trans ?_
    simp only [decide_eq_true_eq]
  rw [← attributes]
  simp only [nodeRow, columnKinds, Row.columns, List.map_append, List.filterMap_append, List.map_cons,
    List.map_nil, List.filterMap_cons, List.filterMap_nil, front _ List.mem_cons_self,
    front _ (List.mem_cons_of_mem _ List.mem_cons_self), List.nil_append]

end Neptune

namespace Cypher

/-- The kind of the value that an attribute sets, if it sets one. -/
def kindSet? (a : String × Json) : Option ValueKind := (property? a).map (·.value.kind)

theorem property_of_property? {a : String × Json} {x : Assignment} (h : property? a = some x) :
    x.property = Neptune.plainName a.1 := by
  unfold property? at h
  rw [Neptune.plainName]
  split at h
  · rename_i bare
    cases h
    rw [bare]
    rfl
  · rename_i marked
    rw [marked]
    split at h
    · cases h
    · cases h
      rfl

/-- A property is set to the values of the attributes that have it as their plain name. -/
theorem kindsSet_properties {property : String} (h : property ≠ "published_tag") (attributes : KeyMap Json)
    (tag : String) : kindsSet property (properties attributes tag) =
      (attributes.filter fun a => Neptune.plainName a.1 = property).filterMap kindSet? := by
  have other : ([Sheet.tagAssignment tag].filter (·.property = property)) = [] := by
    simpa [Sheet.tagAssignment] using h.symm
  rw [kindsSet, properties, List.filter_append, other, List.append_nil, List.filter_filterMap,
    List.map_filterMap, List.filterMap_filter]
  refine List.filterMap_congr fun a _ => ?_
  cases hp : property? a with
  | none => simp [kindSet?, hp]
  | some x =>
    rw [kindSet?, hp, ← property_of_property? hp]
    by_cases hx : x.property = property <;> simp [hx]

/-- What a marked attribute sets has the kind of what the attribute writes. -/
theorem kindSet?_of_marked {a : String × Json} (marked : (Text.dropTail? unquotedMark a.1).isSome) :
    kindSet? a = if a.2.cellText = "" then none else some (bareKind (Text.trim a.2.cellText)) := by
  obtain ⟨plain, hp⟩ := Option.isSome_iff_exists.1 marked
  unfold kindSet? property?
  rw [hp]
  dsimp only
  split <;> rfl

example : kindSet? ("stat_val:UNQUOTED", .int 3) = some .number ∧
    Neptune.attribute? ("stat_val:UNQUOTED", .int 3) = some ("stat_val:Long", .int 3) := by
  decide +kernel

/-! ## The script of a run -/

/-- The script that is made of models once they are written, for Neo4j, into two empty directories. -/
def IsScriptOf (ms : List Model) (tag : String) (script : List Statement) : Prop :=
  ∃ (s : FileStore) (c : BulkLoaderConfig) (p : CypherConfig) (nodes relations : Place) (b : BulkFiles)
    (report : PublishReport), c.format = .neo4j ∧ SharedDirectories s c p nodes relations ∧
      BulkFiles.writeAll (fun b m => (BulkLoader.load c).load (.model m) b) ⟨s, {}⟩ ms = (.ok (), b) ∧
      CypherPublisher.compile p tag b.files = .ok (script, report)

/-- There is a script if all attributes are fit. -/
theorem exists_isScriptOf {s : FileStore} {c : BulkLoaderConfig} {p : CypherConfig} {nodes relations : Place}
    {ms : List Model} {b : BulkFiles} (neo4j : c.format = .neo4j) (dirs : SharedDirectories s c p nodes relations)
    (loaded : BulkFiles.writeAll (fun b m => (BulkLoader.load c).load (.model m) b) ⟨s, {}⟩ ms = (.ok (), b))
    (fit : ∀ a ∈ emittedAttributes ms, Fit a) (tag : String) : ∃ script, IsScriptOf ms tag script := by
  obtain ⟨ns, rs, files, -, -, settles⟩ := settles_compile neo4j dirs loaded tag
  exact ⟨_, s, c, p, nodes, relations, b, _, neo4j, dirs, loaded, settles.ok fit⟩

/-- A script holds the statements of all nodes, and there is none unless all attributes are fit. -/
theorem IsScriptOf.nodes {ms : List Model} {tag : String} {script : List Statement}
    (h : IsScriptOf ms tag script) {n : Node} (hn : n ∈ emittedNodes ms) :
    nodeStatement tag n ∈ script ∧ ∀ a ∈ n.attributes, Fit a := by
  obtain ⟨s, c, p, nodes, relations, b, report, neo4j, dirs, loaded, compiled⟩ := h
  obtain ⟨ns, rs, files, perm, -, settles⟩ := settles_compile neo4j dirs loaded tag
  have fit : ∀ a ∈ emittedAttributes ms, Fit a := by
    by_contra unfit
    obtain ⟨a, -, -, path, failed⟩ := settles.error (by simpa using unfit)
    rw [failed] at compiled
    cases compiled
  rw [settles.ok fit] at compiled
  cases compiled
  have stated : nodeStatement tag n ∈ ns := perm.mem_iff.2 (List.mem_map_of_mem hn)
  refine ⟨List.mem_append_left rs (List.mem_append_right _ stated), fun a ha => fit a ?_⟩
  exact List.mem_append_left _ (List.mem_flatMap.2 ⟨n, hn, ha⟩)

/-- Wherever a script is made of models and `m` is among them, the node has its property set to values
of these kinds. -/
def Publishes (m : Model) (n : Node) (property : String) (kinds : List ValueKind) : Prop :=
  ∀ (ms : List Model) (tag : String) (script : List Statement), IsScriptOf ms tag script → m ∈ ms →
    ∃ sets, .node ⟨n.label, n.key⟩ sets ∈ script ∧ kindsSet property sets = kinds

theorem publishes_of_mem {m : Model} {n : Node} {property : String} (hn : n ∈ m.elements.nodes)
    (h : property ≠ "published_tag") : Publishes m n property
      ((n.attributes.filter fun a => Neptune.plainName a.1 = property).filterMap kindSet?) :=
  fun _ tag _ made hm => ⟨properties n.attributes tag, (made.nodes (List.mem_flatMap.2 ⟨m, hm, hn⟩)).1,
    kindsSet_properties h n.attributes tag⟩

end Cypher

/-! ## The value of a statistic -/

namespace ColumnStat

open Cypher

/-- The attributes of a statistic with a value. -/
def attributesWith (s : ColumnStat) (v : Json) : KeyMap Json :=
  [("end_epoch", .text s.endEpoch), ("start_epoch", .text s.startEpoch), ("stat_name", .text s.statName),
    ("stat_val:UNQUOTED", v)]

variable (s : ColumnStat) (v : Json)

theorem attributes_node : s.node.attributes = s.attributesWith (.text s.statVal) := by
  simp only [node, Node.withUnquoted, Node.withText, Node.withAttribute, KeyMap.insert]
  rfl

theorem attributes_withUnquoted : (s.node.withUnquoted "stat_val" v).attributes = s.attributesWith v := by
  rw [Node.withUnquoted, Node.withAttribute, attributes_node]
  rfl

theorem plainName_value : Neptune.plainName "stat_val:UNQUOTED" = "stat_val" := by
  decide +kernel

theorem filter_attributesWith : ((s.attributesWith v).filter fun a => Neptune.plainName a.1 = "stat_val") =
    [("stat_val:UNQUOTED", v)] := by
  have others : ∀ name ∈ ["end_epoch", "start_epoch", "stat_name"], Neptune.plainName name ≠ "stat_val" := by
    decide +kernel
  simp [attributesWith, others, plainName_value]

theorem isSome_unquotedMark : (Text.dropTail? unquotedMark "stat_val:UNQUOTED").isSome = true := by
  decide +kernel

/-- The row for Neptune holds the value in a single column, as a text. -/
theorem columnKinds_node : ("stat_val:String", .text s.statVal) ∈ Neptune.nodeRow s.node ∧
    Neptune.columnKinds "stat_val" (Neptune.nodeRow s.node) = [.text] := by
  constructor
  · refine List.mem_append_right _ (List.mem_filterMap.2 ⟨("stat_val:UNQUOTED", .text s.statVal), ?_, ?_⟩)
    · simp [attributes_node, attributesWith]
    · rw [Neptune.attribute?, plainName_value]
      rfl
  · rw [Neptune.columnKinds_nodeRow, attributes_node, filter_attributesWith]
    rfl

/-- In a script the value has the kind of what it writes. -/
theorem publishes_node {m : Model} (h : s.node ∈ m.elements.nodes) : Publishes m s.node "stat_val"
    (if s.statVal = "" then [] else [bareKind (Text.trim s.statVal)]) := by
  have kinds : [("stat_val:UNQUOTED", Json.text s.statVal)].filterMap kindSet? =
      if s.statVal = "" then [] else [bareKind (Text.trim s.statVal)] := by
    rw [List.filterMap_cons, kindSet?_of_marked (a := ("stat_val:UNQUOTED", .text s.statVal)) isSome_unquotedMark,
      Json.cellText_text]
    by_cases empty : s.statVal = "" <;> simp [empty]
  rw [← kinds, ← s.filter_attributesWith, ← attributes_node]
  exact publishes_of_mem h (by decide)

/-- There is no script with a value that is no literal. -/
theorem not_isScriptOf {m : Model} (h : s.node ∈ m.elements.nodes) (given : s.statVal ≠ "")
    (other : isLiteral s.statVal = false) {ms : List Model} (hm : m ∈ ms) (tag : String) (script : List Statement) :
    ¬ IsScriptOf ms tag script := by
  intro made
  have fit := (made.nodes (List.mem_flatMap.2 ⟨m, hm, h⟩)).2 ("stat_val:UNQUOTED", .text s.statVal)
    (by simp [attributes_node, attributesWith])
  rcases fit isSome_unquotedMark with empty | literal
  · exact given empty
  · rw [Json.cellText_text, other] at literal
    cases literal

/-- A value that is written alike makes the same row for Neo4j. -/
theorem nodeRow_withUnquoted {v : Json} (h : v.cellText = s.statVal) :
    (Neo4j.nodeRow (s.node.withUnquoted "stat_val" v)).columns = (Neo4j.nodeRow s.node).columns ∧
      (Neo4j.nodeRow (s.node.withUnquoted "stat_val" v)).cells = (Neo4j.nodeRow s.node).cells := by
  simp only [Neo4j.nodeRow, Row.columns, Row.cells, Node.withUnquoted_key, Node.withUnquoted_label,
    attributes_withUnquoted, attributes_node]
  simp [attributesWith, h]

/-- The field of the value is decoded from what the record gives for it. -/
theorem statVal_of_ofRecord {record : Record} {f : ColumnStatFields}
    (h : Field.ofRecord ModelKind.columnStat.name ColumnStatFields.shape record = .ok f) :
    ∃ d, record.get? "stat_val" = some d ∧ Field.string .json d.toDatum = .ok f.statVal := by
  obtain ⟨_, schema, built₈, rfl, -⟩ := Shape.build_optional_ok (Field.build_recordSource h)
  obtain ⟨_, cluster, built₇, rfl, -⟩ := Shape.build_optional_ok built₈
  obtain ⟨_, db, built₆, rfl, -⟩ := Shape.build_optional_ok built₇
  obtain ⟨_, endEpoch, built₅, rfl⟩ := Shape.build_required_ok built₆
  obtain ⟨_, startEpoch, built₄, rfl⟩ := Shape.build_required_ok built₅
  obtain ⟨_, statVal, position, d, built₃, rfl, given, decoded⟩ := Shape.build_required_given built₄
  obtain ⟨_, statName, built₂, rfl⟩ := Shape.build_required_ok built₃
  obtain ⟨_, colName, built₁, rfl⟩ := Shape.build_required_ok built₂
  obtain ⟨_, tableName, built₀, rfl⟩ := Shape.build_required_ok built₁
  cases built₀
  rw [Field.given_recordSource, Option.map_eq_some_iff] at given
  obtain ⟨v, given, rfl⟩ := given
  exact ⟨v, given, decoded⟩

theorem statVal_of_ofFields {f : ColumnStatFields} {s : ColumnStat} (h : ofFields f = .ok s) :
    s.statVal = f.statVal := by
  obtain ⟨place, -, made⟩ := except_bind_ok.1 h
  cases made
  rfl

/-- A record that is bound to a statistic gives its value and makes its node. -/
theorem of_build {record : Record} {c c' : Claims} {m : Model} (h : ModelKind.columnStat.build record c = .ok (m, c')) :
    ∃ (s : ColumnStat) (d : Json), record.get? "stat_val" = some d ∧
      Field.string .json d.toDatum = .ok s.statVal ∧ m.elements.nodes = [s.node] := by
  obtain ⟨f, fields, made⟩ := except_bind_ok.1 h
  obtain ⟨s, bound, made⟩ := except_bind_ok.1 made
  cases made
  obtain ⟨d, given, decoded⟩ := statVal_of_ofRecord fields
  exact ⟨s, d, given, statVal_of_ofFields bound ▸ decoded, rfl⟩

end ColumnStat

namespace ModelKind

open Cypher

/-- **The value of a statistic has two kinds.** A record is bound to a statistic with the text that
its `stat_val` decodes to, be it a text, a number or a boolean there. If the text is a literal, it is
published with the kind of what it writes wherever a script is made of models and the statistic is
among them. An empty one is not published, and there is no script with any other. The row for Neptune
holds the text, as a text and in a single column. With the number or boolean that a literal writes in
its place, the row for Neo4j would be the same, and Neptune would have the kind that is published. -/
theorem kinds_of_statistic {record : Record} {c c' : Claims} {m : Model}
    (built : columnStat.build record c = .ok (m, c')) :
    ∃ (d : Json) (value : String) (n : Node), record.get? "stat_val" = some d ∧
      Field.string .json d.toDatum = .ok value ∧ m.elements.nodes = [n] ∧
      (isLiteral value = true → Publishes m n "stat_val" [bareKind (Text.trim value)] ∧
        bareKind (Text.trim value) ≠ .text) ∧
      (value = "" → Publishes m n "stat_val" []) ∧
      (value ≠ "" → isLiteral value = false → ∀ (ms : List Model) (tag : String) (script : List Statement),
        m ∈ ms → ¬ IsScriptOf ms tag script) ∧
      ("stat_val:String", .text value) ∈ Neptune.nodeRow n ∧
      Neptune.columnKinds "stat_val" (Neptune.nodeRow n) = [.text] ∧
      ∀ v : Json, v.cellText = value → isLiteral value = true → v.kind? ≠ some .text →
        (Neo4j.nodeRow (n.withUnquoted "stat_val" v)).columns = (Neo4j.nodeRow n).columns ∧
        (Neo4j.nodeRow (n.withUnquoted "stat_val" v)).cells = (Neo4j.nodeRow n).cells ∧
        Neptune.columnKinds "stat_val" (Neptune.nodeRow (n.withUnquoted "stat_val" v)) =
          [bareKind (Text.trim value)] := by
  obtain ⟨s, d, given, decoded, nodes⟩ := ColumnStat.of_build built
  have emitted : s.node ∈ m.elements.nodes := nodes ▸ List.mem_singleton_self _
  have published := s.publishes_node emitted
  refine ⟨d, s.statVal, s.node, given, decoded, nodes, fun literal => ⟨?_, bareKind_ne_text _⟩, fun empty => ?_,
    fun value other _ tag script hm => s.not_isScriptOf emitted value other hm tag script,
    s.columnKinds_node.1, s.columnKinds_node.2, fun v written literal plain => ?_⟩
  · have value : s.statVal ≠ "" := fun empty => by
      rw [empty] at literal
      cases literal
    rwa [if_neg value] at published
  · rwa [if_pos empty] at published
  · obtain ⟨columns, cells⟩ := s.nodeRow_withUnquoted written
    refine ⟨columns, cells, ?_⟩
    rw [← written] at literal ⊢
    rw [Neptune.columnKinds_nodeRow, ColumnStat.attributes_withUnquoted, ColumnStat.filter_attributesWith]
    simp only [List.filterMap_cons, kind?_of_isLiteral literal plain, List.filterMap_nil]

/-- A record of the average in a column. -/
def averageRecord (value : Json) : Record :=
  [("col_name", .text "id"), ("end_epoch", .text "2"), ("start_epoch", .text "1"), ("stat_name", .text "avg"),
    ("stat_val", value), ("table_name", .text "core.orders")]

/-- The statistic of such a record. -/
def average (value : String) : ColumnStat where
  db := "hive"
  cluster := "gold"
  schema := "core"
  table := "orders"
  colName := "id"
  statName := "avg"
  statVal := value
  startEpoch := "1"
  endEpoch := "2"

def averageModel (value : String) : Model := ⟨.columnStat (average value), (average value).elements⟩

/-- Of two statistics in a run the second is an average of 3.5: it is published as a number, and its
row for Neptune has it as a text. -/
theorem kinds_of_statistic_average : ∃ (script : List Statement) (sets : List Assignment),
    columnStat.build (averageRecord (.text "3.5")) {} = .ok (averageModel "3.5", {}) ∧
    averageModel "3.5" ∈ twoStats "3.5" ∧ IsScriptOf (twoStats "3.5") "run" script ∧
    .node ⟨"Stat", "hive://gold.core/orders/id/avg/"⟩ sets ∈ script ∧ kindsSet "stat_val" sets = [.number] ∧
    Neptune.columnKinds "stat_val" (Neptune.nodeRow (average "3.5").node) = [.text] := by
  have built : columnStat.build (averageRecord (.text "3.5")) {} = .ok (averageModel "3.5", {}) :=
    except_eq_ok_of_toOption (by decide +kernel)
  have among : averageModel "3.5" ∈ twoStats "3.5" := by decide +kernel
  have loaded : BulkFiles.writeAll (fun b m => (BulkLoader.load twoDirectoriesSink).load (.model m) b)
      ⟨twoDirectories, {}⟩ (twoStats "3.5") = (.ok (), twoStatsFiles "3.5") :=
    Prod.ext (except_eq_ok_of_toOption (by decide +kernel)) rfl
  obtain ⟨script, made⟩ :=
    exists_isScriptOf rfl sharedDirectories_twoDirectories loaded (by decide +kernel) "run"
  obtain ⟨d, value, n, given, decoded, nodes, published, -, -, -, column, -⟩ := kinds_of_statistic built
  cases given
  cases decoded
  cases nodes
  obtain ⟨sets, stated, kinds⟩ := (published (by decide)).1 _ _ _ made among
  have key : (average "3.5").node.key = "hive://gold.core/orders/id/avg/" := by decide +kernel
  rw [key] at stated
  exact ⟨script, sets, built, among, made, stated, kinds, column⟩

/-- **A number can become a text**: of a record with the number 12, the sheet for Neo4j is published
with the bare value 12, and the row for Neptune has no column of it but one of texts. -/
theorem statistic_as_text :
    columnStat.build (averageRecord (.int 12)) {} = .ok (averageModel "12", {}) ∧
    (averageModel "12").elements.nodes = [(average "12").node] ∧ isLiteral "12" = true ∧
    Sheet.nodes ⟨"", (Neo4j.nodeRow (average "12").node).columns, [(Neo4j.nodeRow (average "12").node).cells], none⟩
      "run" = .ok [.node ⟨"Stat", "hive://gold.core/orders/id/avg/"⟩
        [⟨"end_epoch", .quoted "2"⟩, ⟨"start_epoch", .quoted "1"⟩, ⟨"stat_name", .quoted "avg"⟩,
          ⟨"stat_val", .bare "12"⟩, ⟨"published_tag", .quoted "run"⟩]] ∧
    (Neptune.nodeRow (average "12").node).columns =
      ["~id", "~label", "end_epoch:String", "start_epoch:String", "stat_name:String", "stat_val:String"] := by
  refine ⟨except_eq_ok_of_toOption ?_, rfl, ?_, except_eq_ok_of_toOption ?_, ?_⟩
  all_goals decide +kernel

end ModelKind

end MetaGraph
