/-
By which keys models name one table. A watermark puts all four parts of the
address in lower case, a column's statistic the schema and the table only,
and a dashboard's table none. The marks between the parts tell the parts
apart in each of these spellings, so two models agree on a key exactly if the
parts that only one of them changes are in lower case already.
-/
import MetaGraph.Proofs.Graph.TableLinks
import MetaGraph.Proofs.Text.Cuts
import MetaGraph.Proofs.Text.Lower

namespace MetaGraph

namespace TableAddress

/-- No part but the last holds the mark that ends it. -/
structure Unmarked (a : TableAddress) : Prop where
  db : ':' ∉ a.db.toList
  cluster : '.' ∉ a.cluster.toList
  schema : '/' ∉ a.schema.toList

variable {a b : TableAddress}

theorem IsWord.notMem {w : String} (h : IsWord w) {c : Char} (mark : c = ':' ∨ c = '.' ∨ c = '/') :
    c ∉ w.toList := fun hc => by
  have stops := endsWord_mark mark [] c rfl
  rw [h.2 c hc] at stops
  cases stops

theorem Worded.unmarked (h : a.Worded) : a.Unmarked :=
  ⟨h.1.notMem (.inl rfl), h.2.1.notMem (.inr (.inl rfl)), h.2.2.1.notMem (.inr (.inr rfl))⟩

/-- The marks tell the parts apart. -/
theorem Unmarked.key_eq_iff (ha : a.Unmarked) (hb : b.Unmarked) : a.key = b.key ↔ a = b := by
  refine ⟨fun h => ?_, fun h => h ▸ rfl⟩
  have texts := congrArg String.toList h
  rw [key_toList, key_toList] at texts
  obtain ⟨db, texts⟩ := Text.front_inj ha.db hb.db texts
  obtain ⟨cluster, texts⟩ := Text.front_inj ha.cluster hb.cluster (List.append_cancel_left texts)
  obtain ⟨schema, table⟩ := Text.front_inj ha.schema hb.schema texts
  cases a
  cases b
  simp_all [String.toList_inj]

/-- The address with schema and table in lower case. -/
def lowerPlace (a : TableAddress) : TableAddress :=
  { a with schema := Text.lower a.schema, table := Text.lower a.table }

/-- The address in lower case. -/
def lower (a : TableAddress) : TableAddress :=
  { a.lowerPlace with db := Text.lower a.db, cluster := Text.lower a.cluster }

theorem Unmarked.lowerPlace (h : a.Unmarked) : a.lowerPlace.Unmarked :=
  ⟨h.db, h.cluster, (Text.mem_lower_iff (by decide) (by decide) _).not.2 h.schema⟩

theorem Unmarked.lower (h : a.Unmarked) : a.lower.Unmarked :=
  ⟨(Text.mem_lower_iff (by decide) (by decide) _).not.2 h.db,
    (Text.mem_lower_iff (by decide) (by decide) _).not.2 h.cluster, h.lowerPlace.schema⟩

end TableAddress

/-! ## Records of a table -/

/-- The record of a watermark names the table. -/
structure WatermarkFields.Names (f : WatermarkFields) (a : TableAddress) : Prop where
  db : f.database = a.db
  cluster : f.cluster = a.cluster
  schema : f.schema = a.schema
  table : f.tableName = a.table

/-- The record of a statistic names the table, its schema by a field or in front of a dot. -/
structure ColumnStatFields.Names (f : ColumnStatFields) (a : TableAddress) : Prop where
  db : f.db = a.db
  cluster : f.cluster = a.cluster
  place : f.schema = some a.schema ∧ f.tableName = a.table ∨
    f.schema = none ∧ f.tableName = a.schema ++ "." ++ a.table

theorem Watermark.ofFields_of_names {f : WatermarkFields} {a : TableAddress} (names : f.Names a)
    (partitioned : '=' ∈ f.partName.toList) :
    ∃ w, Watermark.ofFields f = .ok w ∧ w.tableKey = a.lower.key := by
  obtain ⟨key, value, cut⟩ :=
    Text.exists_cutAt? ((Text.mem_lower_iff (by decide) (by decide) f.partName).2 partitioned)
  obtain ⟨db, cluster, schema, table⟩ := names
  simp only [Watermark.ofFields, cut]
  exact ⟨_, rfl, by rw [tableKey, db, cluster, schema, table]; rfl⟩

theorem ColumnStat.ofFields_of_names {f : ColumnStatFields} {a : TableAddress} (worded : a.Worded)
    (names : f.Names a) : ∃ s, ColumnStat.ofFields f = .ok s ∧ s.tableKey = a.lowerPlace.key ∧
      s.colName = Text.lower f.colName := by
  obtain ⟨db, cluster, place⟩ := names
  have dot {w : String} (h : TableAddress.IsWord w) : '.' ∉ w.toList := h.notMem (.inr (.inl rfl))
  have found : ColumnStat.place f = .ok (a.schema, a.table) := by
    rcases place with ⟨schema, table⟩ | ⟨schema, table⟩
    · simp only [ColumnStat.place, schema, table]
    · have whole : f.tableName.toList = a.schema.toList ++ '.' :: a.table.toList := by simp [table]
      have cut := Text.cutAt?_append (dot worded.2.2.1) whole
      simp only [ColumnStat.place, schema, cut, List.contains_iff_mem, dot worded.2.2.2, if_false]
  simp only [ColumnStat.ofFields, found]
  exact ⟨_, rfl, by rw [tableKey, db, cluster]; rfl, rfl⟩

/-- A dashboard is linked to each address that it lists. -/
theorem DashboardTable.linked_of_listed {t : DashboardTable} {a : TableAddress} (worded : a.Worded)
    (listed : a.key ∈ t.tableIds) : t.link a.key ∈ t.elements.relations := by
  have read : TableAddress.ofUri? a.key = some a := TableAddress.ofUri?_eq_some_iff.2 worded.starts_key
  exact List.mem_map.2 ⟨a, List.mem_filterMap.2 ⟨a.key, listed, read⟩, rfl⟩

namespace ModelKind

/-- The elements that the relations of a model lead to, by label and key. -/
def targets (m : Model) : List (String × String) := m.elements.relations.map fun r => (r.endLabel, r.endKey)

/-- **By which keys a table is named.** Records that name one table, its parts words in any case, make a
watermark, a statistic and a dashboard's tables. Their keys for the table have all parts in lower
case, the schema and the table, and none. So the watermark and the statistic agree exactly if the
database and the cluster are in lower case, the statistic and the dashboard if the schema and the
table are, and the watermark and the dashboard if the whole address is. -/
theorem keys_of_table {a : TableAddress} (worded : a.Worded) {marked measured charted : Record}
    {f : WatermarkFields} {g : ColumnStatFields} {t : DashboardTable}
    (fields : Field.ofRecord watermark.name WatermarkFields.shape marked = .ok f)
    (fields' : Field.ofRecord columnStat.name ColumnStatFields.shape measured = .ok g)
    (fields'' : Field.ofRecord dashboardTable.name DashboardTable.shape charted = .ok t)
    (names : f.Names a) (partitioned : '=' ∈ f.partName.toList) (names' : g.Names a)
    (listed : a.key ∈ t.tableIds) (c c' c'' : Claims) :
    (∃ m, watermark.build marked c = .ok (m, c) ∧ targets m = [("Table", a.lower.key)]) ∧
    (∃ m, columnStat.build measured c' = .ok (m, c') ∧
      targets m = [("Column", a.lowerPlace.key ++ "/" ++ Text.lower g.colName)]) ∧
    (∃ m, dashboardTable.build charted c'' = .ok (m, c'') ∧ ("Table", a.key) ∈ targets m) ∧
    (a.lower.key = a.lowerPlace.key ↔ Text.lower a.db = a.db ∧ Text.lower a.cluster = a.cluster) ∧
    (a.lowerPlace.key = a.key ↔ Text.lower a.schema = a.schema ∧ Text.lower a.table = a.table) ∧
    (a.lower.key = a.key ↔ a.lower = a) := by
  have plain := worded.unmarked
  obtain ⟨w, made, key⟩ := Watermark.ofFields_of_names names partitioned
  obtain ⟨s, made', key', column⟩ := ColumnStat.ofFields_of_names worded names'
  refine ⟨⟨⟨.watermark w, w.elements⟩, ?_, by rw [← key]; rfl⟩,
    ⟨⟨.columnStat s, s.elements⟩, ?_, by rw [← key', ← column]; rfl⟩,
    ⟨⟨.dashboardTable t, t.elements⟩, ?_, ?_⟩, ?_, ?_, plain.lower.key_eq_iff plain⟩
  · exact except_bind_ok.2 ⟨f, fields, except_bind_ok.2 ⟨w, made, rfl⟩⟩
  · exact except_bind_ok.2 ⟨g, fields', except_bind_ok.2 ⟨s, made', rfl⟩⟩
  · exact except_bind_ok.2 ⟨t, fields'', rfl⟩
  · exact List.mem_map.2 ⟨_, DashboardTable.linked_of_listed worded listed, rfl⟩
  · rw [plain.lower.key_eq_iff plain.lowerPlace]
    simp [TableAddress.lower, TableAddress.lowerPlace]
  · rw [plain.lowerPlace.key_eq_iff plain]
    cases a
    simp [TableAddress.lowerPlace]

/-! ## Tables of one schema -/

/-- The records of a table's watermark, of the greatest value in one of its columns, and of a
dashboard over it. -/
def markedRecord (a : TableAddress) : Record :=
  [("cluster", .text a.cluster), ("create_time", .text "2024-05-01"), ("database", .text a.db),
    ("part_name", .text "ds=2024-05-01"), ("schema", .text a.schema), ("table_name", .text a.table)]

def measuredRecord (a : TableAddress) : Record :=
  [("cluster", .text a.cluster), ("col_name", .text "id"), ("db", .text a.db), ("end_epoch", .text "2"),
    ("start_epoch", .text "1"), ("stat_name", .text "max"), ("stat_val", .text "7"),
    ("table_name", .text (a.schema ++ "." ++ a.table))]

def chartedRecord (a : TableAddress) : Record := overTables [a.key]

theorem ofRecord_marked (a : TableAddress) : Field.ofRecord watermark.name WatermarkFields.shape (markedRecord a) =
    .ok ⟨"2024-05-01", a.db, a.schema, a.table, "ds=2024-05-01", "high_watermark", a.cluster⟩ := rfl

theorem ofRecord_measured (a : TableAddress) :
    Field.ofRecord columnStat.name ColumnStatFields.shape (measuredRecord a) =
      .ok ⟨a.schema ++ "." ++ a.table, "id", "max", "7", "1", "2", a.db, a.cluster, none⟩ := rfl

/-- A table whose schema alone has a capital letter. -/
def coreUsers : TableAddress := ⟨"hive", "gold", "Core", "users"⟩

/-- The schema parts the dashboard from the watermark and the statistic. -/
theorem keys_of_table_coreUsers :
    (∃ m, watermark.build (markedRecord coreUsers) {} = .ok (m, {}) ∧
      targets m = [("Table", "hive://gold.core/users")]) ∧
    (∃ m, columnStat.build (measuredRecord coreUsers) {} = .ok (m, {}) ∧
      targets m = [("Column", "hive://gold.core/users/id")]) ∧
    (∃ m, dashboardTable.build (chartedRecord coreUsers) {} = .ok (m, {}) ∧
      ("Table", "hive://gold.Core/users") ∈ targets m) := by
  have word {w : String} (given : w ≠ "") (word : w.toList.all Text.isWord = true) : TableAddress.IsWord w :=
    ⟨given, List.all_eq_true.1 word⟩
  have worded : coreUsers.Worded :=
    ⟨word (by decide) (by decide +kernel), word (by decide) (by decide +kernel),
      word (by decide) (by decide +kernel), word (by decide) (by decide +kernel)⟩
  have charted : Field.ofRecord dashboardTable.name DashboardTable.shape (chartedRecord coreUsers) =
      .ok ⟨"sales", "daily", [coreUsers.key], "", "gold"⟩ := except_eq_ok_of_toOption (by decide +kernel)
  have keys : coreUsers.lower.key = "hive://gold.core/users" ∧
      coreUsers.lowerPlace.key ++ "/" ++ Text.lower "id" = "hive://gold.core/users/id" ∧
      coreUsers.key = "hive://gold.Core/users" := by
    decide +kernel
  obtain ⟨mark, stat, chart, -⟩ := keys_of_table worded (ofRecord_marked coreUsers) (ofRecord_measured coreUsers)
    charted ⟨rfl, rfl, rfl, rfl⟩ (by decide) ⟨rfl, rfl, .inr ⟨rfl, rfl⟩⟩ List.mem_cons_self {} {} {}
  rw [keys.1] at mark
  rw [keys.2.1] at stat
  rw [keys.2.2] at chart
  exact ⟨mark, stat, chart⟩

/-- **One table can have three keys**, one from each model. -/
theorem three_keys :
    (∃ m, watermark.build (markedRecord ⟨"Hive", "Gold", "Core", "Users"⟩) {} = .ok (m, {}) ∧
      targets m = [("Table", "hive://gold.core/users")]) ∧
    (∃ m, columnStat.build (measuredRecord ⟨"Hive", "Gold", "Core", "Users"⟩) {} = .ok (m, {}) ∧
      targets m = [("Column", "Hive://Gold.core/users/id")]) ∧
    (∃ m, dashboardTable.build (chartedRecord ⟨"Hive", "Gold", "Core", "Users"⟩) {} = .ok (m, {}) ∧
      targets m = [("Table", "Hive://Gold.Core/Users")]) :=
  ⟨⟨_, rfl, by decide +kernel⟩, ⟨_, rfl, by decide +kernel⟩, ⟨_, rfl, by decide +kernel⟩⟩

end ModelKind

end MetaGraph
