import Mathlib.Data.List.Nodup

/-!
# Schemas of a relational database and statements that alter them

A schema holds tables (with rows), indexes and other relations, all named. What
refers to a column or a table refers to it by name here, and a rename takes the
references with it, as in a database that keeps references by identity.

A statement fails where something it names does not exist, where a new name is in
use, and where a foreign key does not hold. Types, privileges and locks are left
out, and so are constraints other than foreign keys and unique indexes.

- `exec_tables`: a statement changes each table by itself.
- `execAll_rows`: no run of statements changes the values of a row.
- `renameTable_gone`: the old name of a table names none after a rename.
-/

namespace SensorNet.Sql

/-- The name `n`, once what was called `a` is called `b` -/
def renamed (a b n : String) : String := if n = a then b else n

theorem renamed_injOn {a b : String} {names : List String} (hb : b ∉ names) :
    ∀ m ∈ names, ∀ n ∈ names, renamed a b m = renamed a b n → m = n := by
  intro m hm n hn heq
  unfold renamed at heq
  split at heq <;> split at heq
  · rename_i hma hna
    rw [hma, hna]
  · exact absurd (heq ▸ hn) hb
  · exact absurd (heq ▸ hm) hb
  · exact heq

/-- A list that lacks the old name stays as it is. -/
theorem map_renamed_of_not_mem {a : String} (b : String) {names : List String}
    (ha : a ∉ names) : names.map (renamed a b) = names := by
  refine (List.map_congr_left fun n hn => ?_).trans (List.map_id names)
  exact if_neg fun heq : n = a => ha (heq ▸ hn)

theorem renamed_not_mem {a b : String} (names : List String) (hab : a ≠ b) :
    a ∉ names.map (renamed a b) := by
  intro hmem
  obtain ⟨n, -, hn⟩ := List.mem_map.mp hmem
  unfold renamed at hn
  split at hn
  · exact hab hn.symm
  · exact absurd hn ‹_›

theorem renamed_nodup {a b : String} {names : List String} (hb : b ∉ names)
    (hnames : names.Nodup) : (names.map (renamed a b)).Nodup :=
  List.Nodup.map_on (renamed_injOn hb) hnames

/-! ## Schemas -/

/-- What a foreign key does when the row it refers to goes. -/
inductive Action where
  | noAction
  | restrict
  | cascade
  | setNull
  | setDefault
  deriving DecidableEq, Repr

structure ForeignKey where
  name : String
  columns : List String
  refTable : String
  refColumns : List String
  onDelete : Action
  onUpdate : Action
  deriving DecidableEq, Repr

/-- A table with values in `ν`; `none` is null. The values of a row are in the order of the
columns. -/
structure Table (ν : Type) where
  name : String
  columns : List String
  rows : List (List (Option ν))
  foreignKeys : List ForeignKey
  columnsNodup : columns.Nodup
  deriving DecidableEq

structure Index where
  name : String
  table : String
  columns : List String
  unique : Bool
  deriving DecidableEq, Repr

/-- A schema with other relations in `ω` (views, sequences and so on). Tables, indexes and
other relations share one space of names. -/
structure Schema (ν ω : Type) where
  tables : List (Table ν)
  indexes : List Index
  others : List (String × ω)
  relationsNodup :
    (tables.map Table.name ++ indexes.map Index.name ++ others.map Prod.fst).Nodup
  deriving DecidableEq

/-! ## Statements -/

inductive SqlError where
  | undefinedTable (table : String)
  | undefinedColumn (table column : String)
  | undefinedIndex (index : String)
  | duplicateRelation (name : String)
  | duplicateColumn (table column : String)
  | duplicateConstraint (table constraint : String)
  | invalidForeignKey (constraint : String)
  | foreignKeyViolation (constraint : String)
  deriving DecidableEq, Repr

/-- `ALTER TABLE` and `ALTER INDEX` -/
inductive Statement where
  | renameTable (table newName : String)
  | renameColumn (table column newName : String)
  | renameIndex (index newName : String)
  | dropConstraintIfExists (table constraint : String)
  | addForeignKey (table : String) (key : ForeignKey)
  deriving DecidableEq, Repr

variable {ν ω : Type}

namespace ForeignKey

/-- A rename of a table, in what a foreign key refers to -/
def renameTable (k : ForeignKey) (a b : String) : ForeignKey :=
  { k with refTable := renamed a b k.refTable }

/-- A rename of the column `a` of `table`, in a foreign key of the table `owner` -/
def renameColumn (k : ForeignKey) (owner table a b : String) : ForeignKey :=
  { k with
    columns := if owner = table then k.columns.map (renamed a b) else k.columns
    refColumns := if k.refTable = table then k.refColumns.map (renamed a b)
      else k.refColumns }

end ForeignKey

namespace Table

/-- The table `a` is called `b` from now on. -/
def rename (t : Table ν) (a b : String) : Table ν :=
  { t with
    name := renamed a b t.name
    foreignKeys := t.foreignKeys.map fun k => k.renameTable a b }

/-- The column `a` of `table` is called `b` from now on; `b` is not in use there. -/
def renameColumn (t : Table ν) (table a b : String) : Table ν :=
  let foreignKeys := t.foreignKeys.map fun k => k.renameColumn t.name table a b
  if h : t.name = table ∧ b ∉ t.columns then
    { t with
      columns := t.columns.map (renamed a b)
      foreignKeys := foreignKeys
      columnsNodup := renamed_nodup h.2 t.columnsNodup }
  else { t with foreignKeys := foreignKeys }

def dropForeignKey (t : Table ν) (table constraint : String) : Table ν :=
  if t.name = table then
    { t with foreignKeys := t.foreignKeys.filter fun k => k.name ≠ constraint }
  else t

def addForeignKey (t : Table ν) (table : String) (key : ForeignKey) : Table ν :=
  if t.name = table then { t with foreignKeys := t.foreignKeys ++ [key] } else t

/-- What is in a column of a row -/
def cell (t : Table ν) (row : List (Option ν)) (column : String) : Option ν :=
  (row[t.columns.idxOf column]?).join

/-- A row without a null in the key has a partner in the table it refers to. -/
def meets [DecidableEq ν] (t ref : Table ν) (key : ForeignKey) : Bool :=
  t.rows.all fun row =>
    key.columns.any (fun c => t.cell row c = none) ||
      ref.rows.any fun partner =>
        key.columns.map (t.cell row) = key.refColumns.map (ref.cell partner)

end Table

namespace Schema

variable (S : Schema ν ω)

def tableNames : List String := S.tables.map Table.name

/-- The values of the rows of all tables -/
def rows : List (List (List (Option ν))) := S.tables.map Table.rows

/-- What names a relation -/
def relations : List String :=
  S.tableNames ++ S.indexes.map Index.name ++ S.others.map Prod.fst

def table? (name : String) : Option (Table ν) := S.tables.find? fun t => t.name = name

/-- What is done to each table and leaves its name alone -/
def mapTables (f : Table ν → Table ν) (hname : ∀ t, (f t).name = t.name) : Schema ν ω :=
  { S with
    tables := S.tables.map f
    relationsNodup := by
      have hnames : (S.tables.map f).map Table.name = S.tables.map Table.name := by
        rw [List.map_map]
        exact List.map_congr_left fun t _ => hname t
      rw [hnames]
      exact S.relationsNodup }

end Schema

namespace Table

@[simp] theorem renameColumn_name (t : Table ν) (table a b : String) :
    (t.renameColumn table a b).name = t.name := by
  unfold renameColumn
  dsimp only
  split <;> rfl

@[simp] theorem renameColumn_rows (t : Table ν) (table a b : String) :
    (t.renameColumn table a b).rows = t.rows := by
  unfold renameColumn
  dsimp only
  split <;> rfl

@[simp] theorem dropForeignKey_name (t : Table ν) (table constraint : String) :
    (t.dropForeignKey table constraint).name = t.name := by
  unfold dropForeignKey
  split <;> rfl

@[simp] theorem dropForeignKey_rows (t : Table ν) (table constraint : String) :
    (t.dropForeignKey table constraint).rows = t.rows := by
  unfold dropForeignKey
  split <;> rfl

@[simp] theorem addForeignKey_name (t : Table ν) (table : String) (key : ForeignKey) :
    (t.addForeignKey table key).name = t.name := by
  unfold addForeignKey
  split <;> rfl

@[simp] theorem addForeignKey_rows (t : Table ν) (table : String) (key : ForeignKey) :
    (t.addForeignKey table key).rows = t.rows := by
  unfold addForeignKey
  split <;> rfl

end Table

namespace Schema

/-! ## What a statement does -/

theorem relations_renameTable (S : Schema ν ω) {a : String} (b : String)
    (ha : a ∈ S.tableNames) :
    (S.tables.map (·.rename a b)).map Table.name ++ S.indexes.map Index.name ++
      S.others.map Prod.fst = S.relations.map (renamed a b) := by
  have hdisj := List.nodup_append'.mp (List.append_assoc _ _ _ ▸ S.relationsNodup)
  have hrest : a ∉ S.indexes.map Index.name ++ S.others.map Prod.fst := hdisj.2.2 ha
  have hnames : (S.tables.map (·.rename a b)).map Table.name =
      S.tableNames.map (renamed a b) := by
    unfold tableNames
    rw [List.map_map, List.map_map]
    rfl
  unfold relations
  rw [hnames, List.append_assoc, List.append_assoc, List.map_append,
    map_renamed_of_not_mem b hrest]

theorem relations_renameIndex (S : Schema ν ω) {a : String} (b : String)
    (ha : a ∈ S.indexes.map Index.name) :
    S.tableNames ++ (S.indexes.map fun i => { i with name := renamed a b i.name }).map
      Index.name ++ S.others.map Prod.fst = S.relations.map (renamed a b) := by
  have hdisj := List.nodup_append'.mp S.relationsNodup
  have htables : a ∉ S.tableNames := fun hin => (List.nodup_append'.mp hdisj.1).2.2 hin ha
  have hothers : a ∉ S.others.map Prod.fst := hdisj.2.2 (List.mem_append_right _ ha)
  have hnames : (S.indexes.map fun i => { i with name := renamed a b i.name }).map
      Index.name = (S.indexes.map Index.name).map (renamed a b) := by
    rw [List.map_map, List.map_map]
    rfl
  unfold relations
  rw [hnames, List.map_append, List.map_append, map_renamed_of_not_mem b htables,
    map_renamed_of_not_mem b hothers]

variable (S : Schema ν ω)

/-- `ALTER TABLE name RENAME TO newName` -/
def renameTable (name newName : String) : Except SqlError (Schema ν ω) :=
  if hold : name ∉ S.tableNames then .error (.undefinedTable name)
  else if hnew : newName ∈ S.relations then .error (.duplicateRelation newName)
  else .ok
    { S with
      tables := S.tables.map (·.rename name newName)
      indexes := S.indexes.map fun i => { i with table := renamed name newName i.table }
      relationsNodup := by
        have hindexes : (S.indexes.map fun i =>
            { i with table := renamed name newName i.table }).map Index.name =
              S.indexes.map Index.name := by
          rw [List.map_map]
          rfl
        rw [hindexes, relations_renameTable S newName (not_not.mp hold)]
        exact renamed_nodup hnew S.relationsNodup }

/-- `ALTER TABLE table RENAME COLUMN column TO newName` -/
def renameColumn (table column newName : String) : Except SqlError (Schema ν ω) :=
  match S.table? table with
  | none => .error (.undefinedTable table)
  | some t =>
    if column ∉ t.columns then .error (.undefinedColumn table column)
    else if newName ∈ t.columns then .error (.duplicateColumn table newName)
    else
      let S := S.mapTables (·.renameColumn table column newName) (by simp)
      .ok
        { S with
          indexes := S.indexes.map fun i =>
            { i with
              columns := if i.table = table then i.columns.map (renamed column newName)
                else i.columns }
          relationsNodup := by
            rw [List.map_map]
            exact S.relationsNodup }

/-- `ALTER INDEX name RENAME TO newName` -/
def renameIndex (name newName : String) : Except SqlError (Schema ν ω) :=
  if hold : name ∉ S.indexes.map Index.name then .error (.undefinedIndex name)
  else if hnew : newName ∈ S.relations then .error (.duplicateRelation newName)
  else .ok
    { S with
      indexes := S.indexes.map fun i => { i with name := renamed name newName i.name }
      relationsNodup := by
        have hnames := relations_renameIndex S newName (not_not.mp hold)
        unfold tableNames at hnames
        rw [hnames]
        exact renamed_nodup hnew S.relationsNodup }

/-- `ALTER TABLE table DROP CONSTRAINT IF EXISTS constraint` -/
def dropConstraintIfExists (table constraint : String) : Except SqlError (Schema ν ω) :=
  match S.table? table with
  | none => .error (.undefinedTable table)
  | some _ => .ok (S.mapTables (·.dropForeignKey table constraint) (by simp))

/-- `ALTER TABLE table ADD CONSTRAINT … FOREIGN KEY … REFERENCES …`: the columns referred to
need a unique index, and the rows have to meet the key. -/
def addForeignKey [DecidableEq ν] (table : String) (key : ForeignKey) :
    Except SqlError (Schema ν ω) :=
  match S.table? table, S.table? key.refTable with
  | none, _ => .error (.undefinedTable table)
  | some _, none => .error (.undefinedTable key.refTable)
  | some t, some ref =>
    match key.columns.find? (· ∉ t.columns), key.refColumns.find? (· ∉ ref.columns) with
    | some column, _ => .error (.undefinedColumn table column)
    | none, some column => .error (.undefinedColumn key.refTable column)
    | none, none =>
      if key.name ∈ t.foreignKeys.map ForeignKey.name then
        .error (.duplicateConstraint table key.name)
      else if S.indexes.all fun i => ¬ (i.table = ref.name ∧ i.unique ∧
          i.columns.isPerm key.refColumns) then
        .error (.invalidForeignKey key.name)
      else if t.meets ref key then
        .ok (S.mapTables (·.addForeignKey table key) (by simp))
      else .error (.foreignKeyViolation key.name)

/-- One statement -/
def exec [DecidableEq ν] : Statement → Except SqlError (Schema ν ω)
  | .renameTable table newName => S.renameTable table newName
  | .renameColumn table column newName => S.renameColumn table column newName
  | .renameIndex index newName => S.renameIndex index newName
  | .dropConstraintIfExists table constraint => S.dropConstraintIfExists table constraint
  | .addForeignKey table key => S.addForeignKey table key

/-- Statements in order, up to the first that fails -/
def execAll [DecidableEq ν] (S : Schema ν ω) : List Statement → Except SqlError (Schema ν ω)
  | [] => .ok S
  | statement :: statements => (S.exec statement).bind fun T => T.execAll statements

/-! ## What a statement leaves alone -/

theorem table?_eq_none_iff {S : Schema ν ω} {name : String} :
    S.table? name = none ↔ name ∉ S.tableNames := by
  unfold table? tableNames
  rw [List.find?_eq_none, List.mem_map, not_exists]
  simp

theorem renameTable_ok {S T : Schema ν ω} {a b : String}
    (hexec : S.renameTable a b = .ok T) : T.tables = S.tables.map (·.rename a b) := by
  unfold renameTable at hexec
  split at hexec
  · cases hexec
  · split at hexec
    · cases hexec
    · cases hexec
      rfl

theorem renameColumn_ok {S T : Schema ν ω} {table a b : String}
    (hexec : S.renameColumn table a b = .ok T) :
    table ∈ S.tableNames ∧ T.tables = S.tables.map (·.renameColumn table a b) := by
  unfold renameColumn at hexec
  cases ht : S.table? table with
  | none =>
    rw [ht] at hexec
    cases hexec
  | some t =>
    rw [ht] at hexec
    dsimp only at hexec
    split at hexec
    · cases hexec
    · split at hexec
      · cases hexec
      · cases hexec
        refine ⟨?_, rfl⟩
        by_contra hno
        exact nomatch ht.symm.trans (table?_eq_none_iff.mpr hno)

theorem renameIndex_ok {S T : Schema ν ω} {a b : String}
    (hexec : S.renameIndex a b = .ok T) : T.tables = S.tables := by
  unfold renameIndex at hexec
  split at hexec
  · cases hexec
  · split at hexec
    · cases hexec
    · cases hexec
      rfl

theorem dropConstraintIfExists_ok {S T : Schema ν ω} {table constraint : String}
    (hexec : S.dropConstraintIfExists table constraint = .ok T) :
    T.tables = S.tables.map (·.dropForeignKey table constraint) := by
  unfold dropConstraintIfExists at hexec
  split at hexec
  · cases hexec
  · cases hexec
    rfl

/-- Dropping a foreign key needs the table only. -/
theorem dropConstraintIfExists_of_mem {S : Schema ν ω} {table : String} (constraint : String)
    (htable : table ∈ S.tableNames) :
    ∃ T, S.dropConstraintIfExists table constraint = .ok T := by
  unfold dropConstraintIfExists
  cases ht : S.table? table with
  | none => exact absurd htable (table?_eq_none_iff.mp ht)
  | some t => exact ⟨_, rfl⟩

theorem addForeignKey_ok [DecidableEq ν] {S T : Schema ν ω} {table : String}
    {key : ForeignKey} (hexec : S.addForeignKey table key = .ok T) :
    T.tables = S.tables.map (·.addForeignKey table key) := by
  -- of the checks in their order, only the last branch succeeds
  unfold addForeignKey at hexec
  split at hexec
  · cases hexec
  · cases hexec
  · split at hexec
    · cases hexec
    · cases hexec
    · split at hexec
      · cases hexec
      · split at hexec
        · cases hexec
        · split at hexec
          · cases hexec
            rfl
          · cases hexec

/-- A foreign key that refers to a missing table is refused. -/
theorem addForeignKey_undefined [DecidableEq ν] {S : Schema ν ω} {table : String}
    {key : ForeignKey} (htable : table ∈ S.tableNames) (href : key.refTable ∉ S.tableNames) :
    S.addForeignKey table key = .error (.undefinedTable key.refTable) := by
  unfold addForeignKey
  rw [table?_eq_none_iff.mpr href]
  cases ht : S.table? table with
  | none => exact absurd htable (table?_eq_none_iff.mp ht)
  | some t => rfl

end Schema

/-- What a statement makes of the name of a table -/
def Statement.onTableName : Statement → String → String
  | .renameTable a b => renamed a b
  | _ => id

namespace Schema

variable [DecidableEq ν] {S T U : Schema ν ω} {statement : Statement}
  {statements : List Statement}

/-- A statement changes each table by itself, and leaves its rows alone. -/
theorem exec_tables (hexec : S.exec statement = .ok T) :
    ∃ f : Table ν → Table ν, T.tables = S.tables.map f ∧
      ∀ t, (f t).rows = t.rows ∧ (f t).name = statement.onTableName t.name := by
  cases statement with
  | renameTable a b => exact ⟨_, renameTable_ok hexec, fun t => ⟨rfl, rfl⟩⟩
  | renameColumn table a b =>
    exact ⟨_, (renameColumn_ok hexec).2, fun t =>
      ⟨t.renameColumn_rows table a b, t.renameColumn_name table a b⟩⟩
  | renameIndex a b =>
    exact ⟨id, (renameIndex_ok hexec).trans (List.map_id _).symm, fun t => ⟨rfl, rfl⟩⟩
  | dropConstraintIfExists table constraint =>
    exact ⟨_, dropConstraintIfExists_ok hexec, fun t =>
      ⟨t.dropForeignKey_rows table constraint, t.dropForeignKey_name table constraint⟩⟩
  | addForeignKey table key =>
    exact ⟨_, addForeignKey_ok hexec, fun t =>
      ⟨t.addForeignKey_rows table key, t.addForeignKey_name table key⟩⟩

theorem exec_rows (hexec : S.exec statement = .ok T) : T.rows = S.rows := by
  obtain ⟨f, hf, hkeep⟩ := exec_tables hexec
  unfold rows
  rw [hf, List.map_map]
  exact List.map_congr_left fun t _ => (hkeep t).1

theorem exec_tableNames (hexec : S.exec statement = .ok T) :
    T.tableNames = S.tableNames.map statement.onTableName := by
  obtain ⟨f, hf, hkeep⟩ := exec_tables hexec
  unfold tableNames
  rw [hf, List.map_map, List.map_map]
  exact List.map_congr_left fun t _ => (hkeep t).2

theorem execAll_cons_of_ok (hexec : S.exec statement = .ok T) :
    S.execAll (statement :: statements) = T.execAll statements := by
  show (S.exec statement).bind _ = _
  rw [hexec]
  rfl

theorem execAll_cons_of_error {e : SqlError} (hexec : S.exec statement = .error e) :
    S.execAll (statement :: statements) = .error e := by
  show (S.exec statement).bind _ = _
  rw [hexec]
  rfl

theorem execAll_cons_ok :
    S.execAll (statement :: statements) = .ok U ↔
      ∃ T, S.exec statement = .ok T ∧ T.execAll statements = .ok U := by
  cases hexec : S.exec statement with
  | error e =>
    rw [execAll_cons_of_error hexec]
    simp
  | ok T =>
    rw [execAll_cons_of_ok hexec]
    simp

/-- **Rows**: no run of statements changes the values of a row. -/
theorem execAll_rows (hexec : S.execAll statements = .ok T) : T.rows = S.rows := by
  induction statements generalizing S with
  | nil =>
    cases hexec
    rfl
  | cons statement statements ih =>
    obtain ⟨U, hU, hT⟩ := execAll_cons_ok.mp hexec
    exact (ih hT).trans (exec_rows hU)

/-- Statements that rename no table leave their names alone. -/
theorem execAll_tableNames (hno : ∀ s ∈ statements, s.onTableName = id)
    (hexec : S.execAll statements = .ok T) : T.tableNames = S.tableNames := by
  induction statements generalizing S with
  | nil =>
    cases hexec
    rfl
  | cons statement statements ih =>
    obtain ⟨U, hU, hT⟩ := execAll_cons_ok.mp hexec
    rw [ih (fun s hs => hno s (List.mem_cons_of_mem _ hs)) hT, exec_tableNames hU,
      hno statement List.mem_cons_self, List.map_id]

/-- The old name of a table names no table after a rename. -/
theorem renameTable_gone {a b : String} (hab : a ≠ b)
    (hexec : S.exec (.renameTable a b) = .ok T) : a ∉ T.tableNames := by
  rw [exec_tableNames hexec]
  exact renamed_not_mem S.tableNames hab

end Schema

end SensorNet.Sql
