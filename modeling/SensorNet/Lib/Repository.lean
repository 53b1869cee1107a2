import SensorNet.Lib.JsDate
import SensorNet.Lib.Json
import SensorNet.Lib.Table

/-!
# Repositories of an object-relational mapper

An entity type is a table whose rows have an id, which is the primary key, and columns. A
repository turns the properties of an object into an entity (`create`) and stores an entity
(`save`): it updates the row with the entity's id if there is one, and else inserts a row.

- `EntityType.save`: the entity after it and the table, `none` where the database refuses.
- `EntityType.save_eq_some`: the row that is stored, and its id.
- `EntityType.save_adds_iff`: `save` adds a row, and leaves the others, iff the id given is the
  id of no row.
- `EntityType.save_row`, `EntityType.row_cell`: the row that is stored, column by column.

What a database makes of a value is the parameter `Driver`, and so is what the mapper makes of a
nested object, where a column joins a relation. That a property is not set is `undefined`, and
`null` is the `NULL` of a column. Lists of related rows are left out.
-/

namespace SensorNet.Orm

open Js

/-- The type of a column -/
inductive ColumnType where
  | varchar
  | text
  | uuid
  | boolean
  | int
  | decimal (precision scale : Nat)
  | timestamptz
  | jsonb
  | enum (values : List String)

/-- What an inserted row has in a column for which nothing is given -/
inductive Default where
  /-- `NULL` if the column admits it -/
  | none
  | value (v : Json)
  /-- the time of the insertion -/
  | created
  /-- the time of the insertion or of the last update -/
  | updated

/-- A column besides the primary key -/
structure Column where
  name : String
  type : ColumnType := .varchar
  nullable : Bool := false
  unique : Bool := false
  default : Default := .none
  /-- the relation to one row of another table that the column joins -/
  relation : Option String := none

/-- The table of an entity type. Its primary key is `id`, which the database makes for a row
that is inserted without. -/
structure EntityType where
  table : String
  columns : List Column

/-- An object with the properties that are set -/
abbrev Entity := String → Json

/-- A row: the contents of the columns, by their names -/
structure Row where
  id : String
  cells : String → Json

/-- How values are read; `none` where one is refused. -/
structure Driver where
  /-- what a column of the type holds for a value -/
  coerce : ColumnType → Json → Option Json
  /-- the primary key for a value -/
  readId : Json → Option String
  /-- what is written to a column that joins a relation, where the property of the relation is
  set: from that property, and the column's own -/
  join : Json → Json → Option Json

/-- What a call of `save` gets from the database. -/
structure Reply where
  now : Date
  /-- the id for a row that is inserted without -/
  uuid : String
  /-- it refuses, or cannot be reached -/
  fails : Bool

/-- The id that an entity is given; `none` also where it is not a primary key. -/
def Driver.givenId (driver : Driver) (e : Entity) : Option String :=
  match e "id" with
  | .undefined | .null => none
  | given => driver.readId given

namespace Column

/-- The content of a column for which nothing is given: `old` is the content before, if there
is a row. -/
def unset (c : Column) (now : Date) (old : Option Json) : Option Json :=
  match c.default, old with
  | .updated, _ => some (.str (Date.toISOString now))
  | _, some cell => some cell
  | .created, none => some (.str (Date.toISOString now))
  | .value v, none => some v
  | .none, none => if c.nullable then some .null else none

/-- The content of a column once the property is written to it. -/
def write (driver : Driver) (c : Column) (now : Date) (given : Json) (old : Option Json) :
    Option Json :=
  match given with
  | .undefined => c.unset now old
  | .null => if c.nullable then some .null else none
  | value => driver.coerce c.type value

/-- The value that an entity gives for the column. -/
def given (driver : Driver) (c : Column) (e : Entity) : Option Json :=
  match c.relation.elim .undefined e with
  | .undefined => some (e c.name)
  | related => driver.join related (e c.name)

theorem given_of_unrelated {driver : Driver} {c : Column} {e : Entity}
    (h : c.relation.elim .undefined e = .undefined) : c.given driver e = some (e c.name) := by
  unfold given
  rw [h]

/-- The property of an entity that has been stored. -/
def returned (c : Column) (inserted : Bool) (given cell : Json) : Json :=
  match given, c.default with
  | .undefined, .updated => cell
  | .undefined, _ => if inserted then cell else if c.nullable then .null else .undefined
  | value, _ => value

end Column

/-- Two texts that are the same, as `UNIQUE` compares them -/
def sameText : Json → Json → Bool
  | .str s, .str t => s == t
  | _, _ => false

namespace EntityType

variable (driver : Driver) (t : EntityType)

/-- `repository.create(data)`: the entity with the properties of `data` that are columns, or
relations that columns join -/
def create (data : Entity) : Entity := fun name =>
  if name = "id" ∨ name ∈ t.columns.map Column.name ∨ name ∈ t.columns.filterMap Column.relation
  then data name else .undefined

/-- The row that the entity makes of the row `old`, or a new row -/
def row (now : Date) (e : Entity) (id : String) (old : Option Row) : Option Row := do
  let cells ← t.columns.mapM fun c => do
    let given ← c.given driver e
    let cell ← c.write driver now given (old.map fun r => r.cells c.name)
    return (c.name, cell)
  return { id, cells := fun name => (cells.lookup name).getD .undefined }

/-- No other row has the same content in a column that is unique. -/
def admits (row : Row) (rows : Table Row.id) : Bool :=
  t.columns.all fun c => !c.unique || rows.rows.all fun other =>
    other.id == row.id || !sameText (other.cells c.name) (row.cells c.name)

/-- The entity after it has been stored as the row -/
def stored (e : Entity) (row : Row) (inserted : Bool) : Entity := fun name =>
  if name = "id" then .str row.id
  else match t.columns.find? fun c => c.name = name with
    | some c => c.returned inserted (e name) (row.cells name)
    | none => e name

/-- Store the entity in the place of `old`, or as a new row. -/
def store (now : Date) (e : Entity) (id : String) (old : Option Row) (rows : Table Row.id) :
    Option (Entity × Table Row.id) := do
  let row ← t.row driver now e id old
  if t.admits row rows then some (t.stored e row old.isNone, rows.put row) else none

/-- `repository.save(entity)`: the entity after that, and the table -/
def save (reply : Reply) (e : Entity) (rows : Table Row.id) :
    Option (Entity × Table Row.id) :=
  if reply.fails then none
  else match e "id" with
    | .null => none
    | .undefined =>
      -- the primary key does not admit an id that is taken
      if (rows.find reply.uuid).isSome then none
      else t.store driver reply.now e reply.uuid none rows
    | given => do
      let id ← driver.readId given
      t.store driver reply.now e id (rows.find id) rows

/-! ## What `save` leaves -/

variable {driver t} {reply : Reply} {e saved : Entity} {rows rows' : Table Row.id}

theorem row_id {now : Date} {id : String} {old : Option Row} {row : Row}
    (h : t.row driver now e id old = some row) : row.id = id := by
  simp only [EntityType.row, Option.bind_eq_bind, Option.bind_eq_some_iff] at h
  obtain ⟨cells, -, hrow⟩ := h
  cases hrow
  rfl

theorem store_eq_some {now : Date} {id : String} {old : Option Row}
    (h : t.store driver now e id old rows = some (saved, rows')) :
    ∃ row, row.id = id ∧ rows' = rows.put row := by
  simp only [store, Option.bind_eq_bind, Option.bind_eq_some_iff] at h
  obtain ⟨row, hrow, hstored⟩ := h
  obtain ⟨-, heq⟩ := Option.ite_none_right_eq_some.mp hstored
  cases heq
  exact ⟨row, row_id hrow, rfl⟩

/-- What `save` stores: a row with the id given, or else with an id that was not taken. -/
theorem save_eq_some (h : t.save driver reply e rows = some (saved, rows')) :
    ∃ row, rows' = rows.put row ∧
      (rows.find row.id = none ↔ ∀ id, driver.givenId e = some id → rows.find id = none) := by
  rw [save] at h
  obtain ⟨-, hsave⟩ := Option.ite_none_left_eq_some.mp h
  -- an entity without an id is inserted
  have hinserted : driver.givenId e = none →
      (if (rows.find reply.uuid).isSome then none
        else t.store driver reply.now e reply.uuid none rows) = some (saved, rows') →
      ∃ row, rows' = rows.put row ∧
        (rows.find row.id = none ↔ ∀ id, driver.givenId e = some id → rows.find id = none) := by
    intro hnone hinsert
    obtain ⟨hfree, hstored⟩ := Option.ite_none_left_eq_some.mp hinsert
    obtain ⟨row, hid, hrows⟩ := store_eq_some hstored
    refine ⟨row, hrows, iff_of_true ?_ fun id hid => ?_⟩
    · rw [hid]
      exact Option.not_isSome_iff_eq_none.mp hfree
    · rw [hnone] at hid
      cases hid
  split at hsave
  · cases hsave
  · next hid => exact hinserted (by rw [Driver.givenId, hid]) hsave
  · next given hnull hundefined =>
    obtain ⟨id, hread, hstored⟩ := Option.bind_eq_some_iff.mp hsave
    obtain ⟨row, hid, hrows⟩ := store_eq_some hstored
    have hgiven : driver.givenId e = some id := by
      unfold Driver.givenId
      split
      · next h => exact absurd h hundefined
      · next h => exact absurd h hnull
      · exact hread
    refine ⟨row, hrows, ?_⟩
    rw [hid, hgiven]
    simp

/-- **Overwriting**: an entity that is saved adds one row, and leaves all others, iff the id
that it was given, if any, is the id of no row. -/
theorem save_adds_iff (h : t.save driver reply e rows = some (saved, rows')) :
    (∃ row, rows.Adds rows' row) ↔ ∀ id, driver.givenId e = some id → rows.find id = none := by
  obtain ⟨row, rfl, hfree⟩ := save_eq_some h
  rw [← hfree]
  constructor
  · rintro ⟨added, hadds⟩
    exact (Table.adds_put_iff.mp hadds).2
  · exact fun hnew => ⟨row, Table.adds_put_iff.mpr ⟨rfl, hnew⟩⟩

/-! ### The row that is stored -/

/-- What a list of named results holds under one of the names -/
theorem lookup_mapM {columns : List Column} {f : Column → Option Json}
    {cells : List (String × Json)} (hnames : (columns.map Column.name).Nodup)
    (h : (columns.mapM fun c => do
      let cell ← f c
      return (c.name, cell)) = some cells) {c : Column} (hc : c ∈ columns) :
    f c = some ((cells.lookup c.name).getD .undefined) := by
  induction columns generalizing cells with
  | nil => cases hc
  | cons d columns ih =>
    simp only [List.mapM_cons, Option.bind_eq_bind, Option.bind_eq_some_iff, Option.pure_def,
      Option.some.injEq] at h
    obtain ⟨named, ⟨cell, hcell, rfl⟩, rest, hrest, rfl⟩ := h
    rw [List.map_cons, List.nodup_cons] at hnames
    rcases List.mem_cons.mp hc with rfl | hc
    · rw [hcell, List.lookup_cons, beq_self_eq_true, Option.getD_some]
    · have hne : (c.name == d.name) = false := by
        rw [beq_eq_false_iff_ne]
        rintro heq
        exact hnames.1 (heq ▸ List.mem_map_of_mem hc)
      rw [List.lookup_cons, hne]
      exact ih hnames.2 hrest hc

/-- Each column of a row holds what is written to it. -/
theorem row_cell {now : Date} {id : String} {old : Option Row} {row : Row}
    (hnames : (t.columns.map Column.name).Nodup) (h : t.row driver now e id old = some row)
    {c : Column} (hc : c ∈ t.columns) :
    ((c.given driver e).bind fun given =>
        c.write driver now given (old.map fun r => r.cells c.name)) =
      some (row.cells c.name) := by
  simp only [EntityType.row, Option.bind_eq_bind, Option.bind_eq_some_iff] at h
  obtain ⟨cells, hcells, hrow⟩ := h
  cases hrow
  refine lookup_mapM (f := fun c => (c.given driver e).bind fun given =>
    c.write driver now given (old.map fun r => r.cells c.name)) hnames ?_ hc
  rw [← hcells]
  refine congrArg (fun f => List.mapM f t.columns) (funext fun c => ?_)
  exact Option.bind_assoc ..

/-- The entity is stored as a row: in the place of the one with its id, or as a new one, with the
id that it was given or else one that the database makes. -/
theorem save_row (h : t.save driver reply e rows = some (saved, rows')) :
    ∃ row, rows' = rows.put row ∧ t.admits row rows = true ∧
      t.row driver reply.now e row.id (rows.find row.id) = some row ∧
      (∀ old, rows.find row.id = some old → driver.givenId e = some old.id) ∧
      (rows.find row.id = none → driver.givenId e = some row.id ∨
        (e "id" = .undefined ∧ row.id = reply.uuid)) := by
  rw [save] at h
  obtain ⟨-, hsave⟩ := Option.ite_none_left_eq_some.mp h
  have hstored : ∀ {id}, t.store driver reply.now e id (rows.find id) rows =
      some (saved, rows') → ∃ row, row.id = id ∧ rows' = rows.put row ∧
        t.admits row rows = true ∧
        t.row driver reply.now e row.id (rows.find row.id) = some row := by
    intro id hstore
    simp only [store, Option.bind_eq_bind, Option.bind_eq_some_iff] at hstore
    obtain ⟨row, hrow, hadmitted⟩ := hstore
    obtain ⟨hadmits, heq⟩ := Option.ite_none_right_eq_some.mp hadmitted
    cases heq
    have hid := row_id hrow
    subst hid
    exact ⟨row, rfl, rfl, hadmits, hrow⟩
  split at hsave
  · cases hsave
  · next hid =>
    -- without an id it is inserted
    obtain ⟨hfree, hstore⟩ := Option.ite_none_left_eq_some.mp hsave
    have hnew := Option.not_isSome_iff_eq_none.mp hfree
    obtain ⟨row, huuid, hrows, hadmits, hrow⟩ := hstored (hnew.symm ▸ hstore)
    refine ⟨row, hrows, hadmits, hrow, fun old hold => ?_, fun _ => .inr ⟨hid, huuid⟩⟩
    rw [huuid, hnew] at hold
    cases hold
  · next given hnull hundefined =>
    obtain ⟨id, hread, hstore⟩ := Option.bind_eq_some_iff.mp hsave
    obtain ⟨row, rfl, hrows, hadmits, hrow⟩ := hstored hstore
    have hgiven : driver.givenId e = some row.id := by
      unfold Driver.givenId
      split
      · next h => exact absurd h hundefined
      · next h => exact absurd h hnull
      · exact hread
    refine ⟨row, hrows, hadmits, hrow, fun old hold => ?_, fun _ => .inl hgiven⟩
    rw [(Table.find_eq_some_iff.mp hold).2, hgiven]

/-- An entity is not stored if a column refuses what it is given. -/
theorem save_refused (hnames : (t.columns.map Column.name).Nodup) {c : Column}
    (hc : c ∈ t.columns) (hrefused : ∀ given old, c.given driver e = some given →
      c.write driver reply.now given old = none) :
    t.save driver reply e rows = none := by
  refine Option.eq_none_iff_forall_ne_some.mpr fun stored hstored => ?_
  obtain ⟨saved, rows'⟩ := stored
  obtain ⟨row, -, -, hrow, -⟩ := save_row hstored
  obtain ⟨given, hgiven, hcell⟩ := Option.bind_eq_some_iff.mp (row_cell hnames hrow hc)
  rw [hrefused given _ hgiven] at hcell
  cases hcell

/-- An entity with an id is stored under it, if the database takes the row. -/
theorem save_of_givenId {id : String} {row : Row} (hfails : reply.fails = false)
    (hgiven : driver.givenId e = some id)
    (hrow : t.row driver reply.now e id (rows.find id) = some row)
    (hadmits : t.admits row rows = true) :
    ∃ saved, t.save driver reply e rows = some (saved, rows.put row) := by
  have hstore : t.store driver reply.now e id (rows.find id) rows =
      some (t.stored e row (rows.find id).isNone, rows.put row) := by
    rw [store, hrow]
    exact if_pos hadmits
  unfold Driver.givenId at hgiven
  split at hgiven
  · cases hgiven
  · cases hgiven
  · next hundefined hnull =>
    refine ⟨t.stored e row (rows.find id).isNone, ?_⟩
    rw [save, hfails, if_neg Bool.false_ne_true]
    split
    · next h => exact absurd h hnull
    · next h => exact absurd h hundefined
    · rw [hgiven]
      exact hstore

/-- An entity with the id of a row replaces it, if the database takes the new one. -/
theorem save_of_given {old row : Row} (hfails : reply.fails = false)
    (hgiven : driver.givenId e = some old.id) (hold : old ∈ rows.rows)
    (hrow : t.row driver reply.now e old.id (some old) = some row)
    (hadmits : t.admits row rows = true) :
    ∃ saved, t.save driver reply e rows = some (saved, rows.put row) := by
  have hfind : rows.find old.id = some old := Table.find_eq_some_iff.mpr ⟨hold, rfl⟩
  exact save_of_givenId hfails hgiven (hfind.symm ▸ hrow) hadmits

/-- An entity without an id, or with a new one, is inserted, if the database takes the row. -/
theorem save_of_new {row : Row} (hfails : reply.fails = false)
    (hid : driver.givenId e = some row.id ∨ (e "id" = .undefined ∧ row.id = reply.uuid))
    (hnew : rows.find row.id = none)
    (hrow : t.row driver reply.now e row.id none = some row)
    (hadmits : t.admits row rows = true) :
    ∃ saved, t.save driver reply e rows = some (saved, rows.put row) := by
  rcases hid with hgiven | ⟨hnone, huuid⟩
  · exact save_of_givenId hfails hgiven (hnew.symm ▸ hrow) hadmits
  · refine ⟨t.stored e row true, ?_⟩
    rw [huuid] at hnew hrow
    rw [save, hfails, if_neg Bool.false_ne_true, hnone]
    simp only [hnew, Option.isSome_none, Bool.false_eq_true, if_false]
    rw [store, hrow]
    exact if_pos hadmits

end EntityType

end SensorNet.Orm
