import SensorNet.Lib.SqlSchema

/-!
# The migration `RenameMachinesToSensorGroups`

`up` renames the table `machines`, the column `nodes.machineId` and its index, and
replaces the foreign key. `down` adds the old foreign key first, which names
`machines` before the table has that name again: wherever `up` succeeds, the second
statement of `down` fails (`down_fails`), so nothing is rolled back.

Neither direction changes a row: `execAll_rows` says so of all statements.
-/

namespace SensorNet.Backend.RenameMachinesToSensorGroups

open Sql

/-- `FK_nodes_sensorGroupId` -/
def sensorGroupKey : ForeignKey :=
  { name := "FK_nodes_sensorGroupId", columns := ["sensorGroupId"]
    refTable := "sensor_groups", refColumns := ["id"]
    onDelete := .noAction, onUpdate := .noAction }

/-- `FK_nodes_machineId` -/
def machineKey : ForeignKey :=
  { name := "FK_nodes_machineId", columns := ["machineId"]
    refTable := "machines", refColumns := ["id"]
    onDelete := .noAction, onUpdate := .noAction }

/-- `up` -/
def up : List Statement :=
  [.renameTable "machines" "sensor_groups",
    .renameColumn "nodes" "machineId" "sensorGroupId",
    .renameIndex "IDX_nodes_machineId" "IDX_nodes_sensorGroupId",
    .dropConstraintIfExists "nodes" "FK_nodes_machineId",
    .addForeignKey "nodes" sensorGroupKey]

/-- `down` -/
def down : List Statement :=
  [.dropConstraintIfExists "nodes" "FK_nodes_sensorGroupId",
    .addForeignKey "nodes" machineKey,
    .renameIndex "IDX_nodes_sensorGroupId" "IDX_nodes_machineId",
    .renameColumn "nodes" "sensorGroupId" "machineId",
    .renameTable "sensor_groups" "machines"]

/-! ## Rolling back -/

variable {ν ω : Type} [DecidableEq ν]

/-- A schema as the migration finds it -/
structure BeforeUp (S : Schema ν ω) : Prop where
  /-- 1. There is a table `machines`. -/
  machines : "machines" ∈ S.tableNames
  /-- 2. There is a table `nodes` with the column and the foreign key. -/
  nodes : ∃ t, S.table? "nodes" = some t ∧ "machineId" ∈ t.columns ∧
    "FK_nodes_machineId" ∈ t.foreignKeys.map ForeignKey.name
  /-- 3. There is the index. -/
  index : "IDX_nodes_machineId" ∈ S.indexes.map Index.name

/-- `down` takes what `up` makes of `S` back to `S`, and no row changes on the way. -/
def RollsBack (S : Schema ν ω) : Prop :=
  ∀ T, S.execAll up = .ok T → T.rows = S.rows ∧ T.execAll down = .ok S

/-- After `up` there is a table `nodes` and none that is called `machines`. -/
theorem up_tableNames {S T : Schema ν ω} (hup : S.execAll up = .ok T) :
    "nodes" ∈ T.tableNames ∧ "machines" ∉ T.tableNames := by
  obtain ⟨U, hrename, hrest⟩ := Schema.execAll_cons_ok.mp hup
  have hnames : T.tableNames = U.tableNames := by
    refine Schema.execAll_tableNames ?_ hrest
    simp only [List.forall_mem_cons]
    exact ⟨rfl, rfl, rfl, rfl, nofun⟩
  obtain ⟨V, hcolumn, -⟩ := Schema.execAll_cons_ok.mp hrest
  rw [hnames]
  exact ⟨(Schema.renameColumn_ok hcolumn).1, Schema.renameTable_gone (by decide) hrename⟩

/-- **The failing rollback**: after `up`, `down` stops at the foreign key that refers to
`machines`. -/
theorem down_fails {S T : Schema ν ω} (hup : S.execAll up = .ok T) :
    T.execAll down = .error (.undefinedTable "machines") := by
  obtain ⟨hnodes, hmachines⟩ := up_tableNames hup
  obtain ⟨U, hdrop⟩ : ∃ U, T.exec (.dropConstraintIfExists "nodes" "FK_nodes_sensorGroupId") =
      .ok U := Schema.dropConstraintIfExists_of_mem _ hnodes
  have hnames : U.tableNames = T.tableNames :=
    (Schema.exec_tableNames hdrop).trans (List.map_id _)
  have hadd : U.exec (.addForeignKey "nodes" machineKey) =
      .error (.undefinedTable "machines") :=
    Schema.addForeignKey_undefined (hnames ▸ hnodes) (hnames ▸ hmachines)
  unfold down
  rw [Schema.execAll_cons_of_ok hdrop, Schema.execAll_cons_of_error hadd]

/-- No schema on which `up` succeeds is rolled back. -/
theorem not_rollsBack {S T : Schema ν ω} (hup : S.execAll up = .ok T) : ¬ RollsBack S := by
  intro hback
  have hdown := (hback T hup).2
  rw [down_fails hup] at hdown
  cases hdown

/-- One machine with one node -/
def oneMachine : Schema Nat Unit :=
  { tables :=
      [{ name := "machines", columns := ["id", "name"], rows := [[some 1, some 7]]
         foreignKeys := [], columnsNodup := by decide },
       { name := "nodes", columns := ["id", "machineId"], rows := [[some 2, some 1]]
         foreignKeys := [machineKey], columnsNodup := by decide }]
    indexes :=
      [{ name := "PK_machines", table := "machines", columns := ["id"], unique := true },
       { name := "IDX_nodes_machineId", table := "nodes", columns := ["machineId"]
         unique := false }]
    others := []
    relationsNodup := by decide }

theorem oneMachine_beforeUp : BeforeUp oneMachine :=
  { machines := by decide
    nodes := ⟨_, rfl, by decide, by decide⟩
    index := by decide }

/-- `up` succeeds on the schema with one machine. -/
theorem oneMachine_not_rollsBack : ∃ T, oneMachine.execAll up = .ok T ∧ ¬ RollsBack oneMachine :=
  ⟨_, rfl, not_rollsBack rfl⟩

/-- The schema is as the migration expects it, `up` succeeds, and `down` fails. -/
theorem rollback_fails : BeforeUp oneMachine ∧
    (∃ T, oneMachine.execAll up = .ok T) ∧ ¬ RollsBack oneMachine := by
  obtain ⟨T, hup⟩ : ∃ T, oneMachine.execAll up = .ok T := ⟨_, rfl⟩
  refine ⟨oneMachine_beforeUp, ⟨T, hup⟩, fun hback => ?_⟩
  have hdown := (hback T hup).2
  rw [down_fails hup] at hdown
  cases hdown

end SensorNet.Backend.RenameMachinesToSensorGroups
