import SensorNet.Web.CommissioningWizard
import SensorNet.Backend.Creation

/-!
# The commissioning wizard and the backend together

The create requests of `CommissioningWizard` are served by `createNode` and `createHub`. The
wizard fills in what its menus offer, and the backend stores it in columns of types that do not
admit it: the places to select are no UUIDs, and a hub is created as `commissioned`, which is
none of the states of a hub.

`never_commissioned`: with a database that refuses such values, as PostgreSQL does, no request
of the wizard succeeds, in any run, whatever else is in the database. So the wizard never shows
its last step, and leaves nothing in the database.
-/

namespace SensorNet.Web

open SensorNet.Js SensorNet.Orm SensorNet.Backend

/-! ## The requests -/

/-- A number in the body of a request; `NaN` is `null`. -/
def numberJson (n : Option Rat) : Json := n.elim .null .num

/-- `configuration` in the body -/
def NodeConfiguration.json (c : NodeConfiguration) : Json := .object [
  ("sampling", .object [
    ("intervalSeconds", numberJson c.intervalSeconds),
    ("warmupMs", numberJson c.warmupMs),
    ("burstCount", numberJson c.burstCount),
    ("aggregation", .num c.aggregation)]),
  ("calibration", .object [
    ("offset", numberJson c.offset),
    ("slope", numberJson c.slope),
    ("polyA", .num c.polyA),
    ("polyB", .num c.polyB)])]

/-- The body of the request -/
def CreateRequest.body : CreateRequest → Entity
  | node nodeId name sensorGroupId configuration => fun property =>
    if property = "nodeId" then .str nodeId
    else if property = "name" then .str name
    else if property = "sensorGroupId" then .str sensorGroupId
    else if property = "configuration" then configuration.json
    else .undefined
  | hub deviceId siteId status => fun property =>
    if property = "deviceId" then .str deviceId
    else if property = "siteId" then .str siteId
    else if property = "status" then .str status
    else .undefined

/-- The table of what is created -/
def CreateRequest.table : CreateRequest → TopologyTable
  | node .. => .nodes
  | hub .. => .hubs

/-- What the backend does with the request: is there a row now, and what is stored? -/
def CreateRequest.serve (driver : Driver) (a : Answers) (request : CreateRequest) (b : Stores) :
    Bool × Stores :=
  match request with
  | node .. => (CreateCall.createNode request.body).exec driver a b
  | hub .. => (CreateCall.createHub request.body).exec driver a b

/-- The values of the menus `Organization`, `Site` and `SensorGroup`, and what they show before
anything is selected -/
def organizationMenu : List String := ["", "org-1", "org-2"]

def siteMenu : List String := ["", "site-1", "site-2"]

def sensorGroupMenu : List String := ["", "sensorGroup-1", "sensorGroup-2"]

/-- What is selected in the menus is one of their values. -/
def WizardConfig.FromMenus (config : WizardConfig) : Prop :=
  config.organizationId ∈ organizationMenu ∧ config.siteId ∈ siteMenu ∧
    config.sensorGroupId ∈ sensorGroupMenu

instance (config : WizardConfig) : Decidable config.FromMenus :=
  inferInstanceAs (Decidable (_ ∧ _ ∧ _))

/-! ## Wizard and backend -/

/-- The wizard, and what the backend has stored -/
structure Commissioning where
  wizard : WizardState := {}
  stores : Stores

/-- What happens:
- something in the page, but no answer of the backend;
- the `i`-th of the awaits of the wizard's handlers, a create request, is served, and its answer
  arrives;
- it is served, and its answer is lost, which the wizard is told so;
- another client leaves the database like this. -/
inductive CommissioningEvent where
  | page (e : WizardEvent)
  | serve (i : Nat) (a : Answers)
  | lose (i : Nat) (a : Answers) (message : String)
  | elsewhere (stores : Stores)

/-- What the user and the browser can do without the backend -/
def WizardEvent.OfPage : WizardEvent → Prop
  | .configure config => config.FromMenus
  | .respond _ response => response ≠ .created
  | .click _ => True

instance (e : WizardEvent) : Decidable e.OfPage :=
  match e with
  | .configure config => inferInstanceAs (Decidable config.FromMenus)
  | .respond _ response => inferInstanceAs (Decidable (response ≠ .created))
  | .click _ => isTrue trivial

/-- The response to a create request -/
def createResponse (ok : Bool) : WizardResponse :=
  if ok then .created else .failed "Request failed with status code 500"

variable (driver : Driver) (mode : CommissioningMode) (bluetooth : Bool)

/-- One event, where it can happen -/
def commissioningStep (s : Commissioning) : CommissioningEvent → Option Commissioning
  | .page e =>
    if e.OfPage then (wizardStep mode bluetooth s.wizard e).map fun w => { s with wizard := w }
    else none
  | .serve i a =>
    match s.wizard.awaits[i]? with
    | some (.saving request) =>
      let (ok, stores) := request.serve driver a s.stores
      (wizardStep mode bluetooth s.wizard (.respond i (createResponse ok))).map fun w =>
        ⟨w, stores⟩
    | _ => none
  | .lose i a message =>
    match s.wizard.awaits[i]? with
    | some (.saving request) =>
      let (_, stores) := request.serve driver a s.stores
      (wizardStep mode bluetooth s.wizard (.respond i (.failed message))).map fun w => ⟨w, stores⟩
    | _ => none
  | .elsewhere stores => some { s with stores }

/-- What the other clients have left in the database -/
def leftElsewhere (b : Stores) : List CommissioningEvent → Stores
  | [] => b
  | .elsewhere stores :: events => leftElsewhere stores events
  | _ :: events => leftElsewhere b events

/-! ## What the database refuses -/

/-- The character is a hexadecimal digit. -/
def isHexDigit (c : Char) : Bool :=
  c.isDigit || ('a' ≤ c && c ≤ 'f') || ('A' ≤ c && c ≤ 'F')

/-- The database refuses what PostgreSQL refuses:
1. a text for an `enum` that is none of its values;
2. a text for a `uuid` without 32 hexadecimal digits. -/
structure Driver.Strict (driver : Driver) : Prop where
  enum : ∀ values s, s ∉ values → driver.coerce (.enum values) (.str s) = none
  uuid : ∀ s, s.toList.countP isHexDigit < 32 → driver.coerce .uuid (.str s) = none

/-- The request asks for a hub that is `commissioned`, or a node at a place of the menu. -/
def CreateRequest.Refused : CreateRequest → Prop
  | node _ _ sensorGroupId _ => sensorGroupId ∈ sensorGroupMenu
  | hub _ _ status => status = "commissioned"

/-- The database refuses it, so nothing is stored. -/
theorem serve_refused {driver : Driver} (hstrict : Driver.Strict driver) (a : Answers)
    {request : CreateRequest} (h : request.Refused) (b : Stores) :
    request.serve driver a b = (false, b) := by
  cases request with
  | node nodeId name sensorGroupId configuration =>
    have hfew : sensorGroupId.toList.countP isHexDigit < 32 := by
      simp only [CreateRequest.Refused, sensorGroupMenu, List.mem_cons, List.not_mem_nil,
        or_false] at h
      rcases h with rfl | rfl | rfl <;> decide +kernel
    have hsave : node.save driver a.reply
        (node.create (CreateRequest.node nodeId name sensorGroupId configuration).body)
          (b.topology .nodes) = none := by
      refine EntityType.save_refused (by decide)
        (c := { name := "sensorGroupId", type := .uuid, nullable := true,
                relation := some "sensorGroup" }) (by simp [node]) fun given old hgiven => ?_
      -- the body has no nested sensor group, so the text of the menu is written
      obtain rfl : Json.str sensorGroupId = given :=
        Option.some.inj ((Column.given_of_unrelated rfl).symm.trans hgiven)
      exact hstrict.uuid sensorGroupId hfew
    simp only [CreateRequest.serve, CreateCall.exec, createNode, createEntity,
      TopologyTable.entityType, hsave]
    rfl
  | hub deviceId siteId status =>
    have hnone : status ∉ ["provisioning", "connected", "disconnected", "error"] := by
      rw [show status = "commissioned" from h]
      decide
    have hsave : hub.save driver a.reply
        (hub.create (CreateRequest.hub deviceId siteId status).body) (b.topology .hubs) =
          none := by
      refine EntityType.save_refused (by decide)
        (c := { name := "status",
                type := .enum ["provisioning", "connected", "disconnected", "error"],
                default := .value (.str "provisioning") }) (by simp [hub])
        fun given old hgiven => ?_
      obtain rfl : Json.str status = given :=
        Option.some.inj ((Column.given_of_unrelated rfl).symm.trans hgiven)
      exact hstrict.enum _ status hnone
    simp only [CreateRequest.serve, CreateCall.exec, createHub, createEntity,
      TopologyTable.entityType, hsave]
    rfl

/-! ## A wizard whose requests are refused -/

/-- What holds as long as no create request succeeds -/
structure Uncommissioned (w : WizardState) : Prop extends WizardInv w where
  /-- (4) The Complete step is not reached. -/
  before : w.activeStep ≤ 3
  /-- (5) What is selected is in the menus. -/
  menus : w.config.FromMenus
  /-- (6) A create request that waits asks for what is refused. -/
  refused : ∀ request, .saving request ∈ w.awaits → request.Refused
  /-- (7) Nothing was created. -/
  uncreated : ∀ deviceId shown, .created deviceId shown ∉ w.exchanges

namespace Uncommissioned

variable {mode bluetooth} {w v : WizardState}

/-- What `saveConfiguration` asks for is refused. -/
theorem createRequest_refused (info : DeviceInfo) {config : WizardConfig}
    (h : config.FromMenus) : (createRequest mode info config).Refused := by
  cases mode with
  | node => exact h.2.2
  | hub => rfl

theorem initial : Uncommissioned {} where
  toWizardInv := WizardInv.initial
  before := by decide
  menus := by decide
  refused _ hmem := absurd hmem List.not_mem_nil
  uncreated _ _ := List.not_mem_nil

/-- Nothing new is exchanged, and no handler waits that did not. -/
theorem of_fewer (h : Uncommissioned w) (hinv : WizardInv v) (hbefore : v.activeStep ≤ 3)
    (hconfig : v.config = w.config) (hexchanges : v.exchanges = w.exchanges)
    (hawaits : ∀ request, .saving request ∈ v.awaits → .saving request ∈ w.awaits) :
    Uncommissioned v where
  toWizardInv := hinv
  before := hbefore
  menus := hconfig ▸ h.menus
  refused request hmem := h.refused request (hawaits request hmem)
  uncreated := hexchanges ▸ h.uncreated

theorem scanForDevice (h : Uncommissioned w) (hinv : WizardInv (w.scanForDevice bluetooth)) :
    Uncommissioned (w.scanForDevice bluetooth) := by
  cases bluetooth with
  | true =>
    refine h.of_fewer hinv h.before rfl rfl fun request hmem => ?_
    rcases List.mem_append.mp hmem with hmem | hmem
    · exact hmem
    · simp at hmem
  | false => exact h.of_fewer hinv h.before rfl rfl fun _ => id

theorem saveConfiguration (h : Uncommissioned w) (hstep : w.activeStep = 3)
    (hinv : WizardInv (w.saveConfiguration mode)) : Uncommissioned (w.saveConfiguration mode) := by
  obtain ⟨info, -, heq⟩ := h.saveConfiguration_eq mode hstep
  rw [heq] at hinv ⊢
  refine ⟨hinv, h.before, h.menus, fun request hmem => ?_, fun deviceId shown hmem => ?_⟩
  · rcases List.mem_append.mp hmem with hmem | hmem
    · exact h.refused request hmem
    · cases List.mem_singleton.mp hmem
      exact createRequest_refused info h.menus
  · rcases List.mem_append.mp hmem with hmem | hmem
    · exact h.uncreated deviceId shown hmem
    · simp at hmem

theorem click {button : WizardButton} (h : Uncommissioned w)
    (henabled : w.isEnabled button = true) (hinv : WizardInv (w.onClick mode bluetooth button)) :
    Uncommissioned (w.onClick mode bluetooth button) := by
  have hbefore := h.before
  cases button with
  | scan => exact h.scanForDevice hinv
  | back =>
    refine h.of_fewer hinv ?_ rfl rfl fun _ => id
    show w.activeStep - 1 ≤ 3
    omega
  | next =>
    -- The wizard does not go on by Next from the step with the Commission button.
    obtain ⟨-, -, hne, -⟩ := WizardState.isEnabled_next.mp henabled
    refine h.of_fewer hinv ?_ rfl rfl fun _ => id
    show w.activeStep + 1 ≤ 3
    omega
  | commission =>
    exact h.saveConfiguration (WizardState.isEnabled_commission.mp henabled).1 hinv

theorem respond {await : WizardAwait} {response : WizardResponse} (h : Uncommissioned w)
    (honly : w.awaits = [await]) (hat : await.WaitsAt w) (hinv : WizardInv v)
    (hresponse : response ≠ .created) (hout : w.Outcome 0 await response v) :
    Uncommissioned v := by
  have hnone : w.awaits.eraseIdx 0 = [] := by
    rw [honly]
    rfl
  have hidle : ∀ request, .saving request ∈ w.awaits.eraseIdx 0 →
      .saving request ∈ w.awaits := fun request => List.mem_of_mem_eraseIdx
  cases hout with
  | @goesOn _ _ next _ hawait hnext =>
    refine h.of_fewer hinv h.before rfl rfl fun request hmem => ?_
    simp only [honly, List.set_cons_zero, List.mem_singleton] at hmem
    subst hmem
    cases hnext
  | ends => exact h.of_fewer hinv h.before rfl rfl hidle
  | scanned device version =>
    -- A scan ends at the first step.
    have hzero : w.activeStep = 0 := hat
    refine h.of_fewer hinv ?_ rfl rfl hidle
    show w.activeStep + 1 ≤ 3
    omega
  | created request => exact absurd rfl hresponse

/-- What happens in the page, and a response that does not report a creation, create nothing. -/
theorem step {e : WizardEvent} (h : Uncommissioned w) (hpage : e.OfPage)
    (hstep : wizardStep mode bluetooth w e = some v) : Uncommissioned v := by
  have hinv := h.toWizardInv.step hstep
  cases e with
  | click button =>
    obtain ⟨henabled, hv⟩ := Option.ite_none_right_eq_some.mp hstep
    cases hv
    exact h.click henabled hinv
  | configure config =>
    obtain ⟨-, hv⟩ := Option.ite_none_right_eq_some.mp hstep
    cases hv
    exact ⟨hinv, h.before, hpage, h.refused, h.uncreated⟩
  | respond i response =>
    obtain ⟨await, rfl, honly, hat, hout⟩ := h.toWizardInv.of_respond hstep
    exact h.respond honly hat hinv hpage hout

end Uncommissioned

/-! ## Runs -/

theorem leftElsewhere_snoc (b : Stores) (events : List CommissioningEvent)
    (e : CommissioningEvent) :
    leftElsewhere b (events ++ [e]) = leftElsewhere (leftElsewhere b events) [e] := by
  induction events generalizing b with
  | nil => rfl
  | cons first events ih => cases first <;> exact ih _

variable {driver mode bluetooth} {s t : Commissioning} {b : Stores}

/-- **An event leaves the wizard without a device created, and in the database what the other
clients left there.** -/
theorem uncommissioned_step (hstrict : Driver.Strict driver) {e : CommissioningEvent}
    (h : Uncommissioned s.wizard)
    (hstep : commissioningStep driver mode bluetooth s e = some t) :
    Uncommissioned t.wizard ∧ t.stores = leftElsewhere s.stores [e] := by
  cases e with
  | page e =>
    obtain ⟨hpage, hmap⟩ := Option.ite_none_right_eq_some.mp hstep
    obtain ⟨w, hw, rfl⟩ := Option.map_eq_some_iff.mp hmap
    exact ⟨h.step hpage hw, rfl⟩
  | serve i a =>
    simp only [commissioningStep] at hstep
    split at hstep
    · next request hawait =>
      -- whatever is asked for is refused, and the stores stay
      rw [serve_refused hstrict a (h.refused request (List.mem_of_getElem? hawait))] at hstep
      obtain ⟨w, hw, rfl⟩ := Option.map_eq_some_iff.mp hstep
      exact ⟨h.step (by simp [WizardEvent.OfPage, createResponse]) hw, rfl⟩
    · cases hstep
  | lose i a message =>
    simp only [commissioningStep] at hstep
    split at hstep
    · next request hawait =>
      rw [serve_refused hstrict a (h.refused request (List.mem_of_getElem? hawait))] at hstep
      obtain ⟨w, hw, rfl⟩ := Option.map_eq_some_iff.mp hstep
      exact ⟨h.step (by simp [WizardEvent.OfPage]) hw, rfl⟩
    · cases hstep
  | elsewhere stores =>
    cases hstep
    exact ⟨h, rfl⟩

/-- **The wizard never commissions**: with a database that refuses what PostgreSQL refuses, in
all runs, the wizard does not reach its Complete step, none of its requests creates a device,
and the database holds what the other clients left there. -/
theorem never_commissioned (hstrict : Driver.Strict driver) {events : List CommissioningEvent}
    (hrun : run (commissioningStep driver mode bluetooth) ⟨{}, b⟩ events = some s) :
    s.wizard.activeStep ≤ 3 ∧
    (∀ deviceId shown, .created deviceId shown ∉ s.wizard.exchanges) ∧
    s.stores = leftElsewhere b events := by
  have hinv : Uncommissioned s.wizard ∧ s.stores = leftElsewhere b events := by
    refine run_inv_history (P := fun events s => Uncommissioned s.wizard ∧
      s.stores = leftElsewhere b events) ⟨Uncommissioned.initial, rfl⟩ ?_ hrun
    rintro events t e v ⟨h, hstores⟩ hstep
    obtain ⟨h', hstores'⟩ := uncommissioned_step hstrict h hstep
    refine ⟨h', ?_⟩
    rw [hstores', hstores, leftElsewhere_snoc]
  exact ⟨hinv.1.before, hinv.1.uncreated, hinv.2⟩

/-! ## A hub -/

/-- A database that takes of enumerations their values, of UUIDs those of 32 digits, and else
every value as it is -/
def refusing : Driver where
  coerce
    | .enum values, .str s => if s ∈ values then some (.str s) else none
    | .uuid, .str s => if s.toList.countP isHexDigit = 32 then some (.str s) else none
    | _, v => some v
  readId
    | .str id => some id
    | _ => none
  join _ own := some own

theorem refusing_strict : Driver.Strict refusing where
  enum _ _ h := if_neg h
  uuid _ h := if_neg (by omega)

/-- The hub is connected, the Commission button is clicked, and the backend answers. -/
def tryToCommission : List CommissioningEvent :=
  commissionHub.map .page ++ [.serve 0 goodAnswers]

/-- Nothing is commissioned, and the organization is as it was. -/
theorem tryToCommission_fails :
    ∃ s, run (commissioningStep refusing .hub true) ⟨{}, oneOrganization⟩ tryToCommission =
        some s ∧ s.wizard.activeStep ≤ 3 ∧
      (∀ deviceId shown, .created deviceId shown ∉ s.wizard.exchanges) ∧
      s.stores = oneOrganization := by
  obtain ⟨s, hrun⟩ := Option.isSome_iff_exists.mp
    (show (run (commissioningStep refusing .hub true) ⟨{}, oneOrganization⟩
      tryToCommission).isSome = true by decide +kernel)
  exact ⟨s, hrun, never_commissioned refusing_strict hrun⟩

end SensorNet.Web
