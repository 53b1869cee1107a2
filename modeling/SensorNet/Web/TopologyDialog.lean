import SensorNet.Lib.ReloadedView
import SensorNet.Backend.OrganizationGuard
import SensorNet.Web.TopologyPage

/-!
# The topology page with its dialog and the backend (`TopologyPage.tsx`, `topology.service.ts`)

The page lists organizations, the sites of the selected one and the sensor groups of the
selected site, each a view that is loaded again after one more was created in the dialog
(`SensorNet.Lib.ReloadedView`). Here the rows stay rows, and the requests are served by
`topology.service.ts`, in any order, before their responses arrive. Of the relations that the
queries load the page shows how many there are; they are left out.

The dialog is modal: while it is open nothing else on the page can be clicked. It can be closed
while a create request is pending, and then another parent can be selected before the response
arrives; what is loaded then are the children of the parent that was selected before.

- `create_posts`: Create always sends a request, for the parent that is selected.
- `page_current`: whatever is created, a list without a pending request shows the rows that the
  database holds, if the latest request for it is answered last and a create request succeeds
  while its parent is still selected.
- `late_create_mixes`: if another parent was selected, then its children are not shown.
- `findSitesByOrganization_ofStores`, `findSensorGroupsBySite_ofStores`: the answers that
  `SensorNet.Web.TopologyPage` takes from its `Database` are these rows.
-/

namespace SensorNet.Backend

open SensorNet.Orm

/-- `findAllOrganizations` -/
def findAllOrganizations (b : Stores) : List Row := (b.topology .organizations).rows

/-- `findSensorGroupsBySite`; `[]` also where the database refuses the id -/
def findSensorGroupsBySite (driver : Driver) (siteId : String) (b : Stores) : List Row :=
  match driver.coerce .uuid (.str siteId) with
  | some cell => (b.topology .sensorGroups).rows.filter fun row =>
      sameText (row.cells "siteId") cell
  | none => []

end SensorNet.Backend

namespace SensorNet.Web

open SensorNet.Js SensorNet.Orm SensorNet.Backend SensorNet.ReloadedView

/-! ## What is sent to the backend -/

/-- `dialogType`; a list of the page, too -/
inductive DialogType where
  | org
  | site
  | sensorGroup
  deriving DecidableEq, Repr

/-- `formData` -/
structure FormData where
  name : String := ""
  description : String := ""
  deriving DecidableEq, Repr

/-- The three create requests -/
inductive CreateBody where
  | organization (form : FormData)
  | site (form : FormData) (organizationId : String)
  | sensorGroup (form : FormData) (siteId : String)
  deriving DecidableEq, Repr

namespace CreateBody

/-- The list in which what is created belongs -/
def type : CreateBody → DialogType
  | organization _ => .org
  | site .. => .site
  | sensorGroup .. => .sensorGroup

def form : CreateBody → FormData
  | organization form | site form _ | sensorGroup form _ => form

/-- What it is created under; organizations are under nothing. -/
def parent : CreateBody → String
  | organization _ => ""
  | site _ organizationId => organizationId
  | sensorGroup _ siteId => siteId

/-- The body of the request: `formData`, and a property more -/
def entity (form : FormData) (parentId : Option (String × String)) : Entity := fun property =>
  if property = "name" then .str form.name
  else if property = "description" then .str form.description
  else match parentId with
    | some (key, id) => if property = key then .str id else .undefined
    | none => .undefined

/-- What the backend does with it -/
def call : CreateBody → CreateCall
  | organization form => .createOrganization (entity form none)
  | site form organizationId => .createSite (entity form (some ("organizationId", organizationId)))
  | sensorGroup form siteId => .createSensorGroup (entity form (some ("siteId", siteId)))

end CreateBody

/-- A create request in flight, and the answer once it is served: has it been created? -/
structure Post where
  body : CreateBody
  answer : Option Bool := none
  deriving DecidableEq, Repr

/-- What a request for a list is answered -/
def read (driver : Driver) (b : Stores) : DialogType → String → List Row
  | .org, _ => findAllOrganizations b
  | .site, orgId => Backend.findSitesByOrganization driver orgId b
  | .sensorGroup, siteId => Backend.findSensorGroupsBySite driver siteId b

/-! ## The page -/

/-- The state of the page, its requests in flight, and the backend -/
structure DialogPage where
  views : DialogType → View String (List Row)
  selectedOrg : Option Row := none
  selectedSite : Option Row := none
  openDialog : Bool := false
  dialogType : DialogType := .org
  formData : FormData := {}
  posts : List Post := []
  stores : Stores

namespace DialogPage

variable (s : DialogPage)

/-- A request for a list is sent. -/
def load (t : DialogType) (parent : String) : DialogPage :=
  { s with views := Function.update s.views t ((s.views t).load parent) }

/-- `loadOrganizations`, up to its `await` -/
def loadOrganizations : DialogPage := s.load .org ""

/-- `loadSites`, up to its `await` -/
def loadSites (orgId : String) : DialogPage := s.load .site orgId

/-- `loadSensorGroups`, up to its `await` -/
def loadSensorGroups (siteId : String) : DialogPage := s.load .sensorGroup siteId

/-- `handleOrgSelect` -/
def handleOrgSelect (org : Row) : DialogPage :=
  { s with selectedOrg := some org, selectedSite := none }.loadSites org.id

/-- `handleSiteSelect` -/
def handleSiteSelect (site : Row) : DialogPage :=
  { s with selectedSite := some site }.loadSensorGroups site.id

/-- `handleOpenDialog` -/
def handleOpenDialog (type : DialogType) : DialogPage :=
  { s with dialogType := type, formData := {}, openDialog := true }

/-- `handleCloseDialog` -/
def handleCloseDialog : DialogPage := { s with openDialog := false }

/-- The request that `handleCreate` sends, if it sends one -/
def createBody : Option CreateBody :=
  match s.dialogType with
  | .org => some (.organization s.formData)
  | .site => s.selectedOrg.map fun org => .site s.formData org.id
  | .sensorGroup => s.selectedSite.map fun site => .sensorGroup s.formData site.id

/-- `handleCreate`, up to its `await` -/
def handleCreate : DialogPage :=
  match s.createBody with
  | some body => { s with posts := s.posts ++ [{ body }] }
  | none => s.handleCloseDialog

/-- `handleCreate` goes on after its request. -/
def onCreated : CreateBody → DialogPage
  | .organization _ => s.loadOrganizations.handleCloseDialog
  | .site _ organizationId => (s.loadSites organizationId).handleCloseDialog
  | .sensorGroup _ siteId => (s.loadSensorGroups siteId).handleCloseDialog

/-- What the rows of a list are under, if anything is selected -/
def selectedKey : DialogType → Option String
  | .org => some ""
  | .site => s.selectedOrg.map Row.id
  | .sensorGroup => s.selectedSite.map Row.id

/-- The rows that are listed -/
def displayed (t : DialogType) : List Row :=
  if (s.selectedKey t).isSome then (s.views t).shown else []

end DialogPage

/-- The page when it is mounted -/
def mounted (b : Stores) : DialogPage :=
  { views := fun _ => { shown := [] }, stores := b : DialogPage }.loadOrganizations

/-- What happens:
- the `i`-th organization or site that is listed, or the button of a list is clicked;
- in the dialog the form is edited, or Cancel or Create is clicked;
- the `i`-th of the requests for a list is served, its response arrives, or it fails;
- the `i`-th of the create requests is served, its response arrives, or the response is lost. -/
inductive DialogEvent where
  | orgSelect (i : Nat)
  | siteSelect (i : Nat)
  | openDialog (type : DialogType)
  | edit (form : FormData)
  | cancel
  | create
  | serveLoad (t : DialogType) (i : Nat)
  | loadResponse (t : DialogType) (i : Nat)
  | loadFails (t : DialogType) (i : Nat)
  | servePost (i : Nat) (a : Answers)
  | postResponse (i : Nat)
  | postLost (i : Nat)

/-- One event, where it can happen -/
def dialogStep (driver : Driver) (s : DialogPage) : DialogEvent → Option DialogPage
  | .orgSelect i =>
    if s.openDialog then none else (s.displayed .org)[i]?.map s.handleOrgSelect
  | .siteSelect i =>
    if s.openDialog then none else (s.displayed .site)[i]?.map s.handleSiteSelect
  | .openDialog type =>
    -- the button of a list is disabled if nothing is selected that has one
    if s.openDialog || (s.selectedKey type).isNone then none else some (s.handleOpenDialog type)
  | .edit form => if s.openDialog then some { s with formData := form } else none
  | .cancel => if s.openDialog then some s.handleCloseDialog else none
  | .create => if s.openDialog then some s.handleCreate else none
  | .serveLoad t i => ((s.views t).serve (read driver s.stores t) i).map fun view =>
    { s with views := Function.update s.views t view }
  | .loadResponse t i => ((s.views t).arrive i).map fun view =>
    { s with views := Function.update s.views t view }
  | .loadFails t i => ((s.views t).lose i).map fun view =>
    { s with views := Function.update s.views t view }
  | .servePost i a => s.posts[i]?.bind fun post =>
    if post.answer.isSome then none
    else
      let (ok, stores) := post.body.call.exec driver a s.stores
      some { s with posts := s.posts.set i { post with answer := some ok }, stores }
  | .postResponse i => s.posts[i]?.bind fun post => post.answer.map fun ok =>
    let left := { s with posts := s.posts.eraseIdx i }
    if ok then left.onCreated post.body else left
  | .postLost i => s.posts[i]?.map fun _ => { s with posts := s.posts.eraseIdx i }

/-! ## What a create request does to the database -/

variable {driver : Driver} {a : Answers} {b : Stores}

theorem createEntity_refused {table : TopologyTable} {data : Entity}
    (h : (createEntity table driver a data b).1.isSome = false) :
    (createEntity table driver a data b).2 = b := by
  unfold createEntity at h ⊢
  split at h
  · cases h
  · rfl

theorem createEntity_others {table other : TopologyTable} {data : Entity} (hne : other ≠ table) :
    (createEntity table driver a data b).2.topology other = b.topology other := by
  unfold createEntity
  split
  · exact Function.update_of_ne hne _ _
  · rfl

/-- What is not created leaves the database as it is. -/
theorem CreateBody.exec_refused {body : CreateBody} (h : (body.call.exec driver a b).1 = false) :
    (body.call.exec driver a b).2 = b := by
  cases body <;> exact createEntity_refused h

/-- What is created is listed in one list only. -/
theorem CreateBody.exec_read {body : CreateBody} {t : DialogType} (hne : t ≠ body.type) :
    read driver (body.call.exec driver a b).2 t = read driver b t := by
  funext k
  cases t with
  | org =>
    have hrows : (body.call.exec driver a b).2.topology .organizations =
        b.topology .organizations := by
      cases body with
      | organization form => exact absurd rfl hne
      | _ => exact createEntity_others nofun
    show findAllOrganizations _ = findAllOrganizations b
    rw [findAllOrganizations, hrows, findAllOrganizations]
  | site =>
    have hrows : (body.call.exec driver a b).2.topology .sites = b.topology .sites := by
      cases body with
      | site form organizationId => exact absurd rfl hne
      | _ => exact createEntity_others nofun
    show Backend.findSitesByOrganization driver k _ = Backend.findSitesByOrganization driver k b
    unfold Backend.findSitesByOrganization
    rw [hrows]
  | sensorGroup =>
    have hrows : (body.call.exec driver a b).2.topology .sensorGroups =
        b.topology .sensorGroups := by
      cases body with
      | sensorGroup form siteId => exact absurd rfl hne
      | _ => exact createEntity_others nofun
    show Backend.findSensorGroupsBySite driver k _ = Backend.findSensorGroupsBySite driver k b
    unfold Backend.findSensorGroupsBySite
    rw [hrows]

/-! ## The dialog -/

variable {s v : DialogPage} {events : List DialogEvent}

namespace DialogPage

@[simp] theorem load_selectedKey (t u : DialogType) (parent : String) :
    (s.load t parent).selectedKey u = s.selectedKey u := by
  cases u <;> rfl

/-- `handleCreate` goes on in the same way, whatever it has created. -/
theorem onCreated_eq (body : CreateBody) :
    s.onCreated body = (s.load body.type body.parent).handleCloseDialog := by
  cases body <;> rfl

/-- With a parent selected there is a request to send. -/
theorem createBody_of_selected (h : (s.selectedKey s.dialogType).isSome) :
    ∃ body, s.createBody = some body ∧ body.type = s.dialogType ∧ body.form = s.formData ∧
      s.selectedKey s.dialogType = some body.parent := by
  unfold createBody
  cases htype : s.dialogType with
  | org => exact ⟨.organization s.formData, rfl, rfl, rfl, rfl⟩
  | site =>
    rw [htype] at h
    obtain ⟨org, horg⟩ := Option.isSome_iff_exists.mp (Option.isSome_map.symm.trans h)
    exact ⟨.site s.formData org.id, by simp [horg], rfl, rfl, by simp [selectedKey, horg]; rfl⟩
  | sensorGroup =>
    rw [htype] at h
    obtain ⟨site, hsite⟩ := Option.isSome_iff_exists.mp (Option.isSome_map.symm.trans h)
    exact ⟨.sensorGroup s.formData site.id, by simp [hsite], rfl, rfl,
      by simp [selectedKey, hsite]; rfl⟩

end DialogPage

/-- While the dialog is open, the parent of what it creates is selected. -/
def Ready (s : DialogPage) : Prop := s.openDialog = true → (s.selectedKey s.dialogType).isSome

theorem ready_step {e : DialogEvent} (h : Ready s) (hstep : dialogStep driver s e = some v) :
    Ready v := by
  cases e with
  | orgSelect i =>
    obtain ⟨hclosed, hmap⟩ := Option.ite_none_left_eq_some.mp hstep
    obtain ⟨org, -, rfl⟩ := Option.map_eq_some_iff.mp hmap
    -- a selection needs a click on the page, which the dialog covers
    exact fun hopen => absurd hopen hclosed
  | siteSelect i =>
    obtain ⟨hclosed, hmap⟩ := Option.ite_none_left_eq_some.mp hstep
    obtain ⟨site, -, rfl⟩ := Option.map_eq_some_iff.mp hmap
    exact fun hopen => absurd hopen hclosed
  | openDialog type =>
    obtain ⟨henabled, hv⟩ := Option.ite_none_left_eq_some.mp hstep
    cases hv
    intro _
    -- the button is enabled only if there is a parent
    show (s.selectedKey type).isSome
    simp only [Bool.or_eq_true, not_or, Option.isNone_iff_eq_none] at henabled
    exact Option.isSome_iff_ne_none.mpr henabled.2
  | edit form =>
    obtain ⟨-, hv⟩ := Option.ite_none_right_eq_some.mp hstep
    cases hv
    exact h
  | cancel =>
    obtain ⟨-, hv⟩ := Option.ite_none_right_eq_some.mp hstep
    cases hv
    exact fun hopen => nomatch hopen
  | create =>
    obtain ⟨hopen, hv⟩ := Option.ite_none_right_eq_some.mp hstep
    cases hv
    obtain ⟨body, hbody, -⟩ := DialogPage.createBody_of_selected (h hopen)
    unfold DialogPage.handleCreate
    rw [hbody]
    exact h
  | serveLoad t i | loadResponse t i | loadFails t i =>
    obtain ⟨view, -, rfl⟩ := Option.map_eq_some_iff.mp hstep
    exact h
  | servePost i a =>
    obtain ⟨post, -, hserve⟩ := Option.bind_eq_some_iff.mp hstep
    obtain ⟨-, hv⟩ := Option.ite_none_left_eq_some.mp hserve
    cases hv
    exact h
  | postResponse i =>
    obtain ⟨post, -, hmap⟩ := Option.bind_eq_some_iff.mp hstep
    obtain ⟨ok, -, rfl⟩ := Option.map_eq_some_iff.mp hmap
    cases ok with
    | true =>
      simp only [if_true, DialogPage.onCreated_eq]
      exact fun hopen => nomatch hopen
    | false => exact h
  | postLost i =>
    obtain ⟨post, -, rfl⟩ := Option.map_eq_some_iff.mp hstep
    exact h

/-- **Create always sends a request**: in all runs, while the dialog is open, `handleCreate`
sends what the form says, to be created under the parent that is selected. It never closes the
dialog without a request. -/
theorem create_posts (hrun : run (dialogStep driver) (mounted b) events = some s)
    (hopen : s.openDialog = true) :
    ∃ body : CreateBody, s.handleCreate = { s with posts := s.posts ++ [{ body }] } ∧
      body.type = s.dialogType ∧ body.form = s.formData ∧
      s.selectedKey s.dialogType = some body.parent := by
  have hready : Ready s :=
    run_inv (P := Ready) (fun hopen => absurd hopen Bool.false_ne_true)
      (fun _ _ _ h hstep => ready_step h hstep) hrun
  obtain ⟨body, hbody, htype, hform, hparent⟩ :=
    DialogPage.createBody_of_selected (hready hopen)
  refine ⟨body, ?_, htype, hform, hparent⟩
  unfold DialogPage.handleCreate
  rw [hbody]

/-! ## What the lists show -/

/-- The latest request for a list is answered last, and does not fail; and a create request that
succeeds is reported, while no other parent than that for which it was sent is selected. -/
def Prompt (s : DialogPage) : DialogEvent → Prop
  | .loadResponse t i => i + 1 = (s.views t).loads.length → i = 0
  | .loadFails t i => i + 1 < (s.views t).loads.length
  | .postResponse i => ∀ post ∈ s.posts[i]?, post.answer = some true →
      ∀ k ∈ s.selectedKey post.body.type, k = post.body.parent
  | .postLost i => ∀ post ∈ s.posts[i]?, post.answer ≠ some true
  | _ => True

/-- Something was created for the list, and the response is on its way. -/
def Announced (s : DialogPage) (t : DialogType) : Prop :=
  ∃ post ∈ s.posts, post.body.type = t ∧ post.answer = some true

/-- Whatever is selected, its list is about to show what the database holds, or something for it
was created and it will be loaded again. -/
def UpToDate (driver : Driver) (s : DialogPage) : Prop :=
  ∀ t k, s.selectedKey t = some k →
    Announced s t ∨ Current (read driver s.stores t) k (s.views t)

/-- What a list shows is as current as before if it and its selection stay. -/
theorem UpToDate.of_same (h : UpToDate driver s) (hselected : v.selectedKey = s.selectedKey)
    (hviews : v.views = s.views) (hstores : v.stores = s.stores)
    (hposts : ∀ t, Announced s t → Announced v t) : UpToDate driver v := by
  intro t k hk
  rw [hselected] at hk
  rw [hviews, hstores]
  exact (h t k hk).imp_left (hposts t)

theorem UpToDate.close (h : UpToDate driver s) : UpToDate driver s.handleCloseDialog :=
  h.of_same rfl rfl rfl fun _ => id

/-- A list is loaded for what is selected, and the others stay as they are. -/
theorem UpToDate.load {t : DialogType} {parent : String}
    (hothers : ∀ u k, u ≠ t → s.selectedKey u = some k →
      Announced s u ∨ Current (read driver s.stores u) k (s.views u))
    (hparent : ∀ k ∈ s.selectedKey t, k = parent) : UpToDate driver (s.load t parent) := by
  intro u k hk
  rw [DialogPage.load_selectedKey] at hk
  by_cases hu : u = t
  · subst hu
    obtain rfl := hparent k hk
    refine .inr ?_
    show Current (read driver s.stores u) k (Function.update s.views u ((s.views u).load k) u)
    rw [Function.update_self]
    exact current_load (read driver s.stores u) k (s.views u)
  · have hview : (s.load t parent).views u = s.views u := Function.update_of_ne hu _ _
    rw [hview]
    exact hothers u k hu hk

/-- A list changes as a request for it is served or answered. -/
theorem UpToDate.view {t : DialogType} {view : View String (List Row)} (h : UpToDate driver s)
    (hview : ∀ k, Current (read driver s.stores t) k (s.views t) →
      Current (read driver s.stores t) k view) :
    UpToDate driver { s with views := Function.update s.views t view } := by
  intro u k hk
  refine (h u k hk).imp_right fun hcurrent => ?_
  show Current (read driver s.stores u) k (Function.update s.views t view u)
  by_cases hu : u = t
  · subst hu
    rw [Function.update_self]
    exact hview k hcurrent
  · rw [Function.update_of_ne hu]
    exact hcurrent

/-- The announcement of a create request is not lost with another one. -/
theorem Announced.erase {t : DialogType} {i : Nat} {post : Post} (hpost : s.posts[i]? = some post)
    (hother : post.body.type ≠ t ∨ post.answer ≠ some true) (h : Announced s t) :
    Announced { s with posts := s.posts.eraseIdx i } t := by
  obtain ⟨created, hmem, htype, hanswer⟩ := h
  obtain ⟨j, hj⟩ := List.mem_iff_getElem?.mp hmem
  refine ⟨created, List.mem_eraseIdx_iff_getElem?.mpr ⟨j, ?_, hj⟩, htype, hanswer⟩
  rintro rfl
  rw [hpost] at hj
  cases hj
  exact hother.elim (fun hne => hne htype) fun hne => hne hanswer

/-- Nor when another one is served. -/
theorem Announced.serve {t : DialogType} {i : Nat} {post served : Post} {b : Stores}
    (hpost : s.posts[i]? = some post) (hnew : post.answer ≠ some true) (h : Announced s t) :
    Announced { s with posts := s.posts.set i served, stores := b } t := by
  obtain ⟨created, hmem, htype, hanswer⟩ := h
  obtain ⟨j, hj⟩ := List.mem_iff_getElem?.mp hmem
  refine ⟨created, List.mem_iff_getElem?.mpr ⟨j, ?_⟩, htype, hanswer⟩
  rw [List.getElem?_set_ne, hj]
  rintro rfl
  rw [hpost] at hj
  cases hj
  exact hnew hanswer

theorem upToDate_mounted (b : Stores) : UpToDate driver (mounted b) := by
  refine UpToDate.load (fun u k hu hk => ?_) fun k hk => (Option.some.inj hk).symm
  cases u with
  | org => exact absurd rfl hu
  | _ => cases hk

/-- **What the lists show stays current** where the latest request for a list is answered last
and a create request succeeds while its parent is selected. -/
theorem upToDate_step {e : DialogEvent} (h : UpToDate driver s) (hprompt : Prompt s e)
    (hstep : dialogStep driver s e = some v) : UpToDate driver v := by
  cases e with
  | orgSelect i =>
    obtain ⟨-, hmap⟩ := Option.ite_none_left_eq_some.mp hstep
    obtain ⟨org, -, rfl⟩ := Option.map_eq_some_iff.mp hmap
    refine UpToDate.load (fun u k hu hk => ?_) fun k hk => (Option.some.inj hk).symm
    cases u with
    | org => exact h .org k hk
    | site => exact absurd rfl hu
    -- no site of the organization is selected
    | sensorGroup => cases hk
  | siteSelect i =>
    obtain ⟨-, hmap⟩ := Option.ite_none_left_eq_some.mp hstep
    obtain ⟨site, -, rfl⟩ := Option.map_eq_some_iff.mp hmap
    refine UpToDate.load (fun u k hu hk => ?_) fun k hk => (Option.some.inj hk).symm
    cases u with
    | org => exact h .org k hk
    | site => exact h .site k hk
    | sensorGroup => exact absurd rfl hu
  | openDialog type =>
    obtain ⟨-, hv⟩ := Option.ite_none_left_eq_some.mp hstep
    cases hv
    exact h.of_same rfl rfl rfl fun _ => id
  | edit form =>
    obtain ⟨-, hv⟩ := Option.ite_none_right_eq_some.mp hstep
    cases hv
    exact h.of_same rfl rfl rfl fun _ => id
  | cancel =>
    obtain ⟨-, hv⟩ := Option.ite_none_right_eq_some.mp hstep
    cases hv
    exact h.close
  | create =>
    obtain ⟨-, hv⟩ := Option.ite_none_right_eq_some.mp hstep
    cases hv
    unfold DialogPage.handleCreate
    split
    · refine h.of_same rfl rfl rfl fun t => ?_
      rintro ⟨post, hmem, hpost⟩
      exact ⟨post, List.mem_append_left _ hmem, hpost⟩
    · exact h.close
  | serveLoad t i =>
    obtain ⟨view, hview, rfl⟩ := Option.map_eq_some_iff.mp hstep
    exact h.view fun k hcurrent => hcurrent.serve hview
  | loadResponse t i =>
    obtain ⟨view, hview, rfl⟩ := Option.map_eq_some_iff.mp hstep
    exact h.view fun k hcurrent => hcurrent.arrive hview hprompt
  | loadFails t i =>
    obtain ⟨view, hview, rfl⟩ := Option.map_eq_some_iff.mp hstep
    exact h.view fun k hcurrent => hcurrent.lose hview hprompt
  | servePost i a =>
    obtain ⟨post, hpost, hserve⟩ := Option.bind_eq_some_iff.mp hstep
    obtain ⟨hunserved, hv⟩ := Option.ite_none_left_eq_some.mp hserve
    have hnew : post.answer ≠ some true := fun hanswer => hunserved (by rw [hanswer]; rfl)
    have hlt : i < s.posts.length := (List.getElem?_eq_some_iff.mp hpost).1
    generalize hexec : post.body.call.exec driver a s.stores = answered at hv
    obtain ⟨ok, stores⟩ := answered
    cases hv
    cases ok with
    | true =>
      intro t k hk
      by_cases ht : t = post.body.type
      · exact .inl ⟨{ post with answer := some true }, List.mem_set hlt _, ht.symm, rfl⟩
      · refine (h t k hk).imp (Announced.serve hpost hnew) fun hcurrent => hcurrent.congr ?_
        have hread : read driver (post.body.call.exec driver a s.stores).2 t =
            read driver s.stores t := CreateBody.exec_read ht
        rw [hexec] at hread
        exact congrFun hread k
    | false =>
      have hsame : (post.body.call.exec driver a s.stores).2 = s.stores :=
        CreateBody.exec_refused (by rw [hexec])
      rw [hexec] at hsame
      exact h.of_same rfl rfl hsame fun t => Announced.serve hpost hnew
  | postResponse i =>
    obtain ⟨post, hpost, hmap⟩ := Option.bind_eq_some_iff.mp hstep
    obtain ⟨ok, hok, rfl⟩ := Option.map_eq_some_iff.mp hmap
    cases ok with
    | true =>
      simp only [if_true, DialogPage.onCreated_eq]
      refine (UpToDate.load (s := { s with posts := s.posts.eraseIdx i }) (fun u k hu hk => ?_)
        (hprompt post hpost hok)).close
      exact (h u k hk).imp_left (Announced.erase hpost (.inl (Ne.symm hu)))
    | false =>
      have hrefused : post.answer ≠ some true := by
        rw [hok]
        decide
      exact h.of_same rfl rfl rfl fun t => Announced.erase hpost (.inr hrefused)
  | postLost i =>
    obtain ⟨post, hpost, rfl⟩ := Option.map_eq_some_iff.mp hstep
    exact h.of_same rfl rfl rfl fun t => Announced.erase hpost (.inr (hprompt post hpost))

/-- The text in a cell -/
def textOf : Json → String
  | .str text => text
  | _ => ""

/-- A row of `sites`, with the properties that the page uses -/
def Site.ofRow (row : Row) : Site :=
  ⟨row.id, textOf (row.cells "name"), textOf (row.cells "organizationId")⟩

/-- A row of `sensor_groups` -/
def SensorGroup.ofRow (row : Row) : SensorGroup :=
  ⟨row.id, textOf (row.cells "name"), textOf (row.cells "siteId")⟩

/-- The tables that the page reads -/
def Database.ofStores (b : Stores) : Database where
  sites := (b.topology .sites).rows.map Site.ofRow
  sensorGroups := (b.topology .sensorGroups).rows.map SensorGroup.ofRow

/-- Rows are found by the text in a cell. -/
theorem findByParent_map {α : Type} {ofRow : Row → α} {parentOf : α → String} {column : String}
    (hparent : ∀ row, parentOf (ofRow row) = textOf (row.cells column)) {rows : List Row}
    (htexts : ∀ row ∈ rows, ∃ text, row.cells column = .str text) (parentId : String) :
    findByParent parentOf (rows.map ofRow) parentId =
      (rows.filter fun row => sameText (row.cells column) (.str parentId)).map ofRow := by
  unfold findByParent
  rw [List.filter_map]
  refine congrArg (List.map ofRow) (List.filter_congr fun row hmem => ?_)
  obtain ⟨text, htext⟩ := htexts row hmem
  rw [Function.comp_apply, hparent, htext]
  exact (beq_eq_decide ..).symm

/-- The sites that the page gets are those that the backend finds, where each belongs to an
organization and the id is one of the database's. -/
theorem findSitesByOrganization_ofStores {organizationId : String}
    (htexts : ∀ row ∈ (b.topology .sites).rows, ∃ text, row.cells "organizationId" = .str text)
    (hid : driver.coerce .uuid (.str organizationId) = some (.str organizationId)) :
    findSitesByOrganization (.ofStores b) organizationId =
      (Backend.findSitesByOrganization driver organizationId b).map Site.ofRow := by
  have hparent : ∀ row, (Site.ofRow row).organizationId = textOf (row.cells "organizationId") :=
    fun _ => rfl
  unfold Backend.findSitesByOrganization
  rw [hid]
  exact findByParent_map hparent htexts organizationId

/-- Likewise the sensor groups -/
theorem findSensorGroupsBySite_ofStores {siteId : String}
    (htexts : ∀ row ∈ (b.topology .sensorGroups).rows, ∃ text, row.cells "siteId" = .str text)
    (hid : driver.coerce .uuid (.str siteId) = some (.str siteId)) :
    findSensorGroupsBySite (.ofStores b) siteId =
      (Backend.findSensorGroupsBySite driver siteId b).map SensorGroup.ofRow := by
  have hparent : ∀ row, (SensorGroup.ofRow row).siteId = textOf (row.cells "siteId") :=
    fun _ => rfl
  unfold Backend.findSensorGroupsBySite
  rw [hid]
  exact findByParent_map hparent htexts siteId

/-! ## A site is created -/

instance (s : DialogPage) (e : DialogEvent) : Decidable (Prompt s e) := by
  cases e <;> unfold Prompt <;> infer_instance

/-- The first organization is selected, and a site is created for it. -/
def createPlant : List DialogEvent :=
  [.serveLoad .org 0, .loadResponse .org 0, .orgSelect 0, .openDialog .site,
    .edit ⟨"Plant", ""⟩, .create, .serveLoad .site 0, .servePost 0 goodAnswers,
    .loadResponse .site 0]

/-- At Create the site is posted. -/
theorem plant_posted :
    ∃ s, run (dialogStep takesAll) (mounted oneOrganization) (createPlant.take 5) = some s ∧
      ∃ body : CreateBody, s.handleCreate = { s with posts := s.posts ++ [{ body }] } ∧
        body.type = s.dialogType ∧ body.form = s.formData ∧
        s.selectedKey s.dialogType = some body.parent := by
  obtain ⟨s, hrun, hopen⟩ := (Option.any_eq_true _ _).mp
    (show (run (dialogStep takesAll) (mounted oneOrganization) (createPlant.take 5)).any
      (fun s => s.openDialog) = true by decide +kernel)
  exact ⟨s, hrun, create_posts hrun hopen⟩

/-- The sites are loaded again. -/
def plantLoaded : List DialogEvent :=
  [.postResponse 0, .serveLoad .site 0, .loadResponse .site 0]

/-- Two organizations, without sites -/
def twoOrganizations : Stores :=
  { oneOrganization with
    topology := Function.update oneOrganization.topology .organizations
      ((oneOrganization.topology .organizations).put { acme with id := "7a2d" }) }

/-- While the request is pending the dialog is closed, and the other organization is selected. -/
def selectOther : List DialogEvent :=
  [.cancel, .orgSelect 1, .serveLoad .site 0, .loadResponse .site 0]

/-- All requests are answered in the order in which they were sent, and the page shows the new
site of one organization under the other one, which has none. -/
theorem late_create_mixes :
    ∃ s, run (dialogStep takesAll) (mounted twoOrganizations)
        (createPlant ++ selectOther ++ plantLoaded) = some s ∧
      s.posts = [] ∧ (s.views .site).loads.length = 0 ∧
      s.selectedKey .site = some "7a2d" ∧ (s.displayed .site).map Row.id = ["2"] ∧
      (read takesAll s.stores .site "7a2d").map Row.id = [] := by
  obtain ⟨s, hrun, hmixed⟩ := (Option.any_eq_true _ _).mp
    (show (run (dialogStep takesAll) (mounted twoOrganizations)
      (createPlant ++ selectOther ++ plantLoaded)).any
      (fun s => decide (s.posts = [] ∧ (s.views .site).loads.length = 0 ∧
        s.selectedKey .site = some "7a2d" ∧ (s.displayed .site).map Row.id = ["2"] ∧
        (read takesAll s.stores .site "7a2d").map Row.id = [])) = true by decide +kernel)
  exact ⟨s, hrun, of_decide_eq_true hmixed⟩

end SensorNet.Web
