import SensorNet.Lib.Run

/-!
# The topology page (`apps/web/src/pages/TopologyPage.tsx`)

The page shows the sites of the selected organization and the sensor groups of the selected
site. Each selection sends a request for the children of what was selected, and each
response replaces what is shown, whatever it is a response to: requests are not cancelled,
and responses carry no tag.

`settled_iff` says which runs are safe: the response that leaves no other request of its
kind in flight has to be that for the selection, or empty. Responses in the order of the
requests are enough for that (`inTurn_of_inOrder`).

The rows come from `topology.service.ts`; the database may change between two responses.
The fields that are only shown are left out, and so is the dialog.
-/

namespace SensorNet.Web

/-! ## What the backend answers -/

structure Organization where
  id : String
  name : String
  deriving DecidableEq, Repr

structure Site where
  id : String
  name : String
  organizationId : String
  deriving DecidableEq, Repr

structure SensorGroup where
  id : String
  name : String
  siteId : String
  deriving DecidableEq, Repr

/-- The tables that the two requests read -/
structure Database where
  sites : List Site := []
  sensorGroups : List SensorGroup := []

/-- `repository.find({ where: { parentId } })` -/
def findByParent {α : Type} (parentOf : α → String) (rows : List α) (parentId : String) :
    List α :=
  rows.filter fun row => decide (parentOf row = parentId)

/-- `findSitesByOrganization` -/
def findSitesByOrganization (db : Database) (organizationId : String) : List Site :=
  findByParent Site.organizationId db.sites organizationId

/-- `findSensorGroupsBySite` -/
def findSensorGroupsBySite (db : Database) (siteId : String) : List SensorGroup :=
  findByParent SensorGroup.siteId db.sensorGroups siteId

/-! ## The page -/

/-- The state of the page, and the requests in flight, by what they ask for. -/
structure PageState where
  selectedOrg : Option Organization := none
  sites : List Site := []
  selectedSite : Option Site := none
  sensorGroups : List SensorGroup := []
  sitesRequests : List String := []
  sensorGroupsRequests : List String := []
  deriving DecidableEq, Repr

namespace PageState

/-- `loadSites`, up to its `await` -/
def loadSites (orgId : String) (s : PageState) : PageState :=
  { s with sitesRequests := s.sitesRequests ++ [orgId] }

/-- `loadSensorGroups`, up to its `await` -/
def loadSensorGroups (siteId : String) (s : PageState) : PageState :=
  { s with sensorGroupsRequests := s.sensorGroupsRequests ++ [siteId] }

/-- `handleOrgSelect` -/
def handleOrgSelect (org : Organization) (s : PageState) : PageState :=
  loadSites org.id { s with selectedOrg := some org, selectedSite := none }

/-- `handleSiteSelect` -/
def handleSiteSelect (site : Site) (s : PageState) : PageState :=
  loadSensorGroups site.id { s with selectedSite := some site }

/-- The sites that are listed -/
def displayedSites (s : PageState) : List Site := if s.selectedOrg.isSome then s.sites else []

/-- The sensor groups that are listed -/
def displayedSensorGroups (s : PageState) : List SensorGroup :=
  if s.selectedSite.isSome then s.sensorGroups else []

end PageState

/-- What happens to the page:
- a click on an organization, or on a site that is listed;
- the response to the `i`-th request in flight of either kind arrives, answered from this
  database. -/
inductive PageEvent where
  | orgSelect (org : Organization)
  | siteSelect (site : Site)
  | sitesResponse (i : Nat) (db : Database)
  | sensorGroupsResponse (i : Nat) (db : Database)

/-- One event, where it can happen. -/
def pageStep (s : PageState) : PageEvent → Option PageState
  | .orgSelect org => some (s.handleOrgSelect org)
  | .siteSelect site => if site ∈ s.displayedSites then some (s.handleSiteSelect site) else none
  | .sitesResponse i db =>
    s.sitesRequests[i]?.map fun orgId =>
      { s with
        sites := findSitesByOrganization db orgId
        sitesRequests := s.sitesRequests.eraseIdx i }
  | .sensorGroupsResponse i db =>
    s.sensorGroupsRequests[i]?.map fun siteId =>
      { s with
        sensorGroups := findSensorGroupsBySite db siteId
        sensorGroupsRequests := s.sensorGroupsRequests.eraseIdx i }

/-! ## What should be shown -/

/-- Whatever is selected, all that is shown are its children. -/
def ShowsChildren {α : Type} (parentOf : α → String) (selected : Option String)
    (shown : List α) : Prop :=
  ∀ id, selected = some id → ∀ row ∈ shown, parentOf row = id

/-- With no request in flight, each list shows the children of the selection. -/
def Unmixed (s : PageState) : Prop :=
  s.sitesRequests = [] → s.sensorGroupsRequests = [] →
    ShowsChildren Site.organizationId (s.selectedOrg.map Organization.id) s.displayedSites ∧
      ShowsChildren SensorGroup.siteId (s.selectedSite.map Site.id) s.displayedSensorGroups

/-- With no request of its kind in flight, a list shows the children of the selection. -/
structure Settled (s : PageState) : Prop where
  sites : s.sitesRequests = [] →
    ShowsChildren Site.organizationId (s.selectedOrg.map Organization.id) s.sites
  sensorGroups : s.sensorGroupsRequests = [] →
    ShowsChildren SensorGroup.siteId (s.selectedSite.map Site.id) s.sensorGroups

/-- A response for `parentId` is for the selection, or empty, where no other request is left
in flight. -/
def ResponseInTurn {α : Type} (selected : Option String) (parentId : String) (rows : List α)
    (left : List String) : Prop :=
  left = [] → ∀ id, selected = some id → parentId = id ∨ rows = []

/-- The responses come in turn. -/
def InTurn (s : PageState) : PageEvent → Prop
  | .sitesResponse i db => ∀ orgId, s.sitesRequests[i]? = some orgId →
      ResponseInTurn (s.selectedOrg.map Organization.id) orgId (findSitesByOrganization db orgId)
        (s.sitesRequests.eraseIdx i)
  | .sensorGroupsResponse i db => ∀ siteId, s.sensorGroupsRequests[i]? = some siteId →
      ResponseInTurn (s.selectedSite.map Site.id) siteId (findSensorGroupsBySite db siteId)
        (s.sensorGroupsRequests.eraseIdx i)
  | _ => True

/-! ## One event -/

/-- The children of one parent are shown as those of another only if there are none. -/
theorem showsChildren_findByParent {α : Type} {parentOf : α → String} {selected : Option String}
    {rows : List α} {parentId : String} :
    ShowsChildren parentOf selected (findByParent parentOf rows parentId) ↔
      ∀ id, selected = some id → parentId = id ∨ findByParent parentOf rows parentId = [] := by
  refine forall_congr' fun id => forall_congr' fun _ => ?_
  constructor
  · intro h
    rcases List.eq_nil_or_concat (findByParent parentOf rows parentId) with hnil | ⟨l, row, hl⟩
    · exact .inr hnil
    · have hmem : row ∈ findByParent parentOf rows parentId := by
        rw [hl]
        simp
      have hparent := of_decide_eq_true (List.mem_filter.mp hmem).2
      exact .inl (hparent.symm.trans (h row hmem))
  · rintro (rfl | hnil) row hmem
    · exact of_decide_eq_true (List.mem_filter.mp hmem).2
    · rw [hnil] at hmem
      cases hmem

theorem showsChildren_none {α : Type} {parentOf : α → String} {shown : List α} :
    ShowsChildren parentOf none shown := nofun

theorem settled_step {s v : PageState} {e : PageEvent} (h : Settled s)
    (hstep : pageStep s e = some v) : Settled v ↔ InTurn s e := by
  cases e with
  | orgSelect org =>
    cases hstep
    -- a request is pending, and no sensor groups are shown
    refine iff_of_true ⟨fun hnone => ?_, fun _ => showsChildren_none⟩ trivial
    exact absurd hnone (List.append_ne_nil_of_right_ne_nil _ (List.cons_ne_nil _ _))
  | siteSelect site =>
    obtain ⟨-, hv⟩ := Option.ite_none_right_eq_some.mp hstep
    cases hv
    refine iff_of_true ⟨h.sites, fun hnone => ?_⟩ trivial
    exact absurd hnone (List.append_ne_nil_of_right_ne_nil _ (List.cons_ne_nil _ _))
  | sitesResponse i db =>
    obtain ⟨orgId, horg, rfl⟩ := Option.map_eq_some_iff.mp hstep
    constructor
    · intro hv orgId' horg' hleft
      rw [horg] at horg'
      cases horg'
      exact showsChildren_findByParent.mp (hv.sites hleft)
    · intro hturn
      exact ⟨fun hleft => showsChildren_findByParent.mpr (hturn orgId horg hleft),
        h.sensorGroups⟩
  | sensorGroupsResponse i db =>
    obtain ⟨siteId, hsite, rfl⟩ := Option.map_eq_some_iff.mp hstep
    constructor
    · intro hv siteId' hsite' hleft
      rw [hsite] at hsite'
      cases hsite'
      exact showsChildren_findByParent.mp (hv.sensorGroups hleft)
    · intro hturn
      exact ⟨h.sites,
        fun hleft => showsChildren_findByParent.mpr (hturn siteId hsite hleft)⟩

theorem settled_initial : Settled {} := ⟨fun _ => showsChildren_none, fun _ => showsChildren_none⟩

theorem Settled.unmixed {s : PageState} (h : Settled s) : Unmixed s := by
  intro hsites hgroups
  unfold PageState.displayedSites PageState.displayedSensorGroups
  refine ⟨fun id hid row hrow => ?_, fun id hid row hrow => ?_⟩
  · split at hrow
    · exact h.sites hsites id hid row hrow
    · cases hrow
  · split at hrow
    · exact h.sensorGroups hgroups id hid row hrow
    · cases hrow

/-! ## Runs -/

/-- Each list shows the children of the selection, whenever no request of its kind is in
flight, iff the responses come in turn. -/
theorem settled_iff {events : List PageEvent} {s : PageState}
    (hrun : run pageStep {} events = some s) :
    (∀ k t, run pageStep {} (events.take k) = some t → Settled t) ↔
      Along pageStep InTurn {} events :=
  prefixes_iff_along (J := fun _ => True) settled_initial trivial (fun _ _ _ _ _ => trivial)
    (fun _ _ _ _ h hstep => settled_step h hstep) hrun

/-- **No list shows the children of another parent, in any state of a run whose responses
come in turn.** -/
theorem unmixed_of_inTurn {events : List PageEvent} {s : PageState}
    (hturn : Along pageStep InTurn {} events) (hrun : run pageStep {} events = some s) :
    Unmixed s := by
  refine (run_inv_along (P := Settled) settled_initial ?_ hturn hrun).unmixed
  intro t e v ht hC hstep
  exact (settled_step ht hstep).mpr hC

/-! ## Responses in the order of the requests -/

/-- The first request of its kind is answered first. -/
def InOrder (_ : PageState) : PageEvent → Prop
  | .sitesResponse i _ => i = 0
  | .sensorGroupsResponse i _ => i = 0
  | _ => True

/-- The latest request in flight is for what is selected. -/
def LatestFor (selected : Option String) (requests : List String) : Prop :=
  ∀ id, selected = some id → ∀ latest, requests.getLast? = some latest → latest = id

theorem latestFor_snoc (selected : String) (requests : List String) :
    LatestFor (some selected) (requests ++ [selected]) := by
  intro id hid latest hlatest
  rw [List.getLast?_concat] at hlatest
  exact (Option.some.inj hlatest).symm.trans (Option.some.inj hid)

theorem LatestFor.tail {selected : Option String} {first : String} {rest : List String}
    (h : LatestFor selected (first :: rest)) : LatestFor selected rest := by
  intro id hid latest hlatest
  refine h id hid latest ?_
  rw [List.getLast?_cons, hlatest, Option.getD_some]

/-- So its response, when it is the last one left, comes in turn. -/
theorem LatestFor.inTurn {α : Type} {selected : Option String} {first : String}
    {rest : List String} {rows : List α} (h : LatestFor selected (first :: rest)) :
    ResponseInTurn selected first rows rest := by
  rintro rfl id hid
  exact .inl (h id hid first rfl)

/-- The latest request of either kind is for the selection. -/
structure LatestSelected (s : PageState) : Prop where
  sites : LatestFor (s.selectedOrg.map Organization.id) s.sitesRequests
  sensorGroups : LatestFor (s.selectedSite.map Site.id) s.sensorGroupsRequests

theorem eq_cons_of_getElem?_zero {requests : List String} {first : String}
    (h : requests[0]? = some first) : requests = first :: requests.eraseIdx 0 := by
  cases requests with
  | nil => cases h
  | cons a rest =>
    cases h
    rfl

theorem latestSelected_step {s v : PageState} {e : PageEvent} (h : LatestSelected s)
    (horder : InOrder s e) (hstep : pageStep s e = some v) : LatestSelected v := by
  cases e with
  | orgSelect org =>
    cases hstep
    exact ⟨latestFor_snoc _ _, nofun⟩
  | siteSelect site =>
    obtain ⟨-, hv⟩ := Option.ite_none_right_eq_some.mp hstep
    cases hv
    exact ⟨h.sites, latestFor_snoc _ _⟩
  | sitesResponse i db =>
    cases horder
    obtain ⟨orgId, horg, rfl⟩ := Option.map_eq_some_iff.mp hstep
    have hsites := h.sites
    rw [eq_cons_of_getElem?_zero horg] at hsites
    exact ⟨hsites.tail, h.sensorGroups⟩
  | sensorGroupsResponse i db =>
    cases horder
    obtain ⟨siteId, hsite, rfl⟩ := Option.map_eq_some_iff.mp hstep
    have hgroups := h.sensorGroups
    rw [eq_cons_of_getElem?_zero hsite] at hgroups
    exact ⟨h.sites, hgroups.tail⟩

theorem latestSelected_inTurn {s : PageState} {e : PageEvent} (h : LatestSelected s)
    (horder : InOrder s e) : InTurn s e := by
  cases e with
  | orgSelect org => trivial
  | siteSelect site => trivial
  | sitesResponse i db =>
    cases horder
    intro orgId horg
    have hsites := h.sites
    rw [eq_cons_of_getElem?_zero horg] at hsites
    exact hsites.inTurn
  | sensorGroupsResponse i db =>
    cases horder
    intro siteId hsite
    have hgroups := h.sensorGroups
    rw [eq_cons_of_getElem?_zero hsite] at hgroups
    exact hgroups.inTurn

/-- **Responses in the order of the requests come in turn.** -/
theorem inTurn_of_inOrder {events : List PageEvent}
    (horder : Along pageStep InOrder {} events) : Along pageStep InTurn {} events :=
  along_of_inv ⟨nofun, nofun⟩ (fun _ _ _ h hC hstep => latestSelected_step h hC hstep)
    (fun _ _ h hC => latestSelected_inTurn h hC) horder

/-! ## Two organizations -/

def northOrg : Organization := ⟨"org-1", "North"⟩

def southOrg : Organization := ⟨"org-2", "South"⟩

/-- One site each -/
def twoSites : Database where
  sites := [⟨"site-1", "Mine", "org-1"⟩, ⟨"site-2", "Mill", "org-2"⟩]

/-- Both organizations are selected, the second one last. -/
def selectBoth (responses : List Nat) : List PageEvent :=
  [.orgSelect northOrg, .orgSelect southOrg] ++ responses.map fun i => .sitesResponse i twoSites

theorem selectBoth_inOrder : Along pageStep InOrder {} (selectBoth [0, 0]) := by
  simp [selectBoth, Along, InOrder]

/-- Answered in order -/
theorem selectBoth_unmixed :
    ∃ s, run pageStep {} (selectBoth [0, 0]) = some s ∧
      s.displayedSites.map Site.name = ["Mill"] ∧ Unmixed s :=
  ⟨_, rfl, rfl, unmixed_of_inTurn (inTurn_of_inOrder selectBoth_inOrder) rfl⟩

/-- Where the second response overtakes the first one, the page lists the sites of the first
organization under the second. -/
theorem overtaking_mixes :
    ¬ ∀ (events : List PageEvent) (s : PageState), run pageStep {} events = some s →
      Unmixed s := by
  intro h
  have hmill := (h (selectBoth [1, 0]) _ rfl rfl rfl).1 "org-2" rfl ⟨"site-1", "Mine", "org-1"⟩
    (by decide)
  exact absurd hmill (by decide)

end SensorNet.Web
