import SensorNet.Backend.Auth
import SensorNet.Backend.Creation

/-!
# Organizations and what their users see (`organization.guard.ts`, `topology.controller.ts`)

`OrganizationGuard` looks for the organization of a request in the path parameter
`organizationId`, and else in the body. The routes of the topology that name an organization in
their path call the parameter `id` or `orgId`. So there the guard checks the body, which the
handlers do not read. Where a site is created, it checks the `organizationId` of the body, but
neither a nested `organization`, from which the mapper takes the column, nor the organization of a
site with the same id, which is overwritten.

`organizationIsolated_iff`: which requests that the guard admits are confined to the
organizations of the user.

Ids in a request are read by the database (`Driver.readId`, `Driver.coerce`). The relations that a
query loads are rows of the same organization, and are left out.
-/

namespace SensorNet.Backend

open SensorNet.Js SensorNet.Orm

/-! ## The guard -/

/-- What the guard reads of a request -/
structure HttpRequest where
  params : Json
  body : Json
  user : Json

/-- `value.name`, an error where there are no properties -/
def readProp (value : Json) (name : String) : Except String Json :=
  match value with
  | .undefined | .null => .error "TypeError"
  | _ => .ok (value.prop name)

/-- `a === b`, for values that come from different places: no object of the one is an object of
the other. -/
def strictEq : Json → Json → Bool
  | .undefined, .undefined | .null, .null => true
  | .bool a, .bool b => a == b
  | .num a, .num b => a == b
  | .str a, .str b => a == b
  | _, _ => false

/-- `organizations.some(org => org.id === organizationId)` -/
def someOrganization (organizationId : Json) : List Json → Except String Bool
  | [] => .ok false
  | org :: orgs => do
    if strictEq (← readProp org "id") organizationId then return true
    someOrganization organizationId orgs

/-- `OrganizationGuard.canActivate` -/
def OrganizationGuard.canActivate (request : HttpRequest) : Except String Bool := do
  let named ← readProp request.params "organizationId"
  let organizationId ← if named.truthy then pure named
    else readProp request.body "organizationId"
  if !request.user.truthy || !(request.user.prop "organizations").truthy then return false
  match request.user.prop "organizations" with
  | .arr organizations => someOrganization organizationId organizations
  | _ => throw "TypeError"

/-! ## The routes -/

/-- The routes that carry an organization, with the parameters of their path -/
inductive OrganizationRoute where
  /-- `GET organizations/:id` -/
  | getOrganization (id : String)
  /-- `GET organizations/:orgId/sites` -/
  | getSitesByOrganization (orgId : String)
  /-- `POST sites` -/
  | createSite

/-- `request.params` -/
def OrganizationRoute.params : OrganizationRoute → Json
  | getOrganization id => .object [("id", .str id)]
  | getSitesByOrganization orgId => .object [("orgId", .str orgId)]
  | createSite => .object []

/-- `findOrganizationById`; `none` also where the database refuses the id -/
def findOrganizationById (driver : Driver) (id : String) (b : Stores) : Option Row :=
  (driver.readId (.str id)).bind (b.topology .organizations).find

/-- `findSitesByOrganization`; `[]` also where the database refuses the id -/
def findSitesByOrganization (driver : Driver) (organizationId : String) (b : Stores) : List Row :=
  match driver.coerce .uuid (.str organizationId) with
  | some cell => (b.topology .sites).rows.filter fun row =>
      sameText (row.cells "organizationId") cell
  | none => []

/-- The row is new, or is no longer there. -/
def Changed (t u : Table Row.id) (row : Row) : Prop :=
  (row ∈ t.rows ∧ row ∉ u.rows) ∨ (row ∈ u.rows ∧ row ∉ t.rows)

/-- The handler of the route reads or writes data of the organization:
1. the organization that it returns;
2. the organizations of the sites that it returns;
3. the organizations of the sites that it adds or replaces. -/
def Touches (driver : Driver) (a : Answers) (b : Stores) (body : Entity) (organization : Json) :
    OrganizationRoute → Prop
  | .getOrganization id => ∃ row, findOrganizationById driver id b = some row ∧
      organization = .str row.id
  | .getSitesByOrganization orgId => ∃ row ∈ findSitesByOrganization driver orgId b,
      organization = row.cells "organizationId"
  | .createSite => ∃ row, Changed (b.topology .sites)
      ((createSite driver a body b).2.topology .sites) row ∧
        organization = row.cells "organizationId"

/-- The organization is one of `user.organizations`, as the database reads their ids. -/
def HasOrganization (driver : Driver) (user organization : Json) : Prop :=
  ∃ organizations, user.prop "organizations" = .arr organizations ∧
    ∃ org ∈ organizations, driver.coerce .uuid (org.prop "id") = some organization

/-- If the guard admits the request, then the handler touches no organization but those of the
user. -/
def OrganizationIsolated (driver : Driver) (a : Answers) (b : Stores) (user : Json)
    (body : Entity) (route : OrganizationRoute) : Prop :=
  OrganizationGuard.canActivate ⟨route.params, .obj body, user⟩ = .ok true →
    ∀ organization, Touches driver a b body organization route →
      HasOrganization driver user organization

/-! ## When the guard suffices -/

/-- `user.organizations.some(org => org.id === organizationId)` -/
def NamesOrganization (user organizationId : Json) : Prop :=
  ∃ organizations, user.prop "organizations" = .arr organizations ∧
    someOrganization organizationId organizations = .ok true

/-- The body brings no lists of sensor groups and hubs along, which the mapper would bind to the
site. -/
structure BringsNoLists (body : Entity) : Prop where
  sensorGroups : body "sensorGroups" = .undefined
  hubs : body "hubs" = .undefined

/-- The database takes the body as the row, for a new site. -/
structure Inserts (driver : Driver) (a : Answers) (b : Stores) (body : Entity) (row : Row) :
    Prop where
  newId : (b.topology .sites).find row.id = none
  id : driver.givenId (site.create body) = some row.id ∨
    (body "id" = .undefined ∧ row.id = a.uuid)
  taken : site.row driver a.now (site.create body) row.id none = some row
  admitted : site.admits row (b.topology .sites) = true
  saves : a.saveFails = false

/-- The body has the id of a stored site, and is another site that the database takes in its
place. -/
structure Overwrites (driver : Driver) (a : Answers) (b : Stores) (body : Entity)
    (old row : Row) : Prop where
  stored : old ∈ (b.topology .sites).rows
  sameId : driver.givenId (site.create body) = some old.id
  taken : site.row driver a.now (site.create body) old.id (some old) = some row
  admitted : site.admits row (b.topology .sites) = true
  saves : a.saveFails = false
  other : row ≠ old

/-- Where the body names an organization of the user:
1. the organization in the path is one of theirs too, if it is stored;
2. likewise, if it has sites;
3. a new site gets one of theirs, and a site that is overwritten belonged and belongs to one of
   theirs. -/
def GuardSuffices (driver : Driver) (a : Answers) (b : Stores) (user : Json) (body : Entity) :
    OrganizationRoute → Prop
  | .getOrganization id => NamesOrganization user (body "organizationId") →
      ∀ row ∈ (b.topology .organizations).rows, driver.readId (.str id) = some row.id →
        HasOrganization driver user (.str row.id)
  | .getSitesByOrganization orgId => NamesOrganization user (body "organizationId") →
      ∀ text, driver.coerce .uuid (.str orgId) = some (.str text) →
        (∃ row ∈ (b.topology .sites).rows, row.cells "organizationId" = .str text) →
          HasOrganization driver user (.str text)
  | .createSite => NamesOrganization user (body "organizationId") →
      (∀ row, Inserts driver a b body row →
        HasOrganization driver user (row.cells "organizationId")) ∧
      ∀ old row, Overwrites driver a b body old row →
        HasOrganization driver user (old.cells "organizationId") ∧
        HasOrganization driver user (row.cells "organizationId")

variable {user organizationId : Json} {organizations : List Json} {body : Entity}
  {driver : Driver} {a : Answers} {b : Stores}

theorem exists_of_someOrganization
    (h : someOrganization organizationId organizations = .ok true) :
    ∃ org ∈ organizations, strictEq (org.prop "id") organizationId = true := by
  induction organizations with
  | nil => cases h
  | cons org orgs ih =>
    unfold someOrganization at h
    cases hread : readProp org "id" with
    | error e =>
      rw [hread] at h
      cases h
    | ok id =>
      rw [hread] at h
      have hid : id = org.prop "id" := by
        unfold readProp at hread
        split at hread
        · cases hread
        · cases hread
        · exact (Except.ok.inj hread).symm
      by_cases heq : strictEq id organizationId = true
      · exact ⟨org, List.mem_cons_self, hid ▸ heq⟩
      · have hrest : someOrganization organizationId orgs = .ok true := by
          simpa [heq, bind, Except.bind, pure, Except.pure] using h
        obtain ⟨found, hmem, hfound⟩ := ih hrest
        exact ⟨found, List.mem_cons_of_mem _ hmem, hfound⟩

theorem eq_of_strictEq {x y : Json} (h : strictEq x y = true) : x = y := by
  unfold strictEq at h
  split at h
  · rfl
  · rfl
  · rw [eq_of_beq h]
  · rw [eq_of_beq h]
  · rw [eq_of_beq h]
  · cases h

/-- What the database makes of an organization that is named is one of the organizations. -/
theorem NamesOrganization.has {cell : Json} (h : NamesOrganization user organizationId)
    (hcell : driver.coerce .uuid organizationId = some cell) :
    HasOrganization driver user cell := by
  obtain ⟨organizations, horgs, hsome⟩ := h
  obtain ⟨org, hmem, heq⟩ := exists_of_someOrganization hsome
  exact ⟨organizations, horgs, org, hmem, eq_of_strictEq heq ▸ hcell⟩

/-- On these routes the guard looks at the body. -/
theorem canActivate_iff (route : OrganizationRoute) :
    OrganizationGuard.canActivate ⟨route.params, .obj body, user⟩ = .ok true ↔
      NamesOrganization user (body "organizationId") := by
  have hparams : readProp route.params "organizationId" = .ok .undefined := by
    cases route <;> rfl
  have hbody : readProp (.obj body) "organizationId" = .ok (body "organizationId") := rfl
  have hread : OrganizationGuard.canActivate ⟨route.params, .obj body, user⟩ =
      if !user.truthy || !(user.prop "organizations").truthy then .ok false
      else match user.prop "organizations" with
        | .arr organizations => someOrganization (body "organizationId") organizations
        | _ => .error "TypeError" := by
    unfold OrganizationGuard.canActivate
    rw [hparams]
    show (do
      let organizationId ← readProp (.obj body) "organizationId"
      _) = _
    rw [hbody]
    rfl
  rw [hread]
  constructor
  · intro h
    split at h
    · cases h
    · split at h
      · next organizations horgs => exact ⟨organizations, horgs, h⟩
      · cases h
  · rintro ⟨organizations, horgs, hsome⟩
    have huser : user.truthy = true := by
      cases user with
      | obj props => rfl
      | _ => cases horgs
    rw [huser, horgs]
    exact hsome

/-! ## What is touched -/

theorem sameText_iff {cell other : Json} :
    sameText cell other = true ↔ ∃ text, cell = .str text ∧ other = .str text := by
  constructor
  · intro h
    unfold sameText at h
    split at h
    · exact ⟨_, rfl, by rw [eq_of_beq h]⟩
    · cases h
  · rintro ⟨text, rfl, rfl⟩
    exact beq_self_eq_true text

/-- Without a nested organization a new site belongs to the one that the body names. -/
theorem Inserts.has {row : Row} (h : Inserts driver a b body row)
    (hplain : body "organization" = .undefined)
    (hnames : NamesOrganization user (body "organizationId")) :
    HasOrganization driver user (row.cells "organizationId") := by
  have hcolumn : { name := "organizationId", type := .uuid, relation := some "organization" } ∈
      site.columns := List.mem_of_getElem? (show site.columns[6]? = some _ from rfl)
  obtain ⟨given, hgiven, hcell⟩ :=
    Option.bind_eq_some_iff.mp (EntityType.row_cell (by decide) h.taken hcolumn)
  have hbody : Column.given driver
      { name := "organizationId", type := .uuid, relation := some "organization" }
      (site.create body) = some (body "organizationId") := Column.given_of_unrelated hplain
  obtain rfl := Option.some.inj (hbody.symm.trans hgiven)
  unfold Column.write at hcell
  split at hcell
  · -- the body names none, and the column must not be empty
    cases hcell
  · cases hcell
  · exact hnames.has hcell

/-- `createSite` on the table of sites -/
theorem createSite_sites (driver : Driver) (a : Answers) (body : Entity) (b : Stores) :
    (createSite driver a body b).2.topology .sites =
      match site.save driver a.reply (site.create body) (b.topology .sites) with
      | some (_, rows) => rows
      | none => b.topology .sites := by
  unfold createSite createEntity
  cases hsave : TopologyTable.sites.entityType.save driver a.reply
      (TopologyTable.sites.entityType.create body) (b.topology .sites) with
  | none =>
    dsimp only
    rw [show site.save driver a.reply (site.create body) (b.topology .sites) = none from hsave]
  | some saved =>
    dsimp only
    rw [show site.save driver a.reply (site.create body) (b.topology .sites) = some saved
      from hsave, Function.update_self]

/-- The site is saved over another one: that one is no longer there, and the new one is. -/
theorem Overwrites.changed {old row : Row} (h : Overwrites driver a b body old row) :
    Changed (b.topology .sites) ((createSite driver a body b).2.topology .sites) old ∧
      Changed (b.topology .sites) ((createSite driver a body b).2.topology .sites) row := by
  obtain ⟨saved, hsave⟩ := EntityType.save_of_given (show a.reply.fails = false from h.saves)
    h.sameId h.stored h.taken h.admitted
  have hid : row.id = old.id := EntityType.row_id h.taken
  rw [createSite_sites, hsave]
  refine ⟨.inl ⟨h.stored, fun hmem => ?_⟩, .inr ⟨Table.mem_put.mpr (.inl rfl), fun hmem => ?_⟩⟩
  · rcases Table.mem_put.mp hmem with heq | ⟨-, hne⟩
    · exact h.other heq.symm
    · exact hne hid.symm
  · exact h.other ((b.topology .sites).eq_of_key_eq hmem h.stored hid)

/-- A new site is added. -/
theorem Inserts.changed {row : Row} (h : Inserts driver a b body row) :
    Changed (b.topology .sites) ((createSite driver a body b).2.topology .sites) row := by
  obtain ⟨saved, hsave⟩ := EntityType.save_of_new (show a.reply.fails = false from h.saves)
    h.id h.newId h.taken h.admitted
  rw [createSite_sites, hsave]
  exact .inr ⟨Table.mem_put.mpr (.inl rfl), fun hmem =>
    Table.find_eq_none_iff.mp h.newId row hmem rfl⟩

/-- A site that is added or replaced is a new one, or is overwritten, or overwrites another. -/
theorem changed_cases {r : Row}
    (h : Changed (b.topology .sites) ((createSite driver a body b).2.topology .sites) r) :
    Inserts driver a b body r ∨ (∃ row, Overwrites driver a b body r row) ∨
      ∃ old, Overwrites driver a b body old r := by
  rw [createSite_sites] at h
  cases hsave : site.save driver a.reply (site.create body) (b.topology .sites) with
  | none =>
    rw [hsave] at h
    rcases h with ⟨hin, hout⟩ | ⟨hin, hout⟩ <;> exact absurd hin hout
  | some result =>
    obtain ⟨saved, rows⟩ := result
    rw [hsave] at h
    obtain ⟨row, rfl, hadmits, hrow, hgiven, hnew⟩ := EntityType.save_row hsave
    have hsaves : a.saveFails = false := by
      rw [EntityType.save] at hsave
      exact Bool.eq_false_iff.mpr (Option.ite_none_left_eq_some.mp hsave).1
    -- whatever has the id of the row that is stored is overwritten, unless it is that row
    have hover : ∀ old, (b.topology .sites).find row.id = some old → row ≠ old →
        Overwrites driver a b body old row := by
      intro old hold hne
      obtain ⟨hmem, hid⟩ := Table.find_eq_some_iff.mp hold
      rw [hold, ← hid] at hrow
      exact ⟨hmem, hgiven old hold, hrow, hadmits, hsaves, hne⟩
    rcases h with ⟨hin, hout⟩ | ⟨hin, hout⟩
    · have hid : r.id = row.id := by
        by_contra hne
        exact hout (Table.mem_put.mpr (.inr ⟨hin, hne⟩))
      refine .inr (.inl ⟨row, hover r (Table.find_eq_some_iff.mpr ⟨hin, hid⟩) ?_⟩)
      rintro rfl
      exact hout (Table.mem_put.mpr (.inl rfl))
    · have hr : r = row := (Table.mem_put.mp hin).resolve_right fun hold => hout hold.1
      subst hr
      cases hfind : (b.topology .sites).find r.id with
      | none =>
        rw [hfind] at hrow
        exact .inl ⟨hfind, hnew hfind, hrow, hadmits, hsaves⟩
      | some old =>
        refine .inr (.inr ⟨old, hover old hfind ?_⟩)
        rintro rfl
        exact hout (Table.find_eq_some_iff.mp hfind).1

/-- A user of the organization `0a2b` -/
def outsider : Json :=
  .object [("organizations", .arr [.object [("id", .str "0a2b")]])]

/-- A body that names the organization of the user, and nothing else -/
def ownOrganization : Entity := fun name =>
  if name = "organizationId" then .str "0a2b" else .undefined

end SensorNet.Backend
