import SensorNet.Lib.Json
import Mathlib.Data.List.Infix

/-!
# Role checks (`modules/auth`)

A user logs in (`AuthService.login`), later requests carry the token, from whose payload
`JwtStrategy.validate` makes `request.user`, and `RolesGuard` compares that with the roles
that the route declares. The login and the strategy hand the role on as `role`; the guard
looks for `roles`, which `AzureAdStrategy` provides.

So a route that declares roles is closed to all who log in here (`canActivate_login`), and
the check is right iff it has to refuse (`roleCheck_iff`). For the users of
`AzureAdStrategy` it is right (`canActivate_azureAd`).

What signs and verifies a token is not part of the repository, and stays a parameter.
-/

namespace SensorNet.Backend

open SensorNet.Js

/-! ## Logging in -/

/-- `payload` of `AuthService.login` -/
def loginPayload (user : Json) : Json :=
  .object [("email", user.prop "email"), ("sub", user.prop "id"), ("role", user.prop "role")]

/-- `AuthService.login` -/
def login (sign : Json → String) (user : Json) : Json :=
  .object [("access_token", .str (sign (loginPayload user)))]

/-- `JwtStrategy.validate` -/
def jwtValidate (payload : Json) : Json :=
  .object [("userId", payload.prop "sub"), ("email", payload.prop "email"),
    ("role", payload.prop "role")]

/-- `a || b` -/
def orElse (a b : Json) : Json := if a.truthy then a else b

/-- `AzureAdStrategy.validate` -/
def azureAdValidate (profile : Json) : Json :=
  .object [("email", orElse (profile.prop "upn") (profile.prop "email")),
    ("firstName", (profile.prop "name").prop "givenName"),
    ("lastName", (profile.prop "name").prop "familyName"),
    ("displayName", profile.prop "displayName"),
    ("roles", orElse (profile.prop "roles") (.arr []))]

/-- The user of a request that carries the token as its bearer token: the verified payload,
as the strategy makes it. -/
def requestUser (verify : String → Option Json) (token : Json) : Json :=
  match token with
  | .str text => ((verify text).map jwtValidate).getD .undefined
  | _ => .undefined

/-! ## The guard -/

/-- What the guard reads: the roles that `@Roles` sets on the handler and on its class, and
`request.user`. -/
structure ExecutionContext where
  handlerRoles : Option (List String)
  classRoles : Option (List String)
  user : Json

/-- `reflector.getAllAndOverride('roles', [context.getHandler(), context.getClass()])` -/
def ExecutionContext.requiredRoles (context : ExecutionContext) : Option (List String) :=
  context.handlerRoles <|> context.classRoles

/-- `value?.includes(role)`, as a condition; an error where `includes` is no function. -/
def includes (value : Json) (role : String) : Except String Bool :=
  match value with
  | .undefined | .null => .ok false
  | .arr elems => .ok (elems.any fun elem =>
      match elem with
      | .str text => text == role
      | _ => false)
  | .str text => .ok (decide (role.toList <:+: text.toList))
  | _ => .error "TypeError"

/-- `roles.some((role) => value?.includes(role))` -/
def someIncluded (value : Json) : List String → Except String Bool
  | [] => .ok false
  | role :: roles => do
    if ← includes value role then return true
    someIncluded value roles

/-- `RolesGuard.canActivate` -/
def canActivate (context : ExecutionContext) : Except String Bool :=
  match context.requiredRoles with
  | none => .ok true
  | some requiredRoles =>
    if !context.user.truthy then .ok false
    else someIncluded (context.user.prop "roles") requiredRoles

/-! ## Who is admitted -/

/-- No roles to look in: nobody has one. -/
theorem someIncluded_undefined (roles : List String) :
    someIncluded .undefined roles = .ok false := by
  induction roles with
  | nil => rfl
  | cons role roles ih => exact ih

theorem someIncluded_arr {elems : List String} {roles : List String} :
    someIncluded (.arr (elems.map .str)) roles = .ok true ↔ ∃ role ∈ roles, role ∈ elems := by
  induction roles with
  | nil => exact iff_of_false nofun (by simp)
  | cons role roles ih =>
    have hin : includes (.arr (elems.map .str)) role = .ok (decide (role ∈ elems)) := by
      unfold includes
      dsimp only
      rw [List.any_map]
      congr 1
      rw [Bool.eq_iff_iff, List.any_eq_true, decide_eq_true_iff]
      simp
    unfold someIncluded
    rw [hin]
    by_cases hmem : role ∈ elems
    · rw [decide_eq_true hmem]
      exact iff_of_true rfl ⟨role, List.mem_cons_self, hmem⟩
    · rw [decide_eq_false hmem, List.exists_mem_cons_iff, ← ih]
      exact (or_iff_right hmem).symm

/-- A route without roles is open to everybody. -/
theorem canActivate_open {context : ExecutionContext} (h : context.requiredRoles = none) :
    canActivate context = .ok true := by
  unfold canActivate
  rw [h]

/-- A user of `AzureAdStrategy` is admitted iff one of their roles is required. -/
theorem canActivate_azureAd {context : ExecutionContext} {profile : Json} {roles R : List String}
    (huser : context.user = azureAdValidate profile)
    (hroles : profile.prop "roles" = .arr (roles.map .str))
    (hR : context.requiredRoles = some R) :
    canActivate context = .ok true ↔ ∃ role ∈ R, role ∈ roles := by
  have hprop : context.user.prop "roles" = .arr (roles.map .str) := by
    rw [huser]
    show orElse (profile.prop "roles") (.arr []) = _
    rw [hroles]
    rfl
  have htruthy : context.user.truthy = true := by
    rw [huser]
    rfl
  unfold canActivate
  rw [hR, htruthy]
  show someIncluded (context.user.prop "roles") R = .ok true ↔ _
  rw [hprop]
  exact someIncluded_arr

section RoleCheck

/-- What a user who logs in is, when the token comes back. -/
def loggedIn (sign : Json → String) (verify : String → Option Json) (user : Json) : Json :=
  requestUser verify ((login sign user).prop "access_token")

variable {sign : Json → String} {verify : String → Option Json} {user : Json}
  (hverify : verify (sign (loginPayload user)) = some (loginPayload user))

include hverify

/-- The role arrives, as `role`; there is no `roles`. -/
theorem loggedIn_eq :
    loggedIn sign verify user =
      .object [("userId", user.prop "id"), ("email", user.prop "email"),
        ("role", user.prop "role")] := by
  unfold loggedIn
  show ((verify (sign (loginPayload user))).map jwtValidate).getD .undefined = _
  rw [hverify]
  rfl

variable {context : ExecutionContext} {R : List String}

/-- Where roles are required, nobody who logged in is admitted. -/
theorem canActivate_login (huser : context.user = loggedIn sign verify user)
    (hR : context.requiredRoles = some R) : canActivate context = .ok false := by
  rw [loggedIn_eq hverify] at huser
  unfold canActivate
  rw [hR, huser]
  exact someIncluded_undefined R

/-- **The role check of a user who logged in is right iff the role is not required.** -/
theorem roleCheck_iff {r : String} (_hrole : user.prop "role" = .str r)
    (huser : context.user = loggedIn sign verify user) (hR : context.requiredRoles = some R) :
    (canActivate context = .ok true ↔ r ∈ R) ↔ r ∉ R := by
  rw [canActivate_login hverify huser hR]
  constructor
  · intro h hr
    cases h.mpr hr
  · exact fun hr => iff_of_false nofun hr

end RoleCheck

/-- An administrator -/
def sampleAdmin : Json :=
  .object [("id", .str "user-1"), ("email", .str "admin@example.com"), ("role", .str "admin")]

/-- The one token that is signed -/
def sampleSign : Json → String := fun _ => "token"

/-- It verifies as the administrator's. -/
def sampleVerify : String → Option Json := fun _ => some (loginPayload sampleAdmin)

theorem sampleVerify_sampleSign :
    sampleVerify (sampleSign (loginPayload sampleAdmin)) = some (loginPayload sampleAdmin) := rfl

/-- A request of the administrator, on a route whose handler declares these roles -/
def adminRequest (R : List String) : ExecutionContext where
  handlerRoles := some R
  classRoles := none
  user := loggedIn sampleSign sampleVerify sampleAdmin

/-- The administrator is refused where only technicians are admitted. -/
theorem admin_refused_rightly :
    (canActivate (adminRequest ["technician"]) = .ok true ↔ "admin" ∈ ["technician"]) ↔
      "admin" ∉ ["technician"] :=
  roleCheck_iff sampleVerify_sampleSign rfl rfl rfl

/-- And where administrators are. -/
theorem admin_refused :
    ¬ ∀ (sign : Json → String) (verify : String → Option Json) (user : Json) (r : String)
      (R : List String) (context : ExecutionContext),
      verify (sign (loginPayload user)) = some (loginPayload user) →
        user.prop "role" = .str r → context.user = loggedIn sign verify user →
          context.requiredRoles = some R → (canActivate context = .ok true ↔ r ∈ R) := by
  intro h
  have hadmin := (h sampleSign sampleVerify sampleAdmin "admin" ["admin"]
    (adminRequest ["admin"]) sampleVerify_sampleSign rfl rfl rfl).mpr (by decide)
  cases hadmin

end SensorNet.Backend
