import Mathlib.Logic.Function.Basic

/-!
# JSON values of JavaScript

An object is the function from property names to values; a property that is not
there reads as `undefined`, so two objects are equal iff they read alike.

- `Json.truthy`: what a condition or `||` makes of a value.
- `Json.spread`: the elements that `[...value]` lists, `none` where it throws.
- `Json.merge`: recursive merge of a patch into a value. Objects are merged
  property by property, but for the properties whose name begins with `$`, which a
  patch cannot set; every other value, arrays included, replaces what was there.
- `Json.NullFree`: no object in the value has a property that is `null`.
-/

namespace SensorNet.Js

/-- A JSON value, or `undefined`. -/
inductive Json where
  | undefined
  | null
  | bool (b : Bool)
  | num (n : Rat)
  | str (s : String)
  | arr (elems : List Json)
  | obj (props : String → Json)

namespace Json

/-- Whether a condition on the value holds. -/
def truthy : Json → Bool
  | undefined | null => false
  | bool b => b
  | num n => n != 0
  | str s => s != ""
  | arr _ | obj _ => true

/-- The elements of `[...value]`; `none` if the value is not iterable. -/
def spread : Json → Option (List Json)
  | arr elems => some elems
  | str s => some (s.toList.map fun c => str (String.singleton c))
  | _ => none

/-- The name begins with `$`. -/
def isMeta (name : String) : Bool := name.toList.head? == some '$'

/-- The object with the listed properties. -/
def object (props : List (String × Json)) : Json :=
  obj fun name => (props.lookup name).getD undefined

/-- The property of an object. -/
def prop (name : String) : Json → Json
  | obj props => props name
  | _ => undefined

/-- Merge a patch into a value. -/
def merge (base : Json) : Json → Json
  | undefined => base
  | obj patch => obj fun name =>
      let old := match base with
        | obj props => props name
        | _ => undefined
      if isMeta name then old else merge old (patch name)
  | patch => patch

@[simp] theorem merge_undefined (base : Json) : base.merge undefined = base := by
  rw [merge]

@[simp] theorem merge_arr (base : Json) (elems : List Json) :
    base.merge (arr elems) = arr elems := by
  rw [merge]
  all_goals simp

/-- Merging a value into itself changes nothing. -/
@[simp] theorem merge_self : ∀ v : Json, v.merge v = v
  | undefined => merge_undefined _
  | null | bool _ | num _ | str _ => by rw [merge] <;> simp
  | arr elems => merge_arr _ elems
  | obj props => by
    rw [merge]
    refine congrArg obj (funext fun name => ?_)
    by_cases hm : isMeta name = true
    · rw [if_pos hm]
    · rw [if_neg hm]
      exact merge_self (props name)

@[simp] theorem merge_str (base : Json) (s : String) : base.merge (str s) = str s := by
  rw [merge]
  all_goals simp

/-- A patch that is an object is merged property by property. -/
theorem merge_obj (base : Json) (patch : String → Json) :
    base.merge (obj patch) = obj fun name =>
      if isMeta name then base.prop name else (base.prop name).merge (patch name) := by
  rw [merge]
  cases base <;> rfl

/-- The value is not `null`, and if it is an object, its properties are so. What is in an
array does not matter. -/
def NullFree : Json → Prop
  | null => False
  | obj props => ∀ name, (props name).NullFree
  | _ => True

/-- Merging does not make a `null`. -/
theorem NullFree.merge : ∀ {patch base : Json}, base.NullFree → patch.NullFree →
    (base.merge patch).NullFree
  | undefined, base, hbase, _ => by rwa [merge_undefined]
  | bool _, _, _, _ | num _, _, _, _ | str _, _, _, _ => by rw [Json.merge] <;> simp [NullFree]
  | arr _, _, _, _ => by rw [merge_arr]; trivial
  | obj patch, base, hbase, hpatch => by
    rw [merge_obj]
    intro name
    have hold : (base.prop name).NullFree := by
      cases base with
      | obj props => exact hbase name
      | _ => trivial
    dsimp only
    split
    · exact hold
    · exact NullFree.merge hold (hpatch name)

end Json

end SensorNet.Js
