import SensorNet.Lib.Json
import Mathlib.Data.List.Nodup

/-!
# JSON Schema

The part of JSON Schema (draft 07) in which every schema gives a `type`: then the keywords
for values of that type are the only ones with an effect. A property for which there is no
schema can hold anything.

What a pattern matches, and whether a format is checked at all, is up to the validator: a
`Dialect` says it.

- `Schema.Accepts`: the values that are valid.
- `accepts_object_iff`: an object that is written out is checked property by property.
- `accepts_fields_iff`: so is any object, against the properties that are listed.
- `accepts_obj_congr`: where two objects differ in one property, and one is valid, the
  other one is valid iff that property is.
-/

namespace SensorNet.Js

/-- What is left to a validator. -/
structure Dialect where
  hasPattern : String → String → Bool
  hasFormat : String → String → Bool

/-- The keywords for strings -/
structure StringKeywords where
  enum : Option (List String) := none
  pattern : Option String := none
  format : Option String := none

/-- The text is valid for the keywords. -/
def StringKeywords.Accepts (d : Dialect) (k : StringKeywords) (text : String) : Prop :=
  (∀ texts, k.enum = some texts → text ∈ texts) ∧
  (∀ pattern, k.pattern = some pattern → d.hasPattern pattern text = true) ∧
  (∀ format, k.format = some format → d.hasFormat format text = true)

/-- A schema, by its `type` -/
inductive Schema where
  | any
  | string (keywords : StringKeywords)
  | integer (minimum maximum : Int)
  | array (items : Schema)
  | object (required : List String) (properties : String → Schema)

namespace Schema

/-- `"properties"`, as they are listed -/
def fields (properties : List (String × Schema)) : String → Schema :=
  fun name => (properties.lookup name).getD any

/-- The value is valid. -/
def Accepts (d : Dialect) : Schema → Json → Prop
  | any, _ => True
  | string keywords, value => ∃ text, value = .str text ∧ keywords.Accepts d text
  | integer minimum maximum, value =>
    ∃ n : Int, value = .num n ∧ minimum ≤ n ∧ n ≤ maximum
  | array items, value => ∃ elems, value = .arr elems ∧ ∀ elem ∈ elems, items.Accepts d elem
  | object required properties, value =>
    ∃ props, value = .obj props ∧ (∀ name ∈ required, props name ≠ .undefined) ∧
      ∀ name, props name ≠ .undefined → (properties name).Accepts d (props name)

variable {d : Dialect}

theorem accepts_str {keywords : StringKeywords} {text : String} :
    (string keywords).Accepts d (.str text) ↔ keywords.Accepts d text := by
  constructor
  · rintro ⟨other, h, hother⟩
    cases h
    exact hother
  · exact fun h => ⟨text, rfl, h⟩

theorem accepts_num {minimum maximum n : Int} :
    (integer minimum maximum).Accepts d (.num n) ↔ minimum ≤ n ∧ n ≤ maximum := by
  constructor
  · rintro ⟨m, h, hm⟩
    have hnm : n = m := Rat.intCast_inj.mp (Json.num.inj h)
    rwa [hnm]
  · exact fun h => ⟨n, rfl, h⟩

theorem accepts_arr {items : Schema} {elems : List Json} :
    (array items).Accepts d (.arr elems) ↔ ∀ elem ∈ elems, items.Accepts d elem := by
  constructor
  · rintro ⟨other, h, hother⟩
    cases h
    exact hother
  · exact fun h => ⟨elems, rfl, h⟩

theorem accepts_obj {required : List String} {properties : String → Schema}
    {props : String → Json} :
    (object required properties).Accepts d (.obj props) ↔
      (∀ name ∈ required, props name ≠ .undefined) ∧
        ∀ name, props name ≠ .undefined → (properties name).Accepts d (props name) := by
  constructor
  · rintro ⟨other, h, hother⟩
    cases h
    exact hother
  · exact fun h => ⟨props, rfl, h⟩

theorem lookup_eq_some_of_mem {α : Type} {l : List (String × α)} (hnodup : (l.map Prod.fst).Nodup)
    {entry : String × α} (hmem : entry ∈ l) : l.lookup entry.1 = some entry.2 := by
  induction l with
  | nil => cases hmem
  | cons first rest ih =>
    obtain ⟨key, value⟩ := first
    obtain ⟨hfirst, hrest⟩ := List.nodup_cons.mp hnodup
    rw [List.lookup_cons]
    rcases List.mem_cons.mp hmem with rfl | hin
    · rw [beq_self_eq_true]
    · have hne : entry.1 ≠ key := by
        rintro rfl
        exact hfirst (List.mem_map.mpr ⟨entry, hin, rfl⟩)
      rw [beq_false_of_ne hne]
      exact ih hrest hin

/-- An object that is written out is checked property by property. -/
theorem accepts_object_iff {required : List String} {properties : String → Schema}
    {props : List (String × Json)} (hnodup : (props.map Prod.fst).Nodup) :
    (object required properties).Accepts d (.object props) ↔
      (∀ name ∈ required, (props.lookup name).getD .undefined ≠ .undefined) ∧
        ∀ entry ∈ props, entry.2 ≠ .undefined → (properties entry.1).Accepts d entry.2 := by
  refine accepts_obj.trans (and_congr_right fun _ => ?_)
  constructor
  · intro h entry hmem hgiven
    have hlookup := lookup_eq_some_of_mem hnodup hmem
    have hentry := h entry.1
    rw [hlookup] at hentry
    exact hentry hgiven
  · intro h name hgiven
    cases hlookup : props.lookup name with
    | none =>
      rw [hlookup] at hgiven
      exact absurd rfl hgiven
    | some value =>
      rw [hlookup] at hgiven
      obtain ⟨l₁, l₂, rfl, -⟩ := List.lookup_eq_some_iff.mp hlookup
      exact h (name, value) (by simp) hgiven

/-- Of an object only the properties that the schema lists are checked. -/
theorem accepts_fields_iff {required : List String} {properties : List (String × Schema)}
    (hnodup : (properties.map Prod.fst).Nodup) {props : String → Json} :
    (object required (fields properties)).Accepts d (.obj props) ↔
      (∀ name ∈ required, props name ≠ .undefined) ∧
        ∀ field ∈ properties, props field.1 ≠ .undefined → field.2.Accepts d (props field.1) := by
  refine accepts_obj.trans (and_congr_right fun _ => ?_)
  constructor
  · intro h field hmem hgiven
    have hfield := h field.1 hgiven
    rwa [fields, lookup_eq_some_of_mem hnodup hmem, Option.getD_some] at hfield
  · intro h name hgiven
    cases hlookup : properties.lookup name with
    | none =>
      -- no schema for the property
      rw [fields, hlookup]
      trivial
    | some schema =>
      rw [fields, hlookup, Option.getD_some]
      obtain ⟨l₁, l₂, rfl, -⟩ := List.lookup_eq_some_iff.mp hlookup
      exact h (name, schema) (by simp) hgiven

/-- Where two objects differ in one property, and one of them is valid, the other one is valid
iff that property is. -/
theorem accepts_obj_congr {properties : String → Schema} {old new : String → Json}
    {name : String} (hold : (object [] properties).Accepts d (.obj old))
    (hsame : ∀ other, other ≠ name → new other = old other) :
    (object [] properties).Accepts d (.obj new) ↔
      (new name ≠ .undefined → (properties name).Accepts d (new name)) := by
  rw [accepts_obj] at hold ⊢
  constructor
  · exact fun h => h.2 name
  · intro h
    refine ⟨fun _ hin => absurd hin List.not_mem_nil, fun other hgiven => ?_⟩
    by_cases hother : other = name
    · rw [hother] at hgiven ⊢
      exact h hgiven
    · rw [hsame other hother] at hgiven ⊢
      exact hold.2 other hgiven

end Schema

end SensorNet.Js
