import Mathlib.Data.List.Basic

/-!
# Strings of codewords of a prefix code

In a prefix code no codeword begins with another one, whatever comes after it: the first of
several codewords can be read without looking further. So a string of codewords is a string of
these only, and that holds of what has arrived of it, too, where the last codeword is cut off.
-/

namespace SensorNet

universe u v

/-- Of two values with `P`, only one can be read at the start of a string. -/
def PrefixCode {α : Type u} {β : Type v} (P : α → Prop) (enc : α → List β) : Prop :=
  ∀ a b s t, P a → P b → enc a ++ s = enc b ++ t → a = b

/-- No codeword of a value with `P` is at the start of the string. -/
def CutOff {α : Type u} {β : Type v} (P : α → Prop) (enc : α → List β) (tail : List β) : Prop :=
  ∀ a, P a → ¬ enc a <+: tail

variable {α : Type u} {β : Type v} {P : α → Prop} {enc : α → List β}

/-- **Unique readability**: codewords with something cut off behind them are no other codewords
with something cut off behind them. -/
theorem PrefixCode.read_unique (hcode : PrefixCode P enc) {as bs : List α} {s t : List β}
    (has : ∀ a ∈ as, P a) (hbs : ∀ b ∈ bs, P b) (hs : CutOff P enc s) (ht : CutOff P enc t)
    (h : as.flatMap enc ++ s = bs.flatMap enc ++ t) : as = bs ∧ s = t := by
  induction as generalizing bs with
  | nil =>
    cases bs with
    | nil => exact ⟨rfl, h⟩
    | cons b bs =>
      rw [List.flatMap_cons, List.append_assoc] at h
      exact absurd ⟨_, h.symm⟩ (hs b (hbs b List.mem_cons_self))
  | cons a as ih =>
    cases bs with
    | nil =>
      rw [List.flatMap_cons, List.append_assoc] at h
      exact absurd ⟨_, h⟩ (ht a (has a List.mem_cons_self))
    | cons b bs =>
      rw [List.flatMap_cons, List.flatMap_cons, List.append_assoc, List.append_assoc] at h
      have hfirst := hcode a b _ _ (has a List.mem_cons_self) (hbs b List.mem_cons_self) h
      subst hfirst
      obtain ⟨rfl, htail⟩ := ih (fun a ha => has a (List.mem_cons_of_mem _ ha))
        (fun b hb => hbs b (List.mem_cons_of_mem _ hb)) (List.append_cancel_left h)
      exact ⟨rfl, htail⟩

end SensorNet
