import Mathlib.Data.List.Basic

/-!
# Views that are loaded and loaded again

A view shows the answer to the last of its loads that has arrived. A load asks for what a store
holds under a key: it is sent, served from the store as it is then, and later its answer
arrives. Several loads can be in flight.

`Current read k v`: the view is about to show what the store holds under `k`, and shows it once
no load is in flight. That is so after a load of `k` was sent (`current_load`), is kept while
the loads are served (`Current.serve`), and their answers arrive, the last one after the others
(`Current.arrive`). It is lost when the store changes: then a load has to be sent again.
-/

namespace SensorNet.ReloadedView

universe u v

/-- A load in flight: the key, and the answer once it is served -/
structure Load (κ : Type u) (ν : Type v) where
  key : κ
  answer : Option ν := none

/-- What is shown, and the loads in flight, in the order in which they were sent -/
structure View (κ : Type u) (ν : Type v) where
  shown : ν
  loads : List (Load κ ν) := []

variable {κ : Type u} {ν : Type v}

namespace View

/-- A load of the key is sent. -/
def load (k : κ) (v : View κ ν) : View κ ν := { v with loads := v.loads ++ [{ key := k }] }

/-- The `i`-th load in flight is served, once, from a store that holds `read k` under `k`. -/
def serve (read : κ → ν) (i : Nat) (v : View κ ν) : Option (View κ ν) :=
  match v.loads[i]? with
  | some ⟨k, none⟩ => some { v with loads := v.loads.set i ⟨k, some (read k)⟩ }
  | _ => none

/-- The answer to the `i`-th load in flight arrives. -/
def arrive (i : Nat) (v : View κ ν) : Option (View κ ν) :=
  (v.loads[i]?.bind Load.answer).map fun answer => ⟨answer, v.loads.eraseIdx i⟩

/-- The `i`-th load in flight fails. -/
def lose (i : Nat) (v : View κ ν) : Option (View κ ν) :=
  v.loads[i]?.map fun _ => { v with loads := v.loads.eraseIdx i }

end View

/-- The last load in flight is for the key, and its answer, if it is served, is what the store
holds; and so is what is shown if no load is in flight. -/
def Current (read : κ → ν) (k : κ) (v : View κ ν) : Prop :=
  match v.loads.getLast? with
  | none => v.shown = read k
  | some last => last.key = k ∧ ∀ answer, last.answer = some answer → answer = read k

variable {read : κ → ν} {k : κ} {v w : View κ ν}

theorem current_load (read : κ → ν) (k : κ) (v : View κ ν) : Current read k (v.load k) := by
  unfold Current View.load
  simp

/-- With no load in flight the view shows what the store holds. -/
theorem Current.shown_eq (h : Current read k v) (hidle : v.loads = []) : v.shown = read k := by
  unfold Current at h
  rw [hidle] at h
  exact h

/-- What is asked for does not change as loads are served, and the last answer is right. -/
theorem Current.serve {i : Nat} (h : Current read k v) (hserve : v.serve read i = some w) :
    Current read k w := by
  unfold View.serve at hserve
  split at hserve
  · next asked hload =>
    cases hserve
    have hlt : i < v.loads.length := (List.getElem?_eq_some_iff.mp hload).1
    unfold Current at h ⊢
    simp only [List.getLast?_eq_getElem?, List.length_set] at h ⊢
    by_cases hlast : i = v.loads.length - 1
    · -- the last load is served from the store
      subst hlast
      rw [hload] at h
      rw [List.getElem?_set_self hlt]
      refine ⟨h.1, fun answer hanswer => ?_⟩
      cases hanswer
      rw [show asked = k from h.1]
    · rwa [List.getElem?_set_ne hlast]
  · cases hserve

/-- The last of several loads stays the last one if another is no longer in flight. -/
theorem getLast?_eraseIdx {l : List (Load κ ν)} {i : Nat} (h : i + 1 < l.length) :
    (l.eraseIdx i).getLast? = l.getLast? := by
  have hlt : ¬ l.length - 1 - 1 < i := by omega
  have hnext : l.length - 1 - 1 + 1 = l.length - 1 := by omega
  rw [List.getLast?_eq_getElem?, List.getLast?_eq_getElem?, List.getElem?_eraseIdx,
    List.length_eraseIdx_of_lt (by omega), if_neg hlt, hnext]

/-- A load that is not the last one does not matter. -/
theorem Current.erase {i : Nat} (h : Current read k v) (hi : i + 1 < v.loads.length) (shown : ν) :
    Current read k ⟨shown, v.loads.eraseIdx i⟩ := by
  unfold Current at h ⊢
  rw [getLast?_eraseIdx hi]
  cases hlast : v.loads.getLast? with
  | none =>
    rw [List.getLast?_eq_none_iff.mp hlast] at hi
    simp at hi
  | some last =>
    rw [hlast] at h
    exact h

/-- The last load has to be answered after the others: then its answer is shown. -/
theorem Current.arrive {i : Nat} (h : Current read k v) (harrive : v.arrive i = some w)
    (hlast : i + 1 = v.loads.length → i = 0) : Current read k w := by
  obtain ⟨answer, hanswer, rfl⟩ := Option.map_eq_some_iff.mp harrive
  obtain ⟨load, hload, hserved⟩ := Option.bind_eq_some_iff.mp hanswer
  have hlt : i < v.loads.length := (List.getElem?_eq_some_iff.mp hload).1
  by_cases hi : i + 1 < v.loads.length
  · exact h.erase hi answer
  · -- this load is the only one
    have hzero := hlast (by omega)
    subst hzero
    obtain ⟨only, hloads⟩ := List.length_eq_one_iff.mp (show v.loads.length = 1 by omega)
    rw [hloads] at hload
    cases hload
    unfold Current at h ⊢
    rw [hloads] at h ⊢
    exact h.2 answer hserved

/-- A load may fail, but not the last one. -/
theorem Current.lose {i : Nat} (h : Current read k v) (hlose : v.lose i = some w)
    (hi : i + 1 < v.loads.length) : Current read k w := by
  obtain ⟨-, -, rfl⟩ := Option.map_eq_some_iff.mp hlose
  exact h.erase hi v.shown

/-- The store may change elsewhere. -/
theorem Current.congr {read' : κ → ν} (h : Current read k v) (hread : read' k = read k) :
    Current read' k v := by
  unfold Current at h ⊢
  rw [hread]
  exact h

end SensorNet.ReloadedView
