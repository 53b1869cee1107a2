import Mathlib.Data.List.Sort
import Mathlib.Order.Lattice

/-!
# Bubble sort

The sort of two nested counting loops over indices, on lists over any linear order: pass `i`
compares the neighbours `j` and `j + 1` for `j` below `length - i - 1` and exchanges them
where they stand in the wrong order. Each pass leaves a largest of the remaining elements
behind them (`exists_pass_eq`), so the result is sorted (`sort_pairwise`); it has the same
elements (`sort_perm`), and depends on nothing else (`sort_eq_of_perm`).
-/

namespace SensorNet.BubbleSort

variable {α : Type} [LinearOrder α]

/-- Exchange the elements at `j` and `j + 1` if the first one is larger. -/
def compareSwap (l : List α) (j : Nat) : List α :=
  match l[j]?, l[j + 1]? with
  | some a, some b => if b < a then (l.set j b).set (j + 1) a else l
  | _, _ => l

/-- The inner loop, up to but not including `m` -/
def pass (l : List α) (m : Nat) : List α := (List.range m).foldl compareSwap l

/-- The first `i` passes -/
def passes (l : List α) (i : Nat) : List α :=
  (List.range i).foldl (fun l' i' => pass l' (l.length - i' - 1)) l

/-- Both loops -/
def sort (l : List α) : List α := passes l (l.length - 1)

theorem pass_succ (l : List α) (m : Nat) : pass l (m + 1) = compareSwap (pass l m) m := by
  unfold pass
  rw [List.range_succ, List.foldl_append, List.foldl_cons, List.foldl_nil]

@[simp] theorem passes_zero (l : List α) : passes l 0 = l := rfl

theorem passes_succ (l : List α) (i : Nat) :
    passes l (i + 1) = pass (passes l i) (l.length - i - 1) := by
  unfold passes
  rw [List.range_succ, List.foldl_append, List.foldl_cons, List.foldl_nil]

/-! ## One exchange -/

/-- Two neighbours are put in order. -/
theorem compareSwap_append (front rest : List α) (a b : α) :
    compareSwap (front ++ a :: b :: rest) front.length = front ++ min a b :: max a b :: rest := by
  have ha : (front ++ a :: b :: rest)[front.length]? = some a := by simp
  have hb : (front ++ a :: b :: rest)[front.length + 1]? = some b := by simp
  unfold compareSwap
  rw [ha, hb]
  dsimp only
  by_cases hab : b < a
  · rw [if_pos hab, min_eq_right hab.le, max_eq_left hab.le, List.set_append_right _ _ le_rfl,
      List.set_append_right _ _ (Nat.le_succ _)]
    simp
  · rw [if_neg hab, min_eq_left (not_lt.mp hab), max_eq_right (not_lt.mp hab)]

@[simp] theorem length_compareSwap (l : List α) (j : Nat) :
    (compareSwap l j).length = l.length := by
  unfold compareSwap
  split
  · split
    · rw [List.length_set, List.length_set]
    · rfl
  · rfl

@[simp] theorem length_pass (l : List α) (m : Nat) : (pass l m).length = l.length := by
  induction m with
  | zero => rfl
  | succ m ih => rw [pass_succ, length_compareSwap, ih]

@[simp] theorem length_passes (l : List α) (i : Nat) : (passes l i).length = l.length := by
  induction i with
  | zero => rfl
  | succ i ih => rw [passes_succ, length_pass, ih]

@[simp] theorem length_sort (l : List α) : (sort l).length = l.length := length_passes l _

/-! ## One pass -/

/-- After `m` steps a largest of the first `m + 1` elements is the last of them, and the
elements behind it are where they were. -/
theorem exists_pass_eq {l : List α} {m : Nat} (hm : m < l.length) :
    ∃ lower top, pass l m = lower ++ top :: l.drop (m + 1) ∧ lower.length = m ∧
      (lower ++ [top]).Perm (l.take (m + 1)) ∧ ∀ a ∈ lower, a ≤ top := by
  induction m with
  | zero =>
    obtain ⟨first, rest, rfl⟩ := List.exists_cons_of_length_pos hm
    exact ⟨[], first, rfl, rfl, .rfl, fun a ha => absurd ha List.not_mem_nil⟩
  | succ m ih =>
    obtain ⟨lower, top, heq, hlen, hperm, hle⟩ := ih (Nat.lt_of_succ_lt hm)
    refine ⟨lower ++ [min top l[m + 1]], max top l[m + 1], ?_, ?_, ?_, ?_⟩
    · have hstep := compareSwap_append lower (l.drop (m + 1 + 1)) top l[m + 1]
      rw [hlen] at hstep
      rw [pass_succ, heq, List.drop_eq_getElem_cons hm, hstep, List.append_assoc]
      rfl
    · rw [List.length_append, hlen]
      rfl
    · -- the two elements in order are the two elements
      have hswap : [min top l[m + 1], max top l[m + 1]].Perm [top, l[m + 1]] := by
        rcases le_total top l[m + 1] with h | h
        · rw [min_eq_left h, max_eq_right h]
        · rw [min_eq_right h, max_eq_left h]
          exact List.Perm.swap ..
      rw [List.take_succ_eq_append_getElem hm, List.append_assoc]
      refine (hswap.append_left lower).trans ?_
      rw [show lower ++ [top, l[m + 1]] = lower ++ [top] ++ [l[m + 1]] by simp]
      exact hperm.append_right _
    · intro a ha
      rcases List.mem_append.mp ha with ha | ha
      · exact (hle a ha).trans (le_max_left ..)
      · rw [List.mem_singleton.mp ha]
        exact (min_le_left ..).trans (le_max_left ..)

/-! ## All passes -/

/-- After `i` passes:
1. the elements are the ones of the list;
2. the last `i` are sorted;
3. none of the others is larger than one of them. -/
structure SortedBehind (l l' : List α) (i : Nat) : Prop where
  perm : l'.Perm l
  sorted : (l'.drop (l.length - i)).Pairwise (· ≤ ·)
  le : ∀ a ∈ l'.take (l.length - i), ∀ b ∈ l'.drop (l.length - i), a ≤ b

theorem sortedBehind_passes {l : List α} {i : Nat} (hi : i ≤ l.length) :
    SortedBehind l (passes l i) i := by
  induction i with
  | zero =>
    have hnone : l.drop (l.length - 0) = [] := List.drop_length
    refine ⟨.rfl, ?_, fun a _ b hb => ?_⟩
    · rw [passes_zero, hnone]
      exact List.Pairwise.nil
    · rw [passes_zero, hnone] at hb
      exact absurd hb List.not_mem_nil
  | succ i ih =>
    have h := ih (Nat.le_of_succ_le hi)
    have hlen := length_passes l i
    -- the pass moves the largest of what is not yet in order to its end
    obtain ⟨lower, top, heq, hlower, hperm, hle⟩ :=
      exists_pass_eq (l := passes l i) (m := l.length - i - 1) (by omega)
    have hcut : l.length - i - 1 + 1 = l.length - i := by omega
    rw [hcut] at heq hperm
    have htake : (pass (passes l i) (l.length - i - 1)).take (l.length - (i + 1)) = lower := by
      rw [heq, show l.length - (i + 1) = lower.length by omega, List.take_left]
    have hdrop : (pass (passes l i) (l.length - i - 1)).drop (l.length - (i + 1)) =
        top :: (passes l i).drop (l.length - i) := by
      rw [heq, show l.length - (i + 1) = lower.length by omega, List.drop_left]
    rw [passes_succ]
    refine ⟨?_, ?_, ?_⟩
    · rw [heq, show lower ++ top :: (passes l i).drop (l.length - i) =
        lower ++ [top] ++ (passes l i).drop (l.length - i) by simp]
      refine (hperm.append_right _).trans ?_
      rw [List.take_append_drop]
      exact h.perm
    · rw [hdrop, List.pairwise_cons]
      refine ⟨fun b hb => h.le top ?_ b hb, h.sorted⟩
      exact hperm.mem_iff.mp (by simp)
    · intro a ha b hb
      rw [htake] at ha
      rw [hdrop] at hb
      rcases List.mem_cons.mp hb with rfl | hb
      · exact hle a ha
      · exact h.le a (hperm.mem_iff.mp (List.mem_append_left _ ha)) b hb

/-- The result has the same elements. -/
theorem sort_perm (l : List α) : (sort l).Perm l :=
  (sortedBehind_passes (Nat.sub_le _ _)).perm

/-- The result is sorted. -/
theorem sort_pairwise (l : List α) : (sort l).Pairwise (· ≤ ·) := by
  have h := sortedBehind_passes (Nat.sub_le l.length 1)
  change SortedBehind l (sort l) (l.length - 1) at h
  rw [← List.take_append_drop (l.length - (l.length - 1)) (sort l), List.pairwise_append]
  refine ⟨?_, h.sorted, h.le⟩
  -- at most one element is left in front
  have hshort : ((sort l).take (l.length - (l.length - 1))).length ≤ 1 := by
    rw [List.length_take, length_sort]
    omega
  generalize (sort l).take (l.length - (l.length - 1)) = front at hshort
  match front, hshort with
  | [], _ => exact List.Pairwise.nil
  | [a], _ => exact List.pairwise_singleton ..

/-- The result depends on the elements only. -/
theorem sort_eq_of_perm {l l' : List α} (h : l.Perm l') : sort l = sort l' :=
  ((sort_perm l).trans (h.trans (sort_perm l').symm)).eq_of_pairwise'
    (sort_pairwise l) (sort_pairwise l')

/-! ## The middle element -/

theorem le_getElem_of_le {l : List α} (h : l.Pairwise (· ≤ ·)) {i j : Nat} (hij : i ≤ j)
    (hj : j < l.length) : l[i] ≤ l[j] := by
  rcases Nat.eq_or_lt_of_le hij with rfl | hlt
  · exact le_rfl
  · exact List.pairwise_iff_getElem.mp h i j _ _ hlt

/-- At least half of the elements of a sorted list are at most its middle element. -/
theorem half_le_middle {l : List α} (h : l.Pairwise (· ≤ ·)) {middle : α}
    (hmiddle : l[l.length / 2]? = some middle) :
    l.length ≤ 2 * l.countP (fun a => decide (a ≤ middle)) := by
  obtain ⟨hlt, rfl⟩ := List.getElem?_eq_some_iff.mp hmiddle
  have hall : (l.take (l.length / 2 + 1)).countP (fun a => decide (a ≤ l[l.length / 2])) =
      l.length / 2 + 1 := by
    rw [List.countP_eq_length.mpr, List.length_take, min_eq_left hlt]
    intro a ha
    obtain ⟨i, hi, rfl⟩ := List.mem_take_iff_getElem.mp ha
    exact decide_eq_true (le_getElem_of_le h (by omega) hlt)
  have hsub := (List.take_sublist (l.length / 2 + 1) l).countP_le
    (p := fun a => decide (a ≤ l[l.length / 2]))
  omega

/-- At least half of the elements of a sorted list are at least its middle element. -/
theorem half_ge_middle {l : List α} (h : l.Pairwise (· ≤ ·)) {middle : α}
    (hmiddle : l[l.length / 2]? = some middle) :
    l.length ≤ 2 * l.countP (fun a => decide (middle ≤ a)) := by
  obtain ⟨hlt, rfl⟩ := List.getElem?_eq_some_iff.mp hmiddle
  have hall : (l.drop (l.length / 2)).countP (fun a => decide (l[l.length / 2] ≤ a)) =
      l.length - l.length / 2 := by
    rw [List.countP_eq_length.mpr, List.length_drop]
    intro a ha
    obtain ⟨i, hi, rfl⟩ := List.mem_drop_iff_getElem.mp ha
    exact decide_eq_true (le_getElem_of_le h (by omega) (by omega))
  have hsub := (List.drop_sublist (l.length / 2) l).countP_le
    (p := fun a => decide (l[l.length / 2] ≤ a))
  omega

end SensorNet.BubbleSort
