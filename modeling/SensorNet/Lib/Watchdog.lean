import Mathlib.Data.List.Basic

/-!
# Feeding a watchdog

A program sleeps and feeds its watchdog. The watchdog is content with a trace of
these actions if no stretch of it without a feed is longer than the window
(`Fed`): neither the time up to the first feed, nor that between two feeds, nor
that since the last one. `fed_append_feed` cuts a trace at a feed, and
`fed_iff_of_not_mem` judges what has none.
-/

namespace SensorNet

/-- What the watchdog sees of a program: it sleeps, for some milliseconds, or feeds. -/
inductive WatchdogAction where
  | sleep (ms : Nat)
  | feed
  deriving DecidableEq, Repr

namespace WatchdogAction

/-- The total of the sleeps. -/
def totalSleep : List WatchdogAction → Nat
  | [] => 0
  | sleep ms :: acts => ms + totalSleep acts
  | feed :: acts => totalSleep acts

@[simp] theorem totalSleep_nil : totalSleep [] = 0 := rfl

@[simp] theorem totalSleep_sleep (ms : Nat) (acts : List WatchdogAction) :
    totalSleep (sleep ms :: acts) = ms + totalSleep acts := rfl

@[simp] theorem totalSleep_append (acts more : List WatchdogAction) :
    totalSleep (acts ++ more) = totalSleep acts + totalSleep more := by
  induction acts with
  | nil => exact (Nat.zero_add _).symm
  | cons a acts ih =>
    cases a with
    | sleep ms =>
      show ms + totalSleep (acts ++ more) = ms + totalSleep acts + totalSleep more
      rw [ih, Nat.add_assoc]
    | feed => exact ih

@[simp] theorem totalSleep_replicate (n ms : Nat) :
    totalSleep (List.replicate n (sleep ms)) = n * ms := by
  induction n with
  | zero => exact (Nat.zero_mul ms).symm
  | succ n ih => rw [List.replicate_succ, totalSleep_sleep, ih, Nat.succ_mul, Nat.add_comm]

/-- No stretch without a feed is longer than the window. -/
def Fed (window : Nat) (acts : List WatchdogAction) : Prop :=
  ∀ pre stretch post, acts = pre ++ stretch ++ post → feed ∉ stretch →
    totalSleep stretch ≤ window

/-- Without a feed, all of the sleep has to fit into the window. -/
theorem fed_iff_of_not_mem {window : Nat} {acts : List WatchdogAction} (hno : feed ∉ acts) :
    Fed window acts ↔ totalSleep acts ≤ window := by
  constructor
  · intro h
    exact h [] acts [] (by rw [List.nil_append, List.append_nil]) hno
  · rintro h pre stretch post rfl -
    rw [totalSleep_append, totalSleep_append] at h
    omega

/-- A feed separates what is before it from what is after it. -/
theorem fed_append_feed {window : Nat} {acts more : List WatchdogAction} :
    Fed window (acts ++ feed :: more) ↔ Fed window acts ∧ Fed window more := by
  constructor
  · intro h
    constructor
    · rintro pre stretch post rfl hno
      exact h pre stretch (post ++ feed :: more) (List.append_assoc ..) hno
    · rintro pre stretch post rfl hno
      exact h (acts ++ feed :: pre) stretch post (by simp) hno
  · rintro ⟨hacts, hmore⟩ pre stretch post heq hno
    rcases List.append_eq_append_iff.mp heq with ⟨excess, hexcess, htail⟩ | ⟨rest, hrest, -⟩
    · -- the stretch ends behind `acts`
      cases excess with
      | nil =>
        rw [List.append_nil] at hexcess
        exact hacts pre stretch [] (by rw [List.append_nil, hexcess]) hno
      | cons a excess =>
        obtain ⟨rfl, rfl⟩ := List.cons_eq_cons.mp htail
        rcases List.append_eq_append_iff.mp hexcess with ⟨gap, -, hgap⟩ | ⟨gap, -, hgap⟩
        · exact absurd (by rw [hgap]; simp) hno
        · -- and it begins there: not with the feed, so behind it
          cases gap with
          | nil => exact absurd (by rw [← List.nil_append stretch, ← hgap]; simp) hno
          | cons b gap =>
            obtain ⟨-, rfl⟩ := List.cons_eq_cons.mp hgap
            exact hmore gap stretch post rfl hno
    · -- the stretch is part of `acts`
      exact hacts pre stretch rest hrest hno

end WatchdogAction

end SensorNet
