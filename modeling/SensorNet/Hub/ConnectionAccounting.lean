import SensorNet.Hub.ConnectionSlots

/-!
# Slot accounting of the connection manager

Whenever no connect call is between its steps, the table should account for the
live connections (`SlotAccounting`). Two events lose a slot for good: a
connection that fails to establish (`connected_cb` only logs the error) and a
disconnect that arrives before the connection is stored (`disconnected_cb` does
not find it). `slotAccounting_iff`: the accounting is right iff neither has
happened.
-/

namespace SensorNet.Hub

open Fw

namespace ConnSystem

/-- No connect call is between its steps. -/
def Quiescent (s : ConnSystem) : Prop := ∀ t, s.calls t = .idle

/-- The connections that were created and have neither failed nor ended. -/
def liveConns (s : ConnSystem) : List BtConn := s.born.filter fun c => (s.link c).live

/-- The accounting the connection manager owes whenever no call is between its
steps. -/
structure SlotAccounting (s : ConnSystem) : Prop where
  /-- `connection_manager_get_count` is the number of live connections. -/
  count : (exec connectionManagerGetCount s.mgr).1 = s.liveConns.length
  /-- Every in-use slot holds a live connection. -/
  used : ∀ i, (s.mgr.connections i).inUse = true →
    ∃ c ∈ s.liveConns, (s.mgr.connections i).conn = some c
  /-- No connection is in two slots. -/
  distinct : ∀ i j c, (s.mgr.connections i).conn = some c →
    (s.mgr.connections j).conn = some c → i = j
  /-- Every ended connection was unreferenced exactly once. -/
  unref : ∀ c ∈ s.born, (s.link c).live = false → s.mgr.unrefs.count c = 1

end ConnSystem

variable {role : Fin maxConnections → Role} {i : Fin maxConnections} {c : BtConn}

/-! ## Runs that lose no slot -/

/-- The stack event does not lose a slot: a connection does not fail to
establish, and does not end before the call that created it stored it. -/
def GoodStep (s : ConnSystem) : ConnEvent → Prop
  | .connected _ err => err = 0
  | .disconnected c _ => ∀ t i, s.calls t ≠ .created i c
  | _ => True

/-- Every connection that has a slot is live. -/
def SlotsLive (s : ConnSystem) : Prop :=
  ∃ role, SlotInv s role ∧ ∀ i c, (role i).conn = some c → (s.link c).live = true

theorem slotsLive_boot : SlotsLive .boot :=
  ⟨_, slotInv_boot, by simp [Role.conn]⟩

/-- The new role of a slot belongs to the connection it belonged to, or to none. -/
theorem conn_update_free {r : Role} (hr : r.conn = none) {j : Fin maxConnections}
    (hj : (Function.update role i r j).conn = some c) :
    j ≠ i ∧ (role j).conn = some c := by
  by_cases hji : j = i
  · subst hji
    rw [Function.update_self, hr] at hj
    cases hj
  · rw [Function.update_of_ne hji] at hj
    exact ⟨hji, hj⟩

/-- A good step keeps every slot with a connection live. -/
theorem slotsLive_step {s s' : ConnSystem} {e : ConnEvent} (h : SlotsLive s)
    (hgood : GoodStep s e) (hstep : connStep s e = some s') : SlotsLive s' := by
  obtain ⟨role, h, hlive⟩ := h
  cases connStep_cases hstep with
  | reserve hcall hi =>
    refine ⟨_, h.reserve hcall hi, fun j b hj => ?_⟩
    exact hlive j b (conn_update_free rfl hj).2
  | full => exact ⟨_, h, hlive⟩
  | createError hcall => exact ⟨_, h.createError hcall, hlive⟩
  | @create t i c hcall hc =>
    refine ⟨_, h.create hcall hc, fun j b hj => ?_⟩
    show (Function.update s.link c .pending b).live = true
    by_cases hji : j = i
    · subst hji
      rw [Function.update_self] at hj
      cases hj
      rw [Function.update_self]
      rfl
    · rw [Function.update_of_ne hji] at hj
      have hbc : b ≠ c := fun he => hc (he ▸ (h.tracked.tracked j b hj).1)
      rw [Function.update_of_ne hbc]
      exact hlive j b hj
  | release hcall =>
    refine ⟨_, h.release hcall, fun j b hj => ?_⟩
    exact hlive j b (conn_update_free rfl hj).2
  | @store t i c hcall =>
    refine ⟨_, h.store hcall, fun j b hj => hlive j b ?_⟩
    have hsame : (Function.update role i (.stored c) j).conn = (role j).conn :=
      congrFun (conn_update (by rw [h.role_flying hcall]; rfl)) j
    rw [← hsame]
    exact hj
  | @connected c err hc hlink =>
    have herr : err = 0 := hgood
    refine ⟨_, h.connected hlink err, fun j b hj => ?_⟩
    show (Function.update s.link c (if err = 0 then .established else .failed) b).live
      = true
    rw [if_pos herr]
    by_cases hbc : b = c
    · subst hbc
      rw [Function.update_self]
      rfl
    · rw [Function.update_of_ne hbc]
      exact hlive j b hj
  | @disconnected c reason i hc hlink hi =>
    refine ⟨_, h.disconnected hc hi, fun j b hj => ?_⟩
    obtain ⟨hji, hj'⟩ := conn_update_free rfl hj
    have hbc : b ≠ c := by
      rintro rfl
      exact hji (h.tracked.inj j i b hj' (by rw [h.role_stored hi]; rfl))
    show (Function.update s.link c .disconnected b).live = true
    rw [Function.update_of_ne hbc]
    exact hlive j b hj'
  | @lost c reason hc hlink hno =>
    -- the connection has a slot, and is neither stored there nor with a call
    obtain ⟨i, hi⟩ := h.exists_conn hc (by rw [hlink]; decide)
    exfalso
    rcases h.stored_or_created hi with hr | ⟨t, hcall⟩
    · exact hno i (by rw [h.entry i, hr]; rfl)
    · exact hgood t i hcall

/-- Live slots and no call between its steps: the accounting is right. -/
theorem SlotsLive.accounting {s : ConnSystem} (h : SlotsLive s) (hq : s.Quiescent) :
    s.SlotAccounting := by
  obtain ⟨role, h, hlive⟩ := h
  have hmem : ∀ b, b ∈ s.liveConns ↔ b ∈ s.born ∧ (s.link b).live = true := by
    intro b
    rw [ConnSystem.liveConns, List.mem_filter]
  -- without calls a slot in use stores its connection
  have hused : ∀ i, (s.mgr.connections i).inUse = true → ∃ b, role i = .stored b := by
    intro i hi
    rw [h.entry i] at hi
    cases hr : role i with
    | free => rw [hr] at hi; cases hi
    | held t =>
      have hcall := (h.claimed t i _).mpr ⟨hr, rfl⟩
      rw [hq t] at hcall
      cases hcall
    | flying t b =>
      have hcall := (h.claimed t i _).mpr ⟨hr, rfl⟩
      rw [hq t] at hcall
      cases hcall
    | stored b => exact ⟨b, rfl⟩
  have hslot : ∀ i, (s.mgr.connections i).inUse = true →
      ∃ b ∈ s.liveConns, (s.mgr.connections i).conn = some b := by
    intro i hi
    obtain ⟨b, hr⟩ := hused i hi
    have hconn : (role i).conn = some b := by rw [hr]; rfl
    refine ⟨b, (hmem b).mpr ⟨(h.tracked.tracked i b hconn).1, hlive i b hconn⟩, ?_⟩
    rw [h.entry i, hr]
    rfl
  have hdistinct : ∀ i j b, (s.mgr.connections i).conn = some b →
      (s.mgr.connections j).conn = some b → i = j := by
    intro i j b hi hj
    refine h.tracked.inj i j b ?_ ?_
    · rw [h.role_stored hi]
      rfl
    · rw [h.role_stored hj]
      rfl
  refine { count := ?_, used := hslot, distinct := hdistinct, unref := ?_ }
  · -- the slots in use and the live connections are paired by the connection stored
    rw [exec, connectionManagerGetCount_run]
    refine congrArg Nat.cast (countSlots_eq_length ConnectionEntry.conn
      (h.tracked.nodup.filter _) hslot ?_ ?_)
    · intro i j hi hj hij
      obtain ⟨b, -, hb⟩ := hslot i hi
      exact hdistinct i j b hb (hij ▸ hb)
    · intro b hb
      obtain ⟨hborn, hl⟩ := (hmem b).mp hb
      obtain ⟨i, hi⟩ := h.exists_conn hborn fun hd => by rw [hd] at hl; cases hl
      refine ⟨i, ?_⟩
      have hin : (s.mgr.connections i).inUse = true := by
        rw [h.entry i]
        cases hr : role i <;> rw [hr] at hi <;> first | rfl | cases hi
      obtain ⟨b', hr⟩ := hused i hin
      rw [hr] at hi
      cases hi
      exact ⟨hin, by rw [h.entry i, hr]; rfl⟩
  · intro b hb hl
    refine (h.tracked.untracked b hb fun i hi => ?_).2
    rw [hlive i b hi] at hl
    cases hl

/-! ## A slot once lost stays lost -/

/-- The connection ended, and nobody will unreference it. -/
structure Leaked (s : ConnSystem) (c : BtConn) : Prop where
  born : c ∈ s.born
  ended : s.link c = .failed ∨ s.link c = .disconnected
  kept : c ∉ s.mgr.unrefs

theorem leaked_step {s s' : ConnSystem} {e : ConnEvent}
    (h : Leaked s c) (hstep : connStep s e = some s') : Leaked s' c := by
  cases connStep_cases hstep with
  | reserve => exact ⟨h.born, h.ended, h.kept⟩
  | full => exact h
  | createError => exact ⟨h.born, h.ended, h.kept⟩
  | @create t i b hcall hb =>
    -- the stack does not hand out a connection again
    have hcb : c ≠ b := fun he => hb (he ▸ h.born)
    refine ⟨List.mem_append_left _ h.born, ?_, h.kept⟩
    simp only [Function.update_of_ne hcb]
    exact h.ended
  | release => exact ⟨h.born, h.ended, h.kept⟩
  | store => exact ⟨h.born, h.ended, h.kept⟩
  | @connected b err hb hlink =>
    have hcb : c ≠ b := by
      rintro rfl
      rcases h.ended with he | he <;> rw [hlink] at he <;> cases he
    refine ⟨h.born, ?_, h.kept⟩
    simp only [Function.update_of_ne hcb]
    exact h.ended
  | @disconnected b reason i hb hlink hi =>
    have hcb : c ≠ b := by
      rintro rfl
      rcases h.ended with he | he <;> rw [hlink] at he <;> cases he
    refine ⟨h.born, ?_, fun hu => ?_⟩
    · simp only [Function.update_of_ne hcb]
      exact h.ended
    · rcases List.mem_append.mp hu with hu | hu
      · exact h.kept hu
      · exact hcb (List.mem_singleton.mp hu)
  | @lost b reason hb hlink hno =>
    refine ⟨h.born, ?_, h.kept⟩
    -- a `disconnected` that finds no slot unreferences nothing
    by_cases hcb : c = b
    · subst hcb
      simp
    · simp only [Function.update_of_ne hcb]
      exact h.ended

/-- A step that is not good leaks a connection. -/
theorem leaked_of_not_good {s s' : ConnSystem} {e : ConnEvent}
    (h : SlotInv s role) (hgood : ¬ GoodStep s e) (hstep : connStep s e = some s') :
    ∃ c, Leaked s' c := by
  cases connStep_cases hstep with
  | reserve => exact absurd trivial hgood
  | full => exact absurd trivial hgood
  | createError => exact absurd trivial hgood
  | create => exact absurd trivial hgood
  | release => exact absurd trivial hgood
  | store => exact absurd trivial hgood
  | @connected c err hc hlink =>
    have herr : err ≠ 0 := hgood
    obtain ⟨i, hi⟩ := h.exists_conn hc (by rw [hlink]; decide)
    refine ⟨c, hc, .inl ?_, (h.tracked.tracked i c hi).2⟩
    simp [herr]
  | @disconnected c reason i hc hlink hi =>
    -- a stored connection is not in flight
    exfalso
    refine hgood fun t j hcall => ?_
    have hji := h.tracked.inj i j c (by rw [h.role_stored hi]; rfl)
      (by rw [h.role_flying hcall]; rfl)
    subst hji
    have := h.role_stored hi
    rw [h.role_flying hcall] at this
    cases this
  | @lost c reason hc hlink hno =>
    obtain ⟨i, hi⟩ := h.exists_conn hc (by rw [hlink]; decide)
    exact ⟨c, hc, .inr (by simp), (h.tracked.tracked i c hi).2⟩

/-- With a leaked connection the accounting is wrong. -/
theorem Leaked.not_accounting {s : ConnSystem} (h : Leaked s c) :
    ¬ s.SlotAccounting := by
  intro hacc
  have hl : (s.link c).live = false := by
    rcases h.ended with he | he <;> rw [he] <;> rfl
  have hone := hacc.unref c h.born hl
  rw [List.count_eq_zero.mpr h.kept] at hone
  cases hone

/-- **Slot accounting**: in a state in which no connect call is between its
steps, the accounting is right iff on the way there no connection failed to
establish and none ended before its call stored it. -/
theorem slotAccounting_iff {es : List ConnEvent} {s : ConnSystem}
    (hrun : run connStep .boot es = some s) (hq : s.Quiescent) :
    s.SlotAccounting ↔ Along connStep GoodStep .boot es := by
  constructor
  · intro hacc
    have hsplit : Along connStep GoodStep .boot es ∨ ∃ c, Leaked s c := by
      refine along_or_run (P := fun s => ∃ role, SlotInv s role)
        (Q := fun s => ∃ c, Leaked s c) ⟨_, slotInv_boot⟩
        (fun t e v h hstep => slotInv_step hstep h) ?_ ?_ hrun
      · rintro t e v ⟨role, h⟩ hbad hstep
        exact leaked_of_not_good h hbad hstep
      · rintro t e v ⟨c, hc⟩ hstep
        exact ⟨c, leaked_step hc hstep⟩
    rcases hsplit with hgood | ⟨c, hc⟩
    · exact hgood
    · exact absurd hacc hc.not_accounting
  · intro hgood
    have hlive : SlotsLive s := run_inv_along slotsLive_boot
      (fun t e v h hC hstep => slotsLive_step h hC hstep) hgood hrun
    exact hlive.accounting hq

/-- One connection is made, and established or not according to `err`. -/
def oneConnection (err : UInt8) : List ConnEvent :=
  [.reserve 0, .create 0 (.ok 5), .finish 0, .connected 5 err]

/-- A connection that is established is accounted for. -/
theorem slotAccounting_established :
    ∃ s, run connStep .boot (oneConnection 0) = some s ∧ s.SlotAccounting := by
  refine ⟨_, rfl, (slotAccounting_iff
    (show run connStep .boot (oneConnection 0) = some _ from rfl) ?_).mpr ?_⟩
  · intro t
    simp only [Function.update_apply]
    split <;> rfl
  · exact ⟨trivial, fun _ _ => ⟨trivial, fun _ _ => ⟨trivial, fun _ _ =>
      ⟨rfl, fun _ _ => trivial⟩⟩⟩⟩

/-- A connection that fails to establish keeps its slot in use. -/
theorem slot_lost_on_failure :
    ¬ ∀ es s, run connStep .boot es = some s → s.Quiescent → s.SlotAccounting := by
  intro h
  have hacc := h (oneConnection 1) _ rfl (by
    intro t
    simp only [Function.update_apply]
    split <;> rfl)
  have hcount := hacc.unref 5 (by decide) (by decide)
  revert hcount
  decide

end SensorNet.Hub
