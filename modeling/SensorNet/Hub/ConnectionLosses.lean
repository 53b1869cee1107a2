import SensorNet.Hub.ConnectionAccounting

/-!
# What the lost slots of the connection manager add up to

`ConnectionAccounting` says which events lose a slot. Here they are counted. Every one of them
leaves a slot with a connection that has ended, and no operation ever clears such a slot, so the
events that have lost a slot so far are as many as the slots that are lost (`lossInv_run`): in no
run from `connection_manager_init` can there be more than `MAX_CONNECTIONS` of them.

`losses_accounted` says what that means for the manager: between calls
`connection_manager_get_count` is the number of live connections and of losses, no connection is
unreferenced twice or while it lives, and after `MAX_CONNECTIONS` losses no call of
`connection_manager_connect` gets a slot, or asks the stack for a connection, ever again.
-/

namespace SensorNet.Hub

open Fw

/-! ## Counting losses -/

open Classical in
/-- How many slots an event loses -/
noncomputable def lossOf (s : ConnSystem) (e : ConnEvent) : Nat := if GoodStep s e then 0 else 1

/-- The slots lost in a run from the start of the manager -/
noncomputable def losses (es : List ConnEvent) : Nat := runTotal connStep lossOf .boot es

/-- The role of a slot that is lost: it has a connection that is no longer live. -/
def Role.dead (link : BtConn → Link) (r : Role) : Bool := r.conn.any fun c => !(link c).live

/-- The table is what the roles of its slots say, and the lost slots are counted. -/
def LossInv (n : Nat) (s : ConnSystem) : Prop :=
  ∃ role, SlotInv s role ∧ countSlots (Role.dead s.link) role = n

variable {role : Fin maxConnections → Role} {s : ConnSystem} {i : Fin maxConnections} {c : BtConn}

theorem lossOf_of_good {e : ConnEvent} (h : GoodStep s e) : lossOf s e = 0 := if_pos h

theorem lossOf_of_not_good {e : ConnEvent} (h : ¬ GoodStep s e) : lossOf s e = 1 := if_neg h

/-- A slot is lost iff it has a connection that is no longer live. -/
theorem dead_iff {link : BtConn → Link} {r : Role} :
    r.dead link = true ↔ ∃ c, r.conn = some c ∧ (link c).live = false := by
  simp [Role.dead, Option.any_eq_true]

/-- What is lost depends on the connection of the slot only. -/
theorem dead_congr {link : BtConn → Link} {r r' : Role} (h : r.conn = r'.conn) :
    r.dead link = r'.dead link := congrArg (Option.any _) h

theorem dead_of_conn_none {link : BtConn → Link} {r : Role} (h : r.conn = none) :
    r.dead link = false := by
  rw [Role.dead, h]
  rfl

/-- News of a connection that does not have the slot -/
theorem dead_link_of_ne {link : BtConn → Link} {r : Role} {l : Link} (h : r.conn ≠ some c) :
    r.dead (Function.update link c l) = r.dead link := by
  unfold Role.dead
  cases hr : r.conn with
  | none => rfl
  | some b =>
    have hbc : b ≠ c := fun heq => h (by rw [hr, heq])
    rw [Option.any_some, Option.any_some, Function.update_of_ne hbc]

/-- A slot takes on a role that is not lost, from one that was not lost. -/
theorem count_update {link : BtConn → Link} {r : Role} (hold : (role i).dead link = false)
    (hnew : r.dead link = false) :
    countSlots (Role.dead link) (Function.update role i r) =
      countSlots (Role.dead link) role := by
  refine countSlots_congr fun j => ?_
  by_cases hj : j = i
  · rw [hj, Function.update_self, hnew, hold]
  · rw [Function.update_of_ne hj]

/-- News that a connection is live, which was so before -/
theorem count_live {link : BtConn → Link} {l : Link} (hold : (link c).live = true)
    (hnew : l.live = true) :
    countSlots (Role.dead (Function.update link c l)) role =
      countSlots (Role.dead link) role := by
  refine countSlots_congr fun j => ?_
  by_cases hj : (role j).conn = some c
  · simp [Role.dead, hj, hold, hnew]
  · exact dead_link_of_ne hj

/-- News that a live connection has ended which has a slot: the slot is lost. -/
theorem SlotInv.count_ended (h : SlotInv s role) {l : Link} (hi : (role i).conn = some c)
    (hold : (s.link c).live = true) (hnew : l.live = false) :
    countSlots (Role.dead (Function.update s.link c l)) role =
      countSlots (Role.dead s.link) role + 1 := by
  refine countSlots_eq_succ (i := i) ?_ ?_ fun j hj => ?_
  · simp [Role.dead, hi, hold]
  · simp [Role.dead, hi, hnew]
  · exact (dead_link_of_ne fun hc => hj (h.tracked.inj j i c hc hi)).symm

/-- **Every step counts the slots it loses.** -/
theorem lossInv_step {n : Nat} {s s' : ConnSystem} {e : ConnEvent} (h : LossInv n s)
    (hstep : connStep s e = some s') : LossInv (n + lossOf s e) s' := by
  obtain ⟨role, h, rfl⟩ := h
  cases connStep_cases hstep with
  | @reserve t i hcall hi =>
    rw [lossOf_of_good (show GoodStep s (.reserve t) from trivial)]
    refine ⟨_, h.reserve hcall hi, count_update ?_ (dead_of_conn_none rfl)⟩
    exact dead_of_conn_none (by rw [h.role_free hi]; rfl)
  | @full t =>
    rw [lossOf_of_good (show GoodStep s (.reserve t) from trivial)]
    exact ⟨_, h, rfl⟩
  | @createError t i err hcall =>
    rw [lossOf_of_good (show GoodStep s (.create t (.error err)) from trivial)]
    exact ⟨_, h.createError hcall, rfl⟩
  | @create t i c hcall hc =>
    rw [lossOf_of_good (show GoodStep s (.create t (.ok c)) from trivial)]
    refine ⟨_, h.create hcall hc, ?_⟩
    -- the new connection is live, and no slot had it
    have hfresh : countSlots (Role.dead (Function.update s.link c .pending)) role =
        countSlots (Role.dead s.link) role :=
      countSlots_congr fun j => dead_link_of_ne fun hj => hc (h.tracked.tracked j c hj).1
    refine (count_update ?_ ?_).trans hfresh
    · exact dead_of_conn_none (by rw [h.role_held (.inl hcall)]; rfl)
    · simp [Role.dead, Role.conn, Link.live]
  | @release t i hcall =>
    rw [lossOf_of_good (show GoodStep s (.finish t) from trivial)]
    refine ⟨_, h.release hcall, count_update ?_ (dead_of_conn_none rfl)⟩
    exact dead_of_conn_none (by rw [h.role_held (.inr hcall)]; rfl)
  | @store t i c hcall =>
    rw [lossOf_of_good (show GoodStep s (.finish t) from trivial)]
    refine ⟨_, h.store hcall, countSlots_congr fun j => dead_congr ?_⟩
    exact congrFun (conn_update (by rw [h.role_flying hcall]; rfl)) j
  | @connected c err hc hlink =>
    obtain ⟨i, hi⟩ := h.exists_conn hc (by rw [hlink]; decide)
    refine ⟨_, h.connected hlink err, ?_⟩
    by_cases herr : err = 0
    · rw [lossOf_of_good (show GoodStep s (.connected c err) from herr)]
      exact count_live (by rw [hlink]; rfl) (by rw [if_pos herr]; rfl)
    · rw [lossOf_of_not_good (show ¬ GoodStep s (.connected c err) from herr)]
      exact h.count_ended hi (by rw [hlink]; rfl) (by rw [if_neg herr]; rfl)
  | @disconnected c reason i hc hlink hi =>
    -- a stored connection is with no call, and its slot is cleared
    have hstored : role i = .stored c := h.role_stored hi
    have hgood : GoodStep s (.disconnected c reason) := by
      intro t j hcall
      have hji := h.tracked.inj i j c (by rw [hstored]; rfl) (by rw [h.role_flying hcall]; rfl)
      subst hji
      have hflying := h.role_flying hcall
      rw [hstored] at hflying
      cases hflying
    rw [lossOf_of_good hgood]
    refine ⟨_, h.disconnected hc hi, countSlots_congr fun j => ?_⟩
    by_cases hj : j = i
    · subst hj
      rw [Function.update_self, hstored]
      simp [Role.dead, Role.conn, hlink, Link.live]
    · rw [Function.update_of_ne hj]
      refine dead_link_of_ne fun hjc => hj (h.tracked.inj j i c hjc ?_)
      rw [hstored]
      rfl
  | @lost c reason hc hlink hno =>
    obtain ⟨i, hi⟩ := h.exists_conn hc (by rw [hlink]; decide)
    have hbad : ¬ GoodStep s (.disconnected c reason) := by
      intro hgood
      rcases h.stored_or_created hi with hr | ⟨t, hcall⟩
      · exact hno i (by rw [h.entry i, hr]; rfl)
      · exact hgood t i hcall
    rw [lossOf_of_not_good hbad]
    exact ⟨_, h.lost hlink, h.count_ended hi (by rw [hlink]; rfl) rfl⟩

/-- The slots that are lost after a run are those that its events lost. -/
theorem lossInv_run {es : List ConnEvent} (hrun : run connStep .boot es = some s) :
    LossInv (losses es) s := by
  refine run_inv_total (P := LossInv) ⟨_, slotInv_boot, ?_⟩
    (fun _ _ _ _ h hstep => lossInv_step h hstep) hrun
  exact countSlots_eq_zero_iff.mpr fun _ => rfl

/-! ## What the manager is left with -/

/-- The slots in use are those of live connections and those lost, where no call has one. -/
theorem SlotInv.countSlots_inUse (h : SlotInv s role) (hq : s.Quiescent) :
    countSlots ConnectionEntry.inUse s.mgr.connections =
      s.liveConns.length + countSlots (Role.dead s.link) role := by
  have hmem : ∀ b, b ∈ s.liveConns ↔ b ∈ s.born ∧ (s.link b).live = true := by
    intro b
    rw [ConnSystem.liveConns, List.mem_filter]
  -- a slot in use has a connection, as no call holds it
  have hused : ∀ j, (s.mgr.connections j).inUse = true ↔ ∃ b, (role j).conn = some b := by
    intro j
    rw [h.entry j]
    cases hr : role j with
    | free => simp [Role.entry, Role.conn]
    | held t =>
      have hcall := (h.claimed t j _).mpr ⟨hr, rfl⟩
      rw [hq t] at hcall
      cases hcall
    | flying t b => exact iff_of_true rfl ⟨b, rfl⟩
    | stored b => exact iff_of_true rfl ⟨b, rfl⟩
  have hlive : countSlots (fun r : Role => r.conn.any fun b => (s.link b).live) role =
      s.liveConns.length := by
    refine countSlots_eq_length Role.conn (h.tracked.nodup.filter _) (fun j hj => ?_)
      (fun j k hj _ hjk => ?_) fun b hb => ?_
    · obtain ⟨b, hb, hl⟩ := (Option.any_eq_true ..).mp hj
      exact ⟨b, (hmem b).mpr ⟨(h.tracked.tracked j b hb).1, hl⟩, hb⟩
    · obtain ⟨b, hb, -⟩ := (Option.any_eq_true ..).mp hj
      exact h.tracked.inj j k b hb (hjk ▸ hb)
    · obtain ⟨hborn, hl⟩ := (hmem b).mp hb
      obtain ⟨j, hj⟩ := h.exists_conn hborn fun hd => by rw [hd] at hl; cases hl
      exact ⟨j, (Option.any_eq_true ..).mpr ⟨b, hj, hl⟩, hj⟩
  rw [← hlive]
  refine countSlots_eq_add (fun j => ?_) fun j hj hdead => ?_
  · rw [hused, dead_iff, Option.any_eq_true]
    constructor
    · rintro ⟨b, hb⟩
      cases hl : (s.link b).live with
      | true => exact .inl ⟨b, hb, hl⟩
      | false => exact .inr ⟨b, hb, hl⟩
    · rintro (⟨b, hb, -⟩ | ⟨b, hb, -⟩)
      · exact ⟨b, hb⟩
      · exact ⟨b, hb⟩
  · obtain ⟨b, hb, hl⟩ := (Option.any_eq_true ..).mp hj
    obtain ⟨b', hb', hl'⟩ := dead_iff.mp hdead
    rw [hb] at hb'
    cases hb'
    rw [hl] at hl'
    cases hl'

/-- No connection was unreferenced twice, or without having disconnected. -/
theorem SlotInv.unrefs_once (h : SlotInv s role) :
    s.mgr.unrefs.Nodup ∧ ∀ c ∈ s.mgr.unrefs, s.link c = .disconnected := by
  have hno : ∀ c ∈ s.mgr.unrefs, ∀ i, (role i).conn ≠ some c :=
    fun c hc i hi => (h.tracked.tracked i c hi).2 hc
  refine ⟨List.nodup_iff_count_le_one.mpr fun c => ?_, fun c hc => ?_⟩
  · by_cases hc : c ∈ s.mgr.unrefs
    · rw [(h.tracked.untracked c (h.tracked.unrefs c hc) (hno c hc)).2]
    · rw [List.count_eq_zero.mpr hc]
      exact Nat.zero_le 1
  · exact (h.tracked.untracked c (h.tracked.unrefs c hc) (hno c hc)).1

/-- No more slots are lost than the table has. -/
theorem LossInv.le {n : Nat} (h : LossInv n s) : n ≤ maxConnections := by
  obtain ⟨role, -, rfl⟩ := h
  exact countSlots_le

/-- Once all slots are lost, they stay so. -/
theorem LossInv.step_exhausted {s' : ConnSystem} {e : ConnEvent} (h : LossInv maxConnections s)
    (hstep : connStep s e = some s') : LossInv maxConnections s' := by
  have hnext := lossInv_step h hstep
  rwa [show maxConnections + lossOf s e = maxConnections by have := hnext.le; omega] at hnext

/-- All slots are lost: no call gets one. -/
theorem LossInv.exhausted (h : LossInv maxConnections s) :
    (exec reserveSlot s.mgr).1 = none ∧ ∀ t i, s.calls t ≠ .reserved i := by
  obtain ⟨role, h, hcount⟩ := h
  have hdead : ∀ i, ∃ c, (role i).conn = some c ∧ (s.link c).live = false :=
    fun i => dead_iff.mp (countSlots_eq_size_iff.mp hcount i)
  constructor
  · have hnone : firstSlot (fun e : ConnectionEntry => !e.inUse) s.mgr.connections = none := by
      refine firstSlot_eq_none_iff.mpr fun i => ?_
      rw [Bool.not_eq_false', ← Bool.not_eq_false]
      intro hi
      obtain ⟨c, hc, -⟩ := hdead i
      rw [h.role_free hi] at hc
      cases hc
    rw [exec, reserveSlot_run, hnone]
  · intro t i hcall
    obtain ⟨c, hc, -⟩ := hdead i
    rw [h.role_held (.inl hcall)] at hc
    cases hc

/-- A step makes a connection only for a call that has a slot. -/
theorem born_step {s s' : ConnSystem} {e : ConnEvent} (hstep : connStep s e = some s')
    (hno : ∀ t i, s.calls t ≠ .reserved i) : s'.born = s.born := by
  cases connStep_cases hstep with
  | create hcall => exact absurd hcall (hno _ _)
  | reserve | full | createError | release | store | connected | disconnected | lost => rfl

/-- What the losses of a run mean:
1. there are at most as many as the table has slots;
2. between calls, the count is that of the live connections and the losses;
3. no connection is unreferenced twice;
4. none is unreferenced that has not disconnected;
5. once there are as many as slots, no further run brings a slot or a connection. -/
structure LossAccounting (s : ConnSystem) (lost : Nat) : Prop where
  bounded : lost ≤ maxConnections
  count : s.Quiescent →
    (exec connectionManagerGetCount s.mgr).1 = s.liveConns.length + lost
  once : s.mgr.unrefs.Nodup
  ended : ∀ c ∈ s.mgr.unrefs, s.link c = .disconnected
  exhausted : lost = maxConnections → ∀ more s', run connStep s more = some s' →
    (exec reserveSlot s'.mgr).1 = none ∧ s'.born = s.born

/-- **Losses add up**: so it is after every interleaving of connect calls and callbacks, with
the events so far that lost a slot. -/
theorem losses_accounted {es : List ConnEvent} (hrun : run connStep .boot es = some s) :
    LossAccounting s (losses es) := by
  obtain ⟨role, h, hcount⟩ := lossInv_run hrun
  refine ⟨(lossInv_run hrun).le, fun hq => ?_, h.unrefs_once.1, h.unrefs_once.2,
    fun hall more s' hmore => ?_⟩
  · rw [exec, connectionManagerGetCount_run, h.countSlots_inUse hq, hcount]
    exact Int.natCast_add ..
  · have hstays : LossInv maxConnections s' ∧ s'.born = s.born := by
      refine run_inv (P := fun u => LossInv maxConnections u ∧ u.born = s.born)
        ⟨hall ▸ lossInv_run hrun, rfl⟩ ?_ hmore
      rintro u e v ⟨hu, hborn⟩ hstep
      exact ⟨hu.step_exhausted hstep, (born_step hstep hu.exhausted.2).trans hborn⟩
    exact ⟨hstays.1.exhausted.1, hstays.2⟩

/-- Three connections fail to establish, one after the other. -/
def threeFailures : List ConnEvent :=
  (List.range 3).flatMap fun c =>
    [.reserve 0, .create 0 (.ok c), .finish 0, .connected c 1]

/-- That is the end of the hub: it has three slots in use and no connection. -/
theorem threeFailures_accounted :
    ∃ s, run connStep .boot threeFailures = some s ∧ LossAccounting s (losses threeFailures) :=
  ⟨_, rfl, losses_accounted rfl⟩

end SensorNet.Hub
