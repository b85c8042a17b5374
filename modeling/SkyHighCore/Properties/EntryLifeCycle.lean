import SkyHighCore.Properties.Warrants

/-!
# The life cycle of a waitlist entry

A passenger joins as WAITING, is ASSIGNED a seat or leaves, and an assignment EXPIRES.  A call that
leaves the list, and one that expires an assignment, reads the entry, checks its status and saves
it; an assignment has read the entry too, and updates it by its id.  None of the three checks the
status again when it writes.  A write follows the life cycle exactly when the entry still has the
status that the call has read, or has the one that is written already.
-/

namespace SkyHighCore

open Framework

/-- The transitions of the waitlist state machine. -/
def WaitlistStatus.canBecome : WaitlistStatus → WaitlistStatus → Bool
  | .waiting, .assigned | .waiting, .cancelled | .assigned, .expired => true
  | _, _ => false

/-- The status that the call has read before it writes the new one. -/
def WaitlistStatus.before : WaitlistStatus → WaitlistStatus
  | .expired => .assigned
  | _ => .waiting

/-- The entry still has the status that the call has read before it writes `st`, or it has `st`
already. -/
def Queue.Expects (q : Queue) (i : WaitlistId) (st : WaitlistStatus) : Prop :=
  ∀ e, q i = some e → e.status = st.before ∨ e.status = st

/-- A write to an entry finds what the call has read. -/
def Action.UpToDate (q : Queue) : Action → Prop
  | .assign entry _ _ _ => q.Expects entry.id .assigned
  | .saveWaitlist entry => q.Expects entry.id entry.status
  | _ => True

/-- Every status that changes follows the life cycle. -/
def Queue.FollowsLifeCycle (q q' : Queue) : Prop :=
  ∀ i e e', q i = some e → q' i = some e' → e'.status ≠ e.status →
    e.status.canBecome e'.status = true

namespace Queue

variable {q : Queue}

lemma FollowsLifeCycle.refl (q : Queue) : q.FollowsLifeCycle q := by
  intro i e e' he he' hne
  rw [Option.some_inj.mp (he.symm.trans he')] at hne
  exact absurd rfl hne

/-- A new entry changes no status. -/
lemma FollowsLifeCycle.inserted {e : Waitlist} (hfresh : q e.id = none) :
    q.FollowsLifeCycle (Function.update q e.id (some e)) := by
  intro i d d' hd hd' hne
  rcases Bookings.update_eq_some_iff.mp hd' with ⟨rfl, -⟩ | ⟨-, hi⟩
  · cases hfresh.symm.trans hd
  · rw [Option.some_inj.mp (hd.symm.trans hi)] at hne
    exact absurd rfl hne

/-- The statuses from which a written status may follow. -/
lemma canBecome_iff {old new : WaitlistStatus}
    (hnew : new = .assigned ∨ new = .cancelled ∨ new = .expired) :
    (new ≠ old → old.canBecome new = true) ↔ old = new.before ∨ old = new := by
  rcases hnew with rfl | rfl | rfl <;> cases old <;> decide

/-- A marked entry follows the life cycle exactly when it was as expected. -/
lemma followsLifeCycle_marked_iff {i : WaitlistId} {e : Waitlist} {st : WaitlistStatus}
    (he : q i = some e) (hst : st = .assigned ∨ st = .cancelled ∨ st = .expired) :
    q.FollowsLifeCycle (q.marked i e st) ↔ q.Expects i st := by
  have hrow : q.Expects i st ↔ (st ≠ e.status → e.status.canBecome st = true) := by
    rw [canBecome_iff hst]
    constructor
    · exact fun h => h e he
    · intro h d hd
      rw [← Option.some_inj.mp (he.symm.trans hd)]
      exact h
  rw [hrow]
  constructor
  · exact fun h => h i e _ he (Function.update_self ..)
  · intro h j d d' hd hd' hne
    rcases Bookings.update_eq_some_iff.mp hd' with ⟨rfl, rfl⟩ | ⟨-, hj⟩
    · obtain rfl : e = d := Option.some_inj.mp (he.symm.trans hd)
      exact h hne
    · rw [Option.some_inj.mp (hd.symm.trans hj)] at hne
      exact absurd rfl hne

end Queue

/-- **A write to the waitlist follows the life cycle** exactly when it is up to date. -/
lemma Requeues.followsLifeCycle_iff {w : World} {a : Action} {q' : Queue} (hwarrant : a.Warrant w)
    (h : Requeues w.db.queue a q') :
    w.db.queue.FollowsLifeCycle q' ↔ a.UpToDate w.db.queue := by
  cases h with
  | assign he _ => exact Queue.followsLifeCycle_marked_iff he (.inl rfl)
  | save he _ => exact Queue.followsLifeCycle_marked_iff he (.inr hwarrant.2)
  | insert hfresh _ _ _ _ _ => exact iff_of_true (.inserted hfresh) trivial

/-! ## Runs -/

variable {cfg : Settings} {w : World} {ts : List SkyTransition} {c : SkyConfig}

/-- **Waitlist entry life cycle.**  In a run every change of an entry's status follows the life
cycle exactly when every committed write to the waitlist is up to date. -/
theorem entryLifeCycle_iff_upToDate (hw : w.Seeded) (h : (skyHigh cfg).Run (.init w) ts c) :
    (∀ t ∈ ts, ∀ i e e', t.pre.state.db.waitlist.get? i = some e →
      t.post.state.db.waitlist.get? i = some e' → e'.status ≠ e.status →
        e.status.canBecome e'.status = true) ↔
    ∀ t ∈ ts, ∀ a, requeued? t = some a → a.UpToDate t.pre.state.db.queue := by
  refine forall₂_congr fun t ht => ?_
  show t.pre.state.db.queue.FollowsLifeCycle t.post.state.db.queue ↔ _
  cases run_requeues hw h t ht with
  | same hnone heq =>
      have hqueue : t.post.state.db.queue = t.pre.state.db.queue := congrArg Table.get? heq
      have hnothing : ∀ a, requeued? t = some a → a.UpToDate t.pre.state.db.queue := by
        intro a ha
        cases hnone.symm.trans ha
      rw [hqueue]
      exact iff_of_true (.refl _) hnothing
  | write hsome hwarrant hwrite =>
      rw [hwrite.followsLifeCycle_iff hwarrant]
      constructor
      · intro hfresh a ha
        obtain rfl := Option.some_inj.mp (hsome.symm.trans ha)
        exact hfresh
      · exact fun hall => hall _ hsome

/-- Passenger 2 joins the waitlist and leaves it. -/
def joinThenLeave : List SkyLabel :=
  [.invoke (.joinWaitlist 2 10)] ++ proceed 0 5 ++ [.invoke (.leaveWaitlist 1 2)] ++ proceed 1 2

theorem entryLifeCycle_joinThenLeave : ∃ ts c, (skyHigh {}).Run (.init oneSeatWorld) ts c ∧
    (c.state.db.waitlist.get? 1).any (·.status = .cancelled) = true ∧
    ((∀ t ∈ ts, ∀ i e e', t.pre.state.db.waitlist.get? i = some e →
      t.post.state.db.waitlist.get? i = some e' → e'.status ≠ e.status →
        e.status.canBecome e'.status = true) ↔
    ∀ t ∈ ts, ∀ a, requeued? t = some a → a.UpToDate t.pre.state.db.queue) := by
  obtain ⟨ts, c, hrun, htest⟩ := exists_run joinThenLeave
    (fun _ c => (c.state.db.waitlist.get? 1).any (·.status = .cancelled)) (by decide +kernel)
  exact ⟨ts, c, hrun, htest, entryLifeCycle_iff_upToDate oneSeatWorld_seeded hrun⟩

/-- Passenger 2 joins, and leaves after the handler has read the waitlist. -/
def leaveDuringAssignment : List SkyLabel :=
  [.invoke (.joinWaitlist 2 10)] ++ proceed 0 5 ++ [.invoke (.processWaitlist 10 none)] ++
  proceed 1 2 ++ [.invoke (.leaveWaitlist 1 2)] ++ proceed 2 2 ++ proceed 1 3

/-- The passenger who has left is assigned the seat. -/
theorem entryLifeCycle_leaveDuringAssignment : ∃ ts c, oneSeatWorld.Seeded ∧
    (skyHigh {}).Run (.init oneSeatWorld) ts c ∧
    ¬ ∀ t ∈ ts, ∀ i e e', t.pre.state.db.waitlist.get? i = some e →
      t.post.state.db.waitlist.get? i = some e' → e'.status ≠ e.status →
        e.status.canBecome e'.status = true := by
  obtain ⟨ts, c, hrun, htest⟩ := exists_run leaveDuringAssignment
    (fun ts _ => ts.any fun t => ((t.pre.state.db.waitlist.get? 1).any (·.status = .cancelled)) &&
      (t.post.state.db.waitlist.get? 1).any (·.status = .assigned)) (by decide +kernel)
  simp only [List.any_eq_true, Bool.and_eq_true, Option.any_eq_true, decide_eq_true_eq] at htest
  obtain ⟨t, ht, ⟨e, he, hleft⟩, e', he', hassigned⟩ := htest
  refine ⟨ts, c, oneSeatWorld_seeded, hrun, fun h => ?_⟩
  have hchange := h t ht 1 e e' he he' (by simp [hleft, hassigned])
  rw [hleft, hassigned] at hchange
  cases hchange

end SkyHighCore
