import SkyHighCore.Properties.Runs

/-!
# The life cycle of a check-in

Every status write is an update by id that was decided on a read, with payment and weight calls
in between.  `Action.WritesStatus` lists the writes of a committed action, also those that store
the status that was there; `Commits.status_of_writes` and `Commits.writes_of_ne` say that the
list is that of the transaction.  A write follows the life cycle exactly when it is
`Action.Timely`: a call that has found the check-in open still finds it so, and a cancellation
does not repeat one.
-/

namespace SkyHighCore

open Framework

/-! ## Status writes -/

/-- The transitions of the check-in state machine. -/
def CheckInStatus.canBecome : CheckInStatus → CheckInStatus → Bool
  | .inProgress, .awaitingPayment => true
  | .inProgress, .completed | .awaitingPayment, .completed => true
  | .awaitingPayment, .awaitingPayment => true
  | .inProgress, .cancelled | .awaitingPayment, .cancelled | .completed, .cancelled => true
  | _, _ => false

/-- The committed action writes the status of check-in `i`, which was `old`, as `new`. -/
inductive Action.WritesStatus (b : Bookings) :
    Action → CheckInId → CheckInStatus → CheckInStatus → Prop
  | awaitPayment {checkIn weight fee c} (hc : b.checkIn checkIn.id = some c) :
      WritesStatus b (.awaitPayment checkIn weight fee) checkIn.id c.status .awaitingPayment
  | complete {checkIn weight paymentId c} (hc : b.checkIn checkIn.id = some c) :
      WritesStatus b (.complete checkIn weight paymentId) checkIn.id c.status .completed
  | cancel {checkIn i p c} (hc : b.checkIn i = some c) :
      WritesStatus b (.cancel checkIn i p) i c.status .cancelled
  | release {seat i c} (hc : b.checkIn i = some c) (hs : c.seatId = some seat.id)
      (hst : c.status = .inProgress) : WritesStatus b (.release seat) i .inProgress .cancelled

/-- A listed write is what the row contains before and after. -/
lemma Commits.status_of_writes {b b' : Bookings} {a : Action} (h : Commits b a b') {i : CheckInId}
    {old new : CheckInStatus} (hw : a.WritesStatus b i old new) :
    (b.checkIn i).map CheckIn.status = some old ∧
      (b'.checkIn i).map CheckIn.status = some new := by
  cases hw with
  | awaitPayment hc | complete hc | cancel hc =>
      cases h
      simp [hc, Bookings.awaiting, Bookings.completed, Bookings.cancelled]
  | release hc hs hst =>
      cases h
      simp [Bookings.released, CheckIn.releasedFrom, hc, hs, hst]

/-- A status that a committed action changes is one it writes. -/
lemma Commits.writes_of_ne {b b' : Bookings} {a : Action} (h : Commits b a b') {i : CheckInId}
    {c c' : CheckIn} (hc : b.checkIn i = some c) (hc' : b'.checkIn i = some c')
    (hne : c'.status ≠ c.status) : a.WritesStatus b i c.status c'.status := by
  cases h with
  | holdSeat h _ _ | assign h _ _ =>
      rcases Bookings.update_eq_some_iff.mp hc' with ⟨rfl, rfl⟩ | ⟨-, hc'⟩
      · simp [h.fresh] at hc
      · simp [hc] at hc'
        simp [hc'] at hne
  | release hseat hheld howner hsnap =>
      simp only [Bookings.released, hc, Option.map_some, Option.some.injEq] at hc'
      subst hc'
      unfold CheckIn.releasedFrom at hne ⊢
      split at hne
      · rename_i hcond
        rw [if_pos hcond, hcond.2]
        exact .release hc hcond.1 hcond.2
      · exact absurd rfl hne
  | cancel hd _ _ _ _ | complete hd _ _ _ _ | awaitPayment hd _ _ =>
      rcases Bookings.update_eq_some_iff.mp hc' with ⟨rfl, rfl⟩ | ⟨-, hc'⟩
      · first
        | exact .cancel hc
        | exact .complete hc
        | exact .awaitPayment hc
      · simp [hc] at hc'
        simp [hc'] at hne

/-! ## Timely writes -/

/-- The condition on the rows under which the status writes of an action follow the life
cycle. -/
def Action.Timely (b : Bookings) : Action → Prop
  | .awaitPayment checkIn _ _ | .complete checkIn _ _ =>
      -- nobody has closed the check-in since the call has read it
      ∀ c, b.checkIn checkIn.id = some c → c.status.isOpen = checkIn.status.isOpen
  | .cancel _ checkInId _ => ∀ c, b.checkIn checkInId = some c → c.status ≠ .cancelled
  | _ => True

lemma canBecome_of_open {st : CheckInStatus} :
    (st.canBecome .awaitingPayment = true ↔ st.isOpen = true) ∧
      (st.canBecome .completed = true ↔ st.isOpen = true) ∧
      (st.canBecome .cancelled = true ↔ st ≠ .cancelled) := by
  cases st <;> decide

/-- **Status writes follow the life cycle exactly when the action is timely.** -/
lemma Commits.canBecome_iff {b b' : Bookings} {a : Action} (h : Commits b a b') :
    (∀ i old new, a.WritesStatus b i old new → old.canBecome new = true) ↔ a.Timely b := by
  cases h with
  | holdSeat _ _ _ | assign _ _ _ => exact iff_of_true nofun trivial
  | release _ _ _ _ =>
      refine iff_of_true ?_ trivial
      rintro i old new ⟨⟩
      rfl
  | @cancel snap p c s seat hc _ _ _ _ =>
      constructor
      · exact fun h d hd => canBecome_of_open.2.2.mp (h _ _ _ (.cancel hd))
      · rintro h i old new ⟨⟩
        rename_i d hd
        exact canBecome_of_open.2.2.mpr (h d hd)
  | @complete snap weight payment c s seat hc _ hopen _ _ =>
      constructor
      · exact fun h d hd => (canBecome_of_open.2.1.mp (h _ _ _ (.complete hd))).trans hopen.symm
      · rintro h i old new ⟨⟩
        rename_i d hd
        exact canBecome_of_open.2.1.mpr ((h d hd).trans hopen)
  | @awaitPayment snap weight fee c hc _ hopen =>
      constructor
      · exact fun h d hd => (canBecome_of_open.1.mp (h _ _ _ (.awaitPayment hd))).trans hopen.symm
      · rintro h i old new ⟨⟩
        rename_i d hd
        exact canBecome_of_open.1.mpr ((h d hd).trans hopen)

/-! ## Runs -/

/-- Every status write of the transition follows the life cycle. -/
def FollowsLifeCycle (t : SkyTransition) : Prop :=
  ∀ a, committed? t = some a → ∀ i old new,
    a.WritesStatus t.pre.state.db.bookings i old new → old.canBecome new = true

/-- If the transition commits a write, the write is timely. -/
def TimelyAt (t : SkyTransition) : Prop :=
  ∀ a, committed? t = some a → a.Timely t.pre.state.db.bookings

/-- **Check-in life cycle.**  Every committed status write of a run follows the life cycle exactly
when every committed action is timely in the state its transaction starts from. -/
theorem lifeCycle_iff_timely {cfg : Settings} {w : World} (hw : w.Seeded)
    {ts : List SkyTransition} {c : SkyConfig} (h : (skyHigh cfg).Run (.init w) ts c) :
    (∀ t ∈ ts, FollowsLifeCycle t) ↔ ∀ t ∈ ts, TimelyAt t := by
  refine forall₂_congr fun t ht => forall₂_congr fun a ha => ?_
  cases (run_justified hw h t ht).effect with
  | quiet hnone _ => simp [hnone] at ha
  | commit hc _ hwrite _ =>
      obtain rfl := Option.some_inj.mp (hc.symm.trans ha)
      exact hwrite.canBecome_iff

theorem lifeCycle_startThenConfirm : ∃ ts c, (skyHigh {}).Run (.init oneSeatWorld) ts c ∧
    (c.state.db.checkIns.get? 1).any (·.status = .completed) = true ∧
      ((∀ t ∈ ts, FollowsLifeCycle t) ↔ ∀ t ∈ ts, TimelyAt t) := by
  obtain ⟨ts, c, hrun, htest⟩ := exists_run startThenConfirm
    (fun _ c => (c.state.db.checkIns.get? 1).any (·.status = .completed)) (by decide +kernel)
  exact ⟨ts, c, hrun, htest, lifeCycle_iff_timely oneSeatWorld_seeded hrun⟩

/-- Passenger 1 cancels while the confirmation waits for the Weight Service. -/
def cancelDuringConfirmation : List SkyLabel :=
  start ++ [.invoke (.confirmCheckIn 1 1 omittedWeight)] ++ proceed 1 2 ++
  [.invoke (.cancelCheckIn 1 1)] ++ proceed 2 7 ++ proceed 1 3

/-- The cancelled check-in is revived. -/
theorem lifeCycle_cancelDuringConfirmation : ∃ ts c, oneSeatWorld.Seeded ∧
    (skyHigh {}).Run (.init oneSeatWorld) ts c ∧ ¬ ∀ t ∈ ts, FollowsLifeCycle t := by
  obtain ⟨ts, c, hrun, htest⟩ := exists_run cancelDuringConfirmation
    (fun ts _ => ts.any fun t => (completion? t).any fun checkIn =>
      (t.pre.state.db.checkIns.get? checkIn.id).any (·.status = .cancelled))
    (by decide +kernel)
  simp only [List.any_eq_true, Option.any_eq_true, decide_eq_true_eq] at htest
  obtain ⟨t, ht, checkIn, hcompletion, d, hd, hst⟩ := htest
  obtain ⟨weight, paymentId, hcommit⟩ := completion?_eq_some_iff.mp hcompletion
  refine ⟨ts, c, oneSeatWorld_seeded, hrun, fun h => ?_⟩
  have hwrite := h t ht _ hcommit _ _ _ (.complete hd)
  rw [hst] at hwrite
  cases hwrite

end SkyHighCore
