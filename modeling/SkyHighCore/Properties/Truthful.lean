import SkyHighCore.Properties.AuditRows
import SkyHighCore.Properties.Solitude

/-!
# The truth of the audit rows

A row that a transaction writes is truthful if its two states are the statuses that its entity has
before and after the transaction.  The second one always is.  The first one comes from a constant or
from the copy that the call has read, so that in a sequential run it is wrong in two ways: a
completion or a cancellation may find the seat in another status than its row says, and a
confirmation that has paused the check-in itself still takes it to be as it was read.
-/

namespace SkyHighCore

open Framework

/-- The status of an entity. -/
def Database.stateOf (db : Database) : EntityType → Uuid → Option AuditState
  | .seat, i => (db.bookings.seat i).map fun seat => .seat seat.status
  | .checkIn, i => (db.bookings.checkIn i).map fun c => .checkIn c.status
  | .waitlist, i => (db.queue i).map fun e => .waitlist e.status
  | .payment, _ => none

/-- The row says what status its entity has before and after. -/
def Change.Truthful (x : Change) (db db' : Database) : Prop :=
  x.fromState = db.stateOf x.entityType x.entityId ∧
    some x.toState = db'.stateOf x.entityType x.entityId

instance (x : Change) (db db' : Database) : Decidable (x.Truthful db db') :=
  inferInstanceAs (Decidable (_ ∧ _))

/-- The rows that the transition writes in a transaction. -/
def loggedRows (t : SkyTransition) : List Change :=
  if (committed? t).isSome then
    t.post.state.db.changes.drop t.pre.state.db.changes.length
  else []

/-- Every row that the transition writes in a transaction is truthful. -/
def TellsTruth (t : SkyTransition) : Prop :=
  ∀ x ∈ loggedRows t, x.Truthful t.pre.state.db t.post.state.db

instance (t : SkyTransition) : Decidable (TellsTruth t) :=
  inferInstanceAs (Decidable (∀ x ∈ loggedRows t, _))

/-- The call that completes a check-in with a declared weight over the limit has found it paused. -/
def Action.FindsPaused (cfg : Settings) : Action → Prop
  | .complete checkIn weight _ => cfg.maxBaggageKg < weight → checkIn.status = .awaitingPayment
  | _ => True

/-- If the transition commits a transaction, its seat is in the status that the row on it names, and
an overweight check-in that it completes was paused before the call. -/
def FindsAsLogged (cfg : Settings) (t : SkyTransition) : Prop :=
  ∀ a, committed? t = some a →
    (∀ s, a.FindsSeat t.pre.state.db.bookings s) ∧ a.FindsPaused cfg

/-! ## One write -/

section Writes

variable {db db' : Database}

lemma Database.stateOf_seat {s : SeatId} {seat : Seat} (h : db.bookings.seat s = some seat) :
    db.stateOf .seat s = some (.seat seat.status) := by
  rw [Database.stateOf, h]
  rfl

lemma Database.stateOf_checkIn {i : CheckInId} {c : CheckIn} (h : db.bookings.checkIn i = some c) :
    db.stateOf .checkIn i = some (.checkIn c.status) := by
  rw [Database.stateOf, h]
  rfl

lemma Database.stateOf_waitlist {i : WaitlistId} {e : Waitlist} (h : db.queue i = some e) :
    db.stateOf .waitlist i = some (.waitlist e.status) := by
  rw [Database.stateOf, h]
  rfl

/-- A row on a seat whose new status it names. -/
lemma truthful_seat_iff {s : SeatId} {seat seat' : Seat} {source : SeatStatus}
    (hseat : db.bookings.seat s = some seat) (hseat' : db'.bookings.seat s = some seat') :
    (⟨.seat, s, some (.seat source), .seat seat'.status⟩ : Change).Truthful db db' ↔
      seat.status = source := by
  rw [Change.Truthful, Database.stateOf_seat hseat, Database.stateOf_seat hseat']
  simp [eq_comm]

/-- A row on a check-in whose new status it names. -/
lemma truthful_checkIn_iff {i : CheckInId} {c c' : CheckIn} {source : CheckInStatus}
    (hc : db.bookings.checkIn i = some c) (hc' : db'.bookings.checkIn i = some c') :
    (⟨.checkIn, i, some (.checkIn source), .checkIn c'.status⟩ : Change).Truthful db db' ↔
      c.status = source := by
  rw [Change.Truthful, Database.stateOf_checkIn hc, Database.stateOf_checkIn hc']
  simp [eq_comm]

/-- A seat that a copy names, and that is there. -/
lemma findsSeat_iff {b : Bookings} {o : Option SeatId} {s : SeatId} {seat : Seat}
    {st : SeatStatus} (ho : o = some s) (hseat : b.seat s = some seat) :
    (∀ s', o = some s' → ∀ seat', b.seat s' = some seat' → seat'.status = st) ↔
      seat.status = st := by
  constructor
  · exact fun h => h s ho seat hseat
  · intro h s' hs' seat' hseat'
    obtain rfl : s = s' := Option.some_inj.mp (ho.symm.trans hs')
    obtain rfl : seat = seat' := Option.some_inj.mp (hseat.symm.trans hseat')
    exact h

end Writes

/-- **The rows of a committed write that rests on a current copy.** -/
lemma Commits.truthful_iff {cfg : Settings} {w w' : World} {a : Action}
    (h : Commits w.db.bookings a w'.db.bookings) (hcurrent : a.Current cfg w)
    (hassign : ∀ entry seat f t, a = .assign entry seat f t →
      w'.db.queue = w.db.queue.marked entry.id entry .assigned) :
    (∀ x ∈ a.changes, x.Truthful w.db w'.db) ↔
      (∀ s, a.FindsSeat w.db.bookings s) ∧ a.FindsPaused cfg := by
  generalize hb' : w'.db.bookings = b' at h
  cases h with
  | @holdSeat p f s t seat c h _ _ =>
      have hseat' : w'.db.bookings.seat s = some (seat.heldFor c.passengerId t) := by
        rw [hb']
        exact Function.update_self ..
      refine iff_of_true ?_ ⟨fun _ => trivial, trivial⟩
      simp only [Action.changes, List.forall_mem_singleton]
      exact (truthful_seat_iff h.row hseat').mpr h.available
  | @assign entry f t seat seat₀ c _ _ _ =>
      obtain ⟨hentry, hwaiting⟩ := hcurrent
      have hentry' : w'.db.queue entry.id = some { entry with status := .assigned } := by
        rw [hassign entry seat₀ f t rfl]
        exact Function.update_self ..
      refine iff_of_true ?_ ⟨fun _ => trivial, trivial⟩
      simp only [Action.changes, List.forall_mem_singleton, Change.Truthful]
      rw [Database.stateOf_waitlist hentry, Database.stateOf_waitlist hentry', hwaiting]
      exact ⟨rfl, rfl⟩
  | @release seat₀ seat p hseat hheld _ _ =>
      have hseat' : w'.db.bookings.seat seat₀.id = some seat.freed := by
        rw [hb']
        exact Function.update_self ..
      refine iff_of_true ?_ ⟨fun _ => trivial, trivial⟩
      simp only [Action.changes, List.forall_mem_singleton]
      exact (truthful_seat_iff hseat hseat').mpr hheld
  | @cancel snap p c s seat hc hsame _ hseatId hseat =>
      have hsnap : snap.seatId = some s := hsame.2.2.symm.trans hseatId
      obtain rfl : c = snap := Option.some_inj.mp (hc.symm.trans hcurrent)
      have hseat' : w'.db.bookings.seat s = some seat.freed := by
        rw [hb']
        exact Function.update_self ..
      have hc' : w'.db.bookings.checkIn c.id = some { c with status := .cancelled } := by
        rw [hb']
        exact Function.update_self ..
      have hrow := (truthful_checkIn_iff hc hc').mpr rfl
      simp only [Action.changes, hsnap, Option.toList_some, List.map_singleton,
        List.forall_mem_append, List.forall_mem_singleton]
      rw [and_iff_left hrow]
      exact ((truthful_seat_iff hseat hseat').trans (findsSeat_iff hsnap hseat).symm).trans
        (and_iff_left trivial).symm
  | @complete snap weight payment c s seat hc hsame _ hseatId hseat =>
      have hsnap : snap.seatId = some s := hsame.2.2.symm.trans hseatId
      obtain ⟨row, hrow, hst⟩ := hcurrent
      obtain rfl : c = row := Option.some_inj.mp (hc.symm.trans hrow)
      have hseat' : w'.db.bookings.seat s = some seat.taken := by
        rw [hb']
        exact Function.update_self ..
      have hc' : w'.db.bookings.checkIn snap.id = some { c with
          status := .completed, baggageWeight := some (numericScale2 weight)
          paymentId := payment } := by
        rw [hb']
        exact Function.update_self ..
      have hpaused : c.status = snap.status ↔
          (Action.complete snap weight payment).FindsPaused cfg := by
        rw [hst]
        split <;> rename_i hover
        · exact ⟨fun h _ => h.symm, fun h => (h hover).symm⟩
        · exact iff_of_true rfl fun h => absurd h hover
      simp only [Action.changes, hsnap, Option.toList_some, List.map_singleton,
        List.forall_mem_append, List.forall_mem_singleton]
      rw [← hpaused]
      exact and_congr ((truthful_seat_iff hseat hseat').trans (findsSeat_iff hsnap hseat).symm)
        (truthful_checkIn_iff hc hc')
  | awaitPayment _ _ _ =>
      refine iff_of_true ?_ ⟨fun _ => trivial, trivial⟩
      intro x hx
      exact absurd hx List.not_mem_nil

/-! ## Sequential runs -/

variable {cfg : Settings} {w : World} {ts : List SkyTransition} {c : SkyConfig}

/-- A committed transaction writes the rows of its action. -/
lemma run_loggedRows (hw : w.Seeded) (h : (skyHigh cfg).Run (.init w) ts c) {t : SkyTransition}
    (ht : t ∈ ts) {a : Action} (hc : committed? t = some a) : loggedRows t = a.changes := by
  obtain ⟨us, vs, -, hrun, hstep, -⟩ := h.mem_split ht
  rcases step_changes hw hrun hstep with ⟨a', hc', hchanges⟩ | ⟨hnone, -⟩
  · obtain rfl : a' = a := Option.some_inj.mp (hc'.symm.trans hc)
    rw [loggedRows, hc, hchanges]
    exact List.drop_left
  · cases hnone.symm.trans hc

/-- A committed assignment marks its entry, which is as the call has read it. -/
lemma run_marked (hw : w.Seeded) (h : (skyHigh cfg).Run (.init w) ts c) {t : SkyTransition}
    (ht : t ∈ ts) {entry : Waitlist} {seat : Seat} {f : FlightId} {heldAt : Time}
    (hc : committed? t = some (.assign entry seat f heldAt))
    (hentry : t.pre.state.db.queue entry.id = some entry) :
    t.post.state.db.queue = t.pre.state.db.queue.marked entry.id entry .assigned := by
  obtain ⟨us, vs, -, hrun, hstep, -⟩ := h.mem_split ht
  have hre : requeued? t = some (.assign entry seat f heldAt) := requeued?_assign_iff.mpr hc
  cases run_requeues hw h t ht with
  | same hnone _ => cases hnone.symm.trans hre
  | write hsome _ hwrite =>
      obtain rfl := Option.some_inj.mp (hsome.symm.trans hre)
      generalize t.post.state.db.queue = q' at hwrite
      cases hwrite with
      | assign he _ =>
          obtain rfl := Option.some_inj.mp (he.symm.trans hentry)
          rfl

/-- **The rows of a sequential run are truthful** exactly when each completion finds its seat held
and, if the declared weight is over the limit, has read the check-in paused, and each cancellation
finds its seat confirmed or held as the check-in is completed or not. -/
theorem auditRows_truthful_iff (hw : w.Seeded) (h : (skyHigh cfg).Run (.init w) ts c)
    (hseq : Sequential ts) : ∀ t ∈ ts, TellsTruth t ↔ FindsAsLogged cfg t := by
  intro t ht
  cases (run_justified hw h t ht).effect with
  | quiet hnone _ =>
      refine iff_of_true ?_ fun a hc => nomatch hnone.symm.trans hc
      rw [TellsTruth, loggedRows, hnone]
      intro x hx
      exact absurd hx List.not_mem_nil
  | @commit a hc _ hwrite _ =>
      have hcurrent : a.Current cfg t.pre.state := run_current hw h hseq t ht a hc
      have hfinds : FindsAsLogged cfg t ↔
          (∀ s, a.FindsSeat t.pre.state.db.bookings s) ∧ a.FindsPaused cfg := by
        constructor
        · exact fun h => h a hc
        · intro h a' hc'
          rwa [← Option.some_inj.mp (hc.symm.trans hc')]
      rw [hfinds, TellsTruth, run_loggedRows hw h ht hc]
      refine hwrite.truthful_iff hcurrent ?_
      rintro entry seat f heldAt rfl
      exact run_marked hw h ht hc hcurrent.1

/-- A sequential run with two truthful rows of a completion. -/
theorem auditRows_startThenConfirm : ∃ ts c t, (skyHigh {}).Run (.init oneSeatWorld) ts c ∧ t ∈ ts ∧
    (loggedRows t).length = 2 ∧ (TellsTruth t ↔ FindsAsLogged {} t) := by
  obtain ⟨ts, c, hrun, htest⟩ := exists_run startThenConfirm (fun ts _ => ts.all issuedAlone &&
    ts.any fun t => (loggedRows t).length = 2) (by decide +kernel)
  simp only [Bool.and_eq_true, List.any_eq_true, decide_eq_true_eq] at htest
  obtain ⟨hseq, t, ht, hrows⟩ := htest
  exact ⟨ts, c, t, hrun, ht, hrows, auditRows_truthful_iff oneSeatWorld_seeded hrun
    (sequential_of_issuedAlone hseq) t ht⟩

/-- **A first paid confirmation reports that it has found the check-in in progress**, which it has
paused itself. -/
theorem auditRows_startThenPay : ∃ ts c, (skyHigh {}).Run (.init oneSeatWorld) ts c ∧
    Sequential ts ∧ (∀ t ∈ ts, Faultless t) ∧ ¬ ∀ t ∈ ts, TellsTruth t := by
  obtain ⟨ts, c, hrun, htest⟩ := exists_run startThenPay (fun ts _ => ts.all issuedAlone &&
    ts.all faultless && !decide (∀ t ∈ ts, TellsTruth t)) (by decide +kernel)
  simp only [Bool.and_eq_true, Bool.not_eq_true', decide_eq_false_iff_not] at htest
  obtain ⟨⟨hseq, hfaultless⟩, hfalse⟩ := htest
  exact ⟨ts, c, hrun, sequential_of_issuedAlone hseq, faultless_of_all hfaultless, hfalse⟩

end SkyHighCore
