import SkyHighCore.Construction.System
import SkyHighCore.Properties.Transactions

/-!
# What one action of a call can do to the bookings

A call performs a transaction on the strength of rows that it has read before.  `Action.Pre`
says what it knows at that moment, and `Commits` what the transaction then does: it is the
labelled form of `Bookings.Step`, with the action that has caused the step.  `exec_commits` is
the inversion lemma everything else rests on: an action that meets its precondition either
leaves the bookings alone or commits one of the five writes.

## The snapshots

What a call knows of a row it has read is not what the row contains now.  The predicates of the
first section are the part of a snapshot that `Bookings.Evolves` keeps.
-/

namespace SkyHighCore

open Framework

/-! ## Snapshots -/

/-- Seat `s` belongs to flight `f`. -/
def Bookings.SeatOn (b : Bookings) (s : SeatId) (f : FlightId) : Prop :=
  ∃ seat, b.seat s = some seat ∧ seat.flightId = f

/-- The row that `snap` was read from still exists. -/
def Bookings.Has (b : Bookings) (snap : CheckIn) : Prop :=
  ∃ c, b.checkIn snap.id = some c ∧ snap.SameBooking c

/-- The row that `seat` was read from, held by `p` since `h`, still exists; if `p` holds it now,
it is by the same hold. -/
structure Bookings.HasHold (b : Bookings) (seat : Seat) (p : PassengerId) (h : Time) : Prop where
  heldBy : seat.heldBy = some p
  heldAt : seat.heldAt = some h
  checkIn : ∃ i c, b.checkIn i = some c ∧ c.passengerId = p ∧ c.flightId = seat.flightId
  row : ∃ seat', b.seat seat.id = some seat' ∧ seat'.flightId = seat.flightId ∧
    (seat'.heldBy = some p → seat'.heldAt = some h)

lemma Bookings.SeatOn.evolves {b b' : Bookings} (h : b.Evolves b') {s : SeatId} {f : FlightId}
    (hs : b.SeatOn s f) : b'.SeatOn s f := by
  obtain ⟨seat, hseat, rfl⟩ := hs
  exact h.seat s seat hseat

lemma Bookings.Has.evolves {b b' : Bookings} (h : b.Evolves b') {snap : CheckIn}
    (hs : b.Has snap) : b'.Has snap := by
  obtain ⟨c, hc, he⟩ := hs
  obtain ⟨c', hc', he'⟩ := h.checkIn _ c hc
  exact ⟨c', hc', he.trans he'⟩

lemma Bookings.HasHold.evolves {b b' : Bookings} (h : b.Evolves b') {seat : Seat}
    {p : PassengerId} {t : Time} (hs : b.HasHold seat p t) : b'.HasHold seat p t := by
  obtain ⟨hby, hat, ⟨i, c, hc, hcp, hcf⟩, seat', hseat', hf, hsame⟩ := hs
  obtain ⟨c', hc', he⟩ := h.checkIn i c hc
  obtain ⟨seat'', hseat'', hf'⟩ := h.seat _ seat' hseat'
  refine ⟨hby, hat, ⟨i, c', hc', he.1.trans hcp, he.2.1.trans hcf⟩, seat'', hseat'',
    hf'.trans hf, fun hp => ?_⟩
  obtain ⟨seat₁, hseat₁, hp₁, ht₁⟩ :=
    h.hold _ seat'' p hseat'' hp ⟨i, c, hc, hcp, hcf.trans (hf'.trans hf).symm⟩
  rw [hseat'] at hseat₁
  cases hseat₁
  exact ht₁ ▸ hsame hp₁

/-! ## Preconditions -/

/-- The Payment Service has answered `request` with status `confirmed` and this transaction
id. -/
def World.Charged (w : World) (request : PaymentRequestDto) (transactionId : Option String) :
    Prop :=
  ∃ e ∈ w.payments, e.request = request ∧ e.outcome.confirmedId = some transactionId

lemma PaymentOutcome.eq_response {outcome : PaymentOutcome} {transactionId : Option String}
    (h : outcome.confirmedId = some transactionId) :
    outcome = .response ⟨transactionId, "confirmed"⟩ := by
  unfold PaymentOutcome.confirmedId at h
  split at h
  · rename_i body
    obtain ⟨tid, status⟩ := body
    split at h <;> rename_i hst
    · obtain rfl : status = "confirmed" := hst
      obtain rfl : tid = transactionId := Option.some_inj.mp h
      rfl
    · cases h
  · cases h

/-- What a completion of `checkIn` with a declared weight rests on: the weight is within the
limit and there is no payment, or the fee for it has been paid. -/
def Settings.Settled (cfg : Settings) (w : World) (checkIn : CheckIn) (weight : ℚ)
    (paymentId : Option String) : Prop :=
  (weight ≤ cfg.maxBaggageKg ∧ paymentId = none) ∨
  (cfg.maxBaggageKg < weight ∧ w.Charged (CheckInService.paymentRequest checkIn
    (BaggageService.calculateFee cfg weight).excessFee) paymentId)

/-- What a call knows when it performs an action. -/
def Action.Pre (cfg : Settings) : Action → World → Prop
  | .holdSeat _ flightId seatId heldAt, w =>
      w.db.bookings.SeatOn seatId flightId ∧ heldAt ≤ w.now
  | .assign _ seat flightId heldAt, w =>
      w.db.bookings.SeatOn seat.id flightId ∧ heldAt ≤ w.now
  | .awaitPayment checkIn weight fee, w =>
      w.db.bookings.Has checkIn ∧ checkIn.status.isOpen = true ∧ cfg.maxBaggageKg < weight ∧
        fee = (BaggageService.calculateFee cfg weight).excessFee
  | .complete checkIn weight paymentId, w =>
      w.db.bookings.Has checkIn ∧ checkIn.status.isOpen = true ∧
        cfg.Settled w checkIn weight paymentId
  | .cancel checkIn checkInId passengerId, w =>
      w.db.bookings.Has checkIn ∧ checkIn.id = checkInId ∧ checkIn.passengerId = passengerId
  | .release seat, w =>
      ∃ p h, w.db.bookings.HasHold seat p h ∧ h + seatHoldTtl * 1000 ≤ w.now
  | .auditLog dto, _ => dto.action.ofBooking = false
  | _, _ => True

/-! ## Committed writes -/

/-- Whether the outcome of an action means that it has written to the bookings. -/
def Action.committed : (a : Action) → Except AppException a.Res → Bool
  | .holdSeat .., .ok _ => true
  | .awaitPayment .., .ok _ => true
  | .complete .., .ok _ => true
  | .cancel .., .ok _ => true
  | .release _, .ok affected => affected
  | .assign .., .ok assigned => assigned
  | _, _ => false

/-- What a committed action reports in the audit log. -/
def Action.trail : Action → List (AuditAction × Uuid)
  | .holdSeat _ _ seatId _ => [(.seatHeld, seatId)]
  | .complete checkIn _ _ =>
      checkIn.seatId.toList.map (AuditAction.seatConfirmed, ·) ++ [(.checkInCompleted, checkIn.id)]
  | .cancel checkIn checkInId _ =>
      checkIn.seatId.toList.map (AuditAction.seatCancelled, ·) ++ [(.checkInCancelled, checkInId)]
  | .release seat => [(.seatReleased, seat.id)]
  | .assign entry _ _ _ => [(.waitlistAssigned, entry.id)]
  | _ => []

/-- The write that an action commits, with the rows it has hit. -/
inductive Commits (b : Bookings) : Action → Bookings → Prop
  | holdSeat {p f s t seat c} (h : b.Acquirable s seat c) (hp : c.passengerId = p)
      (hf : c.flightId = f) : Commits b (.holdSeat p f s t) (b.acquired s seat c t)
  | assign {entry f t seat seat₀ c} (h : b.Acquirable seat₀.id seat c)
      (hp : c.passengerId = entry.passengerId) (hf : c.flightId = f) :
      Commits b (.assign entry seat₀ f t) (b.acquired seat₀.id seat c t)
  | release {seat₀ seat p} (hseat : b.seat seat₀.id = some seat) (hheld : seat.status = .held)
      (howner : seat.heldBy = some p) (hsnap : seat₀.heldBy = some p) :
      Commits b (.release seat₀) (b.released seat₀.id seat)
  | cancel {snap p c s seat} (hcheckIn : b.checkIn snap.id = some c)
      (hsnap : snap.SameBooking c) (hp : snap.passengerId = p) (hseatId : c.seatId = some s)
      (hseat : b.seat s = some seat) :
      Commits b (.cancel snap snap.id p) (b.cancelled snap.id c s seat)
  | complete {snap weight payment c s seat} (hcheckIn : b.checkIn snap.id = some c)
      (hsnap : snap.SameBooking c) (hopen : snap.status.isOpen = true)
      (hseatId : c.seatId = some s) (hseat : b.seat s = some seat) :
      Commits b (.complete snap weight payment)
        (b.completed snap.id c s seat (numericScale2 weight) payment)
  | awaitPayment {snap weight fee c} (hcheckIn : b.checkIn snap.id = some c)
      (hsnap : snap.SameBooking c) (hopen : snap.status.isOpen = true) :
      Commits b (.awaitPayment snap weight fee)
        (b.awaiting snap.id c (numericScale2 weight) (numericScale2 fee))

/-- A committed write is a step of the booking machine. -/
theorem Commits.step {b b' : Bookings} {a : Action} (h : Commits b a b') : b.Step b' := by
  cases h with
  | holdSeat h _ _ => exact .acquire h
  | assign h _ _ => exact .acquire h
  | release hseat hheld howner _ => exact .release hseat hheld howner
  | cancel hcheckIn _ _ hseatId hseat => exact .cancel hcheckIn hseatId hseat
  | complete hcheckIn _ _ hseatId hseat => exact .complete hcheckIn hseatId hseat
  | awaitPayment hcheckIn _ _ => exact .awaitPayment hcheckIn

/-- A completed row is an old one, or the transaction has just completed it. -/
lemma Commits.of_completed {b b' : Bookings} {a : Action} (h : Commits b a b') {i : CheckInId}
    {c' : CheckIn} (hc' : b'.checkIn i = some c') (hdone : c'.status = .completed) :
    b.checkIn i = some c' ∨ ∃ snap weight payment c, a = .complete snap weight payment ∧
      snap.id = i ∧ snap.SameBooking c ∧ b.checkIn i = some c ∧
      c' = { c with
        status := .completed, baggageWeight := some (numericScale2 weight)
        paymentId := payment } := by
  cases h with
  | holdSeat h _ _ | assign h _ _ =>
      rcases Bookings.update_eq_some_iff.mp hc' with ⟨-, rfl⟩ | ⟨-, hc⟩
      · rw [h.status] at hdone
        cases hdone
      · exact .inl hc
  | release _ _ _ _ =>
      obtain ⟨c, hc, rfl⟩ := Option.map_eq_some_iff.mp hc'
      unfold CheckIn.releasedFrom at hdone ⊢
      split at hdone
      · cases hdone
      · rename_i hcond
        rw [if_neg hcond]
        exact .inl hc
  | cancel _ _ _ _ _ | awaitPayment _ _ _ =>
      rcases Bookings.update_eq_some_iff.mp hc' with ⟨-, rfl⟩ | ⟨-, hc⟩
      · cases hdone
      · exact .inl hc
  | complete hc hsame _ _ _ =>
      rcases Bookings.update_eq_some_iff.mp hc' with ⟨rfl, rfl⟩ | ⟨-, hold⟩
      · exact .inr ⟨_, _, _, _, rfl, rfl, hsame, hc, rfl⟩
      · exact .inl hold

namespace World

/-! ## Inversion of single actions -/

/-- A transaction fails without effect, or commits. -/
lemma transaction_cases {α : Type} {w w' : World} {ch : Choice} {body : Tx α}
    {r : Except AppException α} (h : w.transaction ch body = (r, w')) :
    (∃ e, r = .error e ∧ w' = w) ∨
    (∃ x db', r = .ok x ∧ body w.db = .ok (x, db') ∧ w' = { w with db := db' }) := by
  unfold transaction at h
  split at h
  · cases h
    exact .inl ⟨_, rfl, rfl⟩
  · split at h
    · rename_i x db' hbody
      cases h
      exact .inr ⟨x, db', rfl, hbody, rfl⟩
    · cases h
      exact .inl ⟨_, rfl, rfl⟩

/-- A transaction that throws without a fault of the environment has been refused by its body, and
is rolled back. -/
lemma transaction_error {α : Type} {w w' : World} {ch : Choice} {body : Tx α}
    {e : AppException} (hch : ch.fault = false) (h : w.transaction ch body = (.error e, w')) :
    body w.db = .error e ∧ w' = w := by
  unfold World.transaction at h
  rw [if_neg (by simp [hch])] at h
  split at h <;> cases h
  exact ⟨‹_›, rfl⟩

/-- A transaction whose body commits does so without a fault of the environment. -/
lemma transaction_ok {α : Type} {w : World} {ch : Choice} {body : Tx α} {x : α} {db' : Database}
    (hch : ch.fault = false) (h : body w.db = .ok (x, db')) :
    w.transaction ch body = (.ok x, { w with db := db' }) := by
  simp [transaction, hch, h]

lemma query_world {α : Type} {w w' : World} {ch : Choice} {x : α} {r : Except AppException α}
    (h : w.query ch x = (r, w')) : w' = w := by
  unfold query at h
  split at h <;> cases h <;> rfl

lemma redis_db {α : Type} {w w₁ w' : World} {ch : Choice} {x : α} {r : Except AppException α}
    (h : w.redis ch x w₁ = (r, w')) (hdb : w₁.db = w.db) : w'.db = w.db := by
  unfold redis at h
  split at h <;> cases h
  · rfl
  · exact hdb

end World

/-- The bookings and the trail are as before. -/
def Database.Quiet (db db' : Database) : Prop := db'.bookings = db.bookings ∧ db.Logs db' []

lemma Database.Quiet.refl (db : Database) : db.Quiet db := ⟨rfl, rfl, rfl, by simp⟩

lemma Database.Quiet.of_eq {db db' : Database} (h : db' = db) : db.Quiet db' := h ▸ .refl db

/-- The six actions whose transactions write to seats and check-ins. -/
def Action.books : Action → Bool
  | .holdSeat .. | .awaitPayment .. | .complete .. | .cancel .. | .release _ | .assign .. => true
  | _ => false

lemma Tx.saveWaitlist_quiet {entry : Waitlist} {u : Unit} {db db' : Database}
    (h : Tx.saveWaitlist entry db = .ok (u, db')) : db.Quiet db' := by
  cases h
  exact ⟨rfl, rfl, rfl, by simp [Database.trail]⟩

lemma Tx.insertWaitlist_quiet {now : Time} {f : FlightId} {p : PassengerId} {n : ℕ} {e : Waitlist}
    {db db' : Database} (h : Tx.insertWaitlist now f p n db = .ok (e, db')) : db.Quiet db' := by
  unfold Tx.insertWaitlist at h
  split at h
  · cases h
  · split at h
    · cases h
    · cases h
      exact ⟨rfl, rfl, rfl, by simp [Database.trail]⟩

/-- Every other action leaves the bookings alone. -/
lemma exec_quiet {cfg : Settings} {a : Action} {ch : Choice} {w w' : World}
    {r : Except AppException a.Res} (hbooks : a.books = false) (hpre : a.Pre cfg w)
    (h : World.exec a ch w = (r, w')) : w.db.Quiet w'.db ∧ a.committed r = false := by
  refine ⟨?_, by cases a <;> first | rfl | cases hbooks⟩
  cases a with
  | holdSeat | awaitPayment | complete | cancel | release | assign => cases hbooks
  | findOneFlight | findOneSeat | findOneCheckIn | findOneWaitlist | findStaleSeats
  | findFlightSeats | maxPosition =>
      exact .of_eq (congrArg World.db (World.query_world h))
  | setSeatHold | existsSeatHold | delSeatHold | getSeatMapCache | setSeatMapCache
  | delSeatMapCache => exact .of_eq (World.redis_db h rfl)
  | saveWaitlist entry =>
      have h : w.transaction ch (Tx.saveWaitlist entry) = (r, w') := h
      rcases World.transaction_cases h with ⟨e, -, rfl⟩ | ⟨x, db', -, hbody, rfl⟩
      · exact .refl _
      · exact Tx.saveWaitlist_quiet hbody
  | insertWaitlist f p n =>
      rcases World.transaction_cases h with ⟨e, -, rfl⟩ | ⟨x, db', -, hbody, rfl⟩
      · exact .refl _
      · exact Tx.insertWaitlist_quiet hbody
  | auditLog dto =>
      have hdto : dto.action.ofBooking = false := hpre
      simp only [World.exec] at h
      split at h <;> cases h
      · exact .refl _
      · exact ⟨rfl, rfl, rfl, by simp [Database.trail, hdto]⟩
  | acquireLock | releaseLock | getWeight =>
      simp only [World.exec] at h
      split at h <;> cases h <;> exact .refl _
  | postPayment | dateNow | delay | emit | incSeatContention =>
      cases h
      exact .refl _

/-- **Inversion of an action.**  One that meets its precondition commits a write and reports it,
or leaves bookings and trail as they are. -/
theorem exec_commits {cfg : Settings} {a : Action} {ch : Choice} {w w' : World}
    {r : Except AppException a.Res} (hlinked : w.db.bookings.Linked) (hpre : a.Pre cfg w)
    (h : World.exec a ch w = (r, w')) :
    (a.committed r = true ∧ Commits w.db.bookings a w'.db.bookings ∧ w.db.Logs w'.db a.trail) ∨
    (a.committed r = false ∧ w.db.Quiet w'.db) := by
  cases hbooks : a.books with
  | false => exact .inr (exec_quiet hbooks hpre h).symm
  | true =>
      cases a with
      | holdSeat p f s t =>
          obtain ⟨⟨seat₁, hseat₁, hf⟩, -⟩ := hpre
          rcases World.transaction_cases h with ⟨e, rfl, rfl⟩ | ⟨c, db', rfl, hbody, rfl⟩
          · exact .inr ⟨rfl, .refl _⟩
          · obtain ⟨rfl, ⟨seat, hseat, hacq, hb⟩, hlogs, -⟩ := Tx.holdSeatTransaction_ok hbody
            obtain rfl : seat₁ = seat := Option.some_inj.mp (hseat₁.symm.trans hseat)
            refine .inl ⟨rfl, ?_, hlogs⟩
            rw [hb]
            exact .holdSeat (hacq hf) rfl rfl
      | assign entry seat₀ f t =>
          obtain ⟨⟨seat₁, hseat₁, hf⟩, -⟩ := hpre
          rcases World.transaction_cases h with ⟨e, rfl, rfl⟩ | ⟨b, db', rfl, hbody, rfl⟩
          · exact .inr ⟨rfl, .refl _⟩
          · rcases Tx.assignTransaction_ok hbody with ⟨rfl, rfl⟩ |
              ⟨rfl, ⟨seat, hseat, hacq, hb⟩, hlogs, -⟩
            · exact .inr ⟨rfl, .refl _⟩
            · obtain rfl : seat₁ = seat := Option.some_inj.mp (hseat₁.symm.trans hseat)
              refine .inl ⟨rfl, ?_, hlogs⟩
              rw [hb]
              exact .assign (hacq hf) rfl rfl
      | release seat₀ =>
          rcases World.transaction_cases h with ⟨e, rfl, rfl⟩ | ⟨b, db', rfl, hbody, rfl⟩
          · exact .inr ⟨rfl, .refl _⟩
          · rcases Tx.releaseTransaction_ok hbody with ⟨rfl, rfl⟩ |
              ⟨rfl, seat, p, hseat, hheld, howner, hsnap, hb, hlogs, -⟩
            · exact .inr ⟨rfl, .refl _⟩
            · refine .inl ⟨rfl, ?_, hlogs⟩
              rw [hb]
              exact .release hseat hheld howner hsnap
      | cancel snap i p =>
          obtain ⟨⟨c, hc, hsame⟩, rfl, rfl⟩ := hpre
          obtain ⟨s, seat, hcs, hseat, -⟩ := hlinked.seatOf _ c hc
          rcases World.transaction_cases h with ⟨e, rfl, rfl⟩ | ⟨u, db', rfl, hbody, rfl⟩
          · exact .inr ⟨rfl, .refl _⟩
          · have hs : snap.seatId = some s := hsame.2.2.symm.trans hcs
            obtain ⟨hb, hlogs, -⟩ := Tx.cancelTransaction_ok hbody hs hc hseat
            refine .inl ⟨rfl, ?_, by simpa [Action.trail, hs] using hlogs⟩
            rw [hb]
            exact .cancel hc hsame rfl hcs hseat
      | complete snap weight payment =>
          obtain ⟨⟨c, hc, hsame⟩, hopen, -⟩ := hpre
          obtain ⟨s, seat, hcs, hseat, -⟩ := hlinked.seatOf _ c hc
          rcases World.transaction_cases h with ⟨e, rfl, rfl⟩ | ⟨u, db', rfl, hbody, rfl⟩
          · exact .inr ⟨rfl, .refl _⟩
          · have hs : snap.seatId = some s := hsame.2.2.symm.trans hcs
            obtain ⟨hb, hlogs, -⟩ := Tx.completeTransaction_ok hbody hs hc hseat
            refine .inl ⟨rfl, ?_, by simpa [Action.trail, hs] using hlogs⟩
            rw [hb]
            exact .complete hc hsame hopen hcs hseat
      | awaitPayment snap weight fee =>
          obtain ⟨⟨c, hc, hsame⟩, hopen, -⟩ := hpre
          rcases World.transaction_cases h with ⟨e, rfl, rfl⟩ | ⟨u, db', rfl, hbody, rfl⟩
          · exact .inr ⟨rfl, .refl _⟩
          · obtain ⟨hb, hlogs, -⟩ := Tx.awaitPaymentUpdate_ok hbody hc
            refine .inl ⟨rfl, ?_, hlogs⟩
            rw [hb]
            exact .awaitPayment hc hsame hopen
      | _ => cases hbooks

end SkyHighCore
