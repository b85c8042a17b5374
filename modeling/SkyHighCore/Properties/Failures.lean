import SkyHighCore.Properties.Contracts

/-!
# Why an action fails

An action fails because the environment lets it fail, or because the rows it meets do not admit it.
`Action.RefusedBy` lists the second kind, for each of the transactions that has one, with what it
says about the state; `exec_error` is the inversion of a failing action.
-/

namespace SkyHighCore

open Framework

/-- What drivers report when the environment lets an action fail. -/
def AppException.isFault : AppException → Bool
  | .queryFailed .connectionFailure | .redisFailed | .lockFailed => true
  | _ => false

/-- The rows do not admit the action, which throws `e` for it. -/
def Action.RefusedBy (w : World) : Action → AppException → Prop
  | .holdSeat _ _ s _, .seatAlreadyHeld _ =>
      ∀ seat, w.db.seats.get? s = some seat → seat.status ≠ .available
  | .holdSeat p f _ _, .queryFailed .uniqueViolation =>
      ∃ c ∈ w.db.checkIns.rows, c.passengerId = p ∧ c.flightId = f
  | .holdSeat p f s _, .queryFailed .foreignKeyViolation =>
      p ∉ w.db.passengers ∨ w.db.flights.get? f = none ∨ w.db.seats.get? s = none
  | .assign entry _ f _, .queryFailed .uniqueViolation =>
      ∃ c ∈ w.db.checkIns.rows, c.passengerId = entry.passengerId ∧ c.flightId = f
  | .assign entry seat f _, .queryFailed .foreignKeyViolation =>
      entry.passengerId ∉ w.db.passengers ∨ w.db.flights.get? f = none ∨
        w.db.seats.get? seat.id = none
  | .insertWaitlist f p _, .queryFailed .uniqueViolation =>
      ∃ e ∈ w.db.waitlist.rows, e.flightId = f ∧ e.passengerId = p
  | .insertWaitlist f p _, .queryFailed .foreignKeyViolation =>
      p ∉ w.db.passengers ∨ w.db.flights.get? f = none
  | .awaitPayment _ weight fee, .queryFailed .numericOutOfRange =>
      1000 ≤ |numericScale2 weight| ∨ 100000000 ≤ |numericScale2 fee|
  | .complete _ weight _, .queryFailed .numericOutOfRange => 1000 ≤ |numericScale2 weight|
  | .complete _ _ paymentId, .queryFailed .stringTooLong => ∃ t ∈ paymentId, 100 < t.length
  | _, _ => False

/-! ## Transactions that throw -/

namespace Tx

variable {db : Database} {e : AppException}

lemma insertCheckIn_refused {now : Time} {p : PassengerId} {f : FlightId} {s : SeatId}
    (h : insertCheckIn now p f s db = .error e) :
    (e = .queryFailed .uniqueViolation ∧
      ∃ c ∈ db.checkIns.rows, c.passengerId = p ∧ c.flightId = f) ∨
    (e = .queryFailed .foreignKeyViolation ∧
      (p ∉ db.passengers ∨ db.flights.get? f = none ∨ db.seats.get? s = none)) := by
  unfold insertCheckIn at h
  split at h
  · cases h
    exact .inl ⟨rfl, ‹_›⟩
  · split at h
    · cases h
      exact .inr ⟨rfl, ‹_›⟩
    · cases h

lemma insertWaitlist_refused {now : Time} {f : FlightId} {p : PassengerId} {n : ℕ}
    (h : insertWaitlist now f p n db = .error e) :
    (e = .queryFailed .uniqueViolation ∧
      ∃ entry ∈ db.waitlist.rows, entry.flightId = f ∧ entry.passengerId = p) ∨
    (e = .queryFailed .foreignKeyViolation ∧
      (p ∉ db.passengers ∨ db.flights.get? f = none)) := by
  unfold insertWaitlist at h
  split at h
  · cases h
    exact .inl ⟨rfl, ‹_›⟩
  · split at h
    · cases h
      exact .inr ⟨rfl, ‹_›⟩
    · cases h

lemma numeric_refused {limit x : ℚ} (h : numeric limit x db = .error e) :
    e = .queryFailed .numericOutOfRange ∧ limit ≤ |numericScale2 x| := by
  unfold numeric at h
  split at h
  · cases h
  · cases h
    exact ⟨rfl, not_lt.mp ‹_›⟩

lemma varchar100_refused {s : Option String} (h : varchar100 s db = .error e) :
    e = .queryFailed .stringTooLong ∧ ∃ t ∈ s, 100 < t.length := by
  unfold varchar100 at h
  split at h
  · cases h
  · rename_i hlong
    cases h
    push Not at hlong
    exact ⟨rfl, hlong⟩

lemma holdSeatTransaction_refused {now t : Time} {p : PassengerId} {f : FlightId} {s : SeatId}
    (h : holdSeatTransaction now p f s t db = .error e) :
    (∃ detail, e = .seatAlreadyHeld detail ∧
      ∀ seat, db.seats.get? s = some seat → seat.status ≠ .available) ∨
    (e = .queryFailed .uniqueViolation ∧
      ∃ c ∈ db.checkIns.rows, c.passengerId = p ∧ c.flightId = f) ∨
    (e = .queryFailed .foreignKeyViolation ∧
      (p ∉ db.passengers ∨ db.flights.get? f = none ∨ db.seats.get? s = none)) := by
  simp only [holdSeatTransaction, run_bind, run_updateSeats, run_ite, run_throw, run_pure,
    run_logWithTransaction] at h
  split at h
  · rename_i hcas
    cases h
    refine .inl ⟨_, rfl, fun seat hseat hav => ?_⟩
    rw [Table.count_eq_zero_iff] at hcas
    exact hcas s seat hseat ⟨Table.key_of_get? hseat, hav⟩
  · split at h
    · cases h
    · rename_i e' hins
      cases h
      rcases insertCheckIn_refused hins with ⟨rfl, hc⟩ | ⟨rfl, hkey⟩
      · exact .inr (.inl ⟨rfl, hc⟩)
      · refine .inr (.inr ⟨rfl, hkey.imp_right fun hkey => hkey.imp_right fun hnone => ?_⟩)
        rw [Table.get?_updateWhere, Option.map_eq_none_iff] at hnone
        exact hnone

lemma assignTransaction_refused {now t : Time} {entry : Waitlist} {seat : Seat} {f : FlightId}
    (h : assignTransaction now entry seat f t db = .error e) :
    (e = .queryFailed .uniqueViolation ∧
      ∃ c ∈ db.checkIns.rows, c.passengerId = entry.passengerId ∧ c.flightId = f) ∨
    (e = .queryFailed .foreignKeyViolation ∧ (entry.passengerId ∉ db.passengers ∨
      db.flights.get? f = none ∨ db.seats.get? seat.id = none)) := by
  simp only [assignTransaction, run_bind, run_updateSeats, run_updateWaitlist, run_ite, run_pure,
    run_logWithTransaction] at h
  split at h
  · cases h
  · split at h
    · cases h
    · rename_i e' hins
      cases h
      rcases insertCheckIn_refused hins with ⟨rfl, hc⟩ | ⟨rfl, hkey⟩
      · exact .inl ⟨rfl, hc⟩
      · refine .inr ⟨rfl, hkey.imp_right fun hkey => hkey.imp_right fun hnone => ?_⟩
        rw [Table.get?_updateWhere, Option.map_eq_none_iff] at hnone
        exact hnone

lemma awaitPaymentUpdate_refused {checkIn : CheckIn} {weight fee : ℚ}
    (h : awaitPaymentUpdate checkIn weight fee db = .error e) :
    e = .queryFailed .numericOutOfRange ∧
      (1000 ≤ |numericScale2 weight| ∨ 100000000 ≤ |numericScale2 fee|) := by
  simp only [awaitPaymentUpdate, run_bind, run_updateCheckIns, run_pure, numeric52,
    numeric102] at h
  split at h
  · split at h
    · cases h
    · rename_i hfee
      cases h
      exact ⟨(numeric_refused hfee).1, .inr (numeric_refused hfee).2⟩
  · rename_i hw
    cases h
    exact ⟨(numeric_refused hw).1, .inl (numeric_refused hw).2⟩

lemma completeTransaction_refused {checkIn : CheckIn} {weight : ℚ} {paymentId : Option String}
    (h : completeTransaction checkIn weight paymentId db = .error e) :
    (e = .queryFailed .numericOutOfRange ∧ 1000 ≤ |numericScale2 weight|) ∨
    (e = .queryFailed .stringTooLong ∧ ∃ t ∈ paymentId, 100 < t.length) := by
  cases hs : checkIn.seatId <;>
    simp only [completeTransaction, hs, run_bind, run_forM_some, run_forM_none, run_updateSeats,
      run_updateCheckIns, run_logWithTransaction, numeric52] at h
  all_goals
    split at h
    · split at h
      · cases h
      · rename_i hlong
        cases h
        exact .inr (varchar100_refused hlong)
    · rename_i hw
      cases h
      exact .inl (numeric_refused hw)

end Tx

/-! ## Actions that fail -/

/-- **Inversion of a failing action.** -/
theorem exec_error {a : Action} {ch : Choice} {w w' : World} {e : AppException}
    (ha : ∀ request, a ≠ .postPayment request) (hweight : ∀ p, a ≠ .getWeight p)
    (h : World.exec a ch w = (.error e, w')) :
    w' = w ∧ ((ch.fault = true ∧ e.isFault = true) ∨ a.RefusedBy w e) := by
  have hquery : ∀ {α : Type} {x : α}, w.query ch x = (.error e, w') →
      w' = w ∧ ((ch.fault = true ∧ e.isFault = true) ∨ a.RefusedBy w e) := by
    intro α x h
    unfold World.query at h
    split at h <;> cases h
    exact ⟨rfl, .inl ⟨‹_›, rfl⟩⟩
  have hredis : ∀ {α : Type} {x : α} {w₁ : World}, w.redis ch x w₁ = (.error e, w') →
      w' = w ∧ ((ch.fault = true ∧ e.isFault = true) ∨ a.RefusedBy w e) := by
    intro α x w₁ h
    unfold World.redis at h
    split at h <;> cases h
    exact ⟨rfl, .inl ⟨‹_›, rfl⟩⟩
  have htransaction : ∀ {α : Type} {body : Tx α}, w.transaction ch body = (.error e, w') →
      (body w.db = .error e → a.RefusedBy w e) →
      w' = w ∧ ((ch.fault = true ∧ e.isFault = true) ∨ a.RefusedBy w e) := by
    intro α body h hbody
    cases hch : ch.fault with
    | false =>
        obtain ⟨herror, rfl⟩ := World.transaction_error hch h
        exact ⟨rfl, .inr (hbody herror)⟩
    | true =>
        unfold World.transaction at h
        rw [if_pos hch] at h
        cases h
        exact ⟨rfl, .inl ⟨rfl, rfl⟩⟩
  cases a with
  | findOneFlight | findOneSeat | findOneCheckIn | findOneWaitlist | findStaleSeats
  | findFlightSeats | maxPosition => exact hquery h
  | setSeatHold | existsSeatHold | delSeatHold | getSeatMapCache | setSeatMapCache
  | delSeatMapCache => exact hredis h
  | holdSeat p f s t =>
      refine htransaction h fun hbody => ?_
      rcases Tx.holdSeatTransaction_refused hbody with
        ⟨_, rfl, hrefused⟩ | ⟨rfl, hrefused⟩ | ⟨rfl, hrefused⟩ <;> exact hrefused
  | assign entry seat f t =>
      refine htransaction h fun hbody => ?_
      rcases Tx.assignTransaction_refused hbody with ⟨rfl, hrefused⟩ | ⟨rfl, hrefused⟩ <;>
        exact hrefused
  | insertWaitlist f p n =>
      refine htransaction h fun hbody => ?_
      rcases Tx.insertWaitlist_refused hbody with ⟨rfl, hrefused⟩ | ⟨rfl, hrefused⟩ <;>
        exact hrefused
  | awaitPayment checkIn weight fee =>
      refine htransaction h fun hbody => ?_
      obtain ⟨rfl, hrefused⟩ := Tx.awaitPaymentUpdate_refused hbody
      exact hrefused
  | complete checkIn weight paymentId =>
      refine htransaction h fun hbody => ?_
      rcases Tx.completeTransaction_refused hbody with ⟨rfl, hrefused⟩ | ⟨rfl, hrefused⟩ <;>
        exact hrefused
  | cancel checkIn i p =>
      refine htransaction h fun hbody => ?_
      obtain ⟨db', hok⟩ := Tx.cancelTransaction_commits checkIn i p w.db
      rw [hok] at hbody
      cases hbody
  | release seat =>
      refine htransaction h fun hbody => ?_
      obtain ⟨affected, db', hok⟩ := Tx.releaseTransaction_commits seat w.db
      rw [hok] at hbody
      cases hbody
  | saveWaitlist entry =>
      have h : w.transaction ch (Tx.saveWaitlist entry) = (.error e, w') := h
      exact htransaction h fun hbody => by cases hbody
  | acquireLock | releaseLock =>
      simp only [World.exec] at h
      split at h <;> cases h
      exact ⟨rfl, .inl ⟨‹_›, rfl⟩⟩
  | auditLog dto =>
      simp only [World.exec] at h
      split at h <;> cases h
  | getWeight p => exact absurd rfl (hweight p)
  | postPayment request => exact absurd rfl (ha request)
  | dateNow | delay | emit | incSeatContention => cases h

end SkyHighCore
