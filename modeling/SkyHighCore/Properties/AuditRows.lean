import SkyHighCore.Properties.Warrants

/-!
# What the audit rows report

A row of the audit log reports a `Change`: which entity, from which state, to which state.
`Action.changes` lists the changes that the transaction of an action reports through
`logWithTransaction`, and `exec_changes` says that a committed action appends exactly these rows.
Rows written outside a transaction are those of `AuditService.log`.
-/

namespace SkyHighCore

open Framework

/-! ## Changes -/

/-- What a row of the audit log reports. -/
structure Change where
  entityType : EntityType
  entityId : Uuid
  fromState : Option AuditState
  toState : AuditState
  deriving DecidableEq

def AuditLog.change (l : AuditLog) : Change := ⟨l.entityType, l.entityId, l.fromState, l.toState⟩

/-- The changes that the audit log reports, in insertion order. -/
def Database.changes (db : Database) : List Change := db.auditLog.map AuditLog.change

/-- The status that a cancellation takes a seat to be in, by that of the check-in. -/
def CheckIn.seatStatus (c : CheckIn) : SeatStatus :=
  if c.status = .completed then .confirmed else .held

/-- Seat `s` is in the status that the row of a completion or a cancellation takes it to be in. -/
def Action.FindsSeat (b : Bookings) (s : SeatId) : Action → Prop
  | .complete checkIn _ _ =>
      checkIn.seatId = some s → ∀ seat, b.seat s = some seat → seat.status = .held
  | .cancel checkIn _ _ =>
      checkIn.seatId = some s → ∀ seat, b.seat s = some seat → seat.status = checkIn.seatStatus
  | _ => True

/-- The changes that the transaction of an action reports. -/
def Action.changes : Action → List Change
  | .holdSeat _ _ seatId _ => [⟨.seat, seatId, some (.seat .available), .seat .held⟩]
  | .complete checkIn _ _ =>
      checkIn.seatId.toList.map (fun s => ⟨.seat, s, some (.seat .held), .seat .confirmed⟩) ++
        [⟨.checkIn, checkIn.id, some (.checkIn checkIn.status), .checkIn .completed⟩]
  | .cancel checkIn checkInId _ =>
      checkIn.seatId.toList.map
          (fun s => ⟨.seat, s, some (.seat checkIn.seatStatus), .seat .available⟩) ++
        [⟨.checkIn, checkInId, some (.checkIn checkIn.status), .checkIn .cancelled⟩]
  | .release seat => [⟨.seat, seat.id, some (.seat .held), .seat .available⟩]
  | .assign entry _ _ _ =>
      [⟨.waitlist, entry.id, some (.waitlist .waiting), .waitlist .assigned⟩]
  | _ => []

/-! ## Transactions -/

namespace Tx

variable {db db' : Database} {now t : Time}

lemma holdSeatTransaction_changes {p : PassengerId} {f : FlightId} {s : SeatId} {c : CheckIn}
    (h : holdSeatTransaction now p f s t db = .ok (c, db')) :
    db'.changes = db.changes ++ (Action.holdSeat p f s t).changes := by
  simp only [holdSeatTransaction, run_bind, run_updateSeats, run_ite, run_throw, run_pure,
    run_logWithTransaction] at h
  split at h
  · cases h
  · split at h
    · rename_i c' db₂ hins
      obtain ⟨-, -, hfresh, rfl⟩ := insertCheckIn_ok hins
      cases h
      simp [Database.changes, Action.changes, AuditLog.change]
    · cases h

lemma assignTransaction_changes {entry : Waitlist} {seat : Seat} {f : FlightId} {b : Bool}
    (h : assignTransaction now entry seat f t db = .ok (b, db')) :
    db'.changes = db.changes ++ if b then (Action.assign entry seat f t).changes else [] := by
  simp only [assignTransaction, run_bind, run_updateSeats, run_updateWaitlist, run_ite, run_pure,
    run_logWithTransaction] at h
  split at h
  · cases h
    exact (List.append_nil _).symm
  · split at h
    · rename_i c' db₂ hins
      obtain ⟨-, -, hfresh, rfl⟩ := insertCheckIn_ok hins
      cases h
      simp [Database.changes, Action.changes, AuditLog.change]
    · cases h

lemma awaitPaymentUpdate_changes {checkIn : CheckIn} {weight fee : ℚ} {u : Unit}
    (h : awaitPaymentUpdate checkIn weight fee db = .ok (u, db')) : db'.changes = db.changes := by
  simp only [awaitPaymentUpdate, run_bind, run_updateCheckIns, run_pure, numeric52,
    numeric102] at h
  split at h
  · rename_i w db₁ hw
    obtain ⟨-, rfl⟩ := numeric_ok hw
    split at h
    · rename_i y db₂ hfee
      obtain ⟨-, rfl⟩ := numeric_ok hfee
      cases h
      rfl
    · cases h
  · cases h

lemma completeTransaction_changes {checkIn : CheckIn} {weight : ℚ} {paymentId : Option String}
    {u : Unit} (h : completeTransaction checkIn weight paymentId db = .ok (u, db')) :
    db'.changes = db.changes ++ (Action.complete checkIn weight paymentId).changes := by
  cases hs : checkIn.seatId with
  | none | some s =>
      simp only [completeTransaction, hs, run_bind, run_forM_some, run_forM_none, run_updateSeats,
        run_updateCheckIns, run_logWithTransaction, numeric52] at h
      split at h
      · rename_i w db₁ hw
        obtain ⟨-, rfl⟩ := numeric_ok hw
        split at h
        · rename_i pid db₂ hp
          obtain ⟨-, rfl⟩ := varchar100_ok hp
          cases h
          simp [Database.changes, Action.changes, AuditLog.change, hs]
        · cases h
      · cases h

lemma cancelTransaction_changes {checkIn : CheckIn} {i : CheckInId} {p : PassengerId} {u : Unit}
    (h : cancelTransaction checkIn i p db = .ok (u, db')) :
    db'.changes = db.changes ++ (Action.cancel checkIn i p).changes := by
  cases hs : checkIn.seatId with
  | none | some s =>
      simp only [cancelTransaction, hs, run_bind, run_forM_some, run_forM_none, run_updateSeats,
        run_updateCheckIns, run_logWithTransaction] at h
      cases h
      simp [Database.changes, Action.changes, AuditLog.change, CheckIn.seatStatus, hs]

lemma releaseTransaction_changes {seat : Seat} {b : Bool}
    (h : releaseTransaction seat db = .ok (b, db')) :
    db'.changes = db.changes ++ if b then (Action.release seat).changes else [] := by
  simp only [releaseTransaction, run_bind, run_updateSeats, run_updateCheckIns, run_ite,
    run_pure, run_logWithTransaction] at h
  split at h
  · cases h
    exact (List.append_nil _).symm
  · cases h
    simp [Database.changes, Action.changes, AuditLog.change]

lemma insertWaitlist_changes {f : FlightId} {p : PassengerId} {n : ℕ} {e : Waitlist}
    (h : insertWaitlist now f p n db = .ok (e, db')) : db'.changes = db.changes := by
  unfold insertWaitlist at h
  split at h
  · cases h
  · split at h
    · cases h
    · cases h
      rfl

end Tx

/-! ## Actions -/

/-- **The rows that an action appends**: a committed one those of its transaction, another one none,
unless it is a call of `AuditService.log`. -/
theorem exec_changes {a : Action} {ch : Choice} {w w' : World} {r : Except AppException a.Res}
    (h : World.exec a ch w = (r, w')) :
    (a.committed r = true ∧ w'.db.changes = w.db.changes ++ a.changes) ∨
    (a.committed r = false ∧ (w'.db.changes = w.db.changes ∨
      ∃ dto, a = .auditLog dto ∧ w'.db.changes = w.db.changes ++ [dto.change])) := by
  cases a with
  | holdSeat p f s t =>
      rcases World.transaction_cases h with ⟨e, rfl, rfl⟩ | ⟨c, db', rfl, hbody, rfl⟩
      · exact .inr ⟨rfl, .inl rfl⟩
      · exact .inl ⟨rfl, Tx.holdSeatTransaction_changes hbody⟩
  | assign entry seat f t =>
      rcases World.transaction_cases h with ⟨e, rfl, rfl⟩ | ⟨b, db', rfl, hbody, rfl⟩
      · exact .inr ⟨rfl, .inl rfl⟩
      · have hchanges := Tx.assignTransaction_changes hbody
        cases b with
        | true => exact .inl ⟨rfl, hchanges⟩
        | false => exact .inr ⟨rfl, .inl (hchanges.trans (List.append_nil _))⟩
  | awaitPayment checkIn weight fee =>
      rcases World.transaction_cases h with ⟨e, rfl, rfl⟩ | ⟨u, db', rfl, hbody, rfl⟩
      · exact .inr ⟨rfl, .inl rfl⟩
      · exact .inl ⟨rfl, (Tx.awaitPaymentUpdate_changes hbody).trans (List.append_nil _).symm⟩
  | complete checkIn weight paymentId =>
      rcases World.transaction_cases h with ⟨e, rfl, rfl⟩ | ⟨u, db', rfl, hbody, rfl⟩
      · exact .inr ⟨rfl, .inl rfl⟩
      · exact .inl ⟨rfl, Tx.completeTransaction_changes hbody⟩
  | cancel checkIn i p =>
      rcases World.transaction_cases h with ⟨e, rfl, rfl⟩ | ⟨u, db', rfl, hbody, rfl⟩
      · exact .inr ⟨rfl, .inl rfl⟩
      · exact .inl ⟨rfl, Tx.cancelTransaction_changes hbody⟩
  | release seat =>
      rcases World.transaction_cases h with ⟨e, rfl, rfl⟩ | ⟨b, db', rfl, hbody, rfl⟩
      · exact .inr ⟨rfl, .inl rfl⟩
      · have hchanges := Tx.releaseTransaction_changes hbody
        cases b with
        | true => exact .inl ⟨rfl, hchanges⟩
        | false => exact .inr ⟨rfl, .inl (hchanges.trans (List.append_nil _))⟩
  | saveWaitlist entry =>
      have h : w.transaction ch (Tx.saveWaitlist entry) = (r, w') := h
      rcases World.transaction_cases h with ⟨e, rfl, rfl⟩ | ⟨u, db', rfl, hbody, rfl⟩
      · exact .inr ⟨rfl, .inl rfl⟩
      · cases hbody
        exact .inr ⟨rfl, .inl rfl⟩
  | insertWaitlist f p n =>
      rcases World.transaction_cases h with ⟨e, rfl, rfl⟩ | ⟨u, db', rfl, hbody, rfl⟩
      · exact .inr ⟨rfl, .inl rfl⟩
      · exact .inr ⟨rfl, .inl (Tx.insertWaitlist_changes hbody)⟩
  | auditLog dto =>
      simp only [World.exec] at h
      split at h <;> cases h
      · exact .inr ⟨rfl, .inl rfl⟩
      · exact .inr ⟨rfl, .inr ⟨dto, rfl, List.map_append⟩⟩
  | _ =>
      have hdb := congrArg World.db (congrArg Prod.snd h)
      exact .inr ⟨rfl, .inl (congrArg Database.changes
        (hdb.symm.trans (World.exec_sparesDatabase rfl ch w)))⟩

/-! ## Runs -/

/-- **The rows that a transition appends.** -/
theorem step_changes {cfg : Settings} {w : World} {ts : List SkyTransition} {c c' : SkyConfig}
    {l : SkyLabel} (hw : w.Seeded) (h : (skyHigh cfg).Run (.init w) ts c)
    (hstep : (skyHigh cfg).step l c = some c') :
    (∃ a, committed? ⟨c, l, c'⟩ = some a ∧
      c'.state.db.changes = c.state.db.changes ++ a.changes) ∨
    (committed? ⟨c, l, c'⟩ = none ∧ (c'.state.db.changes = c.state.db.changes ∨
      ∃ x, x.entityType ≠ .seat ∧ c'.state.db.changes = c.state.db.changes ++ [x])) := by
  rcases (skyHigh cfg).step_cases hstep with ⟨call, rfl, rfl⟩ | ⟨ms, rfl, rfl⟩ |
    ⟨k, ch, call, a, cont, rfl, hk, rfl⟩
  · exact .inr ⟨rfl, .inl rfl⟩
  · exact .inr ⟨rfl, .inl rfl⟩
  · rcases exec_changes (Prod.mk.eta (p := World.exec a ch c.state)).symm with ⟨hc, heq⟩ | ⟨hc, hor⟩
    · exact .inl ⟨a, by simp [committed?, hk, hc], heq⟩
    · refine .inr ⟨by simp [committed?, hk, hc], hor.imp_right ?_⟩
      rintro ⟨dto, rfl, heq⟩
      exact ⟨dto.change, (run_warrant hw h hk).1, heq⟩

end SkyHighCore
