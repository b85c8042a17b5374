import SkyHighCore.Construction.Entities

/-!
# The Postgres database and transactions on it

`Database` holds the tables of `InitialSchema1771000615393` that the services use.  A `Tx` is
the body of a transaction: statements in sequence, each of which may fail; a failing statement,
or an exception thrown between statements, discards every change the body made, so that a
transaction either commits all of them or none.

Generated uuids are keys that no row of the table uses.  The statements check the constraints
of the schema that the services can run into: `UQ_checkin_passenger_flight`,
`UQ_waitlist_flight_passenger`, the foreign keys of `check_in` and `waitlist`, and the ranges of
`numeric(5,2)`, `numeric(10,2)` and `varchar(100)`.  The foreign key of `seat.held_by` needs no
check of its own: the statements that set it run in a transaction that inserts a check-in of
the same passenger.
-/

namespace SkyHighCore

open Framework

structure Database where
  passengers : List PassengerId
  flights : Table Flight
  seats : Table Seat
  checkIns : Table CheckIn
  waitlist : Table Waitlist
  auditLog : List AuditLog

/-- The body of a transaction. -/
abbrev Tx := StateT Database (Except AppException)

namespace Tx

/-! ## Statements -/

/-- `manager.update(Seat, p, f)`: the number of affected rows. -/
def updateSeats (p : Seat → Prop) [DecidablePred p] (f : Seat → Seat)
    (hf : ∀ r, key (f r) = key r := by intro _; rfl) : Tx ℕ := fun db =>
  .ok (db.seats.count p, { db with seats := db.seats.updateWhere p f hf })

/-- `manager.update(CheckIn, p, f)`. -/
def updateCheckIns (p : CheckIn → Prop) [DecidablePred p] (f : CheckIn → CheckIn)
    (hf : ∀ r, key (f r) = key r := by intro _; rfl) : Tx ℕ := fun db =>
  .ok (db.checkIns.count p, { db with checkIns := db.checkIns.updateWhere p f hf })

/-- `manager.update(Waitlist, p, f)`. -/
def updateWaitlist (p : Waitlist → Prop) [DecidablePred p] (f : Waitlist → Waitlist)
    (hf : ∀ r, key (f r) = key r := by intro _; rfl) : Tx ℕ := fun db =>
  .ok (db.waitlist.count p, { db with waitlist := db.waitlist.updateWhere p f hf })

/-- The row that `manager.save(CheckIn, …)` inserts. -/
def newCheckIn (now : Time) (passengerId : PassengerId) (flightId : FlightId) (seatId : SeatId)
    (db : Database) : CheckIn where
  id := db.checkIns.freshKey
  passengerId := passengerId
  flightId := flightId
  seatId := some seatId
  status := .inProgress
  baggageWeight := none
  excessFee := none
  paymentId := none
  createdAt := now

/-- `manager.save(CheckIn, manager.create(CheckIn, { passengerId, flightId, seatId,
status: IN_PROGRESS }))`. -/
def insertCheckIn (now : Time) (passengerId : PassengerId) (flightId : FlightId)
    (seatId : SeatId) : Tx CheckIn := fun db =>
  if ∃ c ∈ db.checkIns.rows, c.passengerId = passengerId ∧ c.flightId = flightId then
    .error (.queryFailed .uniqueViolation)
  else if passengerId ∉ db.passengers ∨ db.flights.get? flightId = none ∨
      db.seats.get? seatId = none then
    .error (.queryFailed .foreignKeyViolation)
  else
    .ok (newCheckIn now passengerId flightId seatId db,
      { db with
        checkIns := db.checkIns.insert (newCheckIn now passengerId flightId seatId db)
          (Table.get?_freshKey _) })

/-- The row that joining a waitlist inserts. -/
def newWaitlist (now : Time) (flightId : FlightId) (passengerId : PassengerId) (position : ℕ)
    (db : Database) : Waitlist where
  id := db.waitlist.freshKey
  flightId := flightId
  passengerId := passengerId
  position := position
  status := .waiting
  createdAt := now

/-- `waitlistRepository.save(create({ flightId, passengerId, position, status: WAITING }))`. -/
def insertWaitlist (now : Time) (flightId : FlightId) (passengerId : PassengerId)
    (position : ℕ) : Tx Waitlist := fun db =>
  if ∃ e ∈ db.waitlist.rows, e.flightId = flightId ∧ e.passengerId = passengerId then
    .error (.queryFailed .uniqueViolation)
  else if passengerId ∉ db.passengers ∨ db.flights.get? flightId = none then
    .error (.queryFailed .foreignKeyViolation)
  else
    .ok (newWaitlist now flightId passengerId position db,
      { db with
        waitlist := db.waitlist.insert (newWaitlist now flightId passengerId position db)
          (Table.get?_freshKey _) })

/-- `auditService.logWithTransaction`. -/
def logWithTransaction (dto : AuditLog) : Tx Unit := fun db =>
  .ok ((), { db with auditLog := db.auditLog ++ [dto] })

/-- The value a `numeric` column stores; `limit` is the first magnitude that does not fit. -/
def numeric (limit : ℚ) (x : ℚ) : Tx ℚ := fun db =>
  if |numericScale2 x| < limit then .ok (numericScale2 x, db)
  else .error (.queryFailed .numericOutOfRange)

/-- `numeric(5,2)`. -/
def numeric52 : ℚ → Tx ℚ := numeric 1000

/-- `numeric(10,2)`. -/
def numeric102 : ℚ → Tx ℚ := numeric 100000000

/-- `varchar(100)`, nullable. -/
def varchar100 (s : Option String) : Tx (Option String) := fun db =>
  if ∀ t ∈ s, t.length ≤ 100 then .ok (s, db)
  else .error (.queryFailed .stringTooLong)

/-! ## The transactions of the services -/

/-- The transaction of `holdSeatWithinLock`. -/
def holdSeatTransaction (now : Time) (passengerId : PassengerId) (flightId : FlightId)
    (seatId : SeatId) (heldAt : Time) : Tx CheckIn := do
  let affected ← updateSeats (fun s => s.id = seatId ∧ s.status = .available)
    (fun s => { s with status := .held, heldBy := some passengerId, heldAt := some heldAt })
  if affected = 0 then
    throw (.seatAlreadyHeld s!"Seat with id '{seatId}' is no longer available")
  else do
    let savedCheckIn ← insertCheckIn now passengerId flightId seatId
    logWithTransaction {
      entityType := .seat, entityId := seatId, action := .seatHeld
      fromState := some (.seat .available), toState := .seat .held, actorId := passengerId
      metadata := [("flightId", .uuid flightId), ("checkInId", .uuid savedCheckIn.id)] }
    return savedCheckIn

/-- The update of `handleExcessBaggage`, a transaction of one statement. -/
def awaitPaymentUpdate (checkIn : CheckIn) (baggageWeight excessFee : ℚ) : Tx Unit := do
  let weight ← numeric52 baggageWeight
  let fee ← numeric102 excessFee
  let _ ← updateCheckIns (fun c => c.id = checkIn.id)
    (fun c => { c with
      status := .awaitingPayment, baggageWeight := some weight, excessFee := some fee })
  return ()

/-- The transaction of `completeCheckIn`. -/
def completeTransaction (checkIn : CheckIn) (baggageWeight : ℚ) (paymentId : Option String) :
    Tx Unit := do
  checkIn.seatId.forM fun seatId => do
    let _ ← updateSeats (fun s => s.id = seatId) (fun s => { s with status := .confirmed })
    logWithTransaction {
      entityType := .seat, entityId := seatId, action := .seatConfirmed
      fromState := some (.seat .held), toState := .seat .confirmed
      actorId := checkIn.passengerId
      metadata := [("flightId", .uuid checkIn.flightId), ("checkInId", .uuid checkIn.id)] }
  let weight ← numeric52 baggageWeight
  let payment ← varchar100 paymentId
  let _ ← updateCheckIns (fun c => c.id = checkIn.id)
    (fun c => { c with
      status := .completed, baggageWeight := some weight, paymentId := payment })
  logWithTransaction {
    entityType := .checkIn, entityId := checkIn.id, action := .checkInCompleted
    fromState := some (.checkIn checkIn.status), toState := .checkIn .completed
    actorId := checkIn.passengerId
    metadata := [("flightId", .uuid checkIn.flightId),
      ("paymentId", paymentId.elim .null .text)] }

/-- The transaction of `cancelCheckIn`; `checkIn` is the row the call read under
`checkInId`. -/
def cancelTransaction (checkIn : CheckIn) (checkInId : CheckInId) (passengerId : PassengerId) :
    Tx Unit := do
  checkIn.seatId.forM fun seatId => do
    let _ ← updateSeats (fun s => s.id = seatId)
      (fun s => { s with status := .available, heldBy := none, heldAt := none })
    logWithTransaction {
      entityType := .seat, entityId := seatId, action := .seatCancelled
      fromState := some (.seat (if checkIn.status = .completed then .confirmed else .held))
      toState := .seat .available, actorId := passengerId
      metadata := [("flightId", .uuid checkIn.flightId), ("checkInId", .uuid checkInId)] }
  let _ ← updateCheckIns (fun c => c.id = checkInId) (fun c => { c with status := .cancelled })
  logWithTransaction {
    entityType := .checkIn, entityId := checkInId, action := .checkInCancelled
    fromState := some (.checkIn checkIn.status), toState := .checkIn .cancelled
    actorId := passengerId
    metadata := [("flightId", .uuid checkIn.flightId)] }

/-- `SYSTEM_ACTOR_ID`, the nil uuid. -/
def systemActorId : Uuid := 0

/-- The transaction of `releaseSeatWithinLock`; `seat` is the row the call read, and
`held_by = NULL` matches no row. -/
def releaseTransaction (seat : Seat) : Tx Bool := do
  let affected ← updateSeats
    (fun s => s.id = seat.id ∧ s.status = .held ∧ s.heldBy.isSome ∧ s.heldBy = seat.heldBy)
    (fun s => { s with status := .available, heldBy := none, heldAt := none })
  if affected = 0 then
    return false
  else do
    let _ ← updateCheckIns (fun c => c.seatId = some seat.id ∧ c.status = .inProgress)
      (fun c => { c with status := .cancelled })
    logWithTransaction {
      entityType := .seat, entityId := seat.id, action := .seatReleased
      fromState := some (.seat .held), toState := .seat .available
      actorId := seat.heldBy.getD systemActorId
      metadata := [("reason", .text "hold_expired"), ("flightId", .uuid seat.flightId)] }
    return true

/-- The transaction of `assignSeatToWaitlistPassenger`. -/
def assignTransaction (now : Time) (waitlistEntry : Waitlist) (seat : Seat) (flightId : FlightId)
    (heldAt : Time) : Tx Bool := do
  let affected ← updateSeats (fun s => s.id = seat.id ∧ s.status = .available)
    (fun s => { s with
      status := .held, heldBy := some waitlistEntry.passengerId, heldAt := some heldAt })
  if affected = 0 then
    return false
  else do
    let _ ← updateWaitlist (fun e => e.id = waitlistEntry.id)
      (fun e => { e with status := .assigned })
    let checkInRecord ← insertCheckIn now waitlistEntry.passengerId flightId seat.id
    logWithTransaction {
      entityType := .waitlist, entityId := waitlistEntry.id, action := .waitlistAssigned
      fromState := some (.waitlist .waiting), toState := .waitlist .assigned
      actorId := systemActorId
      metadata := [("flightId", .uuid flightId), ("seatId", .uuid seat.id),
        ("passengerId", .uuid waitlistEntry.passengerId),
        ("checkInId", .uuid checkInRecord.id)] }
    return true

/-- `waitlistRepository.save(entry)` of a row read before: its status is written back. -/
def saveWaitlist (entry : Waitlist) : Tx Unit := do
  let _ ← updateWaitlist (fun e => e.id = entry.id)
    (fun e => { e with status := entry.status, position := entry.position })
  return ()

end Tx

end SkyHighCore
