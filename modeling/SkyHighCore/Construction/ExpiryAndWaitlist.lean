import SkyHighCore.Construction.CheckInService

/-!
# `HoldExpiryService` and `WaitlistService`

The two ways in which a seat changes hands without its passenger asking for it: the release of
a hold that has run out, from the keyspace event or from the sweep, and the assignment of a
freed seat to the head of a waitlist.
-/

namespace SkyHighCore

open Framework

namespace HoldExpiryService

def release (seat : Seat) : Program Bool := act (.release seat)

/-- `new Date((seat.heldAt?.getTime() ?? 0) + HOLD_DURATION_SECONDS * 1000)`. -/
def holdExpiry (seat : Seat) : Time := seat.heldAt.getD 0 + seatHoldTtl * 1000

def saveWaitlist (entry : Waitlist) : Program Unit := act (.saveWaitlist entry)

def markWaitlistEntryExpired (flightId : FlightId) (passengerId : Option PassengerId) :
    Program Unit :=
  match passengerId with
  | none => return ()
  | some passengerId => do
      match ← findOneWaitlist { flightId := some flightId, passengerId := some passengerId,
                                status := some .assigned } with
      | none => return ()
      | some entry => saveWaitlist { entry with status := .expired }

/-- What follows a committed release. -/
def afterRelease (seat : Seat) : Program Bool := do
  markWaitlistEntryExpired seat.flightId seat.heldBy
  SeatService.invalidateCache seat.flightId
  emit (.waitlistProcess seat.flightId (some seat.id))
  return true

def releaseSeatWithinLock (seatId : SeatId) : Program Bool := do
  match ← findOneSeat { id := some seatId } with
  | none => return false
  | some seat =>
      if seat.status ≠ .held then
        return false
      else do
        let now ← dateNow
        if holdExpiry seat > now then
          return false
        else do
          let updateResult ← release seat
          if updateResult then afterRelease seat else return false

/-- A refused lock is not an error: the seat is left to a later event. -/
def releaseSeat (seatId : SeatId) : Program Bool :=
  (acquireLock (.seatLock seatId)).andThen fun
    | .error _ => return false
    | .ok _ => (releaseSeatWithinLock seatId).tryFinally (releaseLock (.seatLock seatId))

def handleHoldExpired (seatId : SeatId) : Program Unit := do
  let _ ← releaseSeat seatId
  return ()

def sweepExpiredHolds : Program Unit := do
  let now ← dateNow
  let staleSeats ← findStaleSeats ((now : ℤ) - seatHoldTtl * 1000)
  .forEach staleSeats fun seat => do
    let _ ← releaseSeat seat.id
    return ()

end HoldExpiryService

namespace WaitlistService

def insertWaitlist (flightId : FlightId) (passengerId : PassengerId) (position : ℕ) :
    Program Waitlist :=
  act (.insertWaitlist flightId passengerId position)

def getNextPosition (flightId : FlightId) : Program ℕ := do
  let max ← maxPosition flightId
  return max.getD 0 + 1

def joinWaitlist (passengerId : PassengerId) (flightId : FlightId) : Program Waitlist := do
  match ← findOneFlight flightId with
  | none => .throw (.flightNotFound s!"Flight with id '{flightId}' was not found")
  | some _ => do
      let existing ← findOneWaitlist { flightId := some flightId, passengerId := some passengerId,
                                       status := some .waiting }
      .throwWhen (existing.isSome = true)
        (.alreadyOnWaitlist "Passenger is already on the waitlist for this flight.")
      let nextPosition ← getNextPosition flightId
      let saved ← insertWaitlist flightId passengerId nextPosition
      auditLog {
        entityType := .waitlist, entityId := saved.id, action := .waitlistJoined
        fromState := none, toState := .waitlist .waiting, actorId := passengerId
        metadata := [("flightId", .uuid flightId), ("position", .number nextPosition)] }
      return saved

def leaveWaitlist (waitlistId : WaitlistId) (passengerId : PassengerId) : Program Waitlist := do
  match ← findOneWaitlist { id := some waitlistId, passengerId := some passengerId } with
  | none => .throw (.waitlistNotFound s!"No waitlist entry found with id '{waitlistId}'")
  | some entry => do
      .throwWhen (entry.status ≠ .waiting)
        (.waitlistNotFound s!"Waitlist entry '{waitlistId}' is not in WAITING status")
      HoldExpiryService.saveWaitlist { entry with status := .cancelled }
      return { entry with status := .cancelled }

def assign (waitlistEntry : Waitlist) (seat : Seat) (flightId : FlightId) (heldAt : Time) :
    Program Bool :=
  act (.assign waitlistEntry seat flightId heldAt)

def assignSeatToWaitlistPassenger (waitlistEntry : Waitlist) (seat : Seat)
    (flightId : FlightId) : Program Unit := do
  let heldAt ← dateNow
  let assigned ← assign waitlistEntry seat flightId heldAt
  if assigned then do
    setSeatHold seat.id waitlistEntry.passengerId
    SeatService.invalidateCache flightId
    emit (.waitlistNotification waitlistEntry.passengerId flightId seat.id waitlistEntry.id)
  else
    return ()

/-- The query for the seat to assign: the named one, or any of the flight. -/
def availableSeatWhere (flightId : FlightId) (seatId : Option SeatId) : SeatWhere where
  id := seatId
  flightId := some flightId
  status := some .available

def processWaitlistWithinLock (flightId : FlightId) (seatId : Option SeatId) :
    Program Unit := do
  match ← findOneWaitlist { flightId := some flightId, status := some .waiting } with
  | none => return ()
  | some nextPassenger =>
      match ← findOneSeat (availableSeatWhere flightId seatId) with
      | none => return ()
      | some availableSeat => assignSeatToWaitlistPassenger nextPassenger availableSeat flightId

def processWaitlist (flightId : FlightId) (seatId : Option SeatId) : Program Unit :=
  (acquireLock (.waitlistLock flightId)).andThen fun
    | .error _ => return ()
    | .ok _ => (processWaitlistWithinLock flightId seatId).tryFinally
        (releaseLock (.waitlistLock flightId))

end WaitlistService

end SkyHighCore
