import SkyHighCore.Construction.Services

/-!
# `CheckInService`

Starting, confirming and cancelling a check-in.  Each method is the sequence of actions that
the source awaits, in its order, with its exceptions and their texts.
-/

namespace SkyHighCore

open Framework

namespace CheckInService

/-- `HOLD_TTL_SECONDS * 1000`. -/
def holdTtlMs : ℕ := seatHoldTtl * 1000

def toCheckInResponse (checkIn : CheckIn) (holdExpiresAt confirmedAt : Option Time := none)
    (message : Option String := none) : CheckInResponseDto where
  id := checkIn.id
  passengerId := checkIn.passengerId
  flightId := checkIn.flightId
  seatId := checkIn.seatId
  status := checkIn.status
  baggageWeight := checkIn.baggageWeight
  excessFee := checkIn.excessFee
  paymentId := checkIn.paymentId
  holdExpiresAt := holdExpiresAt
  confirmedAt := confirmedAt
  message := message
  createdAt := checkIn.createdAt

def calculateHoldExpiresAt (checkIn : CheckIn) : Option Time :=
  if checkIn.status.isOpen then some (checkIn.createdAt + holdTtlMs) else none

/-- `n.toFixed(2)` of a nonnegative amount. -/
def toFixed2 (n : ℚ) : String :=
  let cents := (round (n * 100)).toNat
  toString (cents / 100) ++ "." ++ toString (cents / 10 % 10) ++ toString (cents % 10)

/-! ## Starting a check-in -/

def validateFlightExists (flightId : FlightId) : Program Unit := do
  match ← findOneFlight flightId with
  | some _ => return ()
  | none => .throw (.flightNotFound s!"Flight with id '{flightId}' was not found")

def validateSeatBelongsToFlight (seatId : SeatId) (flightId : FlightId) : Program Unit := do
  match ← findOneSeat { id := some seatId, flightId := some flightId } with
  | some _ => return ()
  | none =>
      .throw (.seatNotFound s!"Seat with id '{seatId}' was not found on flight '{flightId}'")

def validateNoActiveCheckIn (passengerId : PassengerId) (flightId : FlightId) :
    Program Unit := do
  match ← findOneCheckIn { passengerId := some passengerId, flightId := some flightId } with
  | none => return ()
  | some existing =>
      .throwWhen (existing.status ≠ .cancelled) (.alreadyCheckedIn
        s!"Passenger '{passengerId}' already has an active check-in for flight '{flightId}'")

def holdSeat (passengerId : PassengerId) (flightId : FlightId) (seatId : SeatId)
    (heldAt : Time) : Program CheckIn :=
  act (.holdSeat passengerId flightId seatId heldAt)

/-- `!seat || seat.status !== AVAILABLE`. -/
def notAvailable (seat : Option Seat) : Prop := ∀ s ∈ seat, s.status ≠ .available

instance (seat : Option Seat) : Decidable (notAvailable seat) := by
  unfold notAvailable; infer_instance

def holdSeatWithinLock (passengerId : PassengerId) (flightId : FlightId) (seatId : SeatId) :
    Program CheckInResponseDto := do
  let seat ← findOneSeat { id := some seatId }
  .throwWhen (notAvailable seat) (.seatAlreadyHeld s!"Seat with id '{seatId}' is not available")
  let heldAt ← dateNow
  let holdExpiresAt := heldAt + holdTtlMs
  let checkIn ← holdSeat passengerId flightId seatId heldAt
  setSeatHold seatId passengerId
  SeatService.invalidateCache flightId
  return toCheckInResponse checkIn (some holdExpiresAt)

/-- A lost seat is counted. -/
def countContention (flightId : FlightId) (error : AppException) : Program Unit :=
  if error.isSeatAlreadyHeld then act (.incSeatContention flightId) else return ()

/-- The `catch` block of `startCheckIn`. -/
def countAndRethrow (flightId : FlightId) (error : AppException) :
    Program CheckInResponseDto := do
  countContention flightId error
  .throw error

def startCheckIn (passengerId : PassengerId) (dto : StartCheckInRequestDto) :
    Program CheckInResponseDto := do
  validateFlightExists dto.flightId
  validateSeatBelongsToFlight dto.seatId dto.flightId
  validateNoActiveCheckIn passengerId dto.flightId
  (do
    acquireLock (.seatLock dto.seatId)
    (holdSeatWithinLock passengerId dto.flightId dto.seatId).tryFinally
      (releaseLock (.seatLock dto.seatId)) : Program CheckInResponseDto).tryCatch
    (countAndRethrow dto.flightId)

/-! ## Confirming a check-in -/

def findCheckInOrThrow (checkInId : CheckInId) (passengerId : PassengerId) :
    Program CheckIn := do
  match ← findOneCheckIn { id := some checkInId, passengerId := some passengerId } with
  | some checkIn => return checkIn
  | none => .throw (.checkInNotFound s!"No check-in record found with id '{checkInId}'")

/-- `findOneOrFail({ where: { id } })`. -/
def findCheckInOrFail (checkInId : CheckInId) : Program CheckIn := do
  match ← findOneCheckIn { id := some checkInId } with
  | some checkIn => return checkIn
  | none => .throw .entityNotFound

def holdExpiredException : AppException :=
  .holdExpired "The seat hold has expired. Please select a new seat."

/-- The second check of `validateHoldNotExpired`: the hold key of the seat exists. -/
def validateHoldKey : Option SeatId → Program Unit
  | none => return ()
  | some seatId => do
      let holdExists ← existsSeatHold seatId
      .throwWhen (holdExists = false) holdExpiredException

def validateHoldNotExpired (checkIn : CheckIn) : Program Unit := do
  .throwWhen (checkIn.status ≠ .inProgress ∧ checkIn.status ≠ .awaitingPayment)
    holdExpiredException
  validateHoldKey checkIn.seatId

def complete (checkIn : CheckIn) (baggageWeight : ℚ) (paymentId : Option String) :
    Program Unit :=
  act (.complete checkIn baggageWeight paymentId)

/-- After the transaction that closes a booking: drop the hold key and the cached map. -/
def dropHold (checkIn : CheckIn) : Program Unit :=
  match checkIn.seatId with
  | none => return ()
  | some seatId => do
      delSeatHold seatId
      SeatService.invalidateCache checkIn.flightId

def completeCheckIn (checkIn : CheckIn) (baggageWeight : ℚ) (paymentId : Option String) :
    Program CheckInResponseDto := do
  let confirmedAt ← dateNow
  complete checkIn baggageWeight paymentId
  dropHold checkIn
  let completedCheckIn ← findCheckInOrFail checkIn.id
  return toCheckInResponse completedCheckIn none (some confirmedAt)

def awaitPayment (checkIn : CheckIn) (baggageWeight excessFee : ℚ) : Program Unit :=
  act (.awaitPayment checkIn baggageWeight excessFee)

/-- The body of the POST that `handleExcessBaggage` has made. -/
def paymentRequest (checkIn : CheckIn) (excessFee : ℚ) : PaymentRequestDto where
  passengerId := checkIn.passengerId
  amount := excessFee
  currency := "USD"
  checkInId := checkIn.id

/-- The response of a check-in that stays paused. -/
def awaitingResponse (updatedCheckIn : CheckIn) (excessFee : ℚ) : CheckInResponseDto :=
  toCheckInResponse updatedCheckIn (calculateHoldExpiresAt updatedCheckIn) none
    (some ("Excess baggage fee of " ++ toFixed2 excessFee ++
      " must be paid to complete check-in."))

def handleExcessBaggage (cfg : Settings) (checkIn : CheckIn) (baggageWeight excessFee : ℚ) :
    Program CheckInResponseDto := do
  awaitPayment checkIn baggageWeight excessFee
  let paymentResult ← PaymentService.processPayment cfg (paymentRequest checkIn excessFee)
  if paymentResult.success then
    -- the copy still carries the status the call read at its start
    completeCheckIn
      { checkIn with baggageWeight := some baggageWeight, excessFee := some excessFee }
      baggageWeight paymentResult.transactionId
  else do
    let updatedCheckIn ← findCheckInOrFail checkIn.id
    return awaitingResponse updatedCheckIn excessFee

/-- `dto.baggageWeight ?? 0`. -/
def declaredWeight (dto : UpdateCheckInRequestDto) : ℚ := dto.baggageWeight.getD 0

def confirmCheckIn (cfg : Settings) (checkInId : CheckInId) (passengerId : PassengerId)
    (dto : UpdateCheckInRequestDto) : Program CheckInResponseDto := do
  let checkIn ← findCheckInOrThrow checkInId passengerId
  validateHoldNotExpired checkIn
  let baggageWeight := declaredWeight dto
  let baggageResult ←
    BaggageService.validateAndCalculateFee cfg passengerId baggageWeight
  if baggageResult.isOverweight then
    handleExcessBaggage cfg checkIn baggageWeight baggageResult.excessFee
  else
    completeCheckIn checkIn baggageWeight none

/-! ## Cancelling a check-in -/

def cancel (checkIn : CheckIn) (checkInId : CheckInId) (passengerId : PassengerId) :
    Program Unit :=
  act (.cancel checkIn checkInId passengerId)

/-- `flight?.status === DEPARTED`. -/
def hasDeparted (flight : Option Flight) : Prop := ∃ f ∈ flight, f.status = .departed

instance (flight : Option Flight) : Decidable (hasDeparted flight) := by
  unfold hasDeparted; infer_instance

def cancelCheckIn (checkInId : CheckInId) (passengerId : PassengerId) :
    Program CheckInCancelledResponseDto := do
  let checkIn ← findCheckInOrThrow checkInId passengerId
  let flight ← findOneFlight checkIn.flightId
  .throwWhen (hasDeparted flight)
    (.cancellationNotAllowed "Cannot cancel check-in after the flight has departed.")
  let cancelledAt ← dateNow
  cancel checkIn checkInId passengerId
  dropHold checkIn
  emit (.waitlistProcess checkIn.flightId none)
  return { id := checkInId, cancelledAt := cancelledAt }

end CheckInService

end SkyHighCore
