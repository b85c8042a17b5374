import SkyHighCore.Construction.World
import SkyHighCore.Framework.Program

/-!
# The services that check-in rests on

`Program` is the type of a service call: a program of atomic actions that may throw an
`AppException`.  This module gives each action its name as a program, and translates
`BaggageService`, `PaymentService` and `SeatService`.  Logging, spans and the histograms of
`MetricsService` have no effect on what a call does and are left out; `withSpan` passes values
and exceptions through.
-/

namespace SkyHighCore

open Framework

/-- A call of a service. -/
abbrev Program (α : Type) := Prog Action Action.Res AppException α

/-! ## Single actions -/

/-- The call that performs one action. -/
def act (a : Action) : Program a.Res := Prog.perform a

def findOneFlight (id : FlightId) : Program (Option Flight) := act (.findOneFlight id)
def findOneSeat (q : SeatWhere) : Program (Option Seat) := act (.findOneSeat q)
def findOneCheckIn (q : CheckInWhere) : Program (Option CheckIn) := act (.findOneCheckIn q)
def findOneWaitlist (q : WaitlistWhere) : Program (Option Waitlist) :=
  act (.findOneWaitlist q)
def findStaleSeats (cutoff : ℤ) : Program (List Seat) := act (.findStaleSeats cutoff)
def findFlightSeats (flightId : FlightId) : Program (List Seat) :=
  act (.findFlightSeats flightId)
def maxPosition (flightId : FlightId) : Program (Option ℕ) := act (.maxPosition flightId)
def acquireLock (resource : LockKey) : Program Unit := act (.acquireLock resource)
def releaseLock (resource : LockKey) : Program Unit := act (.releaseLock resource)
def setSeatHold (seatId : SeatId) (passengerId : PassengerId)
    (ttlSeconds : ℕ := seatHoldTtl) : Program Unit :=
  act (.setSeatHold seatId passengerId ttlSeconds)
def existsSeatHold (seatId : SeatId) : Program Bool := act (.existsSeatHold seatId)
def delSeatHold (seatId : SeatId) : Program Unit := act (.delSeatHold seatId)
def getSeatMapCache (flightId : FlightId) : Program (Option SeatMapResponseDto) :=
  act (.getSeatMapCache flightId)
def setSeatMapCache (flightId : FlightId) (data : SeatMapResponseDto)
    (ttlSeconds : ℕ := seatMapCacheTtl) : Program Unit :=
  act (.setSeatMapCache flightId data ttlSeconds)
def dateNow : Program Time := act .dateNow
def emit (event : AppEvent) : Program Unit := act (.emit event)
def auditLog (dto : AuditLog) : Program Unit := act (.auditLog dto)

/-! ## Configuration -/

/-- The settings that `BaggageService` and `PaymentService` read from the environment. -/
structure Settings where
  maxBaggageKg : ℚ := 25
  excessFeePerKg : ℚ := 10
  maxRetries : ℕ := 3
  initialBackoffMs : ℕ := 500

/-! ## `BaggageService` -/

namespace BaggageService

/-- `Math.round(x * 100) / 100`. -/
def roundCents (x : ℚ) : ℚ := round (x * 100) / 100

def calculateFee (cfg : Settings) (weight : ℚ) : BaggageValidationResultDto :=
  let isOverweight := decide (weight > cfg.maxBaggageKg)
  let excessWeight := if isOverweight then weight - cfg.maxBaggageKg else 0
  let excessFee := if isOverweight then roundCents (excessWeight * cfg.excessFeePerKg) else 0
  { weight := weight
    maxAllowedWeight := cfg.maxBaggageKg
    isOverweight := isOverweight
    excessWeight := roundCents excessWeight
    excessFee := excessFee }

def getWeight (passengerId : PassengerId) : Program ℚ := act (.getWeight passengerId)

/-- The measured weight, or `null` when the Weight Service fails. -/
def callWeightService (passengerId : PassengerId) : Program (Option ℚ) :=
  (do
    let weight ← getWeight passengerId
    return some weight : Program (Option ℚ)).tryCatch fun _ => return none

def validateAndCalculateFee (cfg : Settings) (passengerId : PassengerId) (declaredWeight : ℚ) :
    Program BaggageValidationResultDto := do
  let _ ← callWeightService passengerId
  return calculateFee cfg declaredWeight

@[simp] lemma calculateFee_isOverweight (cfg : Settings) (weight : ℚ) :
    (calculateFee cfg weight).isOverweight = decide (cfg.maxBaggageKg < weight) := rfl

/-- A fee is a whole number of cents. -/
lemma excessFee_cents (cfg : Settings) (weight : ℚ) :
    ∃ n : ℤ, (calculateFee cfg weight).excessFee * 100 = n := by
  by_cases h : cfg.maxBaggageKg < weight
  · refine ⟨round ((weight - cfg.maxBaggageKg) * cfg.excessFeePerKg * 100), ?_⟩
    simp [calculateFee, h, roundCents]
  · exact ⟨0, by simp [calculateFee, h]⟩

end BaggageService

/-! ## `PaymentService` -/

namespace PaymentService

/-- `error.message` of a failed attempt. -/
def errorMessage : AppException → String
  | .httpFailed message => message
  | _ => "Error"

/-- `initialBackoffMs * 2 ** (attempt - 1)`. -/
def backoffMs (cfg : Settings) (attempt : ℕ) : ℕ := cfg.initialBackoffMs * 2 ^ (attempt - 1)

def delay (ms : ℕ) : Program Unit := act (.delay ms)

/-- Every attempt but the first waits. -/
def backoff (cfg : Settings) (attempt : ℕ) : Program Unit :=
  if attempt > 0 then delay (backoffMs cfg attempt) else return ()

def post (request : PaymentRequestDto) : Program PaymentServiceResponse :=
  act (.postPayment request)

/-- The result that a response stands for: only the status `confirmed` is a success. -/
def resultOf (response : PaymentServiceResponse) : PaymentResultDto :=
  if response.status = "confirmed" then
    { success := true, transactionId := response.transactionId, status := response.status
      errorMessage := none }
  else
    { success := false, transactionId := none, status := response.status
      errorMessage := some s!"Payment returned non-confirmed status: {response.status}" }

/-- The result when every attempt has failed. -/
def failedResult (lastError : Option AppException) : PaymentResultDto :=
  { success := false, transactionId := none, status := "failed"
    errorMessage := some ((lastError.map errorMessage).getD "Payment failed after all retries") }

/-- The loop of `callPaymentServiceWithRetry`, with `remaining` attempts to go. -/
def attempts (cfg : Settings) (request : PaymentRequestDto) :
    (remaining attempt : ℕ) → (lastError : Option AppException) → Program PaymentResultDto
  | 0, _, lastError => return failedResult lastError
  | remaining + 1, attempt, _ => do
      backoff cfg attempt
      (post request).andThen fun
        | .ok response => return resultOf response
        | .error error => attempts cfg request remaining (attempt + 1) (some error)

def callPaymentServiceWithRetry (cfg : Settings) (request : PaymentRequestDto) :
    Program PaymentResultDto :=
  attempts cfg request (cfg.maxRetries + 1) 0 none

/-- The audit row of a confirmed payment. -/
def logConfirmed (request : PaymentRequestDto) (result : PaymentResultDto) : Program Unit :=
  if result.success then
    auditLog {
      entityType := .payment, entityId := request.checkInId, action := .paymentConfirmed
      fromState := some .requested, toState := .confirmed, actorId := request.passengerId
      metadata := [("amount", .number request.amount), ("currency", .text request.currency),
        ("transactionId", result.transactionId.elim .null .text)] }
  else
    return ()

def processPayment (cfg : Settings) (request : PaymentRequestDto) : Program PaymentResultDto := do
  auditLog {
    entityType := .payment, entityId := request.checkInId, action := .paymentRequested
    fromState := none, toState := .requested, actorId := request.passengerId
    metadata := [("amount", .number request.amount), ("currency", .text request.currency)] }
  let result ← callPaymentServiceWithRetry cfg request
  logConfirmed request result
  return result

end PaymentService

/-! ## `SeatService` -/

namespace SeatService

def toSeatResponse (seat : Seat) : SeatResponseDto where
  id := seat.id
  row := seat.row
  column := seat.column
  status := seat.status

def toSeatMapResponse (flight : Flight) (seats : List Seat) : SeatMapResponseDto where
  flightId := flight.id
  aircraft := flight.aircraftTypeName
  seats := seats.map toSeatResponse

def getSeatMap (flightId : FlightId) : Program SeatMapResponseDto := do
  match ← getSeatMapCache flightId with
  | some cached => return cached
  | none =>
      match ← findOneFlight flightId with
      | none => .throw (.flightNotFound s!"Flight with id '{flightId}' was not found")
      | some flight => do
          let seats ← findFlightSeats flightId
          setSeatMapCache flightId (toSeatMapResponse flight seats)
          return toSeatMapResponse flight seats

def invalidateCache (flightId : FlightId) : Program Unit :=
  act (.delSeatMapCache flightId)

end SeatService

end SkyHighCore
