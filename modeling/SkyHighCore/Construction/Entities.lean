import Mathlib.Data.Rat.Floor
import Mathlib.Algebra.Order.Round
import SkyHighCore.Framework.Table

/-!
# Entities, requests, responses and exceptions

The rows of the tables (`*.entity.ts`), the enumerations of `common/types/enums.ts`, the DTOs
of the services, and the exceptions that `HttpExceptionFilter` turns into problem details.

Uuids are read as the numbers they are, instants as milliseconds, and the `numeric` columns as
exact rationals.  A row's `updated_at`, its ORM relations and the columns that no modelled
function reads (a passenger's name, a flight's number) are left out.
-/

namespace SkyHighCore

open Framework

abbrev Uuid := ℕ
abbrev FlightId := Uuid
abbrev SeatId := Uuid
abbrev PassengerId := Uuid
abbrev CheckInId := Uuid
abbrev WaitlistId := Uuid

/-- An instant, in milliseconds. -/
abbrev Time := ℕ

/-! ## Enumerations -/

inductive SeatStatus where
  | available | held | confirmed | cancelled
  deriving DecidableEq, Repr

inductive CheckInStatus where
  | inProgress | awaitingPayment | completed | cancelled
  deriving DecidableEq, Repr

inductive WaitlistStatus where
  | waiting | assigned | expired | cancelled
  deriving DecidableEq, Repr

inductive FlightStatus where
  | scheduled | boarding | departed | cancelled
  deriving DecidableEq, Repr

inductive AuditAction where
  | seatHeld | seatConfirmed | seatReleased | seatCancelled | waitlistJoined | waitlistAssigned
  | checkInCompleted | checkInCancelled | paymentRequested | paymentConfirmed
  deriving DecidableEq, Repr

/-- The hold is over neither by completion nor by cancellation: the two statuses that
`validateHoldNotExpired` lets pass. -/
def CheckInStatus.isOpen : CheckInStatus → Bool
  | .inProgress | .awaitingPayment => true
  | .completed | .cancelled => false

/-! ## Rows -/

structure Flight where
  id : FlightId
  aircraftTypeName : String
  departureTime : Time
  status : FlightStatus
  deriving DecidableEq

structure Seat where
  id : SeatId
  flightId : FlightId
  row : ℕ
  column : String
  status : SeatStatus
  heldBy : Option PassengerId
  heldAt : Option Time
  deriving DecidableEq

structure CheckIn where
  id : CheckInId
  passengerId : PassengerId
  flightId : FlightId
  seatId : Option SeatId
  status : CheckInStatus
  baggageWeight : Option ℚ
  excessFee : Option ℚ
  paymentId : Option String
  createdAt : Time
  deriving DecidableEq

structure Waitlist where
  id : WaitlistId
  flightId : FlightId
  passengerId : PassengerId
  position : ℕ
  status : WaitlistStatus
  createdAt : Time
  deriving DecidableEq

instance : Keyed Flight FlightId := ⟨Flight.id⟩
instance : Keyed Seat SeatId := ⟨Seat.id⟩
instance : Keyed CheckIn CheckInId := ⟨CheckIn.id⟩
instance : Keyed Waitlist WaitlistId := ⟨Waitlist.id⟩

@[simp] lemma key_flight (r : Flight) : key r = r.id := rfl
@[simp] lemma key_seat (r : Seat) : key r = r.id := rfl
@[simp] lemma key_checkIn (r : CheckIn) : key r = r.id := rfl
inductive EntityType where
  | seat | checkIn | waitlist | payment
  deriving DecidableEq, Repr

/-- The `from_state` and `to_state` columns: a status of the audited entity, or one of the two
states of a payment. -/
inductive AuditState where
  | seat (s : SeatStatus)
  | checkIn (s : CheckInStatus)
  | waitlist (s : WaitlistStatus)
  | requested
  | confirmed
  deriving DecidableEq, Repr

/-- A value in the `metadata` object of an audit row. -/
inductive JsonValue where
  | null
  | uuid (u : Uuid)
  | number (q : ℚ)
  | text (s : String)
  deriving DecidableEq

/-- `CreateAuditLogDto`, and the audit row made from it. -/
structure AuditLog where
  entityType : EntityType
  entityId : Uuid
  action : AuditAction
  fromState : Option AuditState
  toState : AuditState
  actorId : Uuid
  metadata : List (String × JsonValue)
  deriving DecidableEq

/-! ## Requests and responses -/

structure StartCheckInRequestDto where
  flightId : FlightId
  seatId : SeatId

/-- The body of `PATCH /check-ins/:id`; the validation pipe rejects a negative weight. -/
structure UpdateCheckInRequestDto where
  baggageWeight : Option ℚ
  min : ∀ w ∈ baggageWeight, 0 ≤ w

structure CheckInResponseDto where
  id : CheckInId
  passengerId : PassengerId
  flightId : FlightId
  seatId : Option SeatId
  status : CheckInStatus
  baggageWeight : Option ℚ
  excessFee : Option ℚ
  paymentId : Option String
  holdExpiresAt : Option Time
  confirmedAt : Option Time
  message : Option String
  createdAt : Time

structure CheckInCancelledResponseDto where
  id : CheckInId
  cancelledAt : Time

structure SeatResponseDto where
  id : SeatId
  row : ℕ
  column : String
  status : SeatStatus
  deriving DecidableEq

structure SeatMapResponseDto where
  flightId : FlightId
  aircraft : String
  seats : List SeatResponseDto
  deriving DecidableEq

structure BaggageValidationResultDto where
  weight : ℚ
  maxAllowedWeight : ℚ
  isOverweight : Bool
  excessWeight : ℚ
  excessFee : ℚ
  deriving DecidableEq

/-- The body of a POST to the Payment Service. -/
structure PaymentRequestDto where
  passengerId : PassengerId
  amount : ℚ
  currency : String
  checkInId : CheckInId
  deriving DecidableEq

structure PaymentResultDto where
  success : Bool
  transactionId : Option String
  status : String
  errorMessage : Option String
  deriving DecidableEq

/-! ## Exceptions -/

/-- Why Postgres refuses a statement. -/
inductive SqlState where
  | uniqueViolation | foreignKeyViolation | numericOutOfRange | stringTooLong | connectionFailure
  deriving DecidableEq, Repr

/-- The domain exceptions, with their detail text, and the errors of the drivers. -/
inductive AppException where
  | flightNotFound (detail : String)
  | seatNotFound (detail : String)
  | seatAlreadyHeld (detail : String)
  | alreadyCheckedIn (detail : String)
  | checkInNotFound (detail : String)
  | holdExpired (detail : String)
  | cancellationNotAllowed (detail : String)
  | alreadyOnWaitlist (detail : String)
  | waitlistNotFound (detail : String)
  | queryFailed (state : SqlState)
  | entityNotFound
  | redisFailed
  | lockFailed
  | httpFailed (message : String)
  deriving DecidableEq

/-- `error instanceof SeatAlreadyHeldException`. -/
def AppException.isSeatAlreadyHeld : AppException → Bool
  | .seatAlreadyHeld _ => true
  | _ => false

/-! ## Rounding -/

/-- Round half away from zero, as Postgres rounds on storage in a `numeric` column. -/
def roundHalfAway (x : ℚ) : ℤ :=
  if 0 ≤ x then ⌊x + 1 / 2⌋ else ⌈x - 1 / 2⌉

/-- The value a `numeric(_, 2)` column stores for `x`. -/
def numericScale2 (x : ℚ) : ℚ := roundHalfAway (x * 100) / 100

lemma roundHalfAway_mono {x y : ℚ} (hxy : x ≤ y) : roundHalfAway x ≤ roundHalfAway y := by
  unfold roundHalfAway
  split <;> split
  · exact Int.floor_le_floor (add_le_add_left hxy _)
  · exact absurd (le_trans ‹0 ≤ x› hxy) ‹¬ 0 ≤ y›
  · have hneg : x ≤ 0 := le_of_lt (not_le.mp ‹¬ 0 ≤ x›)
    have hx : ⌈x - 1 / 2⌉ ≤ 0 := by
      rw [Int.ceil_le, Int.cast_zero, sub_nonpos]
      exact hneg.trans one_half_pos.le
    have hy : 0 ≤ ⌊y + 1 / 2⌋ := Int.floor_nonneg.mpr (add_nonneg ‹0 ≤ y› one_half_pos.le)
    exact hx.trans hy
  · exact Int.ceil_le_ceil (sub_le_sub_right hxy _)

lemma roundHalfAway_intCast (n : ℤ) : roundHalfAway n = n := by
  unfold roundHalfAway
  split
  · exact Int.floor_eq_iff.mpr ⟨by linarith, by linarith⟩
  · exact Int.ceil_eq_iff.mpr ⟨by linarith, by linarith⟩

lemma numericScale2_mono : Monotone numericScale2 := by
  intro x y hxy
  have h : roundHalfAway (x * 100) ≤ roundHalfAway (y * 100) :=
    roundHalfAway_mono (by linarith)
  unfold numericScale2
  have : (roundHalfAway (x * 100) : ℚ) ≤ roundHalfAway (y * 100) := by exact_mod_cast h
  linarith

/-- A value with at most two decimals is stored as it is. -/
lemma numericScale2_of_decimals {x : ℚ} {n : ℤ} (h : x * 100 = n) : numericScale2 x = x := by
  rw [numericScale2, h, roundHalfAway_intCast, ← h]
  ring

end SkyHighCore
