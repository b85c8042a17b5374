import Mathlib.Data.List.Sort
import Mathlib.Data.Prod.Lex
import SkyHighCore.Construction.Database

/-!
# The shared world and the atomic actions on it

A call of a service touches the outside through `Action`s: one query, one transaction, one Redis
command, one HTTP request, a look at the clock, an emitted event.  Between two of them any other
call may act.  `World` is what the actions read and write, and `World.exec` is their effect,
given a `Choice` of the environment: whether the action fails, in which order the database
returns rows, what the Weight Service measures and what becomes of a payment request.

A failing query, transaction or Redis command has no effect.  A failing lock request is one
Redlock refuses after its retries, a failing lock release one whose lock has lapsed; locks are
otherwise granted at once, whoever holds them, so that a result which rests on their exclusion has
it as a hypothesis.
-/

namespace SkyHighCore

open Framework

/-! ## Payments -/

/-- The body of a response of the Payment Service. -/
structure PaymentServiceResponse where
  transactionId : Option String
  status : String
  deriving DecidableEq

/-- What becomes of a POST to the Payment Service. -/
inductive PaymentOutcome where
  /-- The response arrives in time. -/
  | response (body : PaymentServiceResponse)
  /-- The charge is taken, but the response is lost or comes after the timeout. -/
  | lost (transactionId : String)
  /-- The request is not processed. -/
  | unreachable (message : String)
  deriving DecidableEq

/-- A POST to the Payment Service with its outcome. -/
structure PaymentExchange where
  request : PaymentRequestDto
  outcome : PaymentOutcome
  deriving DecidableEq

/-- The transaction id of a response with status `confirmed`. -/
def PaymentOutcome.confirmedId : PaymentOutcome → Option (Option String)
  | .response body => if body.status = "confirmed" then some body.transactionId else none
  | _ => none

/-- The charge that the exchange took, by its transaction id: the service takes one for every
request it processes and confirms. -/
def PaymentOutcome.charge : PaymentOutcome → Option (Option String)
  | .lost transactionId => some (some transactionId)
  | outcome => outcome.confirmedId

/-! ## Events -/

/-- `WAITLIST_PROCESS_EVENT` and `WAITLIST_NOTIFICATION_EVENT` with their payloads. -/
inductive AppEvent where
  | waitlistProcess (flightId : FlightId) (seatId : Option SeatId)
  | waitlistNotification (passengerId : PassengerId) (flightId : FlightId) (seatId : SeatId)
      (waitlistEntryId : WaitlistId)
  deriving DecidableEq

/-! ## The world -/

/-- The database, the Redis keys `hold:{seatId}` and `seatmap:{flightId}` with the instant at
which they lapse, the clock, the requests the Payment Service has seen, the emitted events and
the contention counter. -/
structure World where
  db : Database
  seatHolds : SeatId → Option (PassengerId × Time)
  seatMapCache : FlightId → Option (SeatMapResponseDto × Time)
  now : Time
  payments : List PaymentExchange
  events : List AppEvent
  seatContentionTotal : FlightId → ℕ

/-- `REDIS_TTL`, in seconds. -/
def seatHoldTtl : ℕ := 120
def seatMapCacheTtl : ℕ := 2

/-! ## Actions -/

/-- `findOne({ where })` on `seat`. -/
structure SeatWhere where
  id : Option SeatId := none
  flightId : Option FlightId := none
  status : Option SeatStatus := none

/-- `findOne({ where })` on `check_in`. -/
structure CheckInWhere where
  id : Option CheckInId := none
  passengerId : Option PassengerId := none
  flightId : Option FlightId := none

/-- `findOne({ where })` on `waitlist`. -/
structure WaitlistWhere where
  id : Option WaitlistId := none
  flightId : Option FlightId := none
  passengerId : Option PassengerId := none
  status : Option WaitlistStatus := none

def SeatWhere.Matches (q : SeatWhere) (s : Seat) : Prop :=
  (∀ i ∈ q.id, s.id = i) ∧ (∀ f ∈ q.flightId, s.flightId = f) ∧ (∀ st ∈ q.status, s.status = st)

def CheckInWhere.Matches (q : CheckInWhere) (c : CheckIn) : Prop :=
  (∀ i ∈ q.id, c.id = i) ∧ (∀ p ∈ q.passengerId, c.passengerId = p) ∧
    (∀ f ∈ q.flightId, c.flightId = f)

def WaitlistWhere.Matches (q : WaitlistWhere) (e : Waitlist) : Prop :=
  (∀ i ∈ q.id, e.id = i) ∧ (∀ f ∈ q.flightId, e.flightId = f) ∧
    (∀ p ∈ q.passengerId, e.passengerId = p) ∧ (∀ st ∈ q.status, e.status = st)

instance (q : SeatWhere) : DecidablePred q.Matches := fun _ => by
  unfold SeatWhere.Matches; infer_instance
instance (q : CheckInWhere) : DecidablePred q.Matches := fun _ => by
  unfold CheckInWhere.Matches; infer_instance
instance (q : WaitlistWhere) : DecidablePred q.Matches := fun _ => by
  unfold WaitlistWhere.Matches; infer_instance

/-- The resources that Redlock guards: `lock:seat:{seatId}` and `lock:waitlist:{flightId}`. -/
inductive LockKey where
  | seatLock (seatId : SeatId)
  | waitlistLock (flightId : FlightId)

/-- One atomic step of a call. -/
inductive Action where
  | findOneFlight (id : FlightId)
  | findOneSeat (q : SeatWhere)
  | findOneCheckIn (q : CheckInWhere)
  | findOneWaitlist (q : WaitlistWhere)
  | findStaleSeats (cutoff : ℤ)
  | findFlightSeats (flightId : FlightId)
  | maxPosition (flightId : FlightId)
  | holdSeat (passengerId : PassengerId) (flightId : FlightId) (seatId : SeatId) (heldAt : Time)
  | awaitPayment (checkIn : CheckIn) (baggageWeight excessFee : ℚ)
  | complete (checkIn : CheckIn) (baggageWeight : ℚ) (paymentId : Option String)
  | cancel (checkIn : CheckIn) (checkInId : CheckInId) (passengerId : PassengerId)
  | release (seat : Seat)
  | assign (waitlistEntry : Waitlist) (seat : Seat) (flightId : FlightId) (heldAt : Time)
  | saveWaitlist (entry : Waitlist)
  | insertWaitlist (flightId : FlightId) (passengerId : PassengerId) (position : ℕ)
  | auditLog (dto : AuditLog)
  | acquireLock (resource : LockKey)
  | releaseLock (resource : LockKey)
  | setSeatHold (seatId : SeatId) (passengerId : PassengerId) (ttlSeconds : ℕ)
  | existsSeatHold (seatId : SeatId)
  | delSeatHold (seatId : SeatId)
  | getSeatMapCache (flightId : FlightId)
  | setSeatMapCache (flightId : FlightId) (data : SeatMapResponseDto) (ttlSeconds : ℕ)
  | delSeatMapCache (flightId : FlightId)
  | getWeight (passengerId : PassengerId)
  | postPayment (request : PaymentRequestDto)
  | dateNow
  | delay (ms : ℕ)
  | emit (event : AppEvent)
  | incSeatContention (flightId : FlightId)

/-- The type of an action's result. -/
abbrev Action.Res : Action → Type
  | .findOneFlight _ => Option Flight
  | .findOneSeat _ => Option Seat
  | .findOneCheckIn _ => Option CheckIn
  | .findOneWaitlist _ => Option Waitlist
  | .findStaleSeats _ | .findFlightSeats _ => List Seat
  | .maxPosition _ => Option ℕ
  | .holdSeat .. => CheckIn
  | .release _ | .assign .. | .existsSeatHold _ => Bool
  | .insertWaitlist .. => Waitlist
  | .getSeatMapCache _ => Option SeatMapResponseDto
  | .getWeight _ => ℚ
  | .postPayment _ => PaymentServiceResponse
  | .dateNow => Time
  | _ => Unit

/-- What the environment chooses for one action. -/
structure Choice where
  /-- The action fails. -/
  fault : Bool := false
  /-- The order in which the database returns rows. -/
  rank : Uuid → ℕ := id
  /-- What the Weight Service measures. -/
  weight : ℚ := 0
  /-- What becomes of a payment request. -/
  payment : PaymentOutcome := .unreachable "connect ECONNREFUSED"

namespace World

/-- A query: it reads, or it fails. -/
def query {α : Type} (w : World) (ch : Choice) (result : α) : Except AppException α × World :=
  if ch.fault then (.error (.queryFailed .connectionFailure), w) else (.ok result, w)

/-- `dataSource.transaction(body)`: commit, or roll back and throw. -/
def transaction {α : Type} (w : World) (ch : Choice) (body : Tx α) :
    Except AppException α × World :=
  if ch.fault then (.error (.queryFailed .connectionFailure), w)
  else match body w.db with
    | .ok (a, db) => (.ok a, { w with db := db })
    | .error e => (.error e, w)

/-- A Redis command. -/
def redis {α : Type} (w : World) (ch : Choice) (result : α) (w' : World) :
    Except AppException α × World :=
  if ch.fault then (.error .redisFailed, w) else (.ok result, w')

/-- The value of a key that has not lapsed. -/
def live {α : Type} (w : World) (entry : Option (α × Time)) : Option α :=
  entry.bind fun e => if w.now < e.2 then some e.1 else none

/-- `SET key value EX ttlSeconds`. -/
def expiring {α : Type} (w : World) (value : α) (ttlSeconds : ℕ) : Option (α × Time) :=
  some (value, w.now + ttlSeconds * 1000)

/-- The database's order of the seats of a map: by row, then by column. -/
def seatMapOrder (s s' : Seat) : Prop :=
  s.row < s'.row ∨ (s.row = s'.row ∧ s.column ≤ s'.column)

instance : DecidableRel seatMapOrder := fun _ _ => by
  unfold seatMapOrder; infer_instance

/-- The effect of one atomic action. -/
def exec : (a : Action) → Choice → World → Except AppException a.Res × World
  | .findOneFlight id, ch, w => w.query ch (w.db.flights.get? id)
  | .findOneSeat q, ch, w => w.query ch (w.db.seats.findOne (fun s => ch.rank s.id) q.Matches)
  | .findOneCheckIn q, ch, w =>
      w.query ch (w.db.checkIns.findOne (fun c => ch.rank c.id) q.Matches)
  | .findOneWaitlist q, ch, w =>
      w.query ch (w.db.waitlist.findOne (fun e => toLex (e.position, ch.rank e.id)) q.Matches)
  | .findStaleSeats cutoff, ch, w =>
      w.query ch ((w.db.seats.rows.filter fun s =>
        s.status = .held ∧ s.heldAt.any fun t => decide ((t : ℤ) ≤ cutoff)).insertionSort
          fun s s' => ch.rank s.id ≤ ch.rank s'.id)
  | .findFlightSeats flightId, ch, w =>
      w.query ch ((w.db.seats.rows.filter fun s => s.flightId = flightId).insertionSort
        seatMapOrder)
  | .maxPosition flightId, ch, w =>
      w.query ch (((w.db.waitlist.rows.filter fun e => e.flightId = flightId).map
        Waitlist.position).max?)
  | .holdSeat passengerId flightId seatId heldAt, ch, w =>
      w.transaction ch (Tx.holdSeatTransaction w.now passengerId flightId seatId heldAt)
  | .awaitPayment checkIn baggageWeight excessFee, ch, w =>
      w.transaction ch (Tx.awaitPaymentUpdate checkIn baggageWeight excessFee)
  | .complete checkIn baggageWeight paymentId, ch, w =>
      w.transaction ch (Tx.completeTransaction checkIn baggageWeight paymentId)
  | .cancel checkIn checkInId passengerId, ch, w =>
      w.transaction ch (Tx.cancelTransaction checkIn checkInId passengerId)
  | .release seat, ch, w => w.transaction ch (Tx.releaseTransaction seat)
  | .assign waitlistEntry seat flightId heldAt, ch, w =>
      w.transaction ch (Tx.assignTransaction w.now waitlistEntry seat flightId heldAt)
  | .saveWaitlist entry, ch, w => w.transaction ch (Tx.saveWaitlist entry)
  | .insertWaitlist flightId passengerId position, ch, w =>
      w.transaction ch (Tx.insertWaitlist w.now flightId passengerId position)
  | .auditLog dto, ch, w =>
      -- `AuditService.log` does not wait for the insert and swallows its failure
      if ch.fault then (.ok (), w)
      else (.ok (), { w with db := { w.db with auditLog := w.db.auditLog ++ [dto] } })
  | .acquireLock _, ch, w | .releaseLock _, ch, w =>
      if ch.fault then (.error .lockFailed, w) else (.ok (), w)
  | .setSeatHold seatId passengerId ttlSeconds, ch, w =>
      w.redis ch () { w with
        seatHolds := Function.update w.seatHolds seatId (w.expiring passengerId ttlSeconds) }
  | .existsSeatHold seatId, ch, w => w.redis ch (w.live (w.seatHolds seatId)).isSome w
  | .delSeatHold seatId, ch, w =>
      w.redis ch () { w with seatHolds := Function.update w.seatHolds seatId none }
  | .getSeatMapCache flightId, ch, w => w.redis ch (w.live (w.seatMapCache flightId)) w
  | .setSeatMapCache flightId data ttlSeconds, ch, w =>
      w.redis ch () { w with
        seatMapCache := Function.update w.seatMapCache flightId (w.expiring data ttlSeconds) }
  | .delSeatMapCache flightId, ch, w =>
      w.redis ch () { w with seatMapCache := Function.update w.seatMapCache flightId none }
  | .getWeight _, ch, w =>
      if ch.fault then (.error (.httpFailed "Timeout has occurred"), w) else (.ok ch.weight, w)
  | .postPayment request, ch, w =>
      ( match ch.payment with
        | .response body => .ok body
        | .lost _ => .error (.httpFailed "Timeout has occurred")
        | .unreachable message => .error (.httpFailed message),
        { w with payments := w.payments ++ [⟨request, ch.payment⟩] })
  | .dateNow, _, w => (.ok w.now, w)
  | .delay _, _, w => (.ok (), w)
  | .emit event, _, w => (.ok (), { w with events := w.events ++ [event] })
  | .incSeatContention flightId, _, w =>
      (.ok (), { w with
        seatContentionTotal := Function.update w.seatContentionTotal flightId
          (w.seatContentionTotal flightId + 1) })

/-- Time passes. -/
def tick (ms : ℕ) (w : World) : World := { w with now := w.now + ms }

end World

end SkyHighCore
