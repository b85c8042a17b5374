import SkyHighCore.Construction.ExpiryAndWaitlist
import SkyHighCore.Framework.Pool

/-!
# The running service

A `Call` is anything that can be issued to the services at any moment: a request of a passenger,
a keyspace event, a sweep, a handler of an emitted event.  `skyHigh` is the system whose pool
interleaves them action by action while time passes, and `World.Seeded` the state in which the
seeds leave the tables.
-/

namespace SkyHighCore

open Framework

/-- A call with its arguments. -/
inductive Call where
  | startCheckIn (passengerId : PassengerId) (dto : StartCheckInRequestDto)
  | confirmCheckIn (checkInId : CheckInId) (passengerId : PassengerId)
      (dto : UpdateCheckInRequestDto)
  | cancelCheckIn (checkInId : CheckInId) (passengerId : PassengerId)
  | handleHoldExpired (seatId : SeatId)
  | releaseSeat (seatId : SeatId)
  | sweepExpiredHolds
  | processWaitlist (flightId : FlightId) (seatId : Option SeatId)
  | joinWaitlist (passengerId : PassengerId) (flightId : FlightId)
  | leaveWaitlist (waitlistId : WaitlistId) (passengerId : PassengerId)
  | getSeatMap (flightId : FlightId)

/-- What a call resolves to. -/
inductive Reply where
  | checkIn (response : CheckInResponseDto)
  | cancelled (response : CheckInCancelledResponseDto)
  | released (released : Bool)
  | waitlist (entry : Waitlist)
  | seatMap (map : SeatMapResponseDto)
  | void

/-- The program of a call. -/
def Call.program (cfg : Settings) : Call → Program Reply
  | .startCheckIn passengerId dto => Reply.checkIn <$> CheckInService.startCheckIn passengerId dto
  | .confirmCheckIn checkInId passengerId dto =>
      Reply.checkIn <$> CheckInService.confirmCheckIn cfg checkInId passengerId dto
  | .cancelCheckIn checkInId passengerId =>
      Reply.cancelled <$> CheckInService.cancelCheckIn checkInId passengerId
  | .handleHoldExpired seatId =>
      (fun _ => Reply.void) <$> HoldExpiryService.handleHoldExpired seatId
  | .releaseSeat seatId => Reply.released <$> HoldExpiryService.releaseSeat seatId
  | .sweepExpiredHolds => (fun _ => Reply.void) <$> HoldExpiryService.sweepExpiredHolds
  | .processWaitlist flightId seatId =>
      (fun _ => Reply.void) <$> WaitlistService.processWaitlist flightId seatId
  | .joinWaitlist passengerId flightId =>
      Reply.waitlist <$> WaitlistService.joinWaitlist passengerId flightId
  | .leaveWaitlist waitlistId passengerId =>
      Reply.waitlist <$> WaitlistService.leaveWaitlist waitlistId passengerId
  | .getSeatMap flightId => Reply.seatMap <$> SeatService.getSeatMap flightId

/-- The services under given settings; the environment only lets time pass. -/
def skyHigh (cfg : Settings) :
    System Action Action.Res AppException Reply World Choice ℕ Call where
  exec := World.exec
  tick := World.tick
  start := Call.program cfg

abbrev SkyConfig := Config Action Action.Res AppException Reply World Call
abbrev SkyLabel := Label Choice ℕ Call
abbrev SkyTransition := Transition Action Action.Res AppException Reply World Choice ℕ Call

/-- The tables as the seeds leave them: every seat is available, and there is neither a
check-in nor a waitlist entry.  No call has left a trace outside the database either. -/
structure World.Seeded (w : World) : Prop where
  seats : ∀ s ∈ w.db.seats.rows, s.status = .available ∧ s.heldBy = none ∧ s.heldAt = none
  checkIns : w.db.checkIns = Table.empty
  waitlist : w.db.waitlist = Table.empty
  auditLog : w.db.auditLog = []
  seatHolds : ∀ s, w.seatHolds s = none
  payments : w.payments = []
  events : w.events = []

end SkyHighCore
