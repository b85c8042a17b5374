import SkyHighCore.Construction.World
import SkyHighCore.Framework.Traces

/-!
# `NotificationService`

The listener of `WAITLIST_NOTIFICATION_EVENT`.  For each event it makes one POST to the stub
Notification Service, whose failure it logs and swallows; it touches nothing that the other services
share, so it has actions of its own.
-/

namespace SkyHighCore

open Framework

/-- `NotificationEventType`. -/
inductive NotificationEventType where
  | waitlistSeatAssigned | holdExpiryWarning
  deriving DecidableEq, Repr

/-- The body of a POST to the Notification Service, with the payload of an assigned seat. -/
structure NotificationRequest where
  type : NotificationEventType
  passengerId : PassengerId
  flightId : FlightId
  seatId : SeatId
  waitlistEntryId : WaitlistId
  deriving DecidableEq

structure NotificationResponse where
  notificationId : String
  type : String
  passengerId : String
  status : String
  timestamp : String

/-- What the service asks of the outside. -/
inductive NotificationAction where
  | post (request : NotificationRequest)

abbrev NotificationAction.Res : NotificationAction → Type
  | .post _ => NotificationResponse

def NotificationAction.request : NotificationAction → NotificationRequest
  | .post request => request

abbrev NotificationProgram (α : Type) :=
  Prog NotificationAction NotificationAction.Res AppException α

namespace NotificationService

/-- The response, or `null` when the request fails or is not answered in time. -/
def sendNotification (request : NotificationRequest) :
    NotificationProgram (Option NotificationResponse) :=
  (do
    let response ← Prog.perform (.post request)
    return some response : NotificationProgram (Option NotificationResponse)).tryCatch
      fun _ => return none

def assignmentRequest (passengerId : PassengerId) (flightId : FlightId) (seatId : SeatId)
    (waitlistEntryId : WaitlistId) : NotificationRequest where
  type := .waitlistSeatAssigned
  passengerId := passengerId
  flightId := flightId
  seatId := seatId
  waitlistEntryId := waitlistEntryId

def handleWaitlistAssignment (passengerId : PassengerId) (flightId : FlightId) (seatId : SeatId)
    (waitlistEntryId : WaitlistId) : NotificationProgram Unit := do
  let _ ← sendNotification (assignmentRequest passengerId flightId seatId waitlistEntryId)
  return ()

/-- `@OnEvent(WAITLIST_NOTIFICATION_EVENT)`. -/
def listener : AppEvent → Option (NotificationProgram Unit)
  | .waitlistNotification passengerId flightId seatId waitlistEntryId =>
      some (handleWaitlistAssignment passengerId flightId seatId waitlistEntryId)
  | .waitlistProcess .. => none

/-- The record of the listener's call for one event: it has run to its end, if it was called. -/
def Heard (event : AppEvent)
    (tr : List (Event NotificationAction NotificationAction.Res AppException)) : Prop :=
  match listener event with
  | some handler => ∃ r, handler.Yields tr r
  | none => tr = []

/-- The requests that have been made when every event has been heard. -/
def Delivered (events : List AppEvent) (sent : List NotificationRequest) : Prop :=
  ∃ traces, List.Forall₂ Heard events traces ∧
    sent = traces.flatten.map fun event => event.1.request

end NotificationService

end SkyHighCore
