import SkyHighCore.Construction.System
import SkyHighCore.Construction.RateLimiter

/-!
# The HTTP layer

What stands between an HTTP request and a call of a service: `JwtAuthGuard`, the pipes of the
controllers, the controllers themselves, and `HttpExceptionFilter`, which answers for every
exception with a body of type `application/problem+json`.

Three things come from libraries.  The verification of a token is a parameter; what `ParseUUIDPipe`
and `ValidationPipe` make of a path segment or a body is part of the request; and the text of a
driver's error is a parameter of the filter.
-/

namespace SkyHighCore

open Framework

/-! ## Error types -/

structure ErrorType where
  type : String
  title : String
  status : ℕ
  deriving DecidableEq

/-- `BASE_PROBLEM_URI`. -/
def baseProblemUri : String := "https://skyhigh.com/problems"

def buildErrorType (slug title : String) (status : ℕ) : ErrorType where
  type := baseProblemUri ++ "/" ++ slug
  title := title
  status := status

namespace ErrorType

def seatAlreadyHeld : ErrorType := buildErrorType "seat-already-held" "Seat Already Held" 409
def holdExpired : ErrorType := buildErrorType "hold-expired" "Hold Expired" 410
def flightNotFound : ErrorType := buildErrorType "flight-not-found" "Flight Not Found" 404
def seatNotFound : ErrorType := buildErrorType "seat-not-found" "Seat Not Found" 404
def checkInNotFound : ErrorType := buildErrorType "checkin-not-found" "Check-In Not Found" 404
def alreadyCheckedIn : ErrorType :=
  buildErrorType "already-checked-in" "Already Checked In" 409
def alreadyOnWaitlist : ErrorType :=
  buildErrorType "already-on-waitlist" "Already On Waitlist" 409
def waitlistNotFound : ErrorType :=
  buildErrorType "waitlist-not-found" "Waitlist Entry Not Found" 404
def cancellationNotAllowed : ErrorType :=
  buildErrorType "cancellation-not-allowed" "Cancellation Not Allowed" 403
def rateLimitExceeded : ErrorType :=
  buildErrorType "rate-limit-exceeded" "Rate Limit Exceeded" 429
end ErrorType

/-! ## `HttpExceptionFilter` -/

/-- The body of an `HttpException`: a text, or an object whose `message`, if it has one, is a text
or a list of texts. -/
inductive HttpExceptionResponse where
  | text (s : String)
  | object (message : Option (String ⊕ List String))

/-- An exception of the framework that is none of the domain exceptions. -/
structure HttpException where
  status : ℕ
  response : HttpExceptionResponse
  message : String

/-- The error type and the detail of a `DomainException`. -/
def AppException.domain? : AppException → Option (ErrorType × String)
  | .flightNotFound detail => some (.flightNotFound, detail)
  | .seatNotFound detail => some (.seatNotFound, detail)
  | .seatAlreadyHeld detail => some (.seatAlreadyHeld, detail)
  | .alreadyCheckedIn detail => some (.alreadyCheckedIn, detail)
  | .checkInNotFound detail => some (.checkInNotFound, detail)
  | .holdExpired detail => some (.holdExpired, detail)
  | .cancellationNotAllowed detail => some (.cancellationNotAllowed, detail)
  | .alreadyOnWaitlist detail => some (.alreadyOnWaitlist, detail)
  | .waitlistNotFound detail => some (.waitlistNotFound, detail)
  | _ => none

namespace HttpExceptionFilter

end HttpExceptionFilter

/-! ## `JwtAuthGuard` -/

/-- The claims of a token; `sub` is the passenger. -/
structure JwtPayload where
  sub : PassengerId
  iat : Time
  exp : Time

/-- `new UnauthorizedException(message)`. -/
def unauthorizedException (message : String) : HttpException where
  status := 401
  response := .object (some (.inl message))
  message := message

namespace JwtAuthGuard

/-- The second word of a header whose first word is `Bearer`. -/
def bearerToken : List String → Option String
  | [] | [_] => none
  | scheme :: token :: _ => if scheme ≠ "Bearer" ∨ token = "" then none else some token

def extractTokenFromHeader (authorization : Option String) : Option String :=
  match authorization with
  | none => none
  | some authorization =>
      if authorization = "" then none
      else bearerToken ((authorization.toList.splitOn ' ').map String.ofList)

/-- `canActivate` on a route that is not public: the claims it leaves in `request.user`. -/
def canActivate (verify : String → Option JwtPayload) (authorization : Option String) :
    Except HttpException JwtPayload :=
  match extractTokenFromHeader authorization with
  | none => .error (unauthorizedException "Missing or malformed authorization header")
  | some token =>
      match verify token with
      | some payload => .ok payload
      | none => .error (unauthorizedException "Invalid or expired token")

end JwtAuthGuard

/-! ## The controllers -/

/-- What a pipe of the framework makes of an argument: a value, or the exception it throws. -/
abbrev Piped (α : Type) : Type := Except HttpException α

/-- The routes whose handler is a call of `skyHigh`, with what the pipes make of their arguments. -/
inductive Route where
  | postCheckIns (body : Piped StartCheckInRequestDto)
  | patchCheckIn (id : Piped CheckInId) (body : Piped UpdateCheckInRequestDto)
  | deleteCheckIn (id : Piped CheckInId)
  | postWaitlist (flightId : Piped FlightId)
  | deleteWaitlist (id : Piped WaitlistId)
  | getSeats (flightId : Piped FlightId)

/-- A request for one of these routes. -/
structure ApiRequest where
  authorization : Option String
  url : String
  route : Route

/-- The handler of the route, for the passenger of `@CurrentUser()`. -/
def Route.handler (passengerId : PassengerId) : Route → Except HttpException Call
  | .postCheckIns body => do
      let dto ← body
      return .startCheckIn passengerId dto
  | .patchCheckIn id body => do
      let checkInId ← id
      let dto ← body
      return .confirmCheckIn checkInId passengerId dto
  | .deleteCheckIn id => do
      let checkInId ← id
      return .cancelCheckIn checkInId passengerId
  | .postWaitlist flightId => do
      let flightId ← flightId
      return .joinWaitlist passengerId flightId
  | .deleteWaitlist id => do
      let waitlistId ← id
      return .leaveWaitlist waitlistId passengerId
  | .getSeats flightId => do
      let flightId ← flightId
      return .getSeatMap flightId

/-- From a request to the call that it issues: the guard comes before the pipes. -/
def ApiRequest.receive (verify : String → Option JwtPayload) (req : ApiRequest) :
    Except HttpException Call := do
  let user ← JwtAuthGuard.canActivate verify req.authorization
  req.route.handler user.sub

end SkyHighCore
