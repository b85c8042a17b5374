import Mathlib.Data.Int.Order.Basic
import SkyHighCore.Construction.Entities
import SkyHighCore.Framework.SortedSet

/-!
# The rate limiter of the seat map

`RateLimiterMiddleware.use` runs before every request to the `SeatController`.  It records the
request in the Redis sorted set `ratelimit:{clientIp}`, whose members and scores are both the
millisecond of the request, and answers 429 once the set has `maxRequests` members.

The four commands of `addRateLimitEntry` are one pipeline and one atomic step; Redis's clock
reads what `Date.now()` returned.  The environment chooses whether the pipeline fails, which
leaves Redis as it is and counts as zero, and whether the abuse event can be saved.
-/

namespace SkyHighCore

open Framework

/-- `RedisKey.rateLimit(ip)`. -/
def rateLimitKey (ip : String) : String := "ratelimit" ++ ":" ++ ip

/-- What the middleware reads of an Express request. -/
structure HttpRequest where
  ip : Option String
  /-- `req.socket.remoteAddress`. -/
  remoteAddress : Option String
  originalUrl : String
  method : String
  deriving DecidableEq

/-- `req.ip ?? req.socket.remoteAddress ?? "unknown"`. -/
def HttpRequest.clientIp (req : HttpRequest) : String :=
  (req.ip.orElse fun _ => req.remoteAddress).getD "unknown"

/-- A row of `abuse_event`, as `AbuseEventService.record` saves it.  The start of a window may
lie before the epoch. -/
structure AbuseEvent where
  sourceIp : String
  requestCount : ℕ
  windowStart : ℤ
  windowEnd : ℤ
  endpoint : String
  method : String
  deriving DecidableEq

/-- A body of type `application/problem+json`. -/
structure ProblemDetails where
  type : String
  title : String
  status : ℕ
  detail : String
  instanceUrl : String
  deriving DecidableEq

/-- What the middleware does with a request: it calls `next()`, or it answers itself. -/
inductive RateLimiterReply where
  | next
  | json (contentType retryAfter : String) (body : ProblemDetails)
  deriving DecidableEq

/-- The status of the middleware's own answer. -/
def RateLimiterReply.status? : RateLimiterReply → Option ℕ
  | .next => none
  | .json _ _ body => some body.status

/-- `RATE_LIMIT_WINDOW_MS` and `RATE_LIMIT_MAX_REQUESTS`. -/
structure RateLimitConfig where
  windowMs : ℕ := 2000
  maxRequests : ℕ := 50

/-- The sorted sets by key with the instant at which they lapse, the table `abuse_event` and the
counter `skyhigh_abuse_events_total`. -/
structure RateLimitState where
  sets : String → Option (SortedSet String ℤ × ℕ)
  abuseEvents : List AbuseEvent
  abuseEventsTotal : String → ℕ

/-- Nothing has been recorded. -/
def RateLimitState.empty : RateLimitState := ⟨fun _ => none, [], fun _ => 0⟩

/-- A request with the instant `Date.now()` returned for it, and what fails while it is handled. -/
structure Arrival where
  request : HttpRequest
  nowMs : ℕ
  pipelineFails : Bool := false
  recordFails : Bool := false
  deriving DecidableEq

def Arrival.clientIp (x : Arrival) : String := x.request.clientIp

namespace RateLimitState

/-- The sorted set under a key, empty when the key is missing or has lapsed. -/
def live (σ : RateLimitState) (key : String) (nowMs : ℕ) : SortedSet String ℤ :=
  match σ.sets key with
  | some (set, expiresAt) => if nowMs < expiresAt then set else .empty
  | none => .empty

/-- What `ZREMRANGEBYSCORE key 0 (nowMs - windowMs)` leaves. -/
def pruned (σ : RateLimitState) (key : String) (nowMs windowMs : ℕ) :
    SortedSet String ℤ :=
  (σ.live key nowMs).zremrangebyscore 0 ((nowMs : ℤ) - windowMs)

/-- `RedisService.addRateLimitEntry`: the count and the state it leaves. -/
def addRateLimitEntry (σ : RateLimitState) (fails : Bool) (key : String)
    (nowMs windowMs : ℕ) : ℕ × RateLimitState :=
  if fails then (0, σ)
  else
    let set := (σ.pruned key nowMs windowMs).zadd nowMs (toString nowMs)
    (set.zcard, { σ with sets := Function.update σ.sets key (some (set, nowMs + windowMs)) })

/-- `abuseEventsTotal.labels({ source_ip }).inc()` and `AbuseEventService.record`, which swallows
its failure. -/
def abused (σ : RateLimitState) (fails : Bool) (event : AbuseEvent) : RateLimitState :=
  { σ with
    abuseEventsTotal := Function.update σ.abuseEventsTotal event.sourceIp
      (σ.abuseEventsTotal event.sourceIp + 1)
    abuseEvents := if fails then σ.abuseEvents else σ.abuseEvents ++ [event] }

end RateLimitState

/-- The body of the middleware's 429. -/
def rateLimitExceeded (req : HttpRequest) : ProblemDetails where
  type := "https://skyhigh.com/problems" ++ "/" ++ "rate-limit-exceeded"
  title := "Rate Limit Exceeded"
  status := 429
  detail := "Rate limit exceeded, please try again later"
  instanceUrl := req.originalUrl

namespace RateLimiterMiddleware

/-- `RateLimiterMiddleware.use`. -/
def use (cfg : RateLimitConfig) (σ : RateLimitState) (x : Arrival) :
    RateLimiterReply × RateLimitState :=
  let clientIp := x.clientIp
  let recorded := σ.addRateLimitEntry x.pipelineFails (rateLimitKey clientIp) x.nowMs cfg.windowMs
  if cfg.maxRequests ≤ recorded.1 then
    (.json "application/problem+json" (toString 2) (rateLimitExceeded x.request),
      recorded.2.abused x.recordFails
        { sourceIp := clientIp
          requestCount := recorded.1
          windowStart := (x.nowMs : ℤ) - cfg.windowMs
          windowEnd := x.nowMs
          endpoint := x.request.originalUrl
          method := x.request.method })
  else (.next, recorded.2)

/-- The state after the requests `xs`, the first of which found nothing recorded. -/
def after (cfg : RateLimitConfig) (xs : List Arrival) : RateLimitState :=
  xs.foldl (fun σ x => (use cfg σ x).2) .empty

/-- The answer to `x` when the requests `xs` came before it. -/
def reply (cfg : RateLimitConfig) (xs : List Arrival) (x : Arrival) : RateLimiterReply :=
  (use cfg (after cfg xs) x).1

/-- The count on which the answer to `x` rests. -/
def count (cfg : RateLimitConfig) (xs : List Arrival) (x : Arrival) : ℕ :=
  ((after cfg xs).addRateLimitEntry x.pipelineFails (rateLimitKey x.clientIp) x.nowMs
    cfg.windowMs).1

end RateLimiterMiddleware

end SkyHighCore
