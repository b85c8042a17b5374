import SkyHighCore.Construction.Locks
import SkyHighCore.Construction.RateLimiter
import SkyHighCore.Framework.Keyspace

/-!
# The Redis keyspace

`World`, the leases and `RateLimitState` have a map for each thing that is kept in Redis.  Redis
has one map for all of them, with strings as keys; what keeps them apart is how `RedisKey` spells
the keys.  This module has the keys, the commands that `RedisService` and Redlock send, what they
make of the answers, and `RedisKeyExpirySubscriber`, which reads a key that has lapsed.

Ids are strings in the source and numbers here, so that the spelling of a key has the spelling of
ids, `uuid`, as a parameter.  A value is kept as what it is the text of.
-/

namespace SkyHighCore

open Framework

/-! ## Keys and values -/

/-- The keys that the builders of `RedisKey` build. -/
inductive RedisKey where
  | seatLock (seatId : SeatId)
  | waitlistLock (flightId : FlightId)
  | seatHold (seatId : SeatId)
  | seatMapCache (flightId : FlightId)
  | rateLimit (ip : String)
  deriving DecidableEq

/-- `REDIS_KEY_PREFIX`. -/
def RedisKey.keyPrefix : RedisKey → String
  | .seatLock _ => "lock:seat"
  | .waitlistLock _ => "lock:waitlist"
  | .seatHold _ => "hold"
  | .seatMapCache _ => "seatmap"
  | .rateLimit _ => "ratelimit"

/-- What the key is about. -/
def RedisKey.name (uuid : Uuid → String) : RedisKey → String
  | .seatLock seatId | .seatHold seatId => uuid seatId
  | .waitlistLock flightId | .seatMapCache flightId => uuid flightId
  | .rateLimit ip => ip

/-- The key as a string. -/
def RedisKey.spell (uuid : Uuid → String) (key : RedisKey) : String :=
  (key.keyPrefix ++ ":") ++ key.name uuid

/-- The resource that Redlock is given. -/
def LockKey.resource : LockKey → RedisKey
  | .seatLock seatId => .seatLock seatId
  | .waitlistLock flightId => .waitlistLock flightId

deriving instance DecidableEq for SortedSet

/-- The values that the services keep. -/
inductive RedisValue where
  /-- The value of a lock.  Redlock draws it at random; as a call is under one lock at a time, it
  can have one of its own. -/
  | lock (call : ℕ)
  | passengerId (passengerId : PassengerId)
  /-- The JSON text of a seat map. -/
  | seatMap (data : SeatMapResponseDto)
  | sortedSet (set : SortedSet String ℤ)
  deriving DecidableEq

/-- The sorted set that a sorted-set command finds; Redis refuses it a key of another type. -/
def RedisValue.members : Option RedisValue → Option (SortedSet String ℤ)
  | some (.sortedSet set) => some set
  | some _ => none
  | none => some .empty

/-! ## Commands -/

abbrev RedisCommand (κ : Type) := Command κ RedisValue
abbrev RedisAnswer := Answer RedisValue

namespace RedisService

variable {κ : Type}

/-- `del` of a single key. -/
def del (key : κ) : RedisCommand κ := .del key

/-- `exists`, which reads the answer as `result === 1`. -/
def existsKey (key : κ) : RedisCommand κ := .exists key

def setSeatHold (seatHoldKey : κ) (passengerId : PassengerId) (ttlSeconds : ℕ) : RedisCommand κ :=
  .set seatHoldKey (.passengerId passengerId) (ttlSeconds * 1000)

def setSeatMapCache (cacheKey : κ) (data : SeatMapResponseDto) (ttlSeconds : ℕ) :
    RedisCommand κ :=
  .set cacheKey (.seatMap data) (ttlSeconds * 1000)

def getSeatMapCache (cacheKey : κ) : RedisCommand κ := .get cacheKey

/-- The pipeline of `addRateLimitEntry`, which answers with the result of its third command. -/
def addRateLimitEntry (rateLimitKey : κ) (nowMs windowMs : ℕ) : RedisCommand κ :=
  .modify rateLimitKey (fun value => (RedisValue.members value).map fun set =>
    let set := (set.zremrangebyscore 0 ((nowMs : ℤ) - windowMs)).zadd nowMs (toString nowMs)
    (.sortedSet set, set.zcard)) windowMs

/-- `redlock.acquire([resource], ttlMs)`: `SET resource value NX PX ttlMs`. -/
def acquireLock (resource : κ) (call ttlMs : ℕ) : RedisCommand κ :=
  .setNX resource (.lock call) ttlMs

/-- `lock.release()`: delete the key if it still has the value. -/
def releaseLock (resource : κ) (call : ℕ) : RedisCommand κ := .delEq resource (.lock call)

end RedisService

/-- The command that call `k` sends for an action. -/
def Action.command? (k : ℕ) : Action → Option (RedisCommand RedisKey)
  | .setSeatHold seatId passengerId ttlSeconds =>
      some (RedisService.setSeatHold (.seatHold seatId) passengerId ttlSeconds)
  | .existsSeatHold seatId => some (RedisService.existsKey (.seatHold seatId))
  | .delSeatHold seatId => some (RedisService.del (.seatHold seatId))
  | .getSeatMapCache flightId => some (RedisService.getSeatMapCache (.seatMapCache flightId))
  | .setSeatMapCache flightId data ttlSeconds =>
      some (RedisService.setSeatMapCache (.seatMapCache flightId) data ttlSeconds)
  | .delSeatMapCache flightId => some (RedisService.del (.seatMapCache flightId))
  | .acquireLock resource => some (RedisService.acquireLock resource.resource k resource.ttlMs)
  | .releaseLock resource => some (RedisService.releaseLock resource.resource k)
  | _ => none

/-- What the services make of the answer, if it is one that they can read. -/
def Action.reads : (a : Action) → RedisAnswer → Option (Except AppException a.Res)
  | .setSeatHold .., .ok | .setSeatMapCache .., .ok => some (.ok ())
  | .delSeatHold _, .count _ | .delSeatMapCache _, .count _ => some (.ok ())
  | .existsSeatHold _, .count n => some (.ok (n = 1))
  | .getSeatMapCache _, .nil => some (.ok none)
  | .getSeatMapCache _, .value (.seatMap cached) => some (.ok (some cached))
  | .acquireLock _, .ok => some (.ok ())
  | .acquireLock _, .nil => some (.error .lockFailed)
  | .releaseLock _, .count n => some (if n = 1 then .ok () else .error .lockFailed)
  | _, _ => none

/-! ## Keys that lapse -/

/-- The payload of `SEAT_HOLD_EXPIRED_EVENT`. -/
structure SeatHoldExpiredEvent where
  seatId : String
  key : String
  deriving DecidableEq

namespace RedisKeyExpirySubscriber

/-- `REDIS_EXPIRED_CHANNEL`. -/
def expiredChannel : String := "__keyevent@0__:expired"

def holdPrefix : String := "hold" ++ ":"

/-- `handleExpiredKey`: the event that it emits. -/
def handleExpiredKey (key : String) : Option SeatHoldExpiredEvent :=
  if holdPrefix.toList.isPrefixOf key.toList then
    some { seatId := String.ofList (key.toList.drop holdPrefix.toList.length), key := key }
  else none

/-- The handler of `message`. -/
def onMessage (channel key : String) : Option SeatHoldExpiredEvent :=
  if channel ≠ expiredChannel then none else handleExpiredKey key

end RedisKeyExpirySubscriber

end SkyHighCore
