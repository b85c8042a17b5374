import SkyHighCore.Construction.System
import SkyHighCore.Framework.Leases

/-!
# Redlock

The lock of a seat and the lock of a waitlist are Redis keys that `redlock.acquire` sets, with a
random value, if they are not there, and that lapse by themselves; `lock.release` deletes the key
if it still has that value, and throws if it has not.  There is one Redis node, and the deciding
attempt of an acquisition is one atomic step; the attempts before it change nothing.

`World.exec` grants every request and lets every release succeed unless the environment chooses
otherwise.  `redlock` says which of these choices a table of leases permits.
-/

namespace SkyHighCore

open Framework

deriving instance DecidableEq for LockKey

/-- `REDIS_TTL.SEAT_LOCK` and `REDIS_TTL.WAITLIST_LOCK`, in seconds. -/
def seatLockTtl : ℕ := 5
def waitlistLockTtl : ℕ := 5

/-- `LOCK_TTL_MS` and `WAITLIST_LOCK_TTL_MS`. -/
def LockKey.ttlMs : LockKey → ℕ
  | .seatLock _ => seatLockTtl * 1000
  | .waitlistLock _ => waitlistLockTtl * 1000

/-- The commands that Redlock sends for an action. -/
def Action.lockOp : Action → LockOp LockKey
  | .acquireLock resource => .acquire resource
  | .releaseLock resource => .release resource
  | _ => .other

/-- The lock under which the source makes the write: `holdSeatWithinLock`, `releaseSeatWithinLock`
and `processWaitlistWithinLock`. -/
def Action.guard? : Action → Option LockKey
  | .holdSeat _ _ seatId _ => some (.seatLock seatId)
  | .release seat => some (.seatLock seat.id)
  | .assign _ _ flightId _ => some (.waitlistLock flightId)
  | _ => none

end SkyHighCore
