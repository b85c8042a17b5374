import SkyHighCore.Construction.Locks
import SkyHighCore.Framework.Monitor
import SkyHighCore.Properties.Runs

/-!
# Locks are taken, kept and given back

Starts, releases and assignments write under a lock.  `lockMonitor` watches a call for it: a call
takes one lock at a time, makes a write that a lock guards only under that lock and on the row that
it has read there, and ends without a lock, whether it returns or throws.  With the leases of
Redlock this is mutual exclusion for the guarded writes (`run_exclusion`).
-/

namespace SkyHighCore

open Framework

variable {cfg : Settings} {w : World} {ts us : List SkyTransition} {c : SkyConfig}

/-- Redlock's leases, on the clock that Redis and the app share. -/
def redlock (cfg : Settings) : Locking (skyHigh cfg) LockKey where
  op := Action.lockOp
  ttl := LockKey.ttlMs
  clock := World.now
  clock_exec a ch w := (World.exec_now w ch a).ge
  clock_tick ms w := Nat.le_add_right w.now ms

/-! ## The monitor -/

/-- The lock that a call is under, and the seat that it has last read there and not tried to write
since. -/
abbrev LockState := Option (LockKey × Option Seat)

/-- The row that the write relies on. -/
def Action.Expects (seat : Seat) : Action → Prop
  | .holdSeat _ _ seatId _ => seat.id = seatId ∧ seat.status = .available
  | .release seat' => seat' = seat ∧ seat.status = .held
  | .assign _ seat' flightId _ =>
      seat' = seat ∧ seat.status = .available ∧ seat.flightId = flightId
  | _ => True

/-- What a call under the lock `g` may do next. -/
structure LockState.Allows (g : LockState) (a : Action) : Prop where
  acquire : ∀ key, a = .acquireLock key → g = none
  release : ∀ key, a = .releaseLock key → g.map Prod.fst = some key
  write : ∀ key, a.guard? = some key → ∃ seat, g = some (key, some seat) ∧ a.Expects seat

/-- Where an action leaves its call. -/
def LockState.next (g : LockState) : (a : Action) → Except AppException a.Res → LockState
  | .acquireLock key, .ok _ => some (key, none)
  | .releaseLock _, _ => none
  | .findOneSeat _, .ok (some seat) => g.map fun held => (held.1, some seat)
  | .holdSeat .., _ | .release _, _ | .assign .., _ => g.map fun held => (held.1, none)
  | _, _ => g

/-- A call starts and ends without a lock. -/
def lockMonitor : Monitor Action Action.Res AppException LockState where
  start := none
  allows := LockState.Allows
  next := LockState.next
  final g := g = none

/-- The actions that have nothing to do with locks. -/
def Action.lockless : Action → Bool
  | .acquireLock _ | .releaseLock _ | .holdSeat .. | .release _ | .assign .. => false
  | _ => true

lemma LockState.allows_of_lockless {a : Action} (ha : a.lockless = true) (g : LockState) :
    g.Allows a := by
  constructor
  · rintro key rfl
    cases ha
  · rintro key rfl
    cases ha
  · intro key hguard
    cases a with
    | holdSeat | release | assign => cases ha
    | _ => cases hguard

/-- The actions that leave the lock state as it is. -/
def Action.unseen : Action → Bool
  | .findOneSeat _ => false
  | a => a.lockless

lemma lockMonitor_neutral {a : Action} (ha : a.unseen = true) (g : LockState) :
    lockMonitor.Neutral g a := by
  constructor
  · apply LockState.allows_of_lockless
    cases a with
    | findOneSeat => rfl
    | _ => exact ha
  · intro r
    cases a with
    | findOneSeat | acquireLock | releaseLock | holdSeat | release | assign => cases ha
    | _ => rfl

/-- Outside of a lock no read is remembered. -/
lemma lockMonitor_neutral_none {a : Action} (ha : a.lockless = true) :
    lockMonitor.Neutral none a := by
  refine ⟨LockState.allows_of_lockless ha none, fun r => ?_⟩
  cases a with
  | acquireLock | releaseLock | holdSeat | release | assign => cases ha
  | findOneSeat q =>
      cases r with
      | error e => rfl
      | ok found => cases found <;> rfl
  | _ => rfl

/-! ## Programs without locks -/

/-- A program that has nothing to do with locks. -/
abbrev Lockless {α : Type} (p : Program α) : Prop := p.All fun a => a.lockless = true

lemma lockless_act {a : Action} (ha : a.lockless = true) : Lockless (act a) := Prog.all_perform ha

namespace CheckInService

lemma lockless_validateFlightExists (f : FlightId) : Lockless (validateFlightExists f) := by
  refine Prog.all_bind (lockless_act rfl) fun flight => ?_
  cases flight <;> trivial

lemma lockless_validateSeatBelongsToFlight (s : SeatId) (f : FlightId) :
    Lockless (validateSeatBelongsToFlight s f) := by
  refine Prog.all_bind (lockless_act rfl) fun seat => ?_
  cases seat <;> trivial

lemma lockless_validateNoActiveCheckIn (p : PassengerId) (f : FlightId) :
    Lockless (validateNoActiveCheckIn p f) := by
  refine Prog.all_bind (lockless_act rfl) fun existing => ?_
  cases existing with
  | none => trivial
  | some existing => exact Prog.all_throwWhen

lemma lockless_countAndRethrow (f : FlightId) (e : AppException) :
    Lockless (countAndRethrow f e) := by
  refine Prog.all_bind ?_ fun _ => trivial
  unfold countContention
  split
  · exact lockless_act rfl
  · trivial

lemma lockless_findCheckInOrThrow (i : CheckInId) (p : PassengerId) :
    Lockless (findCheckInOrThrow i p) := by
  refine Prog.all_bind (lockless_act rfl) fun found => ?_
  cases found <;> trivial

lemma lockless_validateHoldNotExpired (checkIn : CheckIn) :
    Lockless (validateHoldNotExpired checkIn) := by
  refine Prog.all_bind Prog.all_throwWhen fun _ => ?_
  unfold validateHoldKey
  split
  · trivial
  · exact Prog.all_bind (lockless_act rfl) fun _ => Prog.all_throwWhen

lemma lockless_dropHold (checkIn : CheckIn) : Lockless (dropHold checkIn) := by
  unfold dropHold
  split
  · trivial
  · exact Prog.all_bind (lockless_act rfl) fun _ => lockless_act rfl

lemma lockless_findCheckInOrFail (i : CheckInId) : Lockless (findCheckInOrFail i) := by
  refine Prog.all_bind (lockless_act rfl) fun found => ?_
  cases found <;> trivial

lemma lockless_completeCheckIn (checkIn : CheckIn) (weight : ℚ) (paymentId : Option String) :
    Lockless (completeCheckIn checkIn weight paymentId) := by
  refine Prog.all_bind (lockless_act rfl) fun _ => ?_
  refine Prog.all_bind (lockless_act rfl) fun _ => ?_
  refine Prog.all_bind (lockless_dropHold checkIn) fun _ => ?_
  exact Prog.all_bind (lockless_findCheckInOrFail _) fun _ => trivial

end CheckInService

namespace PaymentService

lemma lockless_attempts (request : PaymentRequestDto) (remaining attempt : ℕ)
    (lastError : Option AppException) :
    Lockless (attempts cfg request remaining attempt lastError) := by
  induction remaining generalizing attempt lastError with
  | zero => trivial
  | succ remaining ih =>
      refine Prog.all_bind ?_ fun _ => Prog.all_andThen (lockless_act rfl) fun r => ?_
      · unfold backoff
        split
        · exact lockless_act rfl
        · trivial
      · cases r with
        | ok response => trivial
        | error error => exact ih (attempt + 1) (some error)

lemma lockless_processPayment (request : PaymentRequestDto) :
    Lockless (processPayment cfg request) := by
  refine Prog.all_bind (lockless_act rfl) fun _ => ?_
  refine Prog.all_bind (lockless_attempts request _ _ _) fun result => ?_
  refine Prog.all_bind ?_ fun _ => trivial
  unfold logConfirmed
  split
  · exact lockless_act rfl
  · trivial

end PaymentService

namespace CheckInService

lemma lockless_confirmCheckIn (i : CheckInId) (p : PassengerId) (dto : UpdateCheckInRequestDto) :
    Lockless (confirmCheckIn cfg i p dto) := by
  refine Prog.all_bind (lockless_findCheckInOrThrow i p) fun checkIn => ?_
  refine Prog.all_bind (lockless_validateHoldNotExpired checkIn) fun _ => ?_
  have hweigh : Lockless (BaggageService.callWeightService p) :=
    Prog.all_tryCatch (Prog.all_bind (lockless_act rfl) fun _ => trivial) fun _ => trivial
  refine Prog.all_bind (Prog.all_bind hweigh fun _ => trivial) fun result => ?_
  split
  · refine Prog.all_bind (lockless_act rfl) fun _ => ?_
    refine Prog.all_bind (PaymentService.lockless_processPayment _) fun payment => ?_
    split
    · exact lockless_completeCheckIn _ _ _
    · exact Prog.all_bind (lockless_findCheckInOrFail _) fun _ => trivial
  · exact lockless_completeCheckIn _ _ _

lemma lockless_cancelCheckIn (i : CheckInId) (p : PassengerId) :
    Lockless (cancelCheckIn i p) := by
  refine Prog.all_bind (lockless_findCheckInOrThrow i p) fun checkIn => ?_
  refine Prog.all_bind (lockless_act rfl) fun flight => ?_
  refine Prog.all_bind Prog.all_throwWhen fun _ => ?_
  refine Prog.all_bind (lockless_act rfl) fun _ => ?_
  refine Prog.all_bind (lockless_act rfl) fun _ => ?_
  refine Prog.all_bind (lockless_dropHold checkIn) fun _ => ?_
  exact Prog.all_bind (lockless_act rfl) fun _ => trivial

end CheckInService

namespace WaitlistService

lemma lockless_joinWaitlist (p : PassengerId) (f : FlightId) : Lockless (joinWaitlist p f) := by
  refine Prog.all_bind (lockless_act rfl) fun flight => ?_
  cases flight with
  | none => trivial
  | some flight =>
      refine Prog.all_bind (lockless_act rfl) fun existing => ?_
      refine Prog.all_bind Prog.all_throwWhen fun _ => ?_
      refine Prog.all_bind (Prog.all_bind (lockless_act rfl) fun _ => trivial) fun position => ?_
      refine Prog.all_bind (lockless_act rfl) fun saved => ?_
      exact Prog.all_bind (lockless_act rfl) fun _ => trivial

lemma lockless_leaveWaitlist (i : WaitlistId) (p : PassengerId) :
    Lockless (leaveWaitlist i p) := by
  refine Prog.all_bind (lockless_act rfl) fun entry => ?_
  cases entry with
  | none => trivial
  | some entry =>
      refine Prog.all_bind Prog.all_throwWhen fun _ => ?_
      exact Prog.all_bind (lockless_act rfl) fun _ => trivial

end WaitlistService

lemma SeatService.lockless_getSeatMap (f : FlightId) : Lockless (getSeatMap f) := by
  refine Prog.all_bind (lockless_act rfl) fun cached => ?_
  cases cached with
  | some map => trivial
  | none =>
      refine Prog.all_bind (lockless_act rfl) fun flight => ?_
      cases flight with
      | none => trivial
      | some flight =>
          refine Prog.all_bind (lockless_act (a := .findFlightSeats f) rfl) fun seats => ?_
          exact Prog.all_bind (lockless_act (a := .setSeatMapCache f _ _) rfl) fun _ => trivial

/-! ## Every call obeys the monitor -/

section Walks

open Monitor

/-- From the lock state `g` on, the program keeps to its locks, returns as `Q` says, and throws in
a state of `E` only. -/
abbrev Guarded (cfg : Settings) (E : LockState → Prop) (g : LockState) {α : Type} (p : Program α)
    (Q : α → LockState → Prop) : Prop :=
  lockMonitor.Reaches (skyHigh cfg) E g p Q

/-- The call is under the lock. -/
def LockState.Under (key : LockKey) (g : LockState) : Prop := g.map Prod.fst = some key

variable {α β : Type} {key : LockKey} {g : LockState} {E : LockState → Prop}
  {Q : α → LockState → Prop}

/-- An action that leaves the lock state as it is, before another program. -/
lemma guarded_bind {a : Action} {k : a.Res → Program α} (ha : a.unseen = true) (hE : E g)
    (hk : ∀ v, Guarded cfg E g (k v) Q) : Guarded cfg E g (act a >>= k) Q := by
  obtain ⟨hallows, hnext⟩ := lockMonitor_neutral ha g
  have hact : Guarded cfg E g (act a) fun _ g' => g' = g :=
    reaches_perform hallows (fun e => (hnext (.error e)).symm ▸ hE) fun v => hnext (.ok v)
  exact hact.bind fun v _ hg' => hg'.symm ▸ hk v

/-- The last action of a program, if it leaves the lock state as it is. -/
lemma guarded_act {a : Action} (ha : a.unseen = true) (hE : E g) :
    Guarded cfg E g (act a) fun _ => E := by
  obtain ⟨hallows, hnext⟩ := lockMonitor_neutral ha g
  exact reaches_perform hallows (fun e => (hnext (.error e)).symm ▸ hE)
    fun v => (hnext (.ok v)).symm ▸ hE

/-- A seat that is read under a lock is remembered. -/
lemma guarded_findOneSeat {read : Option Seat} {q : SeatWhere} {k : Option Seat → Program α}
    (hE : E (some (key, read)))
    (hk : ∀ found, (∀ seat ∈ found, q.Matches seat) →
      Guarded cfg E (some (key, found.or read)) (k found) Q) :
    Guarded cfg E (some (key, read)) (findOneSeat q >>= k) Q := by
  refine Prog.wp_bind ?_
  rintro g₁ rfl - r g₂ ⟨⟨ch, w, hr⟩, rfl⟩
  refine ⟨LockState.allows_of_lockless rfl _, ?_⟩
  cases r with
  | error e => exact hE
  | ok found =>
      have hmatches : ∀ seat ∈ found, q.Matches seat := by
        rintro seat rfl
        exact (exec_findOneSeat (Prod.ext hr rfl)).2.2
      cases found with
      | none => exact hk none hmatches
      | some seat => exact hk (some seat) hmatches

/-- The lock that a call is under is released at its end, however its body ends. -/
lemma obeys_finally {body : Program α}
    (hbody : Guarded cfg (LockState.Under key) (some (key, none)) body
      fun _ => LockState.Under key) :
    lockMonitor.Obeys (skyHigh cfg) (some (key, none)) (body.tryFinally (releaseLock key)) := by
  refine obeys_tryFinally hbody fun g hg => ?_
  rintro g₁ rfl - r g₂ ⟨-, rfl⟩
  refine ⟨⟨fun _ h => (by cases h), ?_, fun _ h => (by cases h)⟩, ?_⟩
  · rintro key' ⟨⟩
    exact hg
  · cases r <;> rfl

lemma allows_acquireLock (key : LockKey) : LockState.Allows none (.acquireLock key) :=
  ⟨fun _ _ => rfl, fun _ h => (by cases h), fun _ h => (by cases h)⟩

lemma guarded_throwWhen {c : Prop} [Decidable c] {e : AppException} {k : Unit → Program α}
    (hE : E g) (hk : ¬ c → Guarded cfg E g (k ()) Q) :
    Guarded cfg E g (Prog.throwWhen c e >>= k) Q :=
  Prog.wp_bind (Prog.wp_throwWhen (fun _ => hE) hk)

/-- A program that leaves the lock state as it is. -/
lemma guarded_all {p : Program α} (hp : p.All fun a => a.unseen = true) (hE : E g) :
    Guarded cfg E g p fun _ => E := by
  refine Prog.wp_mono (fun r g' hg' => ?_)
    (wp_of_neutral (hp.mono fun a ha => lockMonitor_neutral ha g))
  rw [hg']
  cases r with
  | ok v => exact hE
  | error e => exact hE

/-- A guarded write on the row that has been read. -/
lemma guarded_write {seat : Seat} {a : Action} {k : a.Res → Program α}
    (hguard : a.guard? = some key) (hexpects : a.Expects seat)
    (hk : ∀ v, Guarded cfg (LockState.Under key) (some (key, none)) (k v) Q) :
    Guarded cfg (LockState.Under key) (some (key, some seat)) (act a >>= k) Q := by
  have hnext : ∀ r, lockMonitor.next (some (key, some seat)) a r = some (key, none) := by
    intro r
    cases a with
    | holdSeat | release | assign => rfl
    | _ => cases hguard
  have hallows : LockState.Allows (some (key, some seat)) a := by
    constructor
    · rintro key' rfl
      cases hguard
    · rintro key' rfl
      cases hguard
    · intro key' hguard'
      obtain rfl : key = key' := Option.some_inj.mp (hguard.symm.trans hguard')
      exact ⟨seat, rfl, hexpects⟩
  have hact : Guarded cfg (LockState.Under key) (some (key, some seat)) (act a)
      fun _ g' => g' = some (key, none) :=
    reaches_perform hallows (fun e => (hnext (.error e)).symm ▸ rfl) fun v => hnext (.ok v)
  exact hact.bind fun v _ hg' => hg'.symm ▸ hk v

lemma guarded_holdSeatWithinLock (p : PassengerId) (f : FlightId) (s : SeatId) :
    Guarded cfg (LockState.Under (.seatLock s)) (some (.seatLock s, none))
      (CheckInService.holdSeatWithinLock p f s) fun _ => LockState.Under (.seatLock s) := by
  refine guarded_findOneSeat rfl fun found hmatches => ?_
  refine guarded_throwWhen rfl fun havailable => ?_
  cases found with
  | none => exact absurd (fun _ h => (by cases h)) havailable
  | some seat =>
      have hst : seat.status = .available := by
        by_contra hst
        apply havailable
        rintro _ ⟨⟩
        exact hst
      have hid : seat.id = s := (hmatches seat rfl).1 s rfl
      refine guarded_bind rfl rfl fun heldAt => ?_
      refine guarded_write rfl ⟨hid, hst⟩ fun checkIn => ?_
      refine guarded_bind rfl rfl fun _ => ?_
      exact guarded_bind rfl rfl fun _ => reaches_pure rfl

lemma lockless_neutral {p : Program α} (hp : Lockless p) : p.All (lockMonitor.Neutral none) :=
  hp.mono fun _ => lockMonitor_neutral_none

lemma obeysLock_startCheckIn (p : PassengerId) (dto : StartCheckInRequestDto) :
    lockMonitor.Obeys (skyHigh cfg) none (CheckInService.startCheckIn p dto) := by
  refine Obeys.bind_neutral rfl
    (lockless_neutral (CheckInService.lockless_validateFlightExists _)) fun _ => ?_
  refine Obeys.bind_neutral rfl
    (lockless_neutral (CheckInService.lockless_validateSeatBelongsToFlight _ _)) fun _ => ?_
  refine Obeys.bind_neutral rfl
    (lockless_neutral (CheckInService.lockless_validateNoActiveCheckIn _ _)) fun _ => ?_
  have hlocked : lockMonitor.Obeys (skyHigh cfg) none
      (acquireLock (.seatLock dto.seatId) >>= fun _ =>
        (CheckInService.holdSeatWithinLock p dto.flightId dto.seatId).tryFinally
          (releaseLock (.seatLock dto.seatId))) :=
    Obeys.bind_perform (allows_acquireLock _) (fun _ => rfl)
      fun _ => obeys_finally (guarded_holdSeatWithinLock _ _ _)
  refine Prog.wp_tryCatch (Prog.wp_mono (fun r g hg => ?_) hlocked)
  cases r with
  | ok v => exact hg
  | error e =>
      rw [hg]
      exact Obeys.of_neutral rfl (lockless_neutral (CheckInService.lockless_countAndRethrow _ e))

/-- A call that does not insist on its lock. -/
lemma obeys_andThen {body : Program α} {refused : Program α} (hrefused : Lockless refused)
    (hbody : Guarded cfg (LockState.Under key) (some (key, none)) body
      fun _ => LockState.Under key) :
    lockMonitor.Obeys (skyHigh cfg) none ((acquireLock key).andThen fun
      | .error _ => refused
      | .ok _ => body.tryFinally (releaseLock key)) := by
  have hlock : Guarded cfg (fun g' => g' = none) none (acquireLock key)
      fun _ g' => g' = some (key, none) :=
    reaches_perform (allows_acquireLock key) (fun _ => rfl) fun _ => rfl
  refine (Prog.wp_andThen _ _ _ _).mpr (Prog.wp_mono (fun r g' hr => ?_) hlock)
  cases r with
  | error e =>
      rw [hr]
      exact Obeys.of_neutral rfl (lockless_neutral hrefused)
  | ok _ =>
      rw [hr]
      exact obeys_finally hbody

lemma unseen_afterRelease (seat : Seat) :
    (HoldExpiryService.afterRelease seat).All fun a => a.unseen = true := by
  refine Prog.all_bind ?_ fun _ => ?_
  · unfold HoldExpiryService.markWaitlistEntryExpired
    split
    · trivial
    · refine Prog.all_bind (Prog.all_perform rfl) fun entry => ?_
      cases entry with
      | none => trivial
      | some entry => exact Prog.all_perform rfl
  · refine Prog.all_bind (Prog.all_perform rfl) fun _ => ?_
    exact Prog.all_bind (Prog.all_perform rfl) fun _ => trivial

lemma guarded_releaseSeatWithinLock (s : SeatId) :
    Guarded cfg (LockState.Under (.seatLock s)) (some (.seatLock s, none))
      (HoldExpiryService.releaseSeatWithinLock s) fun _ => LockState.Under (.seatLock s) := by
  refine guarded_findOneSeat rfl fun found hmatches => ?_
  cases found with
  | none => exact reaches_pure rfl
  | some seat =>
      have hid : seat.id = s := (hmatches seat rfl).1 s rfl
      show Guarded cfg _ _ (if _ then _ else _) _
      split
      · exact reaches_pure rfl
      · rename_i hst
        refine guarded_bind rfl rfl fun now => ?_
        split
        · exact reaches_pure rfl
        · have hguard : (Action.release seat).guard? = some (.seatLock s) :=
            congrArg (fun s => some (LockKey.seatLock s)) hid
          refine guarded_write (a := .release seat) hguard ⟨rfl, not_not.mp hst⟩ fun released => ?_
          show Guarded cfg _ _ (if _ then _ else _) _
          split
          · exact guarded_all (unseen_afterRelease seat) rfl
          · exact reaches_pure rfl

lemma obeysLock_releaseSeat (s : SeatId) :
    lockMonitor.Obeys (skyHigh cfg) none (HoldExpiryService.releaseSeat s) :=
  obeys_andThen trivial (guarded_releaseSeatWithinLock s)

lemma obeysLock_handleHoldExpired (s : SeatId) :
    lockMonitor.Obeys (skyHigh cfg) none (HoldExpiryService.handleHoldExpired s) :=
  Prog.wp_map (f := fun _ => ()) (obeysLock_releaseSeat s)

lemma obeysLock_sweepExpiredHolds :
    lockMonitor.Obeys (skyHigh cfg) none HoldExpiryService.sweepExpiredHolds := by
  refine Obeys.bind_neutral rfl (lockless_neutral (lockless_act rfl)) fun now => ?_
  refine Obeys.bind_neutral rfl (lockless_neutral (lockless_act (a := .findStaleSeats _) rfl))
    fun seats => ?_
  refine Prog.wp_forEach (F := fun g => g = none) (fun seat _ g hg => ?_) rfl
  rw [hg]
  exact obeysLock_handleHoldExpired seat.id

lemma guarded_processWaitlistWithinLock (f : FlightId) (s : Option SeatId) :
    Guarded cfg (LockState.Under (.waitlistLock f)) (some (.waitlistLock f, none))
      (WaitlistService.processWaitlistWithinLock f s)
      fun _ => LockState.Under (.waitlistLock f) := by
  refine guarded_bind rfl rfl fun next => ?_
  cases next with
  | none => exact reaches_pure rfl
  | some entry =>
      refine guarded_findOneSeat rfl fun found hmatches => ?_
      cases found with
      | none => exact reaches_pure rfl
      | some seat =>
          obtain ⟨-, hflight, hst⟩ := hmatches seat rfl
          refine guarded_bind rfl rfl fun heldAt => ?_
          refine guarded_write (a := .assign entry seat f heldAt) rfl
            ⟨rfl, hst _ rfl, hflight f rfl⟩ fun assigned => ?_
          show Guarded cfg _ _ (if _ then _ else _) _
          split
          · refine guarded_bind rfl rfl fun _ => ?_
            refine guarded_bind rfl rfl fun _ => ?_
            exact guarded_act rfl rfl
          · exact reaches_pure rfl

lemma obeysLock_processWaitlist (f : FlightId) (s : Option SeatId) :
    lockMonitor.Obeys (skyHigh cfg) none (WaitlistService.processWaitlist f s) :=
  obeys_andThen trivial (guarded_processWaitlistWithinLock f s)

/-- **Every call obeys the monitor.** -/
theorem obeys_lockMonitor (call : Call) :
    lockMonitor.Obeys (skyHigh cfg) none ((skyHigh cfg).start call) := by
  have hlockless : ∀ {α : Type} {p : Program α} {reply : α → Reply}, Lockless p →
      lockMonitor.Obeys (skyHigh cfg) none (reply <$> p) :=
    fun hp => Prog.wp_map (Obeys.of_neutral rfl (lockless_neutral hp))
  cases call with
  | startCheckIn p dto => exact Prog.wp_map (obeysLock_startCheckIn p dto)
  | confirmCheckIn i p dto => exact hlockless (CheckInService.lockless_confirmCheckIn i p dto)
  | cancelCheckIn i p => exact hlockless (CheckInService.lockless_cancelCheckIn i p)
  | handleHoldExpired s => exact Prog.wp_map (obeysLock_handleHoldExpired s)
  | releaseSeat s => exact Prog.wp_map (obeysLock_releaseSeat s)
  | sweepExpiredHolds => exact Prog.wp_map obeysLock_sweepExpiredHolds
  | processWaitlist f s => exact Prog.wp_map (obeysLock_processWaitlist f s)
  | joinWaitlist p f => exact hlockless (WaitlistService.lockless_joinWaitlist p f)
  | leaveWaitlist i p => exact hlockless (WaitlistService.lockless_leaveWaitlist i p)
  | getSeatMap f => exact hlockless (SeatService.lockless_getSeatMap f)

end Walks

/-! ## The locks of a run -/

/-- The lock state of each call after the transitions `ts`. -/
def lockStates (cfg : Settings) (ts : List SkyTransition) : ℕ → LockState :=
  lockMonitor.states (skyHigh cfg) (fun _ => none) ts

lemma run_lockStates (h : (skyHigh cfg).Run (.init w) ts c) :
    lockMonitor.Tracked (skyHigh cfg) c (lockStates cfg ts) :=
  Monitor.run_tracked h (Monitor.Tracked.init w) fun _ _ call _ => obeys_lockMonitor call

/-- The lock of a call after an action. -/
lemma LockState.map_next (g : LockState) (a : Action) (r : Except AppException a.Res) :
    (g.next a r).map Prod.fst = match a.lockOp, r.isOk with
      | .acquire key, true => some key
      | .release _, _ => none
      | _, _ => g.map Prod.fst := by
  cases a with
  | acquireLock => cases r <;> rfl
  | releaseLock => cases r <;> rfl
  | findOneSeat q =>
      cases r with
      | error e => rfl
      | ok found => cases found <;> cases g <;> rfl
  | holdSeat | release | assign => cases g <;> rfl
  | _ => rfl

/-- **The monitor and the leases agree** on who is under which lock. -/
lemma run_sections (h : (skyHigh cfg).Run (.init w) ts c) (k : ℕ) :
    ((redlock cfg).sections ts k).map Prod.fst = (lockStates cfg ts k).map Prod.fst := by
  induction h with
  | nil => rfl
  | @snoc ts c l c' hrun hstep ih =>
      have htracked := run_lockStates hrun
      rw [Locking.sections_concat, lockStates, Monitor.states_concat]
      rcases (skyHigh cfg).step_cases hstep with ⟨call, rfl, rfl⟩ | ⟨ms, rfl, rfl⟩ |
        ⟨i, ch, call, a, cont, rfl, hi, rfl⟩
      · rw [Monitor.advance_invoke]
        by_cases hk : k = c.threads.length
        · have hidle : lockStates cfg ts k = none :=
            htracked.idle k (List.getElem?_eq_none (Nat.le_of_eq hk.symm))
          rw [hk, Function.update_self, ← hk]
          exact ih.trans (congrArg _ hidle)
        · rw [Function.update_of_ne hk]
          exact ih
      · exact ih
      · rw [Monitor.advance_act hi, Locking.enter, Locking.operation?_act hi]
        have hop : (redlock cfg).op a = a.lockOp := rfl
        have hnext := LockState.map_next (lockStates cfg ts i) a
          ((skyHigh cfg).exec a ch c.state).1
        rw [hop]
        by_cases hk : k = i
        · subst hk
          rw [Function.update_self]
          refine Eq.trans ?_ hnext.symm
          cases a.lockOp with
          | other => exact ih
          | acquire key =>
              cases ((skyHigh cfg).exec a ch c.state).1.isOk with
              | false => exact ih
              | true => simp only [Function.update_self, Option.map_some]
          | release key => simp only [Function.update_self, Option.map_none]
        · rw [Function.update_of_ne hk]
          cases a.lockOp with
          | other => exact ih
          | acquire key =>
              cases ((skyHigh cfg).exec a ch c.state).1.isOk with
              | false => exact ih
              | true =>
                  simp only [Function.update_of_ne hk]
                  exact ih
          | release key =>
              simp only [Function.update_of_ne hk]
              exact ih

section Sections

variable {k : ℕ} {call : Call} {a : Action} {cont : Except AppException a.Res → Program Reply}

/-- The next action of a call is one that the monitor allows. -/
lemma run_allows (h : (skyHigh cfg).Run (.init w) ts c)
    (hk : c.threads[k]? = some ⟨call, .act a cont⟩) : (lockStates cfg ts k).Allows a :=
  ((run_lockStates h).act hk {}).1

/-- A call that is about to make a guarded write is in the section of its guard. -/
lemma section_of_guard (h : (skyHigh cfg).Run (.init w) ts c)
    (hk : c.threads[k]? = some ⟨call, .act a cont⟩) {key : LockKey} (hguard : a.guard? = some key) :
    ∃ since, (redlock cfg).sections ts k = some (key, since) := by
  obtain ⟨seat, hstate, -⟩ := (run_allows h hk).write key hguard
  have hsections := run_sections h k
  rw [hstate, Option.map_some, Option.map_eq_some_iff] at hsections
  obtain ⟨⟨key', since⟩, hsection, rfl⟩ := hsections
  exact ⟨since, hsection⟩

end Sections

end SkyHighCore
