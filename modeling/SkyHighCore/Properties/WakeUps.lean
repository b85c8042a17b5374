import SkyHighCore.Framework.Monitor
import SkyHighCore.Properties.Contracts

/-!
# Wake-up calls for the waitlist

A cancellation emits an event that asks the waitlist to assign any seat of the flight, and an
expiry release one that asks for the seat that has been released.  `WakeUp` is what such an event
asks for.  A call owes a wake-up from the commit of its transaction to its `emit`; a handler has one
to settle until it has found nobody waiting or no seat, or has performed its assignment.
`wakeUpMonitor` follows a call through these stages.
-/

namespace SkyHighCore

open Framework

/-! ## Wake-ups -/

/-- The flight of a wake-up, and the seat that it names, if it names one. -/
abbrev WakeUp := FlightId × Option SeatId

/-- The wake-up that is owed once the action has been committed. -/
def Action.wakeUp? : Action → Option WakeUp
  | .cancel checkIn _ _ => some (checkIn.flightId, none)
  | .release seat => some (seat.flightId, some seat.id)
  | _ => none

/-- The wake-up that the action announces. -/
def Action.announced? : Action → Option WakeUp
  | .emit (.waitlistProcess flightId seatId) => some (flightId, seatId)
  | _ => none

/-- A handler finds nobody waiting, finds no seat, or performs its assignment. -/
def Action.settles : (a : Action) → Except AppException a.Res → Bool
  | .findOneWaitlist q, .ok none => q.status = some .waiting
  | .findOneSeat q, .ok none => q.status = some .available
  | .assign .., _ => true
  | _, _ => false

/-- The wake-up that the call handles. -/
def Call.handled? : Call → Option WakeUp
  | .processWaitlist flightId seatId => some (flightId, seatId)
  | _ => none

lemma Call.eq_of_handled {call : Call} {u : WakeUp} (h : call.handled? = some u) :
    call = .processWaitlist u.1 u.2 := by
  cases call with
  | processWaitlist f s =>
      obtain rfl := Option.some_inj.mp h
      rfl
  | _ => cases h

/-! ## The stages of a call -/

/-- How far a call has come. -/
inductive Stage where
  /-- It owes nothing. -/
  | free
  /-- It has freed a seat, and has not announced it. -/
  | owing (u : WakeUp)
  /-- It is a handler without its lock. -/
  | called (u : WakeUp)
  /-- It has the lock. -/
  | locked (u : WakeUp)
  /-- It has read the head of the queue. -/
  | queued (u : WakeUp) (entry : Waitlist)
  /-- It has found a seat for the head. -/
  | found (u : WakeUp) (entry : Waitlist) (seat : Seat)
  /-- It has settled its wake-up, and has to release the lock. -/
  | leaving (u : WakeUp)
  /-- One of its actions has failed. -/
  | failed

namespace Stage

/-- The wake-up that is not settled yet. -/
def pending? : Stage → Option WakeUp
  | .owing u | .called u | .locked u | .queued u _ | .found u _ _ => some u
  | _ => none

/-- The wake-up of a handler that has its lock. -/
def inside? : Stage → Option WakeUp
  | .locked u | .queued u _ | .found u _ _ | .leaving u => some u
  | _ => none

/-- The wake-up of a handler that has found somebody to serve, and the entry. -/
def head? : Stage → Option (WakeUp × Waitlist)
  | .queued u e | .found u e _ => some (u, e)
  | _ => none

/-- The wake-up of a handler. -/
def serving? : Stage → Option WakeUp
  | .called u | .locked u | .queued u _ | .found u _ _ | .leaving u => some u
  | _ => none

end Stage

/-- Actions that neither free nor assign seats, do not announce a wake-up, and do not touch a lock
of a waitlist.  Without a fault they succeed. -/
def Action.plain : Action → Bool
  | .findOneFlight _ | .findOneCheckIn _ | .saveWaitlist _ | .setSeatHold .. | .delSeatHold _
  | .delSeatMapCache _ | .dateNow | .emit (.waitlistNotification ..) | .acquireLock (.seatLock _)
  | .releaseLock (.seatLock _) => true
  | .findOneSeat q => q.status ≠ some .available
  | .findOneWaitlist q => q.status ≠ some .waiting
  | _ => false

/-- What a call does in a stage. -/
def Stage.Allows : Stage → Action → Prop
  | .free, a => a.plain = true ∨ a.wakeUp? ≠ none
  | .owing u, a => a.plain = true ∨ a = .emit (.waitlistProcess u.1 u.2)
  | .called u, a => a = .acquireLock (.waitlistLock u.1)
  | .locked u, a => a = .findOneWaitlist { flightId := some u.1, status := some .waiting }
  | .queued u _, a => a = .findOneSeat (WaitlistService.availableSeatWhere u.1 u.2)
  | .found u e s, a => a = .dateNow ∨ ∃ t, a = .assign e s u.1 t
  | .leaving u, a => a.plain = true ∨ a = .releaseLock (.waitlistLock u.1)
  | .failed, a => a.plain = true ∨ ∃ f, a = .releaseLock (.waitlistLock f)

/-- The stage after an action that has returned. -/
def Stage.after (g : Stage) (a : Action) (v : a.Res) : Stage :=
  match g with
  | .free => match a, v with
    | .cancel checkIn _ _, _ => .owing (checkIn.flightId, none)
    | .release seat, affected => bif affected then .owing (seat.flightId, some seat.id) else .free
    | _, _ => .free
  | .owing u => match a with
    | .emit (.waitlistProcess ..) => .free
    | _ => .owing u
  | .called u => .locked u
  | .locked u => match a, v with
    | .findOneWaitlist _, some entry => .queued u entry
    | _, _ => .leaving u
  | .queued u entry => match a, v with
    | .findOneSeat _, some seat => .found u entry seat
    | _, _ => .leaving u
  | .found u entry seat => match a with
    | .assign .. => .leaving u
    | _ => .found u entry seat
  | .leaving u => match a with
    | .releaseLock (.waitlistLock _) => .free
    | _ => .leaving u
  | .failed => .failed

/-- The stages of a call. -/
def wakeUpMonitor : Monitor Action Action.Res AppException Stage where
  start := .free
  allows := Stage.Allows
  next g a r := match r with
    | .ok v => g.after a v
    | .error _ => .failed
  final g := g = .free ∨ g = .failed

/-- The stage in which a call is issued. -/
def Call.stage (call : Call) : Stage :=
  match call.handled? with
  | some u => .called u
  | none => .free

/-! ## Stages -/

namespace Stage

/-- The stages in which plain actions are allowed. -/
def Calm (g : Stage) : Prop := g = .free ∨ g = .failed ∨ ∃ u, g = .owing u ∨ g = .leaving u

variable {g : Stage} {a : Action} {u : WakeUp}

lemma Calm.allows (hg : g.Calm) (ha : a.plain = true) : g.Allows a := by
  rcases hg with rfl | rfl | ⟨u, rfl | rfl⟩ <;> exact .inl ha

lemma Calm.after (hg : g.Calm) (ha : a.plain = true) (v : a.Res) :
    g.after a v = g := by
  rcases hg with rfl | rfl | ⟨u, rfl | rfl⟩
  · cases a with
    | cancel | release => cases ha
    | _ => rfl
  · rfl
  · cases a with
    | emit event =>
        cases event with
        | waitlistProcess => cases ha
        | waitlistNotification => rfl
    | _ => rfl
  · cases a with
    | releaseLock resource =>
        cases resource with
        | seatLock => rfl
        | waitlistLock => cases ha
    | _ => rfl

lemma calm_free : Calm .free := .inl rfl
lemma calm_failed : Calm .failed := .inr (.inl rfl)
lemma calm_owing (u : WakeUp) : Calm (.owing u) := .inr (.inr ⟨u, .inl rfl⟩)
lemma calm_leaving (u : WakeUp) : Calm (.leaving u) := .inr (.inr ⟨u, .inr rfl⟩)

/-- A call with the lock has had it before, or has just acquired it. -/
lemma inside_after (hallows : g.Allows a) (v : a.Res) (h : (g.after a v).inside? = some u) :
    (g.inside? = some u ∧ a ≠ .releaseLock (.waitlistLock u.1)) ∨
      a = .acquireLock (.waitlistLock u.1) := by
  cases g with
  | free =>
      cases a with
      | release seat => cases v <;> cases h
      | _ => cases h
  | owing u' =>
      cases a with
      | emit event => cases event <;> cases h
      | _ => cases h
  | called u' =>
      obtain rfl : a = _ := hallows
      obtain rfl : u' = u := Option.some_inj.mp h
      exact .inr rfl
  | locked u' | queued u' e =>
      obtain rfl : a = _ := hallows
      cases v <;> exact .inl ⟨h, nofun⟩
  | found u' e s =>
      rcases hallows with rfl | ⟨t, rfl⟩ <;> exact .inl ⟨h, nofun⟩
  | leaving u' =>
      rcases hallows with hplain | rfl
      · rw [(calm_leaving u').after hplain v] at h
        refine .inl ⟨h, ?_⟩
        rintro rfl
        cases hplain
      · cases h
  | failed => cases h

/-- Whoever serves somebody has its lock. -/
lemma inside_of_head {e : Waitlist} (h : g.head? = some (u, e)) : g.inside? = some u := by
  cases g with
  | queued | found => exact congrArg (Option.map Prod.fst) h
  | _ => cases h

lemma head_of_stage (call : Call) : call.stage.head? = none := by
  unfold Call.stage
  split <;> rfl

/-- Only cancellations, expiry releases and assignments write to the bookings. -/
lemma wakes_or_found (hallows : g.Allows a) {r : Except AppException a.Res}
    (hc : a.committed r = true) :
    a.wakeUp? ≠ none ∨ ∃ u e s t, g = .found u e s ∧ a = .assign e s u.1 t := by
  have hplain : a.plain = true → False := fun ha => by
    cases a with
    | holdSeat | awaitPayment | complete | cancel | release | assign => cases ha
    | _ => cases hc
  cases g with
  | free =>
      rcases hallows with ha | hwake
      · exact (hplain ha).elim
      · exact .inl hwake
  | owing u' =>
      rcases hallows with ha | rfl
      · exact (hplain ha).elim
      · cases hc
  | called u' | locked u' | queued u' e =>
      obtain rfl : a = _ := hallows
      cases hc
  | found u' e s =>
      rcases hallows with rfl | ⟨t, rfl⟩
      · cases hc
      · exact .inr ⟨u', e, s, t, rfl, rfl⟩
  | leaving u' =>
      rcases hallows with ha | rfl
      · exact (hplain ha).elim
      · cases hc
  | failed =>
      rcases hallows with ha | ⟨f, rfl⟩
      · exact (hplain ha).elim
      · cases hc

/-- A handler does not change its wake-up. -/
lemma serving_after (hallows : g.Allows a) (v : a.Res) (h : (g.after a v).serving? = some u) :
    g.serving? = some u := by
  cases g with
  | free =>
      cases a with
      | release seat => cases v <;> cases h
      | _ => cases h
  | owing u' =>
      cases a with
      | emit event => cases event <;> cases h
      | _ => cases h
  | called u' => exact h
  | locked u' | queued u' e =>
      obtain rfl : a = _ := hallows
      cases v <;> exact h
  | found u' e s => rcases hallows with rfl | ⟨t, rfl⟩ <;> exact h
  | leaving u' =>
      rcases hallows with hplain | rfl
      · rwa [(calm_leaving u').after hplain v] at h
      · cases h
  | failed => cases h

/-- A plain action neither asks for a wake-up, nor announces or settles one. -/
lemma silent_of_plain (h : a.plain = true) (r : Except AppException a.Res) :
    a.wakeUp? = none ∧ a.announced? = none ∧ a.settles r = false := by
  cases a with
  | emit event =>
      cases event with
      | waitlistProcess => cases h
      | waitlistNotification => exact ⟨rfl, rfl, rfl⟩
  | findOneSeat q =>
      have hq : q.status ≠ some .available := of_decide_eq_true h
      refine ⟨rfl, rfl, ?_⟩
      rcases r with e | _ | seat
      · rfl
      · exact decide_eq_false hq
      · rfl
  | findOneWaitlist q =>
      have hq : q.status ≠ some .waiting := of_decide_eq_true h
      refine ⟨rfl, rfl, ?_⟩
      rcases r with e | _ | entry
      · rfl
      · exact decide_eq_false hq
      · rfl
  | cancel | release | assign => cases h
  | _ => exact ⟨rfl, rfl, rfl⟩

/-- What is settled is settled by a handler with its lock. -/
lemma inside_of_settles (hallows : g.Allows a) {r : Except AppException a.Res}
    (h : a.settles r = true) : g.inside? ≠ none := by
  have hplain : a.plain = true → False := fun ha => by
    rw [(silent_of_plain ha r).2.2] at h
    cases h
  cases g with
  | locked | queued | found | leaving => exact Option.some_ne_none _
  | free =>
      rcases hallows with ha | hwake
      · exact (hplain ha).elim
      · cases a with
        | cancel | release => cases h
        | _ => exact absurd rfl hwake
  | owing u' =>
      rcases hallows with ha | rfl
      · exact (hplain ha).elim
      · cases h
  | called u' =>
      obtain rfl : a = _ := hallows
      cases h
  | failed =>
      rcases hallows with ha | ⟨f, rfl⟩
      · exact (hplain ha).elim
      · cases h

lemma serving_of_inside (h : g.inside? = some u) : g.serving? = some u := by
  cases g with
  | locked | queued | found | leaving => exact h
  | _ => cases h

/-- What a stage counts for wake-up `u`. -/
def pends (u : WakeUp) (g : Stage) : ℕ := if g.pending? = some u then 1 else 0

/-- A plain action leaves the balance alone. -/
lemma balance_plain (ha : a.plain = true) (hg : g.Calm) (v : a.Res) (u : WakeUp) :
    pends u (g.after a v) + (if a.announced? = some u then 1 else 0) +
        (if a.settles (.ok v) = true ∧ g.serving? = some u then 1 else 0) =
      pends u g + if a.committed (.ok v) = true ∧ a.wakeUp? = some u then 1 else 0 := by
  obtain ⟨hwake, hannounced, hsettles⟩ := silent_of_plain ha (.ok v)
  simp [hg.after ha v, hwake, hannounced, hsettles]

/-- A call that returns from an action has pending what it had before and what the action asks for,
but for what it has announced or settled. -/
lemma balance (hallows : g.Allows a) (v : a.Res) (u : WakeUp) :
    pends u (g.after a v) + (if a.announced? = some u then 1 else 0) +
        (if a.settles (.ok v) = true ∧ g.serving? = some u then 1 else 0) =
      pends u g + if a.committed (.ok v) = true ∧ a.wakeUp? = some u then 1 else 0 := by
  cases g with
  | free =>
      rcases hallows with ha | hwake
      · exact balance_plain ha calm_free v u
      · cases a with
        | cancel checkIn i p =>
            simp [after, pends, pending?, Action.announced?, Action.settles, Action.wakeUp?,
              Action.committed]
        | release seat =>
            cases v <;> simp [after, pends, pending?, Action.announced?, Action.settles,
              Action.wakeUp?, Action.committed]
        | _ => exact absurd rfl hwake
  | owing u' =>
      rcases hallows with ha | rfl
      · exact balance_plain ha (calm_owing u') v u
      · simp [after, pends, pending?, Action.announced?, Action.settles, Action.wakeUp?]
  | called u' =>
      obtain rfl : a = _ := hallows
      simp [after, pends, pending?, Action.announced?, Action.settles, Action.wakeUp?]
  | locked u' =>
      obtain rfl : a = _ := hallows
      cases v <;> simp [after, pends, pending?, serving?, Action.announced?, Action.settles,
        Action.wakeUp?]
  | queued u' e =>
      obtain rfl : a = _ := hallows
      cases v <;> simp [after, pends, pending?, serving?, Action.announced?, Action.settles,
        Action.wakeUp?, WaitlistService.availableSeatWhere]
  | found u' e s =>
      rcases hallows with rfl | ⟨t, rfl⟩ <;>
        simp [after, pends, pending?, serving?, Action.announced?, Action.settles, Action.wakeUp?]
  | leaving u' =>
      rcases hallows with ha | rfl
      · exact balance_plain ha (calm_leaving u') v u
      · simp [after, pends, pending?, Action.announced?, Action.settles, Action.wakeUp?]
  | failed =>
      rcases hallows with ha | ⟨f, rfl⟩
      · exact balance_plain ha calm_failed v u
      · simp [after, pends, pending?, Action.announced?, Action.settles, Action.wakeUp?]

end Stage

/-! ## Every call keeps to its stages -/

section Walks

open Monitor Stage

variable (cfg : Settings)

/-- From stage `g` on, the program keeps to the stages, returns as `Q` says, and throws in a stage
of `E` only. -/
abbrev Staged (E : Stage → Prop) {α : Type} (g : Stage) (p : Program α) (Q : α → Stage → Prop) :
    Prop :=
  wakeUpMonitor.Reaches (skyHigh cfg) E g p Q

variable {cfg} {E : Stage → Prop} {g : Stage} {α : Type}

/-- A plain action leaves its call in its stage, or fails. -/
lemma staged_plain {a : Action} (hg : g.Calm) (ha : a.plain = true) (hE : E .failed) :
    Staged cfg E g (act a) fun _ g' => g' = g :=
  reaches_perform (hg.allows ha) (fun _ => hE) fun v => hg.after ha v

/-- A plain action before another program. -/
lemma staged_bind {a : Action} {k : a.Res → Program α} {Q : α → Stage → Prop} (hg : g.Calm)
    (ha : a.plain = true) (hE : E .failed) (hk : ∀ v, Staged cfg E g (k v) Q) :
    Staged cfg E g (act a >>= k) Q :=
  (staged_plain hg ha hE).bind fun v _ hg' => hg'.symm ▸ hk v

/-- The stages in which a call may end. -/
abbrev Stage.Over (g : Stage) : Prop := g = .free ∨ g = .failed

/-- Announcing the wake-up that is owed. -/
lemma staged_emit {u : WakeUp} : Staged cfg Stage.Over (.owing u) (emit (.waitlistProcess u.1 u.2))
    fun _ g' => g' = .free :=
  reaches_perform (.inr rfl) (fun _ => .inr rfl) fun _ => rfl

lemma staged_dropHold (hg : g.Calm) (c : CheckIn) :
    Staged cfg Stage.Over g (CheckInService.dropHold c) fun _ g' => g' = g := by
  unfold CheckInService.dropHold
  split
  · exact reaches_pure rfl
  · exact staged_bind hg rfl (.inr rfl) fun _ => staged_plain hg rfl (.inr rfl)

lemma obeys_cancelCheckIn (i : CheckInId) (p : PassengerId) :
    wakeUpMonitor.Obeys (skyHigh cfg) .free (CheckInService.cancelCheckIn i p) := by
  refine Reaches.obeys (E := Stage.Over) ?_ fun _ h => h
  have hread : Staged cfg Stage.Over .free (CheckInService.findCheckInOrThrow i p)
      fun _ g' => g' = .free := by
    refine staged_bind calm_free rfl (.inr rfl) fun found => ?_
    cases found with
    | none => exact reaches_throw (.inl rfl)
    | some checkIn => exact reaches_pure rfl
  refine hread.bind fun checkIn g' hg' => ?_
  subst hg'
  refine staged_bind calm_free rfl (.inr rfl) fun flight => ?_
  refine (reaches_throwWhen (.inl rfl)).bind fun _ g' hg' => ?_
  subst hg'
  refine staged_bind calm_free rfl (.inr rfl) fun cancelledAt => ?_
  have hcancel : Staged cfg Stage.Over .free (CheckInService.cancel checkIn i p)
      fun _ g' => g' = .owing (checkIn.flightId, none) :=
    reaches_perform (.inr (by simp [Action.wakeUp?])) (fun _ => .inr rfl) fun _ => rfl
  refine hcancel.bind fun _ g' hg' => ?_
  subst hg'
  refine (staged_dropHold (calm_owing _) checkIn).bind fun _ g' hg' => ?_
  subst hg'
  exact staged_emit.bind fun _ g' hg' => reaches_pure (.inl hg')

lemma staged_afterRelease (seat : Seat) :
    Staged cfg Stage.Over (.owing (seat.flightId, some seat.id))
      (HoldExpiryService.afterRelease seat) fun _ g' => g' = .free := by
  have hcalm := calm_owing (seat.flightId, some seat.id)
  have hmark : Staged cfg Stage.Over (.owing (seat.flightId, some seat.id))
      (HoldExpiryService.markWaitlistEntryExpired seat.flightId seat.heldBy)
      fun _ g' => g' = .owing (seat.flightId, some seat.id) := by
    unfold HoldExpiryService.markWaitlistEntryExpired
    split
    · exact reaches_pure rfl
    · refine staged_bind hcalm rfl (.inr rfl) fun entry => ?_
      cases entry with
      | none => exact reaches_pure rfl
      | some entry => exact staged_plain hcalm rfl (.inr rfl)
  refine hmark.bind fun _ g' hg' => ?_
  subst hg'
  refine staged_bind hcalm rfl (.inr rfl) fun _ => ?_
  exact staged_emit.bind fun _ g' hg' => reaches_pure hg'

lemma staged_releaseSeatWithinLock (s : SeatId) :
    Staged cfg Stage.Over .free (HoldExpiryService.releaseSeatWithinLock s)
      fun _ g' => g'.Over := by
  refine staged_bind calm_free rfl (.inr rfl) fun found => ?_
  cases found with
  | none => exact reaches_pure (.inl rfl)
  | some seat =>
      show Staged cfg Stage.Over .free (if _ then _ else _) _
      split
      · exact reaches_pure (.inl rfl)
      · refine staged_bind calm_free rfl (.inr rfl) fun now => ?_
        show Staged cfg Stage.Over .free (if _ then _ else _) _
        split
        · exact reaches_pure (.inl rfl)
        · have hrelease : Staged cfg Stage.Over .free (HoldExpiryService.release seat)
              fun affected g' =>
                g' = bif affected then .owing (seat.flightId, some seat.id) else .free :=
            reaches_perform (.inr (by simp [Action.wakeUp?])) (fun _ => .inr rfl) fun _ => rfl
          refine hrelease.bind fun affected g' hg' => ?_
          subst hg'
          cases affected with
          | false => exact reaches_pure (.inl rfl)
          | true => exact (staged_afterRelease seat).mono fun _ _ hg' => .inl hg'

lemma obeys_plain {a : Action} (ha : a.plain = true) (hg : g.Over) :
    wakeUpMonitor.Obeys (skyHigh cfg) g (act a) := by
  have hcalm : g.Calm := by
    rcases hg with rfl | rfl
    · exact calm_free
    · exact calm_failed
  have hplain : Staged cfg Stage.Over g (act a) fun _ g' => g'.Over :=
    (staged_plain hcalm ha (.inr rfl)).mono fun _ _ hg' => hg'.symm ▸ hg
  exact hplain.obeys fun _ h => h

lemma obeys_releaseSeat (s : SeatId) :
    wakeUpMonitor.Obeys (skyHigh cfg) .free (HoldExpiryService.releaseSeat s) := by
  refine (Prog.wp_andThen _ _ _ _).mpr (Prog.wp_mono (fun r g' hr => ?_)
    (staged_plain (a := .acquireLock (.seatLock s)) (E := fun g' => g' = .failed) calm_free rfl
      rfl))
  cases r with
  | error _ => exact .inr hr
  | ok _ =>
      subst hr
      exact obeys_tryFinally (F := Stage.Over) (staged_releaseSeatWithinLock s)
        fun g' hg' => obeys_plain rfl hg'

/-- The stages in which a handler may release its lock. -/
abbrev Stage.Leaving (u : WakeUp) (g : Stage) : Prop := g = .leaving u ∨ g = .failed

lemma staged_assignSeatToWaitlistPassenger {u : WakeUp} (e : Waitlist) (seat : Seat) :
    Staged cfg (Stage.Leaving u) (.found u e seat)
      (WaitlistService.assignSeatToWaitlistPassenger e seat u.1) fun _ g' => g'.Leaving u := by
  have hclock : Staged cfg (Stage.Leaving u) (.found u e seat) dateNow
      fun _ g' => g' = .found u e seat :=
    reaches_perform (.inl rfl) (fun _ => .inr rfl) fun _ => rfl
  refine hclock.bind fun heldAt g' hg' => ?_
  subst hg'
  have hassign : Staged cfg (Stage.Leaving u) (.found u e seat)
      (WaitlistService.assign e seat u.1 heldAt) fun _ g' => g' = .leaving u :=
    reaches_perform (.inr ⟨heldAt, rfl⟩) (fun _ => .inr rfl) fun _ => rfl
  refine hassign.bind fun assigned g' hg' => ?_
  subst hg'
  have hcalm := calm_leaving u
  show Staged cfg (Stage.Leaving u) (.leaving u) (if _ then _ else _) _
  split
  · refine staged_bind hcalm rfl (.inr rfl) fun _ => ?_
    refine staged_bind hcalm rfl (.inr rfl) fun _ => ?_
    exact (staged_plain hcalm rfl (.inr rfl)).mono fun _ _ hg' => .inl hg'
  · exact reaches_pure (.inl rfl)

lemma staged_processWaitlistWithinLock (u : WakeUp) :
    Staged cfg (Stage.Leaving u) (.locked u)
      (WaitlistService.processWaitlistWithinLock u.1 u.2) fun _ g' => g'.Leaving u := by
  have hhead : Staged cfg (Stage.Leaving u) (.locked u)
      (findOneWaitlist { flightId := some u.1, status := some .waiting })
      fun next g' => g' = next.elim (.leaving u) (.queued u) := by
    refine reaches_perform rfl (fun _ => .inr rfl) fun next => ?_
    cases next with
    | none => rfl
    | some entry => rfl
  refine hhead.bind fun next g' hg' => ?_
  subst hg'
  cases next with
  | none => exact reaches_pure (.inl rfl)
  | some entry =>
      have hseat : Staged cfg (Stage.Leaving u) (.queued u entry)
          (findOneSeat (WaitlistService.availableSeatWhere u.1 u.2))
          fun found g' => g' = found.elim (.leaving u) (.found u entry) := by
        refine reaches_perform rfl (fun _ => .inr rfl) fun found => ?_
        cases found with
        | none => rfl
        | some seat => rfl
      refine hseat.bind fun found g' hg' => ?_
      subst hg'
      cases found with
      | none => exact reaches_pure (.inl rfl)
      | some seat => exact staged_assignSeatToWaitlistPassenger entry seat

lemma obeys_processWaitlist (u : WakeUp) :
    wakeUpMonitor.Obeys (skyHigh cfg) (.called u) (WaitlistService.processWaitlist u.1 u.2) := by
  have hlock : Staged cfg (fun g' => g' = .failed) (.called u) (acquireLock (.waitlistLock u.1))
      fun _ g' => g' = .locked u :=
    reaches_perform rfl (fun _ => rfl) fun _ => rfl
  refine (Prog.wp_andThen _ _ _ _).mpr (Prog.wp_mono (fun r g' hr => ?_) hlock)
  cases r with
  | error _ => exact .inr hr
  | ok _ =>
      subst hr
      refine obeys_tryFinally (staged_processWaitlistWithinLock u) fun g' hg' => ?_
      have hallows : g'.Allows (.releaseLock (.waitlistLock u.1)) := by
        rcases hg' with rfl | rfl
        · exact .inr rfl
        · exact .inr ⟨u.1, rfl⟩
      have hrelease : Staged cfg Stage.Over g' (releaseLock (.waitlistLock u.1))
          fun _ g'' => g''.Over := by
        refine reaches_perform hallows (fun _ => .inr rfl) fun _ => ?_
        rcases hg' with rfl | rfl
        · exact .inl rfl
        · exact .inr rfl
      exact hrelease.obeys fun _ h => h

/-- The calls that free seats of flights with a waitlist, and the handlers of their events. -/
def Call.wakes : Call → Bool
  | .cancelCheckIn .. | .releaseSeat _ | .processWaitlist .. => true
  | _ => false

/-- **Such a call keeps to its stages.** -/
theorem obeys_wakeUpMonitor {call : Call} (h : call.wakes = true) :
    wakeUpMonitor.Obeys (skyHigh cfg) call.stage ((skyHigh cfg).start call) := by
  cases call with
  | cancelCheckIn i p => exact Prog.wp_map (obeys_cancelCheckIn i p)
  | releaseSeat s => exact Prog.wp_map (obeys_releaseSeat s)
  | processWaitlist f s => exact Prog.wp_map (obeys_processWaitlist (f, s))
  | _ => cases h

end Walks

end SkyHighCore
