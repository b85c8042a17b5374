import SkyHighCore.Properties.Entries
import SkyHighCore.Properties.Runs

/-!
# Warrants

A second contract of the calls, on top of the first.  Besides `Action.Pre`, every action meets its
`Action.Warrant`, and it stays on the flight that its call is addressed to (`Action.Local`).  A call
may rely on `World.Advances`: progress, and a waitlist whose entries keep their identity.

The flight of a call on a check-in, a seat or an entry is that of the row, which the call has to
read first.  A stretch of a call that knows its flight is `Action.Within` it, and meets the contract
by one rule (`meets_within`); only the reads and the writes that rest on them are walked through.
-/

namespace SkyHighCore

open Framework

/-! ## The flight of a call -/

/-- The flight that a call is addressed to: the one it names, or that of the check-in, the seat or
the entry it names.  A sweep is not addressed to a flight. -/
def Call.AddressedTo (f : FlightId) (w : World) : Call → Prop
  | .startCheckIn _ dto => dto.flightId = f
  | .confirmCheckIn i _ _ | .cancelCheckIn i _ =>
      ∃ c, w.db.bookings.checkIn i = some c ∧ c.flightId = f
  | .handleHoldExpired s | .releaseSeat s => w.db.bookings.SeatOn s f
  | .sweepExpiredHolds => False
  | .processWaitlist flightId _ | .joinWaitlist _ flightId | .getSeatMap flightId => flightId = f
  | .leaveWaitlist i _ => ∃ e, w.db.queue i = some e ∧ e.flightId = f

/-- What the action writes to belongs to flight `f`, as far as the call knows. -/
def Action.Local (f : FlightId) : Action → World → Prop
  | .holdSeat _ flightId _ _, _ | .assign _ _ flightId _, _ => flightId = f
  | .awaitPayment checkIn _ _, _ | .complete checkIn _ _, _ | .cancel checkIn _ _, _ =>
      checkIn.flightId = f
  | .release seat, _ => seat.flightId = f
  | .saveWaitlist entry, _ => entry.flightId = f
  | .insertWaitlist flightId _ _, _ => flightId = f
  | .setSeatHold seatId _ _, w | .delSeatHold seatId, w => w.db.bookings.SeatOn seatId f
  | .setSeatMapCache flightId _ _, _ | .delSeatMapCache flightId, _ => flightId = f
  | _, _ => True

/-! ## The contract -/

/-- How the world may change between two actions of a call, with the waitlist. -/
structure World.Advances (w w' : World) : Prop where
  progress : w.Progress w'
  queue : w.db.queue.Evolves w'.db.queue

lemma World.Advances.refl (w : World) : w.Advances w := ⟨.refl w, .refl _⟩

lemma World.Advances.trans {w w' w'' : World} (h : w.Advances w') (h' : w'.Advances w'') :
    w.Advances w'' :=
  ⟨h.progress.trans h'.progress, h.queue.trans h'.queue⟩

/-- A warranted action advances the world. -/
lemma exec_advances {cfg : Settings} {a : Action} {ch : Choice} {w w' : World}
    {r : Except AppException a.Res} (hlinked : w.db.bookings.Linked) (hpre : a.Pre cfg w)
    (hwarrant : a.Warrant w) (h : World.exec a ch w = (r, w')) : w.Advances w' := by
  refine ⟨exec_progress hlinked hpre h, ?_⟩
  rcases exec_requeues hlinked hpre hwarrant h with ⟨-, hq⟩ | ⟨-, hq⟩
  · exact hq.evolves
  · rw [Database.queue, Database.queue, hq]
    exact .refl _

/-- The contract of a call whose flight is one of those in `target`. -/
def warrants (cfg : Settings) (target : FlightId → World → Prop) : SkyContract World where
  exec a w r w' := ∃ ch, a.Pre cfg w ∧ World.exec a ch w = (r, w')
  inv w := w.db.bookings.Linked
  rely := World.Advances
  guar a w _ _ := a.Warrant w ∧ ∀ f, target f w → a.Local f w

/-- Every call under the contract of its flight, in a world where all actions meet their
preconditions. -/
def warranting (cfg : Settings) : Protocol (skyHigh cfg) where
  admits a _ w := a.Pre cfg w
  inv w := w.db.bookings.Linked
  rely _ := World.Advances
  guar call a w _ _ := a.Warrant w ∧ ∀ f, call.AddressedTo f w → a.Local f w

lemma warranting_lawful (cfg : Settings) : (warranting cfg).Lawful where
  rely_refl _ w _ := .refl w
  rely_trans _ _ _ _ h h' := h.trans h'
  inv_step := by
    rintro call a w r w' hlinked ⟨ch, hpre, h⟩ -
    exact exec_linked hlinked hpre h
  inv_tick _ _ h := h
  rely_tick _ ms w _ := ⟨w.progress_tick ms, .refl _⟩

/-! ## Stretches of a call -/

/-- The action stays on flight `f` and, if it drops a hold key, it is that of seat `s`; it writes
neither to the waitlist nor a hold key. -/
def Action.Within (f : FlightId) (s : Option SeatId) : Action → Prop
  | .holdSeat _ flightId _ _ => flightId = f
  | .awaitPayment checkIn _ _ | .complete checkIn _ _ | .cancel checkIn _ _ => checkIn.flightId = f
  | .release seat => seat.flightId = f
  | .delSeatHold seatId => s = some seatId
  | .setSeatMapCache flightId _ _ | .delSeatMapCache flightId => flightId = f
  | .auditLog dto => dto.entityType ≠ .seat
  | .assign .. | .saveWaitlist _ | .insertWaitlist .. | .setSeatHold .. => False
  | _ => True

lemma Action.within_of_idle {a : Action} (h : a.idle = true) (f : FlightId) (s : Option SeatId) :
    a.Within f s := by
  cases a with
  | holdSeat | awaitPayment | complete | cancel | release | assign | saveWaitlist | insertWaitlist
  | auditLog | setSeatHold | delSeatHold | setSeatMapCache | delSeatMapCache => cases h
  | _ => trivial

lemma Action.warrant_of_within {a : Action} {f : FlightId} {s : Option SeatId} (h : a.Within f s)
    (w : World) : a.Warrant w := by
  cases a with
  | assign | saveWaitlist | insertWaitlist | setSeatHold => exact h.elim
  | auditLog dto => exact h
  | _ => trivial

lemma Action.local_of_within {a : Action} {f : FlightId} {s : Option SeatId} {w : World}
    (h : a.Within f s) (hs : ∀ s' ∈ s, w.db.bookings.SeatOn s' f) : a.Local f w := by
  cases a with
  | assign | saveWaitlist | insertWaitlist | setSeatHold => exact h.elim
  | delSeatHold s' => exact hs s' h
  | holdSeat | awaitPayment | complete | cancel | release | setSeatMapCache | delSeatMapCache =>
      exact h
  | _ => trivial

section Rules

variable {cfg : Settings} {target : FlightId → World → Prop} {G : World → Prop} {α β : Type}
  {w : World}

/-- A fact that survives whatever the others do. -/
abbrev Lasts (cfg : Settings) (target : FlightId → World → Prop) (G : World → Prop) : Prop :=
  (warrants cfg target).Keeps G

/-- The flight of the call is `f`, if `G` holds. -/
def Aims (target : FlightId → World → Prop) (G : World → Prop) (f : FlightId) : Prop :=
  ∀ w, G w → ∀ f', target f' w → f' = f

lemma Aims.and {f : FlightId} (h : Aims target G f) (F : World → Prop) :
    Aims target (fun w => G w ∧ F w) f :=
  fun w hw => h w hw.1

lemma Lasts.and {F : World → Prop} (hG : Lasts cfg target G) (hF : Lasts cfg target F) :
    Lasts cfg target fun w => G w ∧ F w :=
  fun w w' h hw => ⟨hG w w' h hw.1, hF w w' h hw.2⟩

lemma Stable.lasts (hG : Stable G) : Lasts cfg target G := fun w w' h => hG w w' h.progress

lemma lasts_has (entry : Waitlist) : Lasts cfg target fun w => w.db.queue.Has entry :=
  fun _ _ h => .evolves h.queue

lemma lasts_hasBooked (p : PassengerId) (s : SeatId) :
    Lasts cfg target fun w => w.db.bookings.HasBooked p s :=
  fun _ _ h => .evolves h.progress.bookings

lemma idle_tolerated : (warrants cfg target).Tolerates fun a => a.idle = true := by
  rintro a w r w' ha hlinked ⟨ch, hpre, he⟩
  have hwithin := fun f => Action.within_of_idle ha f none
  have hwarrant : a.Warrant w := Action.warrant_of_within (hwithin 0) w
  exact ⟨⟨hwarrant, fun f _ => Action.local_of_within (hwithin f) nofun⟩,
    exec_advances hlinked hpre hwarrant he⟩

lemma self_reliant : (warrants cfg target).SelfReliant := by
  rintro a w r w' hlinked ⟨ch, hpre, he⟩ ⟨hwarrant, -⟩
  exact exec_advances hlinked hpre hwarrant he

/-- **A stretch of a call that knows its flight.** -/
lemma meets_within {f : FlightId} {s : Option SeatId} (hG : Lasts cfg target G)
    (haims : Aims target G f)
    (hs : ∀ w, w.db.bookings.Linked → G w → ∀ s' ∈ s, w.db.bookings.SeatOn s' f) {p : Program α}
    (hp : p.All (Action.Within f s)) (hw : G w) : p.Meets (warrants cfg target) w := by
  refine Prog.Meets.of_all_under ?_ hG hp hw
  rintro a w₁ r w₂ ha hw₁ hlinked ⟨ch, hpre, he⟩
  have hwarrant : a.Warrant w₁ := Action.warrant_of_within ha w₁
  refine ⟨⟨hwarrant, fun f' hf' => ?_⟩, exec_advances hlinked hpre hwarrant he⟩
  rw [haims w₁ hw₁ f' hf']
  exact Action.local_of_within ha (hs w₁ hlinked hw₁)

/-- A write that what the call knows warrants, and what it leaves. -/
lemma wp_write {f : FlightId} {a : Action} {R : a.Res → World → Prop} (hG : Lasts cfg target G)
    (haims : Aims target G f) (hw : G w) (hwarrant : ∀ w₁, G w₁ → a.Warrant w₁)
    (hlocal : ∀ w₁, G w₁ → a.Local f w₁)
    (hwrite : ∀ w₁ ch v w₂, w₁.db.bookings.Linked → a.Pre cfg w₁ →
      World.exec a ch w₁ = (.ok v, w₂) → R v w₂) :
    (act a).wp (warrants cfg target) (fun r w' => ∀ v, r = .ok v → G w' ∧ R v w') w := by
  rintro w₁ hw₁ hlinked r w₂ ⟨ch, hpre, he⟩
  have hw₁ : G w₁ := hG _ _ hw₁ hw
  refine ⟨⟨hwarrant w₁ hw₁, fun f' hf' => ?_⟩, ?_⟩
  · rw [haims w₁ hw₁ f' hf']
    exact hlocal w₁ hw₁
  · rintro v rfl
    exact ⟨hG w₁ w₂ (exec_advances hlinked hpre (hwarrant w₁ hw₁) he) hw₁,
      hwrite w₁ ch v w₂ hlinked hpre he⟩

lemma warranted_act {f : FlightId} {a : Action} (hG : Lasts cfg target G) (haims : Aims target G f)
    (hw : G w) (hwarrant : ∀ w₁, G w₁ → a.Warrant w₁) (hlocal : ∀ w₁, G w₁ → a.Local f w₁) :
    (act a).Meets (warrants cfg target) w :=
  Prog.wp_mono (fun _ _ _ => trivial) (wp_write (R := fun _ _ => True) hG haims hw hwarrant hlocal
    fun _ _ _ _ _ _ _ => trivial)

/-- What has been shown of a program of idle actions under the first contract. -/
lemma wp_of_contract {p : Program α} (hp : Idle p) {Q : Except AppException α → World → Prop}
    (h : p.wp (contract cfg) Q w) : p.wp (warrants cfg target) Q w := by
  have hexec : ∀ a w r w', (warrants cfg target).exec a w r w' → (contract cfg).exec a w r w' :=
    fun _ _ _ _ ⟨ch, _, he⟩ => ⟨ch, trivial, he⟩
  have hrely : ∀ w w', (warrants cfg target).rely w w' → (contract cfg).rely w w' :=
    fun _ _ h => h.progress
  refine Prog.wp_transfer hexec (fun _ h => h) hrely (fun a w r w' ha _ => ?_) hp h
  have hwithin := fun f => Action.within_of_idle ha f none
  exact ⟨Action.warrant_of_within (hwithin 0) w,
    fun f _ => Action.local_of_within (hwithin f) nofun⟩

/-- A read. -/
lemma wp_read {a : Action} {R : a.Res → World → Prop} (ha : a.idle = true)
    (hread : ∀ w₁ ch v w₂, w₁.db.bookings.Linked → World.exec a ch w₁ = (.ok v, w₂) → R v w₂) :
    (act a).wp (warrants cfg target) (fun r w' => ∀ v, r = .ok v → R v w') w := by
  rintro w₁ - hlinked r w₂ ⟨ch, hpre, he⟩
  refine ⟨(idle_tolerated a w₁ r w₂ ha hlinked ⟨ch, hpre, he⟩).1, ?_⟩
  rintro v rfl
  exact hread w₁ ch v w₂ hlinked he

/-- A read before a program that rests on what has been found. -/
lemma bind_read {a : Action} {k : a.Res → Program β} {R : a.Res → World → Prop}
    (ha : a.idle = true) (hG : Lasts cfg target G) (hw : G w)
    (hread : ∀ w₁ ch v w₂, w₁.db.bookings.Linked → World.exec a ch w₁ = (.ok v, w₂) → R v w₂)
    (hk : ∀ v w', G w' ∧ R v w' → (k v).Meets (warrants cfg target) w') :
    (act a >>= k).Meets (warrants cfg target) w := by
  have hkeeps := (Prog.Meets.of_all idle_tolerated (idle_act ha)).keeps self_reliant hG hw
  exact .bind_wp (R := fun v w' => G w' ∧ R v w') (Prog.wp_mono (fun _ _ h v hv => ⟨h.1, h.2 v hv⟩)
    (Prog.wp_and hkeeps (wp_read ha hread))) hk

/-- A write before a program that rests on it. -/
lemma bind_write {f : FlightId} {a : Action} {k : a.Res → Program β} {R : a.Res → World → Prop}
    (hG : Lasts cfg target G) (haims : Aims target G f) (hw : G w)
    (hwarrant : ∀ w₁, G w₁ → a.Warrant w₁) (hlocal : ∀ w₁, G w₁ → a.Local f w₁)
    (hwrite : ∀ w₁ ch v w₂, w₁.db.bookings.Linked → a.Pre cfg w₁ →
      World.exec a ch w₁ = (.ok v, w₂) → R v w₂)
    (hk : ∀ v w', G w' ∧ R v w' → (k v).Meets (warrants cfg target) w') :
    (act a >>= k).Meets (warrants cfg target) w :=
  .bind_wp (wp_write hG haims hw hwarrant hlocal hwrite) hk

end Rules

/-! ## Stretches of the services -/

lemma Idle.within {α : Type} {p : Program α} (hp : Idle p) (f : FlightId) (s : Option SeatId) :
    p.All (Action.Within f s) :=
  hp.mono fun _ h => Action.within_of_idle h f s

lemma within_act {a : Action} {f : FlightId} {s : Option SeatId} (h : a.Within f s) :
    (act a).All (Action.Within f s) := Prog.all_perform h

lemma within_invalidateCache (f : FlightId) (s : Option SeatId) :
    (SeatService.invalidateCache f).All (Action.Within f s) := Prog.all_perform rfl

lemma within_getSeatMap (f : FlightId) : (SeatService.getSeatMap f).All (Action.Within f none) := by
  refine Prog.all_bind (within_act trivial) fun cached => ?_
  cases cached with
  | some map => trivial
  | none =>
      refine Prog.all_bind (within_act trivial) fun flight => ?_
      cases flight with
      | none => trivial
      | some flight =>
          refine Prog.all_bind (within_act (a := .findFlightSeats f) trivial) fun seats => ?_
          refine Prog.all_bind (within_act (a := .setSeatMapCache f _ _) rfl) fun _ => ?_
          trivial

lemma within_processPayment (cfg : Settings) (request : PaymentRequestDto) (f : FlightId)
    (s : Option SeatId) :
    (PaymentService.processPayment cfg request).All (Action.Within f s) := by
  have hattempts : ∀ remaining attempt lastError,
      (PaymentService.attempts cfg request remaining attempt lastError).All
        (Action.Within f s) := by
    intro remaining
    induction remaining with
    | zero => exact fun _ _ => trivial
    | succ remaining ih =>
        intro attempt lastError
        refine Prog.all_bind ((idle_backoff cfg attempt).within f s) fun _ => ?_
        refine Prog.all_andThen (within_act (a := .postPayment request) trivial) fun r => ?_
        cases r with
        | ok response => trivial
        | error e => exact ih (attempt + 1) (some e)
  refine Prog.all_bind (within_act (a := .auditLog _) nofun) fun _ => ?_
  refine Prog.all_bind (hattempts _ _ _) fun result => Prog.all_bind ?_ fun _ => trivial
  unfold PaymentService.logConfirmed
  split
  · exact within_act (a := .auditLog _) nofun
  · trivial

namespace CheckInService

lemma within_dropHold (c : CheckIn) : (dropHold c).All (Action.Within c.flightId c.seatId) := by
  unfold dropHold
  cases hs : c.seatId with
  | none => trivial
  | some s =>
      exact Prog.all_bind (within_act (a := .delSeatHold s) rfl) fun _ =>
        within_invalidateCache _ _

lemma within_completeCheckIn (c : CheckIn) (weight : ℚ) (paymentId : Option String) :
    (completeCheckIn c weight paymentId).All (Action.Within c.flightId c.seatId) := by
  refine Prog.all_bind (within_act (a := .dateNow) trivial) fun _ => ?_
  refine Prog.all_bind (within_act (a := .complete c weight paymentId) rfl) fun _ => ?_
  refine Prog.all_bind (within_dropHold c) fun _ => ?_
  exact Prog.all_bind ((idle_findCheckInOrFail c.id).within _ _) fun _ => trivial

lemma within_handleExcessBaggage (cfg : Settings) (c : CheckIn) (weight fee : ℚ) :
    (handleExcessBaggage cfg c weight fee).All (Action.Within c.flightId c.seatId) := by
  refine Prog.all_bind (within_act (a := .awaitPayment c weight fee) rfl) fun _ => ?_
  refine Prog.all_bind (within_processPayment cfg _ _ _) fun paymentResult => ?_
  show Prog.All _ (if _ then _ else _)
  split
  · exact within_completeCheckIn (c.withFee weight fee) weight paymentResult.transactionId
  · exact Prog.all_bind ((idle_findCheckInOrFail c.id).within _ _) fun _ => trivial

/-- What a confirmation does once it has read its check-in. -/
lemma within_confirm (cfg : Settings) (p : PassengerId) (dto : UpdateCheckInRequestDto)
    (c : CheckIn) :
    (do
      validateHoldNotExpired c
      let baggageResult ← BaggageService.validateAndCalculateFee cfg p (declaredWeight dto)
      if baggageResult.isOverweight then
        handleExcessBaggage cfg c (declaredWeight dto) baggageResult.excessFee
      else
        completeCheckIn c (declaredWeight dto) none : Program CheckInResponseDto).All
      (Action.Within c.flightId c.seatId) := by
  have hvalidate : Idle (validateHoldNotExpired c) :=
    Prog.all_bind Prog.all_throwWhen fun _ => idle_validateHoldKey c.seatId
  refine Prog.all_bind (hvalidate.within _ _) fun _ => ?_
  have hweight : Idle (BaggageService.validateAndCalculateFee cfg p (declaredWeight dto)) :=
    Prog.all_bind (idle_callWeightService p) fun _ => trivial
  refine Prog.all_bind (hweight.within _ _) fun baggageResult => ?_
  show Prog.All _ (if _ then _ else _)
  split
  · exact within_handleExcessBaggage cfg c _ _
  · exact within_completeCheckIn c _ none

end CheckInService

/-! ## Every call meets the contract -/

section Walks

variable {cfg : Settings} {target : FlightId → World → Prop} {w : World}

/-- The call is warranted in all it does. -/
abbrev Warranted (cfg : Settings) (target : FlightId → World → Prop) {α : Type} (p : Program α)
    (w : World) : Prop :=
  p.Meets (warrants cfg target) w

lemma warranted_idle {α : Type} {p : Program α} (hp : Idle p) : Warranted cfg target p w :=
  .of_all idle_tolerated hp

/-- A passenger who has been given a seat has booked it. -/
lemma hasBooked_acquired {b : Bookings} {s : SeatId} {seat : Seat} {c : CheckIn} {t : Time}
    (h : b.Acquirable s seat c) : (b.acquired s seat c t).HasBooked c.passengerId s :=
  ⟨c.id, c, Function.update_self .., rfl, h.seatId⟩

lemma hasBooked_holdSeat {p : PassengerId} {f : FlightId} {s : SeatId} {t : Time} {ch : Choice}
    {c : CheckIn} {w w' : World} (hlinked : w.db.bookings.Linked)
    (hpre : (Action.holdSeat p f s t).Pre cfg w)
    (he : World.exec (.holdSeat p f s t) ch w = (.ok c, w')) : w'.db.bookings.HasBooked p s := by
  rcases exec_commits hlinked hpre he with ⟨-, hcommits, -⟩ | ⟨hno, -⟩
  · generalize w'.db.bookings = b' at hcommits
    cases hcommits with
    | holdSeat h hp _ => exact hp ▸ hasBooked_acquired h
  · cases hno

lemma hasBooked_assign {entry : Waitlist} {seat : Seat} {f : FlightId} {t : Time} {ch : Choice}
    {assigned : Bool} {w w' : World} (hlinked : w.db.bookings.Linked)
    (hpre : (Action.assign entry seat f t).Pre cfg w)
    (he : World.exec (.assign entry seat f t) ch w = (.ok assigned, w')) (h : assigned = true) :
    w'.db.bookings.HasBooked entry.passengerId seat.id := by
  rcases exec_commits hlinked hpre he with ⟨-, hcommits, -⟩ | ⟨hno, -⟩
  · generalize w'.db.bookings = b' at hcommits
    cases hcommits with
    | assign h hp _ => exact hp ▸ hasBooked_acquired h
  · exact absurd h (Bool.eq_false_iff.mp hno)

/-- The key of a seat that has been booked is set, and the rest of the call stays on its flight. -/
lemma warranted_setSeatHold {p : PassengerId} {s : SeatId} {f : FlightId} {α : Type}
    {k : Unit → Program α} (haims : Aims target (fun w => w.db.bookings.SeatOn s f) f)
    (hw : w.db.bookings.SeatOn s f ∧ w.db.bookings.HasBooked p s)
    (hk : ∀ u, (k u).All (Action.Within f none)) :
    Warranted cfg target (setSeatHold s p >>= k) w := by
  have hG : Lasts cfg target fun w => w.db.bookings.SeatOn s f := (stable_seatOn s f).lasts
  refine bind_write (R := fun _ _ => True) (hG.and (lasts_hasBooked p s)) (haims.and _) hw
    (fun _ h => ⟨rfl, h.2⟩) (fun _ h => h.1) (fun _ _ _ _ _ _ _ => trivial) fun u w₁ hw₁ => ?_
  exact meets_within (s := none) hG haims (fun _ _ _ _ hs => nomatch hs) (hk u) hw₁.1.1

namespace CheckInService

lemma warranted_holdSeatWithinLock {p : PassengerId} {f : FlightId} {s : SeatId}
    (haims : Aims target (fun w => w.db.bookings.SeatOn s f) f) (hw : w.db.bookings.SeatOn s f) :
    Warranted cfg target (holdSeatWithinLock p f s) w := by
  have hG : Lasts cfg target fun w => w.db.bookings.SeatOn s f := (stable_seatOn s f).lasts
  refine (warranted_idle (idle_act rfl)).bind_keeps self_reliant hG hw fun seat w₁ hw₁ => ?_
  refine (warranted_idle Prog.all_throwWhen).bind_keeps self_reliant hG hw₁ fun _ w₂ hw₂ => ?_
  refine (warranted_idle (idle_act rfl)).bind_keeps self_reliant hG hw₂ fun heldAt w₃ hw₃ => ?_
  refine bind_write (R := fun _ w' => w'.db.bookings.HasBooked p s) hG haims hw₃
    (fun _ _ => trivial) (fun _ _ => rfl) (fun _ _ _ _ => hasBooked_holdSeat)
    fun checkIn w₄ hw₄ => ?_
  refine warranted_setSeatHold haims hw₄ fun _ => ?_
  exact Prog.all_bind (within_invalidateCache f none) fun _ => trivial

theorem warranted_startCheckIn {p : PassengerId} {dto : StartCheckInRequestDto}
    (haims : Aims target (fun _ => True) dto.flightId) :
    Warranted cfg target (startCheckIn p dto) w := by
  have hG : Lasts cfg target fun w => w.db.bookings.SeatOn dto.seatId dto.flightId :=
    (stable_seatOn _ _).lasts
  refine (warranted_idle (idle_validateFlightExists _)).bind fun _ w₁ => ?_
  refine .bind_wp (wp_of_contract (idle_validateSeatBelongsToFlight _ _)
    wp_validateSeatBelongsToFlight) fun _ w₂ hw₂ => ?_
  refine (warranted_idle (idle_validateNoActiveCheckIn _ _)).bind_keeps self_reliant hG hw₂
    fun _ w₃ hw₃ => ?_
  refine .tryCatch ?_ fun e _ => warranted_idle (idle_countAndRethrow _ e)
  refine (warranted_idle (idle_act rfl)).bind_keeps self_reliant hG hw₃ fun _ w₄ hw₄ => ?_
  exact (warranted_holdSeatWithinLock (fun w _ => haims w trivial) hw₄).tryFinally
    fun _ => warranted_idle (idle_act rfl)

/-- The flight of a check-in that has been read is that of its row. -/
lemma aims_checkIn (c : CheckIn) :
    Aims (fun f w => ∃ d, w.db.bookings.checkIn c.id = some d ∧ d.flightId = f)
      (fun w => w.db.bookings.Has c) c.flightId := by
  rintro w ⟨d, hd, -, hf, -⟩ f ⟨d', hd', rfl⟩
  rw [Option.some_inj.mp (hd.symm.trans hd')] at hf
  exact hf

/-- The seat of a check-in is on its flight. -/
lemma seatOn_of_has {b : Bookings} (hlinked : b.Linked) {c : CheckIn} (hc : b.Has c) :
    ∀ s ∈ c.seatId, b.SeatOn s c.flightId := by
  rintro s hs
  obtain ⟨d, hd, -, hf, hseatId⟩ := hc
  obtain ⟨s', seat, hs', hseat, hflight⟩ := hlinked.seatOf _ d hd
  obtain rfl : s' = s := Option.some_inj.mp (hs'.symm.trans (hseatId.trans hs))
  exact ⟨seat, hseat, hflight.trans hf⟩

theorem warranted_confirmCheckIn (i : CheckInId) (p : PassengerId) (dto : UpdateCheckInRequestDto) :
    Warranted cfg (fun f w => (Call.confirmCheckIn i p dto).AddressedTo f w)
      (confirmCheckIn cfg i p dto) w := by
  refine .bind_wp (wp_of_contract (idle_findCheckInOrThrow i p) wp_findCheckInOrThrow)
    fun c w₁ ⟨hw₁, hid, _⟩ => ?_
  subst hid
  exact meets_within (stable_has c).lasts (aims_checkIn c)
    (fun _ hlinked hc => seatOn_of_has hlinked hc) (within_confirm cfg p dto c) hw₁

theorem warranted_cancelCheckIn (i : CheckInId) (p : PassengerId) :
    Warranted cfg (fun f w => (Call.cancelCheckIn i p).AddressedTo f w) (cancelCheckIn i p) w := by
  refine .bind_wp (wp_of_contract (idle_findCheckInOrThrow i p) wp_findCheckInOrThrow)
    fun c w₁ ⟨hw₁, hid, _⟩ => ?_
  subst hid
  refine meets_within (stable_has c).lasts (aims_checkIn c)
    (fun _ hlinked hc => seatOn_of_has hlinked hc) ?_ hw₁
  refine Prog.all_bind (within_act (a := .findOneFlight _) trivial) fun flight => ?_
  refine Prog.all_bind Prog.all_throwWhen fun _ => ?_
  refine Prog.all_bind (within_act (a := .dateNow) trivial) fun cancelledAt => ?_
  refine Prog.all_bind (within_act (a := .cancel c c.id p) rfl) fun _ => ?_
  refine Prog.all_bind (within_dropHold c) fun _ => ?_
  exact Prog.all_bind (within_act (a := .emit _) trivial) fun _ => trivial

end CheckInService

namespace HoldExpiryService

/-- An entry that has been read is there. -/
lemma exec_findOneWaitlist {q : WaitlistWhere} {ch : Choice} {w w' : World} {e : Waitlist}
    (h : World.exec (.findOneWaitlist q) ch w = (.ok (some e), w')) :
    w' = w ∧ w.db.queue e.id = some e ∧ q.Matches e := by
  simp only [World.exec, World.query] at h
  split at h
  · cases h
  · obtain ⟨hr, rfl⟩ := Prod.mk.inj h
    obtain ⟨hmem, hq, -⟩ := Table.findOne_spec (Except.ok.inj hr)
    exact ⟨rfl, (Table.mem_rows_iff _).mp hmem, hq⟩

/-- The entry of the passenger who has lost a seat is looked up before it is written back. -/
lemma warranted_markWaitlistEntryExpired {f : FlightId} {G : World → Prop}
    (hG : Lasts cfg target G) (haims : Aims target G f) (p : Option PassengerId) (hw : G w) :
    Warranted cfg target (markWaitlistEntryExpired f p) w := by
  unfold markWaitlistEntryExpired
  cases p with
  | none => trivial
  | some p =>
      refine bind_read (R := fun found w' => ∀ e, found = some e → w'.db.queue.Has e ∧
        e.flightId = f) rfl hG hw (fun w₁ ch found w₂ _ he e hfound => ?_) fun found w₁ hw₁ => ?_
      · subst hfound
        obtain ⟨rfl, hrow, -, hf, -⟩ := exec_findOneWaitlist he
        exact ⟨⟨e, hrow, .rfl⟩, hf f rfl⟩
      cases found with
      | none => trivial
      | some e =>
          obtain ⟨hhas, hf⟩ := hw₁.2 e rfl
          exact warranted_act (hG.and (lasts_has e)) (haims.and _) ⟨hw₁.1, hhas⟩
            (fun _ h => ⟨h.2, .inr rfl⟩) fun _ _ => hf

theorem warranted_releaseSeatWithinLock {s : SeatId}
    (hto : ∀ f w, target f w → w.db.bookings.SeatOn s f) :
    Warranted cfg target (releaseSeatWithinLock s) w := by
  refine bind_read (R := fun found w' => ∀ seat, found = some seat →
      w'.db.bookings.SeatOn s seat.flightId) rfl Stable.true.lasts trivial
    (fun w₁ ch found w₂ _ he seat hfound => ?_) fun found w₁ hw₁ => ?_
  · subst hfound
    obtain ⟨rfl, hseat, hid, -⟩ := exec_findOneSeat he
    obtain rfl : seat.id = s := hid s rfl
    exact ⟨seat, hseat, rfl⟩
  cases found with
  | none => trivial
  | some seat =>
      have hseat : w₁.db.bookings.SeatOn s seat.flightId := hw₁.2 seat rfl
      have hG : Lasts cfg target fun w => w.db.bookings.SeatOn s seat.flightId :=
        (stable_seatOn _ _).lasts
      have haims : Aims target (fun w => w.db.bookings.SeatOn s seat.flightId) seat.flightId := by
        rintro w ⟨row, hrow, hf⟩ f hfw
        obtain ⟨row', hrow', rfl⟩ := hto f w hfw
        rw [← hf, Option.some_inj.mp (hrow.symm.trans hrow')]
      show Warranted cfg target (if _ then _ else _) w₁
      split
      · trivial
      · refine (warranted_idle (idle_act rfl)).bind_keeps self_reliant hG hseat fun now w₂ hw₂ => ?_
        show Warranted cfg target (if _ then _ else _) w₂
        split
        · trivial
        · refine (warranted_act (a := .release seat) hG haims hw₂ (fun _ _ => trivial)
            fun _ _ => rfl).bind_keeps self_reliant hG hw₂ fun updateResult w₃ hw₃ => ?_
          show Warranted cfg target (if _ then _ else _) w₃
          split
          · refine (warranted_markWaitlistEntryExpired hG haims seat.heldBy hw₃).bind_keeps
              self_reliant hG hw₃ fun _ w₄ hw₄ => ?_
            refine meets_within (s := none) hG haims (fun _ _ _ _ hs => nomatch hs) ?_ hw₄
            refine Prog.all_bind (within_invalidateCache _ none) fun _ => ?_
            exact Prog.all_bind (within_act (a := .emit _) trivial) fun _ => trivial
          · trivial

theorem warranted_releaseSeat {s : SeatId} (hto : ∀ f w, target f w → w.db.bookings.SeatOn s f) :
    Warranted cfg target (releaseSeat s) w := by
  refine (warranted_idle (idle_act rfl)).andThen fun r w₁ => ?_
  cases r with
  | error e => trivial
  | ok _ =>
      exact (warranted_releaseSeatWithinLock hto).tryFinally fun _ => warranted_idle (idle_act rfl)

theorem warranted_sweepExpiredHolds (hto : ∀ f w, ¬ target f w) :
    Warranted cfg target sweepExpiredHolds w := by
  refine (warranted_idle (idle_act rfl)).bind fun now w₁ => ?_
  refine (warranted_idle (idle_act rfl)).bind fun staleSeats w₂ => ?_
  refine Prog.wp_forEach (fun seat _ w _ => ?_) trivial
  exact Prog.Meets.bind (warranted_releaseSeat fun f w h => absurd h (hto f w)) fun _ _ => trivial

end HoldExpiryService

namespace WaitlistService

theorem warranted_processWaitlistWithinLock {f : FlightId} (haims : Aims target (fun _ => True) f)
    (s : Option SeatId) : Warranted cfg target (processWaitlistWithinLock f s) w := by
  have haims' : ∀ G : World → Prop, Aims target G f := fun _ w _ => haims w trivial
  refine bind_read (R := fun next w' => ∀ e, next = some e → w'.db.queue.Has e ∧
      e.status = .waiting ∧ e.flightId = f) rfl Stable.true.lasts trivial
    (fun w₁ ch next w₂ _ he e hnext => ?_) fun next w₁ hw₁ => ?_
  · subst hnext
    obtain ⟨rfl, hrow, -, hf, -, hst⟩ := HoldExpiryService.exec_findOneWaitlist he
    exact ⟨⟨e, hrow, .rfl⟩, hst _ rfl, hf f rfl⟩
  cases next with
  | none => trivial
  | some entry =>
      obtain ⟨hentry, hwaiting, hf⟩ := hw₁.2 entry rfl
      have hG : Lasts cfg target fun w => w.db.queue.Has entry := lasts_has entry
      refine bind_read (R := fun found w' => ∀ seat, found = some seat →
          w'.db.bookings.SeatOn seat.id f) rfl hG hentry
        (fun w₁ ch found w₂ _ he seat hfound => ?_) fun found w₂ hw₂ => ?_
      · subst hfound
        obtain ⟨rfl, hseat, -, hflight, -⟩ := exec_findOneSeat he
        exact ⟨seat, hseat, hflight f rfl⟩
      cases found with
      | none => trivial
      | some seat =>
          have hG' := hG.and (stable_seatOn seat.id f).lasts
          refine (warranted_idle (idle_act rfl)).bind_keeps self_reliant hG' ⟨hw₂.1, hw₂.2 seat rfl⟩
            fun heldAt w₃ hw₃ => ?_
          refine bind_write (R := fun assigned w' => assigned = true →
              w'.db.bookings.HasBooked entry.passengerId seat.id) hG' (haims' _) hw₃
            (fun _ h => ⟨h.1, hwaiting, hf⟩) (fun _ _ => rfl)
            (fun _ _ _ _ hlinked hpre he => hasBooked_assign hlinked hpre he)
            fun assigned w₄ hw₄ => ?_
          show Warranted cfg target (if _ then _ else _) w₄
          split
          · refine warranted_setSeatHold (haims' _) ⟨hw₄.1.2, hw₄.2 ‹_›⟩ fun _ => ?_
            refine Prog.all_bind (within_invalidateCache f none) fun _ => ?_
            exact within_act (a := .emit _) trivial
          · trivial

theorem warranted_processWaitlist {f : FlightId} (haims : Aims target (fun _ => True) f)
    (s : Option SeatId) : Warranted cfg target (processWaitlist f s) w := by
  refine (warranted_idle (idle_act rfl)).andThen fun r w₁ => ?_
  cases r with
  | error e => trivial
  | ok _ =>
      exact (warranted_processWaitlistWithinLock haims s).tryFinally
        fun _ => warranted_idle (idle_act rfl)

/-- The greatest position is one that somebody has, and nobody has a greater one. -/
lemma exec_maxPosition {f : FlightId} {ch : Choice} {w w' : World} {m : Option ℕ}
    (h : World.exec (.maxPosition f) ch w = (.ok m, w')) :
    w' = w ∧ (∀ n ∈ m, w.db.queue.Taken f n) ∧ ∀ n, w.db.queue.Taken f n → n ≤ m.getD 0 := by
  simp only [World.exec, World.query] at h
  split at h
  · cases h
  · obtain ⟨hr, rfl⟩ := Prod.mk.inj h
    have hr := Except.ok.inj hr
    refine ⟨rfl, fun n hn => ?_, ?_⟩
    · rw [← hr] at hn
      obtain ⟨e, he, rfl⟩ := List.mem_map.mp (List.max?_mem hn)
      obtain ⟨hmem, hf⟩ := List.mem_filter.mp he
      exact ⟨e.id, e, (Table.mem_rows_iff _).mp hmem, by simpa using hf, rfl⟩
    · rintro n ⟨i, e, he, hf, rfl⟩
      have hmem : e.position ∈ (w.db.waitlist.rows.filter fun e => e.flightId = f).map
          Waitlist.position :=
        List.mem_map_of_mem (List.mem_filter.mpr ⟨Table.mem_of_get? he, by simpa using hf⟩)
      cases m with
      | none =>
          rw [List.max?_eq_none_iff.mp hr] at hmem
          cases hmem
      | some n => exact (List.max?_eq_some_iff.mp hr).2 _ hmem

/-- The position that a join writes is the one after all that are taken when it is read. -/
lemma wp_getNextPosition (f : FlightId) :
    (getNextPosition f).wp (warrants cfg target) (fun r w' => ∀ n, r = .ok n →
      (0 < n ∧ (n = 1 ∨ w'.db.queue.Taken f (n - 1))) ∧ ∀ m, w'.db.queue.Taken f m → m < n) w := by
  refine Prog.wp_bind_ok (R := fun (m : Option ℕ) w' => (∀ n ∈ m, w'.db.queue.Taken f n) ∧
    ∀ n, w'.db.queue.Taken f n → n ≤ m.getD 0) (wp_read rfl fun w₁ ch m w₂ _ he => ?_)
    fun m w₁ ⟨htaken, hmax⟩ => ?_
  · obtain ⟨rfl, htaken, hmax⟩ := exec_maxPosition he
    exact ⟨htaken, hmax⟩
  · rintro _ ⟨⟩
    refine ⟨⟨Nat.succ_pos _, ?_⟩, fun n hn => Nat.lt_succ_of_le (hmax n hn)⟩
    cases m with
    | none => exact .inl rfl
    | some n => exact .inr (htaken n rfl)

theorem warranted_joinWaitlist {f : FlightId} (haims : Aims target (fun _ => True) f)
    (p : PassengerId) : Warranted cfg target (joinWaitlist p f) w := by
  refine (warranted_idle (idle_act rfl)).bind fun flight w₁ => ?_
  cases flight with
  | none => trivial
  | some flight =>
      refine (warranted_idle (idle_act rfl)).bind fun existing w₂ => ?_
      refine (warranted_idle Prog.all_throwWhen).bind fun _ w₃ => ?_
      refine .bind_wp (wp_getNextPosition f) fun n w₄ ⟨hw₄, _⟩ => ?_
      have hG : Lasts cfg target fun w => 0 < n ∧ (n = 1 ∨ w.db.queue.Taken f (n - 1)) :=
        fun _ _ h hw => hw.imp_right fun hor => hor.imp_right (.evolves h.queue)
      refine (warranted_act (a := .insertWaitlist f p n) hG (fun w _ => haims w trivial) hw₄
        (fun _ h => h) fun _ _ => rfl).bind fun saved w₅ => ?_
      refine meets_within (s := none) (G := fun _ => True) Stable.true.lasts haims
        (fun _ _ _ _ hs => nomatch hs) ?_ trivial
      exact Prog.all_bind (within_act (a := .auditLog _) nofun) fun _ => trivial

theorem warranted_leaveWaitlist (i : WaitlistId) (p : PassengerId) :
    Warranted cfg (fun f w => (Call.leaveWaitlist i p).AddressedTo f w) (leaveWaitlist i p) w := by
  refine bind_read (R := fun found w' => ∀ e, found = some e → w'.db.queue.Has e ∧ e.id = i) rfl
    Stable.true.lasts trivial (fun w₁ ch found w₂ _ he e hfound => ?_) fun found w₁ hw₁ => ?_
  · subst hfound
    obtain ⟨rfl, hrow, hid, -⟩ := HoldExpiryService.exec_findOneWaitlist he
    exact ⟨⟨e, hrow, .rfl⟩, hid i rfl⟩
  cases found with
  | none => trivial
  | some e =>
      obtain ⟨hhas, rfl⟩ := hw₁.2 e rfl
      have hG : Lasts cfg (fun f w => (Call.leaveWaitlist e.id p).AddressedTo f w)
          fun w => w.db.queue.Has e := lasts_has e
      refine (warranted_idle Prog.all_throwWhen).bind_keeps self_reliant hG hhas fun _ w₂ hw₂ => ?_
      have haims : Aims (fun f w => (Call.leaveWaitlist e.id p).AddressedTo f w)
          (fun w => w.db.queue.Has e) e.flightId := by
        rintro w ⟨row, hrow, hf, -⟩ f ⟨row', hrow', rfl⟩
        rw [← hf, Option.some_inj.mp (hrow.symm.trans hrow')]
      exact (warranted_act (a := .saveWaitlist { e with status := .cancelled }) hG haims hw₂
        (fun _ h => ⟨h, .inl rfl⟩) fun _ _ => rfl).bind fun _ _ => trivial

end WaitlistService

/-- **Every call meets the contract of its flight**, from any state. -/
theorem warranted_program (cfg : Settings) (call : Call) (w : World) :
    Warranted cfg (fun f w => call.AddressedTo f w) (call.program cfg) w := by
  cases call with
  | startCheckIn p dto => exact .map (CheckInService.warranted_startCheckIn fun _ _ _ h => h.symm)
  | confirmCheckIn i p dto => exact .map (CheckInService.warranted_confirmCheckIn i p dto)
  | cancelCheckIn i p => exact .map (CheckInService.warranted_cancelCheckIn i p)
  | handleHoldExpired s =>
      exact .map ((HoldExpiryService.warranted_releaseSeat fun _ _ h => h).bind fun _ _ => trivial)
  | releaseSeat s => exact .map (HoldExpiryService.warranted_releaseSeat fun _ _ h => h)
  | sweepExpiredHolds => exact .map (HoldExpiryService.warranted_sweepExpiredHolds fun _ _ h => h)
  | processWaitlist f s =>
      exact .map (WaitlistService.warranted_processWaitlist (fun _ _ _ h => h.symm) s)
  | joinWaitlist p f =>
      exact .map (WaitlistService.warranted_joinWaitlist (fun _ _ _ h => h.symm) p)
  | leaveWaitlist i p => exact .map (WaitlistService.warranted_leaveWaitlist i p)
  | getSeatMap f =>
      have haims : Aims (fun g w => (Call.getSeatMap f).AddressedTo g w) (fun _ => True) f :=
        fun _ _ _ h => h.symm
      exact .map (meets_within (s := none) Stable.true.lasts haims (fun _ _ _ _ hs => nomatch hs)
        (within_getSeatMap f) trivial)

end Walks

/-! ## Runs -/

section Runs

variable {cfg : Settings} {w : World} {ts : List SkyTransition} {c : SkyConfig}

/-- Every action of a run is admitted: it meets its precondition. -/
lemma run_admitted (hw : w.Seeded) (h : (skyHigh cfg).Run (.init w) ts c) :
    ∀ t ∈ ts, (warranting cfg).Admitted t := by
  intro t ht i ch _ th a hi ha
  obtain ⟨us, vs, -, hpre, -, -⟩ := h.mem_split ht
  obtain ⟨call, prog⟩ := th
  cases prog with
  | done r => cases ha
  | act a' cont =>
      obtain rfl := Option.some_inj.mp ha
      exact run_pre hw hpre hi

/-- Every performed action of a run is warranted, and the calls that have ended keep a promise that
each of them makes under the contract. -/
lemma run_warranted (hw : w.Seeded) (h : (skyHigh cfg).Run (.init w) ts c)
    (Q : Call → Except AppException Reply → World → Prop)
    (hQ : ∀ call r w w', w.Advances w' → Q call r w → Q call r w')
    (hstart : ∀ (call : Call) (w : World), w.db.bookings.Linked → (call.program cfg).wp
      (warrants cfg fun f w => call.AddressedTo f w) (Q call) w) :
    (warranting cfg).Sound Q c ∧ ∀ t ∈ ts, (warranting cfg).Guaranteed t :=
  h.sound (P := warranting cfg) (warranting_lawful cfg) hQ hstart
    (fun _ _ _ _ _ _ hinv ⟨_, hpre, he⟩ hg => exec_advances hinv hpre hg.1 he) hw.linked
    (run_admitted hw h)

lemma run_guaranteed (hw : w.Seeded) (h : (skyHigh cfg).Run (.init w) ts c) :
    ∀ t ∈ ts, (warranting cfg).Guaranteed t :=
  (run_warranted hw h (fun _ _ _ => True) (fun _ _ _ _ _ _ => trivial)
    fun call w _ => warranted_program cfg call w).2

/-- In every reachable state, the next action of every call is warranted, and local to the flight
that the call is addressed to. -/
theorem run_warrant (hw : w.Seeded) (h : (skyHigh cfg).Run (.init w) ts c) {k : ℕ} {call : Call}
    {a : Action} {cont : Except AppException a.Res → Program Reply}
    (hk : c.threads[k]? = some ⟨call, .act a cont⟩) :
    a.Warrant c.state ∧ ∀ f, call.AddressedTo f c.state → a.Local f c.state := by
  obtain ⟨c', hstep⟩ := exists_step cfg hk {}
  have hguar := run_guaranteed hw (h.snoc hstep) _ (List.mem_append_right _ List.mem_cons_self)
  exact hguar k {} rfl call a cont hk

/-- A call of a run keeps a postcondition that speaks about the state it was issued in. -/
lemma run_follow {us vs : List SkyTransition} {c₁ c' : SkyConfig} {call : Call} (hw : w.Seeded)
    (h : (skyHigh cfg).Run (.init w) us c) (hcall : (skyHigh cfg).step (.invoke call) c = some c₁)
    (hrun : (skyHigh cfg).Run c₁ vs c') {Q : Except AppException Reply → World → Prop}
    (hQ : ∀ r w w', w.Advances w' → Q r w → Q r w')
    (hwp : (call.program cfg).wp (warrants cfg fun f w => call.AddressedTo f w) Q c.state) :
    ∃ q, c'.threads[c.threads.length]? = some ⟨call, q⟩ ∧
      q.wp (warrants cfg fun f w => call.AddressedTo f w) Q c'.state := by
  have hall := (h.snoc hcall).append hrun
  obtain rfl : _ = c₁ := Option.some_inj.mp hcall
  have hlinked : ∀ t ∈ vs, t.pre.state.db.bookings.Linked := fun t ht =>
    (run_justified hw hall t (List.mem_append_right _ ht)).linked
  exact hrun.follow (P := warranting cfg) (warranting_lawful cfg)
    (fun _ _ _ _ _ _ hinv ⟨_, hpre, he⟩ hg => exec_advances hinv hpre hg.1 he) hlinked
    (fun t ht => run_admitted hw hall t (List.mem_append_right _ ht))
    (fun t ht => run_guaranteed hw hall t (List.mem_append_right _ ht))
    List.getElem?_concat_length hQ hwp

/-! ### Writes to the waitlist -/

/-- The action whose write to the waitlist the transition commits, if it commits one. -/
def requeued? (t : SkyTransition) : Option Action :=
  match t.label with
  | .act i ch =>
      match t.pre.threads[i]? with
      | some ⟨_, .act a _⟩ =>
          if a.enlisted (World.exec a ch t.pre.state).1 then some a else none
      | _ => none
  | _ => none

/-- A write to the waitlist is the next action of the call that the transition runs. -/
lemma next_of_requeued? {t : SkyTransition} {a : Action} (h : requeued? t = some a) :
    ∃ k ch call cont, t.label = .act k ch ∧ t.pre.threads[k]? = some ⟨call, .act a cont⟩ := by
  unfold requeued? at h
  split at h
  · rename_i k ch hl
    split at h
    · rename_i call a' cont hk
      split at h
      · obtain rfl := Option.some_inj.mp h
        exact ⟨k, ch, call, cont, hl, hk⟩
      · cases h
    · cases h
  · cases h

/-- An assignment writes to the waitlist exactly if it is committed. -/
lemma requeued?_assign_iff {t : SkyTransition} {entry : Waitlist} {seat : Seat} {f : FlightId}
    {heldAt : Time} : requeued? t = some (.assign entry seat f heldAt) ↔
      committed? t = some (.assign entry seat f heldAt) := by
  have hsame : ∀ (b b' : Bool) (a : Action), (a = .assign entry seat f heldAt → b = b') →
      ((if b then some a else none) = some (.assign entry seat f heldAt) ↔
        (if b' then some a else none) = some (.assign entry seat f heldAt)) := by
    intro b b' a h
    by_cases ha : a = .assign entry seat f heldAt
    · rw [h ha]
    · cases b <;> cases b' <;> simp [ha]
  unfold requeued? committed?
  cases t.label with
  | act k ch =>
      dsimp only
      cases t.pre.threads[k]? with
      | none => exact Iff.rfl
      | some th =>
          obtain ⟨call, prog⟩ := th
          cases prog with
          | done r => exact Iff.rfl
          | act a cont =>
              refine hsame _ _ a ?_
              rintro rfl
              cases (World.exec (.assign entry seat f heldAt) ch t.pre.state).1 <;> rfl
  | invoke call => exact Iff.rfl
  | tick ms => exact Iff.rfl

/-- What a transition of a run does to the waitlist. -/
inductive QueueEffect (t : SkyTransition) : Prop
  | same (hnone : requeued? t = none) (heq : t.post.state.db.waitlist = t.pre.state.db.waitlist)
  | write {a : Action} (hsome : requeued? t = some a) (hwarrant : a.Warrant t.pre.state)
      (hwrite : Requeues t.pre.state.db.queue a t.post.state.db.queue)

lemma step_requeues {l : SkyLabel} {c' : SkyConfig} (hw : w.Seeded)
    (h : (skyHigh cfg).Run (.init w) ts c) (hstep : (skyHigh cfg).step l c = some c') :
    QueueEffect ⟨c, l, c'⟩ := by
  rcases (skyHigh cfg).step_cases hstep with ⟨call, rfl, rfl⟩ | ⟨ms, rfl, rfl⟩ |
    ⟨k, ch, call, a, cont, rfl, hk, rfl⟩
  · exact .same rfl rfl
  · exact .same rfl rfl
  · have hwarrant := (run_warrant hw h hk).1
    rcases exec_requeues (run_linked hw h) (run_pre hw h hk) hwarrant
      (Prod.mk.eta (p := World.exec a ch c.state)).symm with ⟨hyes, hwrite⟩ | ⟨hno, heq⟩
    · exact .write (by simp [requeued?, hk, hyes]) hwarrant hwrite
    · exact .same (by simp [requeued?, hk, hno]) heq

/-- **Every transition of a run commits a warranted write to the waitlist, or leaves it as it
is.** -/
theorem run_requeues (hw : w.Seeded) (h : (skyHigh cfg).Run (.init w) ts c) :
    ∀ t ∈ ts, QueueEffect t := by
  intro t ht
  obtain ⟨us, vs, -, hrun, hstep, -⟩ := h.mem_split ht
  exact step_requeues hw hrun hstep

/-- **In every reachable state a passenger has at most one entry on a flight.** -/
lemma run_sole (hw : w.Seeded) (h : (skyHigh cfg).Run (.init w) ts c) : c.state.db.queue.Sole := by
  induction h with
  | nil =>
      intro i j e e' he
      simp [Config.init, Database.queue, hw.waitlist] at he
  | snoc hrun hstep ih =>
      cases step_requeues hw hrun hstep with
      | same _ heq =>
          have hqueue := congrArg Table.get? heq
          rw [Database.queue, hqueue]
          exact ih
      | write _ _ hwrite => exact hwrite.sole ih

end Runs

end SkyHighCore
