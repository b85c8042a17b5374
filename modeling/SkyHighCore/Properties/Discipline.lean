import SkyHighCore.Properties.Confirmation

/-!
# What every call owes the others

The contract of the services, and the proof that each of them meets it under any interference.
A call may rely on `World.Progress`: rows keep their identity, time does not run backwards, the
Payment Service forgets no request.  In return every action it performs meets `Action.Pre`.
-/

namespace SkyHighCore

open Framework

/-! ## The protocol -/

/-- The contract of a call. -/
def contract (cfg : Settings) : SkyContract World where
  exec a w r w' := ∃ ch, True ∧ World.exec a ch w = (r, w')
  inv w := w.db.bookings.Linked
  rely := World.Progress
  guar a w _ _ := a.Pre cfg w

/-- Every call under the same contract. -/
def discipline (cfg : Settings) : Protocol (skyHigh cfg) where
  admits _ _ _ := True
  inv w := w.db.bookings.Linked
  rely _ := World.Progress
  guar _ a w _ _ := a.Pre cfg w

lemma discipline_lawful (cfg : Settings) : (discipline cfg).Lawful where
  rely_refl _ w _ := .refl w
  rely_trans _ _ _ _ h h' := h.trans h'
  inv_step := by
    rintro call a w r w' hlinked ⟨ch, -, h⟩ hpre
    exact exec_linked hlinked hpre h
  inv_tick _ _ h := h
  rely_tick _ ms w _ := w.progress_tick ms

/-- The contract asks nothing of harmless actions. -/
lemma contract_tolerant (cfg : Settings) : Tolerant (contract cfg) where
  exec := fun ⟨ch, _, he⟩ => ⟨ch, _, congrArg Prod.fst he⟩
  harmless := by
    rintro a w r w' ha hlinked ⟨ch, -, he⟩
    have hpre : a.Pre cfg w := Action.harmless_pre ha w
    exact ⟨hpre, exec_progress hlinked hpre he⟩

/-! ## Facts that survive interference -/

/-- A fact about the world that no progress destroys. -/
def Stable (F : World → Prop) : Prop := ∀ w w', w.Progress w' → F w → F w'

lemma Stable.kept {F : World → Prop} (hF : Stable F) {cfg : Settings} : Kept (contract cfg) F := hF

lemma Stable.true : Stable fun _ => True := fun _ _ _ _ => trivial

lemma Stable.and {F G : World → Prop} (hF : Stable F) (hG : Stable G) :
    Stable fun w => F w ∧ G w :=
  fun w w' h hw => ⟨hF w w' h hw.1, hG w w' h hw.2⟩

lemma stable_const (P : Prop) : Stable fun _ => P := fun _ _ _ h => h

lemma stable_seatOn (s : SeatId) (f : FlightId) : Stable fun w => w.db.bookings.SeatOn s f :=
  fun _ _ h => .evolves h.bookings

lemma stable_has (snap : CheckIn) : Stable fun w => w.db.bookings.Has snap :=
  fun _ _ h => .evolves h.bookings

lemma stable_hasHold (seat : Seat) (p : PassengerId) (t : Time) :
    Stable fun w => w.db.bookings.HasHold seat p t :=
  fun _ _ h => .evolves h.bookings

lemma stable_now (t : Time) : Stable fun w => t ≤ w.now :=
  fun _ _ h ht => ht.trans h.now

lemma stable_charged (request : PaymentRequestDto) (transactionId : Option String) :
    Stable fun w => w.Charged request transactionId :=
  fun _ _ h ⟨e, he, hr⟩ => ⟨e, h.payments.subset he, hr⟩

/-! ## Every call meets its contract -/

/-- From `w` on, every action of `p` meets its precondition. -/
def Disciplined (cfg : Settings) {α : Type} (p : Program α) (w : World) : Prop :=
  p.wp (contract cfg) (fun _ _ => True) w

namespace Disciplined

variable {cfg : Settings} {α β : Type} {w : World} {F : World → Prop}

lemma of_harmless {p : Program α} (hp : Harmless p) : Disciplined cfg p w :=
  wp_harmless (contract_tolerant cfg) Stable.true.kept hp trivial

/-- A program that is followed by another one, which starts from what the first has left. -/
lemma bind_wp {p : Program α} {k : α → Program β} {R : α → World → Prop}
    (hp : p.wp (contract cfg) (fun r w' => ∀ a, r = .ok a → R a w') w)
    (hk : ∀ a w', R a w' → Disciplined cfg (k a) w') : Disciplined cfg (p >>= k) w := by
  refine Prog.wp_bind (Prog.wp_mono (fun r w' hr => ?_) hp)
  cases r with
  | ok a => exact hk a w' (hr a rfl)
  | error e => trivial

lemma bind_harmless {p : Program α} {k : α → Program β} (hF : Stable F) (hp : Harmless p)
    (hw : F w) (hk : ∀ a w', F w' → Disciplined cfg (k a) w') : Disciplined cfg (p >>= k) w := by
  have hkeeps := wp_harmless (contract_tolerant cfg) hF.kept hp hw
  exact bind_wp (R := fun _ => F) (Prog.wp_mono (fun _ _ h _ _ => h) hkeeps) hk

lemma bind {p : Program α} {k : α → Program β} (hp : Disciplined cfg p w)
    (hk : ∀ a w', Disciplined cfg (k a) w') : Disciplined cfg (p >>= k) w :=
  bind_wp (R := fun _ _ => True) (Prog.wp_mono (fun _ _ _ _ _ => trivial) hp)
    fun a w' _ => hk a w'

lemma map {p : Program α} {f : α → β} (hp : Disciplined cfg p w) : Disciplined cfg (f <$> p) w :=
  Prog.wp_map hp

lemma andThen {p : Program α} {k : Except AppException α → Program β}
    (hp : Disciplined cfg p w) (hk : ∀ r w', Disciplined cfg (k r) w') :
    Disciplined cfg (p.andThen k) w :=
  (Prog.wp_andThen p k _ w).mpr (Prog.wp_mono (fun r w' _ => hk r w') hp)

lemma tryFinally {p : Program α} {fin : Program Unit} (hp : Disciplined cfg p w)
    (hfin : Harmless fin) : Disciplined cfg (p.tryFinally fin) w := by
  refine hp.andThen fun r w' => (of_harmless hfin).andThen fun r' w'' => ?_
  cases r' with
  | ok _ => trivial
  | error _ => trivial

lemma tryCatch {p : Program α} {handler : AppException → Program α} (hp : Disciplined cfg p w)
    (hh : ∀ e, Harmless (handler e)) : Disciplined cfg (p.tryCatch handler) w := by
  refine hp.andThen fun r w' => ?_
  cases r with
  | ok _ => trivial
  | error e => exact of_harmless (hh e)

/-- An action that what survives until it is performed justifies. -/
lemma act {a : Action} (hF : Stable F) (hw : F w)
    (hpre : ∀ w₁, F w₁ → a.Pre cfg w₁) : Disciplined cfg (SkyHighCore.act a) w :=
  wp_act hF.kept hw fun w₁ _ _ hw₁ _ _ => ⟨hpre w₁ hw₁, trivial⟩

/-- A read on whose outcome the rest of the program relies. -/
lemma bind_read {a : Action} {k : a.Res → Program β} {R : a.Res → World → Prop}
    (ha : a.harmless = true) (hread : ∀ w₁ ch v w₂, w₁.db.bookings.Linked →
      World.exec a ch w₁ = (.ok v, w₂) → R v w₂)
    (hk : ∀ v w', R v w' → Disciplined cfg (k v) w') :
    Disciplined cfg (SkyHighCore.act a >>= k) w := by
  refine bind_wp (R := R) ?_ hk
  refine wp_harmless_act (contract_tolerant cfg) ha Stable.true.kept trivial ?_
  rintro w₁ r w₂ - hlinked ⟨ch, -, he⟩ - v rfl
  exact hread w₁ ch v w₂ hlinked he

lemma bind_dateNow {k : Time → Program β} (hF : Stable F) (hw : F w)
    (hk : ∀ t w', F w' ∧ t ≤ w'.now → Disciplined cfg (k t) w') :
    Disciplined cfg (dateNow >>= k) w := by
  refine Prog.wp_bind (wp_harmless_act (contract_tolerant cfg) rfl hF.kept hw ?_)
  rintro w₁ r w₂ - - ⟨ch, -, he⟩ hw₂
  cases he
  exact hk w₁.now w₁ ⟨hw₂, le_refl _⟩

end Disciplined

/-! ### The services -/

namespace CheckInService

variable {cfg : Settings} {w : World}

lemma disciplined_holdSeatWithinLock {p : PassengerId} {f : FlightId} {s : SeatId}
    (hw : w.db.bookings.SeatOn s f) : Disciplined cfg (holdSeatWithinLock p f s) w := by
  have hF := stable_seatOn s f
  refine .bind_harmless hF (harmless_act rfl) hw fun seat w₁ hw₁ => ?_
  refine .bind_harmless hF Prog.all_throwWhen hw₁ fun _ w₂ hw₂ => ?_
  refine .bind_dateNow hF hw₂ fun heldAt w₃ hw₃ => ?_
  refine .bind (.act (hF.and (stable_now heldAt)) hw₃ fun _ h => h) fun checkIn w₄ => ?_
  refine .bind (.of_harmless (harmless_act rfl)) fun _ w₅ => ?_
  exact .bind (.of_harmless (harmless_invalidateCache f)) fun _ _ => trivial

lemma wp_validateSeatBelongsToFlight {s : SeatId} {f : FlightId} :
    (validateSeatBelongsToFlight s f).wp (contract cfg)
      (fun r w' => ∀ u, r = .ok u → w'.db.bookings.SeatOn s f) w := by
  refine Prog.wp_bind (wp_harmless_act (contract_tolerant cfg) rfl Stable.true.kept trivial ?_)
  rintro w₁ r w₂ - - ⟨ch, -, he⟩ -
  cases r with
  | error e => exact fun _ h => nomatch h
  | ok found =>
      cases found with
      | none => exact fun _ h => nomatch h
      | some seat =>
          obtain ⟨rfl, hseat, hid, hf, -⟩ := exec_findOneSeat he
          obtain rfl : seat.id = s := hid s rfl
          exact fun _ _ => ⟨seat, hseat, hf f rfl⟩

theorem disciplined_startCheckIn (p : PassengerId) (dto : StartCheckInRequestDto) :
    Disciplined cfg (startCheckIn p dto) w := by
  refine .bind (.of_harmless (idle_validateFlightExists _).harmless) fun _ w₁ => ?_
  refine .bind_wp wp_validateSeatBelongsToFlight fun _ w₂ hw₂ => ?_
  have hF := stable_seatOn dto.seatId dto.flightId
  refine .bind_harmless hF (idle_validateNoActiveCheckIn _ _).harmless hw₂ fun _ w₃ hw₃ => ?_
  refine .tryCatch ?_ fun e => (idle_countAndRethrow _ e).harmless
  refine .bind_harmless hF (harmless_act rfl) hw₃ fun _ w₄ hw₄ => ?_
  exact (disciplined_holdSeatWithinLock hw₄).tryFinally (harmless_act rfl)

lemma stable_settled (checkIn : CheckIn) (weight : ℚ) (paymentId : Option String) :
    Stable fun w => cfg.Settled w checkIn weight paymentId :=
  fun _ _ h hw => hw.imp_right fun hc => ⟨hc.1, stable_charged _ _ _ _ h hc.2⟩

/-- What a confirmation knows at each stage. -/
def disciplinedOutline (cfg : Settings) (i : CheckInId) (p : PassengerId) (weight : ℚ) :
    ConfirmOutline cfg (contract cfg) i p weight where
  before _ := True
  found c w := w.db.bookings.Has c ∧ c.status.isOpen = true
  paused c w := w.db.bookings.Has c ∧ c.status.isOpen = true
  paid c transactionId w := (w.db.bookings.Has c ∧ c.status.isOpen = true) ∧
    w.Charged (paymentRequest c (cfg.feeOf weight)) transactionId
  after _ := True
  kept_before := Stable.true.kept
  kept_found c := ((stable_has c).and (stable_const _)).kept
  kept_paused c := ((stable_has c).and (stable_const _)).kept
  kept_paid c _ := (((stable_has c).and (stable_const _)).and (stable_charged _ _)).kept
  kept_after := Stable.true.kept
  read := by
    rintro c w w' - - ⟨ch, -, he⟩ hopen
    obtain ⟨rfl, hc, -⟩ := exec_findOneCheckIn he
    exact ⟨⟨c, hc, .rfl⟩, hopen⟩
  complete := fun _ hw hwithin _ => ⟨⟨hw.1, hw.2, .inl ⟨hwithin, rfl⟩⟩, trivial⟩
  pause := by
    rintro c w r w' hlinked hw hover ⟨ch, -, he⟩
    have hpre : (Action.awaitPayment c weight (cfg.feeOf weight)).Pre cfg w :=
      ⟨hw.1, hw.2, hover, rfl⟩
    refine ⟨hpre, ?_⟩
    cases r with
    | error e => trivial
    | ok _ => exact ⟨stable_has c _ _ (exec_progress hlinked hpre he) hw.1, hw.2⟩
  pay := by
    rintro c w r w' hlinked hw ⟨ch, -, he⟩
    have hpre : (Action.postPayment (paymentRequest c (cfg.feeOf weight))).Pre cfg w := trivial
    have hw' := And.intro (stable_has c _ _ (exec_progress hlinked hpre he) hw.1) hw.2
    refine ⟨hpre, ?_⟩
    cases r with
    | error e => exact hw'
    | ok response =>
        dsimp only
        split
        · exact ⟨hw', charged_of_confirmed he ‹_›⟩
        · exact hw'
  settle := fun _ hw hover _ => ⟨⟨hw.1.1, hw.1.2, .inr ⟨hover, hw.2⟩⟩, trivial⟩
  after_of_before := fun _ => trivial
  after_of_found := fun _ => trivial
  after_of_paused := fun _ => trivial

theorem disciplined_confirmCheckIn (i : CheckInId) (p : PassengerId)
    (dto : UpdateCheckInRequestDto) : Disciplined cfg (confirmCheckIn cfg i p dto) w :=
  (disciplinedOutline cfg i p _).wp_confirmCheckIn (contract_tolerant cfg) rfl trivial

/-- The row that was found exists, and is the caller's. -/
lemma wp_findCheckInOrThrow {i : CheckInId} {p : PassengerId} :
    (findCheckInOrThrow i p).wp (contract cfg) (fun r w' => ∀ c, r = .ok c →
      w'.db.bookings.Has c ∧ c.id = i ∧ c.passengerId = p) w := by
  refine Prog.wp_bind (wp_harmless_act (contract_tolerant cfg) rfl Stable.true.kept trivial ?_)
  rintro w₁ r w₂ - - ⟨ch, -, he⟩ -
  cases r with
  | error e => exact fun _ h => nomatch h
  | ok found =>
      cases found with
      | none => exact fun _ h => nomatch h
      | some c =>
          obtain ⟨rfl, hc, hid, hp, -⟩ := exec_findOneCheckIn he
          rintro _ ⟨⟩
          exact ⟨⟨c, hc, .rfl⟩, hid i rfl, hp p rfl⟩

theorem disciplined_cancelCheckIn (i : CheckInId) (p : PassengerId) :
    Disciplined cfg (cancelCheckIn i p) w := by
  refine .bind_wp wp_findCheckInOrThrow fun checkIn w₁ ⟨hw₁, hid, hp⟩ => ?_
  have hF := stable_has checkIn
  refine .bind_harmless hF (harmless_act rfl) hw₁ fun flight w₂ hw₂ => ?_
  refine .bind_harmless hF Prog.all_throwWhen hw₂ fun _ w₃ hw₃ => ?_
  refine .bind_harmless hF (harmless_act rfl) hw₃ fun cancelledAt w₄ hw₄ => ?_
  refine .bind (.act hF hw₄ fun _ h => ⟨h, hid, hp⟩) fun _ w₅ => ?_
  refine .bind (.of_harmless (harmless_dropHold checkIn)) fun _ w₆ => ?_
  exact .bind (.of_harmless (harmless_act rfl)) fun _ _ => trivial

end CheckInService

namespace HoldExpiryService

variable {cfg : Settings} {w : World}

/-- A held seat that was read has a holder, an instant and a check-in behind it. -/
lemma hasHold_of_held (hlinked : w.db.bookings.Linked) {seat : Seat}
    (hseat : w.db.seats.get? seat.id = some seat) (hheld : seat.status = .held) :
    ∃ p h, w.db.bookings.HasHold seat p h := by
  have hwf := hlinked.wellFormed _ seat hseat
  obtain ⟨p, hp⟩ := Option.ne_none_iff_exists'.mp (hwf.held hheld)
  obtain ⟨h, hh⟩ := Option.ne_none_iff_exists'.mp (mt hwf.paired.mpr (hwf.held hheld))
  obtain ⟨i, c, hc, hcp, hcf, -⟩ := hlinked.holder _ seat p hseat hp
  exact ⟨p, h, hp, hh, ⟨i, c, hc, hcp, hcf⟩, seat, hseat, rfl, fun _ => hh⟩

lemma holdExpiry_eq {seat : Seat} {h : Time} (hh : seat.heldAt = some h) :
    holdExpiry seat = h + seatHoldTtl * 1000 := by
  unfold holdExpiry
  rw [hh]
  simp only [Option.getD_some]

theorem disciplined_releaseSeatWithinLock (s : SeatId) :
    Disciplined cfg (releaseSeatWithinLock s) w := by
  refine .bind_read (R := fun found w' => ∀ seat, found = some seat → seat.status = .held →
    ∃ p h, w'.db.bookings.HasHold seat p h) rfl ?_ fun found w₁ hw₁ => ?_
  · rintro w₁ ch found w₂ hlinked he seat rfl hheld
    obtain ⟨rfl, hseat, -⟩ := exec_findOneSeat he
    exact hasHold_of_held hlinked hseat hheld
  cases found with
  | none => trivial
  | some seat =>
      show Disciplined cfg (if _ then _ else _) w₁
      split
      · trivial
      · rename_i hheld
        obtain ⟨p, h, hw₁⟩ := hw₁ seat rfl (not_not.mp hheld)
        refine .bind_dateNow (stable_hasHold seat p h) hw₁ fun now w₂ hw₂ => ?_
        show Disciplined cfg (if _ then _ else _) w₂
        split
        · trivial
        · rename_i hdue
          refine .bind (.act ((stable_hasHold seat p h).and (stable_now now)) hw₂ ?_)
            fun affected w₃ => ?_
          · intro w₃ hw₃
            rw [holdExpiry_eq hw₃.1.heldAt] at hdue
            exact ⟨p, h, hw₃.1, (not_lt.mp hdue).trans hw₃.2⟩
          · show Disciplined cfg (if _ then _ else _) w₃
            split
            · exact .of_harmless (harmless_afterRelease seat)
            · trivial

theorem disciplined_releaseSeat (s : SeatId) : Disciplined cfg (releaseSeat s) w := by
  refine .andThen (.of_harmless (harmless_act rfl)) fun r w₁ => ?_
  cases r with
  | error e => trivial
  | ok _ => exact (disciplined_releaseSeatWithinLock s).tryFinally (harmless_act rfl)

lemma disciplined_handleHoldExpired (s : SeatId) : Disciplined cfg (handleHoldExpired s) w :=
  .bind (disciplined_releaseSeat s) fun _ _ => trivial

theorem disciplined_sweepExpiredHolds : Disciplined cfg sweepExpiredHolds w := by
  refine .bind (.of_harmless (harmless_act rfl)) fun now w₁ => ?_
  refine .bind (.of_harmless (harmless_act rfl)) fun staleSeats w₂ => ?_
  refine Prog.wp_forEach (fun seat _ w _ => ?_) trivial
  exact Disciplined.bind (disciplined_releaseSeat seat.id) fun _ _ => trivial

end HoldExpiryService

namespace WaitlistService

variable {cfg : Settings} {w : World}

theorem disciplined_processWaitlistWithinLock (f : FlightId) (s : Option SeatId) :
    Disciplined cfg (processWaitlistWithinLock f s) w := by
  refine .bind (.of_harmless (harmless_act rfl)) fun next w₁ => ?_
  cases next with
  | none => trivial
  | some entry =>
      refine .bind_read (R := fun found w' => ∀ seat, found = some seat →
        w'.db.bookings.SeatOn seat.id f) rfl ?_ fun found w₂ hw₂ => ?_
      · rintro w₁ ch found w₂ - he seat rfl
        obtain ⟨rfl, hseat, -, hf, -⟩ := exec_findOneSeat he
        exact ⟨seat, hseat, hf f rfl⟩
      cases found with
      | none => trivial
      | some seat =>
          have hF := stable_seatOn seat.id f
          refine .bind_dateNow hF (hw₂ seat rfl) fun heldAt w₃ hw₃ => ?_
          refine .bind (.act (hF.and (stable_now heldAt)) hw₃ fun _ h => h) fun assigned w₄ => ?_
          show Disciplined cfg (if _ then _ else _) w₄
          split
          · refine .bind (.of_harmless (harmless_act rfl)) fun _ w₅ => ?_
            refine .bind (.of_harmless (harmless_invalidateCache f)) fun _ w₆ => ?_
            exact .of_harmless (harmless_act rfl)
          · trivial

theorem disciplined_processWaitlist (f : FlightId) (s : Option SeatId) :
    Disciplined cfg (processWaitlist f s) w := by
  refine .andThen (.of_harmless (harmless_act rfl)) fun r w₁ => ?_
  cases r with
  | error e => trivial
  | ok _ => exact (disciplined_processWaitlistWithinLock f s).tryFinally (harmless_act rfl)

end WaitlistService

/-- **Every call meets its contract**, from any state. -/
theorem disciplined_program (cfg : Settings) (call : Call) (w : World) :
    Disciplined cfg (call.program cfg) w := by
  cases call with
  | startCheckIn p dto => exact .map (CheckInService.disciplined_startCheckIn p dto)
  | confirmCheckIn i p dto => exact .map (CheckInService.disciplined_confirmCheckIn i p dto)
  | cancelCheckIn i p => exact .map (CheckInService.disciplined_cancelCheckIn i p)
  | handleHoldExpired s => exact .map (HoldExpiryService.disciplined_handleHoldExpired s)
  | releaseSeat s => exact .map (HoldExpiryService.disciplined_releaseSeat s)
  | sweepExpiredHolds => exact .map HoldExpiryService.disciplined_sweepExpiredHolds
  | processWaitlist f s => exact .map (WaitlistService.disciplined_processWaitlist f s)
  | joinWaitlist p f => exact .map (.of_harmless (WaitlistService.harmless_joinWaitlist p f))
  | leaveWaitlist i p => exact .map (.of_harmless (WaitlistService.harmless_leaveWaitlist i p))
  | getSeatMap f => exact .map (.of_harmless (harmless_getSeatMap f))

end SkyHighCore
