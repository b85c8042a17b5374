import SkyHighCore.Properties.Outcomes

/-!
# The records of the calls

Each service is walked through with its record.  Until its first write a call is `Untouched`, and
every check it fails shows in the last read; from then on only an action can fail, and no longer by
refusing the request.  `recorded_program` sums up: what a call that has ended shows, and that its
writes are made with its own arguments.
-/

namespace SkyHighCore

open Framework

/-! ## Starting a check-in -/

namespace CheckInService

variable {tr : SkyRecord} {p : PassengerId} {dto : StartCheckInRequestDto}

lemma recorded_validateFlightExists (htr : Untouched tr) :
    Recorded (.startCheckIn p dto) (validateFlightExists dto.flightId)
      (fun _ tr' => Untouched tr' ∧ FlightFound dto.flightId tr') tr := by
  refine recorded_bind (writes_of_no_rows rfl) rfl (.inl htr) fun flight _ => ?_
  cases flight with
  | none => exact .throw ⟨.inr (List.mem_append_right _ List.mem_cons_self), fun _ => htr.snoc rfl⟩
  | some flight => exact .pure ⟨htr.snoc rfl, flight, List.mem_append_right _ List.mem_cons_self⟩

lemma recorded_validateSeatBelongsToFlight (htr : Untouched tr)
    (hflight : FlightFound dto.flightId tr) :
    Recorded (.startCheckIn p dto) (validateSeatBelongsToFlight dto.seatId dto.flightId)
      (fun _ tr' => Untouched tr' ∧ FlightFound dto.flightId tr' ∧ SeatFound dto tr') tr := by
  refine recorded_bind (writes_of_no_rows rfl) rfl (.inl htr) fun seat _ => ?_
  cases seat with
  | none => exact .throw ⟨.inr (List.mem_append_right _ List.mem_cons_self), fun _ => htr.snoc rfl⟩
  | some seat =>
      exact .pure ⟨htr.snoc rfl, hflight.append, seat, List.mem_append_right _ List.mem_cons_self⟩

lemma recorded_validateNoActiveCheckIn (htr : Untouched tr)
    (hflight : FlightFound dto.flightId tr) (hseat : SeatFound dto tr) :
    Recorded (.startCheckIn p dto) (validateNoActiveCheckIn p dto.flightId)
      (fun _ tr' => Untouched tr' ∧ FlightFound dto.flightId tr' ∧ SeatFound dto tr') tr := by
  refine recorded_bind (writes_of_no_rows rfl) rfl (.inl htr) fun existing _ => ?_
  cases existing with
  | none => exact .pure ⟨htr.snoc rfl, hflight.append, hseat.append⟩
  | some c =>
      refine .throwWhen (fun hactive => ?_) fun _ => ⟨htr.snoc rfl, hflight.append, hseat.append⟩
      exact ⟨.inr ⟨c, hactive, List.mem_append_right _ List.mem_cons_self⟩, fun _ => htr.snoc rfl⟩

/-- A hold that is answered has been written, and nothing else. -/
lemma recorded_holdSeatWithinLock (htr : Untouched tr) (hflight : FlightFound dto.flightId tr)
    (hfound : SeatFound dto tr) :
    Recorded (.startCheckIn p dto) (holdSeatWithinLock p dto.flightId dto.seatId)
      (fun response tr' => ∀ cfg, (Call.startCheckIn p dto).Acknowledges cfg (.checkIn response)
        (writes tr')) tr := by
  refine recorded_bind (writes_of_no_rows rfl) rfl (.inl htr) fun seat _ => ?_
  have htr₁ : Untouched (tr ++ [⟨.findOneSeat { id := some dto.seatId }, .ok seat⟩]) :=
    htr.snoc rfl
  refine .throwWhen_bind (fun htaken => ?_) fun _ => ?_
  · exact ⟨.inr ⟨seat, htaken, hfound.append, List.mem_append_right _ List.mem_cons_self⟩,
      fun _ => htr₁⟩
  refine recorded_bind (writes_of_no_rows rfl) rfl (.inl htr₁) fun heldAt _ => ?_
  have htr₂ := htr₁.snoc (a := .dateNow) (r := .ok heldAt) rfl
  refine recorded_bind (a := .holdSeat p dto.flightId dto.seatId heldAt)
    ⟨⟨rfl, rfl, rfl⟩, hflight.append.append⟩ rfl (.inl htr₂) fun c hc => ?_
  obtain ⟨hp, hf, hs, hst⟩ := possible_holdSeat hc
  refine recorded_bind (a := .setSeatHold dto.seatId p seatHoldTtl) (writes_of_no_rows rfl) rfl
    (.inr rfl) fun _ _ => ?_
  refine (recorded_invalidateCache dto.flightId).bind fun _ tr' htr' => ?_
  refine .pure fun cfg => ⟨heldAt, ?_, hp, hf, hs, hst, rfl⟩
  rw [htr'.2, writes_append, writes_append, htr₂.writes_eq]
  rfl

theorem recorded_startCheckIn :
    Recorded (.startCheckIn p dto) (startCheckIn p dto)
      (fun response tr' => ∀ cfg, (Call.startCheckIn p dto).Acknowledges cfg (.checkIn response)
        (writes tr')) [] := by
  refine (recorded_validateFlightExists untouched_nil).bind fun _ tr₁ h₁ => ?_
  refine (recorded_validateSeatBelongsToFlight h₁.1 h₁.2).bind fun _ tr₂ h₂ => ?_
  refine (recorded_validateNoActiveCheckIn h₂.1 h₂.2.1 h₂.2.2).bind fun _ tr₃ h₃ => ?_
  obtain ⟨htr₃, hflight, hfound⟩ := h₃
  refine .tryCatch (E := (Call.startCheckIn p dto).Ends) ?_ fun e tr' he => ?_
  · refine recorded_bind (writes_of_no_rows rfl) rfl (.inl htr₃) fun _ _ => ?_
    refine recorded_withLock
      (recorded_holdSeatWithinLock (htr₃.snoc rfl) hflight.append hfound.append) ?_
    intro response tr' r h cfg
    rw [writes_append, writes_single, show Action.wrote _ r = false from rfl]
    simpa using h cfg
  · refine .bind (Q := fun _ tr'' => (Call.startCheckIn p dto).Ends e tr'') ?_ fun _ _ h => .throw h
    unfold countContention
    split
    · exact recorded_act (writes_of_no_rows rfl) rfl (.inr rfl) fun _ _ => he.snoc rfl
    · exact .pure he

/-! ## Cancelling a check-in -/

lemma recorded_findCheckInOrThrow (call : Call) {i : CheckInId} {p : PassengerId}
    (hthrows : ∀ tr detail,
      ⟨.findOneCheckIn { id := some i, passengerId := some p }, .ok none⟩ ∈ tr →
        call.Throws tr (.checkInNotFound detail)) (htr : Untouched tr) :
    Recorded call (findCheckInOrThrow i p) (fun c tr' => Untouched tr' ∧ c.id = i ∧
      c.passengerId = p ∧ FoundOwn i p c tr') tr := by
  refine recorded_bind (writes_of_no_rows rfl) rfl (.inl htr) fun found hfound => ?_
  cases found with
  | none =>
      refine .throw ⟨.inr (hthrows _ _ ?_), fun _ => htr.snoc rfl⟩
      exact List.mem_append_right _ List.mem_cons_self
  | some c =>
      obtain ⟨hid, hp, -⟩ := possible_findOneCheckIn hfound
      exact .pure ⟨htr.snoc rfl, hid i rfl, hp p rfl, List.mem_append_right _ List.mem_cons_self⟩

theorem recorded_cancelCheckIn (i : CheckInId) (p : PassengerId) :
    Recorded (.cancelCheckIn i p) (cancelCheckIn i p)
      (fun response tr' => ∀ cfg, (Call.cancelCheckIn i p).Acknowledges cfg (.cancelled response)
        (writes tr')) [] := by
  refine (recorded_findCheckInOrThrow (.cancelCheckIn i p) (fun _ _ h => h) untouched_nil).bind
    fun snap tr₁ ⟨htr₁, hid, hp, hsnap⟩ => ?_
  refine recorded_bind (a := .findOneFlight snap.flightId) (writes_of_no_rows rfl) rfl (.inl htr₁)
    fun flight _ => ?_
  have htr₂ := htr₁.snoc (a := .findOneFlight snap.flightId) (r := .ok flight) rfl
  refine .throwWhen_bind (fun hdeparted => ⟨.inr ?_, fun _ => htr₂⟩) fun _ => ?_
  · obtain ⟨f, rfl, hf⟩ := hdeparted
    exact ⟨snap, f, hf, hsnap.andThen⟩
  refine recorded_bind (writes_of_no_rows rfl) rfl (.inl htr₂) fun cancelledAt _ => ?_
  have htr₃ := htr₂.snoc (a := .dateNow) (r := .ok cancelledAt) rfl
  refine recorded_bind (a := .cancel snap i p) ⟨hid, hp, rfl, rfl⟩ rfl (.inl htr₃) fun _ _ => ?_
  refine (recorded_dropHold snap).bind fun _ tr₄ htr₄ => ?_
  refine recorded_bind (writes_of_no_rows rfl) rfl (.inr rfl) fun _ _ => ?_
  refine .pure fun cfg => ⟨rfl, snap, hid, hp, ?_⟩
  rw [writes_append, htr₄.2, writes_append, htr₃.writes_eq]
  rfl

/-! ## Confirming a check-in -/

section Confirm

variable {cfg : Settings} {i : CheckInId} {p : PassengerId} {body : UpdateCheckInRequestDto}
  {snap : CheckIn}

/-- A check-in that is closed, or whose hold key is gone, is not confirmed. -/
lemma recorded_validateHoldNotExpired (htr : Untouched tr) (hsnap : FoundOwn i p snap tr) :
    Recorded (.confirmCheckIn i p body) (validateHoldNotExpired snap)
      (fun _ tr' => Untouched tr' ∧ FoundOwn i p snap tr') tr := by
  refine .throwWhen_bind (fun hclosed => ⟨.inr ⟨snap, .inl ⟨?_, hsnap⟩⟩, fun _ => htr⟩) fun _ => ?_
  · cases hst : snap.status <;> simp_all [CheckInStatus.isOpen]
  unfold validateHoldKey
  split
  · exact .pure ⟨htr, hsnap⟩
  · rename_i s hs
    refine recorded_bind (writes_of_no_rows rfl) rfl (.inl htr) fun holdExists _ => ?_
    refine .throwWhen (fun hgone => ?_) fun _ => ⟨htr.snoc rfl, hsnap.append⟩
    subst hgone
    exact ⟨.inr ⟨snap, .inr ⟨s, hs, hsnap.andThen⟩⟩, fun _ => htr.snoc rfl⟩

/-- The Weight Service fails or answers; the call goes on. -/
lemma recorded_validateAndCalculateFee (weight : ℚ) (htr : Untouched tr)
    (hsnap : FoundOwn i p snap tr) :
    Recorded (.confirmCheckIn i p body) (BaggageService.validateAndCalculateFee cfg p weight)
      (fun result tr' => result = BaggageService.calculateFee cfg weight ∧ Untouched tr' ∧
        FoundOwn i p snap tr') tr := by
  refine .bind (Q := fun _ tr' => Untouched tr' ∧ FoundOwn i p snap tr') ?_
    fun _ _ h => .pure ⟨rfl, h⟩
  refine .tryCatch (E := fun _ tr' => Untouched tr' ∧ FoundOwn i p snap tr') ?_
    fun _ _ h => .pure h
  exact .perform_bind (writes_of_no_rows rfl) (fun _ _ => ⟨htr.snoc rfl, hsnap.append⟩)
    fun _ _ => .pure ⟨htr.snoc rfl, hsnap.append⟩

lemma recorded_completeCheckIn {paymentId : Option String} {c : CheckIn}
    (hsnap : FoundOwn i p snap tr) (hsnapId : snap.id = i) (hid : c.id = i)
    (hp : c.passengerId = p) :
    Recorded (.confirmCheckIn i p body) (completeCheckIn c (declaredWeight body) paymentId)
      (fun response tr' => response.confirmedAt.isSome = true ∧ response.message = none ∧
        writes tr' = writes tr ++ [.complete c (declaredWeight body) paymentId]) tr := by
  refine recorded_bind (writes_of_no_rows rfl) rfl (.inr rfl) fun confirmedAt _ => ?_
  refine recorded_bind (a := .complete c (declaredWeight body) paymentId) ⟨hid, hp, rfl⟩ rfl
    (.inr rfl) fun _ _ => ?_
  refine (recorded_dropHold c).bind fun _ tr₁ htr₁ => ?_
  have hwrites : writes tr₁ = writes tr ++ [.complete c (declaredWeight body) paymentId] := by
    rw [htr₁.2, writes_append, writes_append]
    exact congrArg (· ++ _) (List.append_nil _)
  refine .bind (Q := fun _ tr' => Extends tr₁ tr') ?_ fun d tr₂ htr₂ => ?_
  · refine recorded_bind (a := .findOneCheckIn { id := some c.id }) (writes_of_no_rows rfl) rfl
      (.inr rfl) fun found _ => ?_
    cases found with
    | none =>
        subst hid
        refine .throw ⟨.inr ⟨snap, ?_⟩, fun hrefuses => by cases hrefuses⟩
        rw [hsnapId]
        exact (hsnap.append.append.extends htr₁).andThen
    | some d => exact .pure ((Extends.refl tr₁).snoc rfl)
  · exact .pure ⟨rfl, rfl, htr₂.2.trans hwrites⟩

lemma recorded_attempts {call : Call} (request : PaymentRequestDto) (remaining attempt : ℕ)
    (lastError : Option AppException) :
    Recorded call (PaymentService.attempts cfg request remaining attempt lastError)
      (fun _ tr' => Extends tr tr') tr := by
  induction remaining generalizing attempt lastError tr with
  | zero => exact .pure (.refl tr)
  | succ remaining ih =>
      refine .bind (Q := fun _ tr' => Extends tr tr') ?_ fun _ tr₁ htr₁ => ?_
      · unfold PaymentService.backoff
        split
        · exact recorded_act (writes_of_no_rows rfl) rfl (.inr rfl)
            fun _ _ => (Extends.refl tr).snoc rfl
        · exact .pure (.refl tr)
      · refine .andThen (Q := fun _ tr' => Extends tr tr') (E := fun _ tr' => Extends tr tr') ?_
          (fun _ _ h => .pure h) fun e tr₂ htr₂ => ?_
        · exact .perform (writes_of_no_rows rfl) (fun _ _ => htr₁.snoc rfl)
            fun _ _ => htr₁.snoc rfl
        · exact (ih (attempt + 1) (some e)).mono (fun _ _ h => htr₂.trans h) fun _ _ h => h

lemma recorded_processPayment {call : Call} (request : PaymentRequestDto) :
    Recorded call (PaymentService.processPayment cfg request) (fun _ tr' => Extends tr tr') tr := by
  refine recorded_bind (writes_of_no_rows rfl) rfl (.inr rfl) fun _ _ => ?_
  refine (recorded_attempts request _ 0 none).bind fun result tr₁ htr₁ => ?_
  have htr₂ := ((Extends.refl tr).snoc (a := .auditLog _) (r := .ok ()) rfl).trans htr₁
  refine .bind (Q := fun _ tr' => Extends tr tr') ?_ fun _ _ h => .pure h
  unfold PaymentService.logConfirmed
  split
  · exact recorded_act (writes_of_no_rows rfl) rfl (.inr rfl) fun _ _ => htr₂.snoc rfl
  · exact .pure htr₂

theorem recorded_confirmCheckIn (i : CheckInId) (p : PassengerId)
    (body : UpdateCheckInRequestDto) :
    Recorded (.confirmCheckIn i p body) (confirmCheckIn cfg i p body)
      (fun response tr' => (Call.confirmCheckIn i p body).Acknowledges cfg (.checkIn response)
        (writes tr')) [] := by
  refine (recorded_findCheckInOrThrow (.confirmCheckIn i p body) (fun _ _ h => h)
    untouched_nil).bind fun snap tr₁ ⟨htr₁, hid, hp, hsnap₁⟩ => ?_
  refine (recorded_validateHoldNotExpired htr₁ hsnap₁).bind fun _ tr₂ ⟨htr₂, hsnap₂⟩ => ?_
  refine (recorded_validateAndCalculateFee (declaredWeight body) htr₂ hsnap₂).bind
    fun result tr₃ ⟨hresult, htr₃, hsnap₃⟩ => ?_
  subst hresult
  have hnone : writes tr₃ = [] := htr₃.writes_eq
  split
  · -- the fee has to be paid first
    refine recorded_bind (a := .awaitPayment snap (declaredWeight body) (cfg.declaredFee body))
      ⟨hid, hp, rfl⟩ rfl (.inl htr₃) fun _ _ => ?_
    refine (recorded_processPayment _).bind fun payment tr₄ htr₄ => ?_
    have hsnap₄ : FoundOwn i p snap tr₄ := hsnap₃.append.extends htr₄
    have hpaused : writes tr₄ =
        [.awaitPayment snap (declaredWeight body) (cfg.declaredFee body)] := by
      rw [htr₄.2, writes_append, hnone]
      rfl
    split
    · refine Prog.Records.mono (recorded_completeCheckIn hsnap₄ hid hid hp)
        (fun response tr' h => ?_) fun _ _ h => h
      refine ⟨snap, hid, hp, .inl ⟨h.1, h.2.1, .inr ⟨{ snap with
        baggageWeight := some (declaredWeight body), excessFee := some (cfg.declaredFee body) },
        payment.transactionId, rfl, ?_⟩⟩⟩
      rw [h.2.2, hpaused]
      rfl
    · refine .bind (Q := fun _ tr' => Extends tr₄ tr') ?_ fun updated tr₅ htr₅ => ?_
      · refine recorded_bind (a := .findOneCheckIn { id := some snap.id }) (writes_of_no_rows rfl)
          rfl (.inr rfl) fun found _ => ?_
        cases found with
        | none =>
            exact .throw ⟨.inr ⟨snap, hsnap₄.andThen⟩, fun hrefuses => by cases hrefuses⟩
        | some d => exact .pure ((Extends.refl tr₄).snoc rfl)
      · exact .pure ⟨snap, hid, hp, .inr ⟨rfl, rfl, htr₅.2.trans hpaused⟩⟩
  · refine (recorded_completeCheckIn hsnap₃ hid hid hp).mono
      (fun response tr' h => ?_) fun _ _ h => h
    refine ⟨snap, hid, hp, .inl ⟨h.1, h.2.1, .inl ?_⟩⟩
    rw [h.2.2, hnone]
    rfl

end Confirm

end CheckInService

/-! ## Releasing and assigning seats -/

section Release

variable {call : Call} {tr : SkyRecord}

/-- The call may do what the release of seat `s` does. -/
structure Call.Releases (call : Call) (s : SeatId) : Prop where
  release : ∀ tr, ∀ seat : Seat, seat.id = s → call.Writes tr (.release seat)
  saveWaitlist : ∀ tr entry, call.Writes tr (.saveWaitlist entry)

lemma recorded_saveWaitlist {entry : Waitlist} (hwrites : call.Writes tr (.saveWaitlist entry)) :
    Recorded call (HoldExpiryService.saveWaitlist entry)
      (fun _ tr' => writes tr' = writes tr ++ [.saveWaitlist entry]) tr := by
  refine recorded_act (a := .saveWaitlist entry) hwrites rfl (.inr rfl) fun _ _ => ?_
  rw [writes_append, writes_single]
  rfl

lemma recorded_markWaitlistEntryExpired (hwrites : ∀ tr entry, call.Writes tr (.saveWaitlist entry))
    (f : FlightId) (p : Option PassengerId) :
    Recorded call (HoldExpiryService.markWaitlistEntryExpired f p)
      (fun _ tr' => writes tr' = writes tr ∨
        ∃ entry, writes tr' = writes tr ++ [.saveWaitlist entry]) tr := by
  unfold HoldExpiryService.markWaitlistEntryExpired
  split
  · exact .pure (.inl rfl)
  · refine recorded_bind (writes_of_no_rows rfl) rfl (.inr rfl) fun found _ => ?_
    have hread := ((Extends.refl tr).snoc (a := .findOneWaitlist _) (r := .ok found) rfl).2
    cases found with
    | none => exact .pure (.inl hread)
    | some entry =>
        refine (recorded_saveWaitlist (hwrites _ _)).mono (fun _ tr' h => .inr ?_) fun _ _ h => h
        rw [hread] at h
        exact ⟨_, h⟩

/-- The release of a seat adds its writes to those of the call. -/
lemma recorded_releaseSeatWithinLock {s : SeatId} (hcall : call.Releases s) :
    Recorded call (HoldExpiryService.releaseSeatWithinLock s)
      (fun released tr' => ∃ ws, ReleaseWrites s released ws ∧ writes tr' = writes tr ++ ws)
      tr := by
  have hleft : ∀ {tr'}, Extends tr tr' →
      ∃ ws, ReleaseWrites s false ws ∧ writes tr' = writes tr ++ ws :=
    fun h => ⟨[], rfl, h.2.trans (List.append_nil _).symm⟩
  refine recorded_bind (writes_of_no_rows rfl) rfl (.inr rfl) fun found hfound => ?_
  have htr₁ := (Extends.refl tr).snoc (a := .findOneSeat { id := some s }) (r := .ok found) rfl
  cases found with
  | none => exact .pure (hleft htr₁)
  | some seat =>
      have hid : seat.id = s := (possible_findOneSeat hfound).1 s rfl
      show Recorded call (if _ then _ else _) _ _
      split
      · exact .pure (hleft htr₁)
      refine recorded_bind (writes_of_no_rows rfl) rfl (.inr rfl) fun now _ => ?_
      have htr₂ := htr₁.snoc (a := .dateNow) (r := .ok now) rfl
      show Recorded call (if _ then _ else _) _ _
      split
      · exact .pure (hleft htr₂)
      refine recorded_bind (a := .release seat) (hcall.release _ seat hid) rfl (.inr rfl)
        fun affected _ => ?_
      cases affected with
      | false => exact .pure (hleft (htr₂.snoc (a := .release seat) (r := .ok false) rfl))
      | true =>
          refine (recorded_markWaitlistEntryExpired hcall.saveWaitlist seat.flightId
            seat.heldBy).bind fun _ tr₃ htr₃ => ?_
          rw [writes_append, htr₂.2, writes_single] at htr₃
          refine (recorded_invalidateCache seat.flightId).bind fun _ tr₄ htr₄ => ?_
          refine recorded_bind (writes_of_no_rows rfl) rfl (.inr rfl) fun _ _ => ?_
          refine .pure ?_
          rw [writes_append, htr₄.2, writes_single]
          rcases htr₃ with h | ⟨entry, h⟩
          · exact ⟨[.release seat], ⟨seat, hid, .inl rfl⟩, by rw [h]; exact List.append_nil _⟩
          · exact ⟨[.release seat, .saveWaitlist entry], ⟨seat, hid, .inr ⟨entry, rfl⟩⟩,
              by rw [h]; simp [Action.wrote, Action.committed]⟩

theorem recorded_releaseSeat {s : SeatId} (hcall : call.Releases s) :
    Recorded call (HoldExpiryService.releaseSeat s)
      (fun released tr' => ∃ ws, ReleaseWrites s released ws ∧ writes tr' = writes tr ++ ws)
      tr := by
  refine .andThen (Q := fun _ tr' => Extends tr tr') (E := fun _ tr' => Extends tr tr') ?_
    (fun _ tr₁ htr₁ => ?_)
    fun _ _ htr₁ => .pure ⟨[], rfl, htr₁.2.trans (List.append_nil _).symm⟩
  · exact .perform (writes_of_no_rows rfl) (fun _ _ => (Extends.refl tr).snoc rfl)
      fun _ _ => (Extends.refl tr).snoc rfl
  · rw [← htr₁.2]
    refine recorded_withLock (recorded_releaseSeatWithinLock hcall) ?_
    rintro released tr' r ⟨ws, hws, h⟩
    refine ⟨ws, hws, ?_⟩
    rw [writes_append, writes_single, show Action.wrote _ r = false by cases r <;> rfl, h]
    exact List.append_nil _

theorem recorded_sweepExpiredHolds {cfg : Settings} :
    Recorded .sweepExpiredHolds HoldExpiryService.sweepExpiredHolds
      (fun _ tr' => Call.sweepExpiredHolds.Acknowledges cfg .void (writes tr')) [] := by
  refine recorded_bind (writes_of_no_rows rfl) rfl (.inr rfl) fun now _ => ?_
  refine recorded_bind (writes_of_no_rows rfl) rfl (.inr rfl) fun staleSeats _ => ?_
  refine Prog.Records.forEach (F := fun tr' =>
    Call.sweepExpiredHolds.Acknowledges cfg .void (writes tr')) (fun seat tr htr => ?_)
    ⟨[], rfl, by simp⟩
  have hreleases : Call.sweepExpiredHolds.Releases seat.id :=
    ⟨fun _ _ _ => trivial, fun _ _ => trivial⟩
  refine (recorded_releaseSeat hreleases).bind fun released tr' htr' => .pure ?_
  obtain ⟨rounds, hrounds, hall⟩ := htr
  obtain ⟨ws, hws, h⟩ := htr'
  refine ⟨rounds ++ [ws], by rw [h, hrounds]; simp, fun round hround => ?_⟩
  rcases List.mem_append.mp hround with hround | hround
  · exact hall round hround
  · rw [List.mem_singleton.mp hround]
    exact ⟨seat.id, released, hws⟩

theorem recorded_processWaitlist {cfg : Settings} (f : FlightId) (s : Option SeatId) :
    Recorded (.processWaitlist f s) (WaitlistService.processWaitlist f s)
      (fun _ tr' => (Call.processWaitlist f s).Acknowledges cfg .void (writes tr')) [] := by
  refine .andThen (Q := fun _ tr' => Untouched tr') (E := fun _ tr' => Untouched tr') ?_
    (fun _ tr₁ htr₁ => ?_) fun _ _ htr₁ => .pure (.inl htr₁.writes_eq)
  · exact .perform (writes_of_no_rows rfl) (fun _ _ => untouched_nil.snoc rfl)
      fun _ _ => untouched_nil.snoc rfl
  refine recorded_withLock ?_ fun _ tr' r h => ?_
  · refine recorded_bind (writes_of_no_rows rfl) rfl (.inl htr₁) fun next hnext => ?_
    have htr₂ := htr₁.snoc (a := .findOneWaitlist _) (r := .ok next) rfl
    cases next with
    | none => exact .pure (.inl htr₂.writes_eq)
    | some entry =>
        refine recorded_bind (a := .findOneSeat (WaitlistService.availableSeatWhere f s))
          (writes_of_no_rows rfl) rfl (.inl htr₂) fun found hfound => ?_
        have htr₃ := htr₂.snoc (a := .findOneSeat _) (r := .ok found) rfl
        cases found with
        | none => exact .pure (.inl htr₃.writes_eq)
        | some seat =>
            refine recorded_bind (writes_of_no_rows rfl) rfl (.inl htr₃) fun heldAt _ => ?_
            have htr₄ := htr₃.snoc (a := .dateNow) (r := .ok heldAt) rfl
            have hentry : entry.flightId = f := (possible_findOneWaitlist hnext).2.1 f rfl
            have hseat : seat.flightId = f := (possible_findOneSeat hfound).2.1 f rfl
            refine recorded_bind (a := .assign entry seat f heldAt) ⟨hentry, hseat, rfl⟩ rfl
              (.inl htr₄) fun assigned _ => ?_
            cases assigned with
            | false =>
                have htr₅ := htr₄.snoc (a := .assign entry seat f heldAt) (r := .ok false) rfl
                exact .pure (.inl htr₅.writes_eq)
            | true =>
                refine recorded_bind (a := .setSeatHold seat.id entry.passengerId seatHoldTtl)
                  (writes_of_no_rows rfl) rfl (.inr rfl) fun _ _ => ?_
                refine (recorded_invalidateCache f).bind fun _ tr₅ htr₅ => ?_
                refine recorded_act (writes_of_no_rows rfl) rfl (.inr rfl) fun _ _ => ?_
                refine .inr ⟨entry, seat, heldAt, ?_⟩
                rw [writes_append, htr₅.2, writes_append, writes_append, htr₄.writes_eq]
                rfl
  · show Call.Acknowledges cfg _ _ (writes (tr' ++ _))
    rw [writes_append, writes_single, show Action.wrote _ r = false by cases r <;> rfl]
    simpa using h

end Release

/-! ## The waitlist and the seat map -/

section Requests

variable {cfg : Settings}

theorem recorded_joinWaitlist (p : PassengerId) (f : FlightId) :
    Recorded (.joinWaitlist p f) (WaitlistService.joinWaitlist p f)
      (fun entry tr' => (Call.joinWaitlist p f).Acknowledges cfg (.waitlist entry) (writes tr'))
      [] := by
  refine recorded_bind (writes_of_no_rows rfl) rfl (.inl untouched_nil) fun flight _ => ?_
  have htr₁ := untouched_nil.snoc (a := .findOneFlight f) (r := .ok flight) rfl
  cases flight with
  | none => exact .throw ⟨.inr (List.mem_append_right _ List.mem_cons_self), fun _ => htr₁⟩
  | some flight =>
      refine recorded_bind (writes_of_no_rows rfl) rfl (.inl htr₁) fun existing _ => ?_
      have htr₂ := htr₁.snoc (a := .findOneWaitlist _) (r := .ok existing) rfl
      have hflight : FlightFound f ([⟨.findOneFlight f, .ok (some flight)⟩] : SkyRecord) :=
        ⟨flight, List.mem_cons_self⟩
      refine .throwWhen_bind (fun hwaiting => ?_) fun _ => ?_
      · obtain ⟨entry, rfl⟩ := Option.isSome_iff_exists.mp hwaiting
        exact ⟨.inr ⟨entry, List.mem_append_right _ List.mem_cons_self⟩, fun _ => htr₂⟩
      refine .bind (Q := fun _ tr' => Untouched tr' ∧ FlightFound f tr') ?_ fun n tr₃ h₃ => ?_
      · refine recorded_bind (writes_of_no_rows rfl) rfl (.inl htr₂) fun _ _ => ?_
        exact .pure ⟨htr₂.snoc rfl, hflight.append.append⟩
      obtain ⟨htr₃, hflight₃⟩ := h₃
      refine recorded_bind (a := .insertWaitlist f p n) ⟨⟨rfl, rfl⟩, hflight₃⟩ rfl (.inl htr₃)
        fun entry hentry => ?_
      obtain ⟨hp, hf, hst, hpos⟩ := possible_insertWaitlist hentry
      refine recorded_bind (writes_of_no_rows rfl) rfl (.inr rfl) fun _ _ => ?_
      refine .pure ⟨hp, hf, hst, ?_⟩
      rw [writes_append, writes_append, htr₃.writes_eq, hpos]
      rfl

theorem recorded_leaveWaitlist (i : WaitlistId) (p : PassengerId) :
    Recorded (.leaveWaitlist i p) (WaitlistService.leaveWaitlist i p)
      (fun entry tr' => (Call.leaveWaitlist i p).Acknowledges cfg (.waitlist entry) (writes tr'))
      [] := by
  refine recorded_bind (writes_of_no_rows rfl) rfl (.inl untouched_nil) fun found hfound => ?_
  have htr₁ := untouched_nil.snoc (a := .findOneWaitlist _) (r := .ok found) rfl
  cases found with
  | none =>
      refine .throw ⟨.inr ⟨none, ?_, List.mem_append_right _ List.mem_cons_self⟩, fun _ => htr₁⟩
      intro entry hentry
      cases hentry
  | some entry =>
      obtain ⟨hid, -, hp, -⟩ := possible_findOneWaitlist hfound
      refine .throwWhen_bind (fun hst => ?_) fun _ => ?_
      · refine ⟨.inr ⟨some entry, ?_, List.mem_append_right _ List.mem_cons_self⟩, fun _ => htr₁⟩
        rintro _ ⟨⟩
        exact hst
      refine recorded_bind (a := .saveWaitlist { entry with status := .cancelled })
        ⟨hid i rfl, hp p rfl⟩ rfl (.inr rfl) fun _ _ => ?_
      refine .pure ⟨hid i rfl, hp p rfl, rfl, ?_⟩
      rw [writes_append, htr₁.writes_eq]
      rfl

theorem recorded_getSeatMap (f : FlightId) :
    Recorded (.getSeatMap f) (SeatService.getSeatMap f)
      (fun map tr' => (Call.getSeatMap f).Acknowledges cfg (.seatMap map) (writes tr')) [] := by
  refine recorded_bind (writes_of_no_rows rfl) rfl (.inl untouched_nil) fun cached _ => ?_
  have htr₁ := untouched_nil.snoc (a := .getSeatMapCache f) (r := .ok cached) rfl
  cases cached with
  | some map => exact .pure htr₁.writes_eq
  | none =>
      refine recorded_bind (writes_of_no_rows rfl) rfl (.inl htr₁) fun flight _ => ?_
      have htr₂ := htr₁.snoc (a := .findOneFlight f) (r := .ok flight) rfl
      cases flight with
      | none => exact .throw ⟨.inr (List.mem_append_right _ List.mem_cons_self), fun _ => htr₂⟩
      | some flight =>
          refine recorded_bind (writes_of_no_rows rfl) rfl (.inl htr₂) fun seats _ => ?_
          have htr₃ := htr₂.snoc (a := .findFlightSeats f) (r := .ok seats) rfl
          refine recorded_bind (a := .setSeatMapCache f _ _) (writes_of_no_rows rfl) rfl (.inr rfl)
            fun _ _ => .pure ?_
          show writes (_ ++ _) = []
          rw [writes_append, htr₃.writes_eq]
          rfl

end Requests

/-- **What every call shows when it ends.** -/
theorem recorded_program (cfg : Settings) (call : Call) :
    Recorded call (call.program cfg)
      (fun reply tr' => call.Acknowledges cfg reply (writes tr')) [] := by
  cases call with
  | startCheckIn p dto =>
      exact .map (CheckInService.recorded_startCheckIn.mono (fun _ _ h => h cfg) fun _ _ h => h)
  | confirmCheckIn i p dto => exact .map (CheckInService.recorded_confirmCheckIn i p dto)
  | cancelCheckIn i p =>
      exact .map ((CheckInService.recorded_cancelCheckIn i p).mono (fun _ _ h => h cfg)
        fun _ _ h => h)
  | handleHoldExpired s =>
      refine .map (.bind (recorded_releaseSeat (s := s) ⟨fun _ _ h => h, fun _ _ => trivial⟩)
        fun released tr' htr' => .pure ?_)
      obtain ⟨ws, hws, h⟩ := htr'
      exact ⟨released, h ▸ hws⟩
  | releaseSeat s =>
      refine .map (.mono (recorded_releaseSeat (s := s) ⟨fun _ _ h => h, fun _ _ => trivial⟩)
        (fun released tr' htr' => ?_) fun _ _ h => h)
      obtain ⟨ws, hws, h⟩ := htr'
      exact h ▸ hws
  | sweepExpiredHolds => exact .map recorded_sweepExpiredHolds
  | processWaitlist f s => exact .map (recorded_processWaitlist f s)
  | joinWaitlist p f => exact .map (recorded_joinWaitlist p f)
  | leaveWaitlist i p => exact .map (recorded_leaveWaitlist i p)
  | getSeatMap f => exact .map (recorded_getSeatMap f)

end SkyHighCore
