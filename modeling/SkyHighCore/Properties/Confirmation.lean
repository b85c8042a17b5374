import SkyHighCore.Properties.Alphabet

/-!
# The outline of a confirmation

`confirmCheckIn` reads its check-in, and then completes it, or pauses it, asks for the fee until an
attempt is answered, and completes it if the answer is `confirmed`.  Whatever is to be shown of
it under a contract needs an assertion for each of these stages and a proof about each of the
four actions that lead from one to the next.  `ConfirmOutline` collects them, and
`ConfirmOutline.wp` is the walk through the program, done once.
-/

namespace SkyHighCore

open Framework

/-- The fee of a declared weight. -/
abbrev Settings.feeOf (cfg : Settings) (weight : ℚ) : ℚ :=
  (BaggageService.calculateFee cfg weight).excessFee

/-- The copy of the check-in that is completed after its fee has been paid. -/
def CheckIn.withFee (checkIn : CheckIn) (weight fee : ℚ) : CheckIn :=
  { checkIn with baggageWeight := some weight, excessFee := some fee }

/-- The stages of a call `confirmCheckIn i p` that declares `weight`, under the contract `C`. -/
structure ConfirmOutline {σ : Type} (cfg : Settings) (C : SkyContract σ) (i : CheckInId)
    (p : PassengerId) (weight : ℚ) where
  /-- Before the check-in is read. -/
  before : σ → Prop
  /-- An open check-in has been read. -/
  found : CheckIn → σ → Prop
  /-- It has been paused, and no payment for it is confirmed. -/
  paused : CheckIn → σ → Prop
  /-- Its payment has been confirmed under this transaction id. -/
  paid : CheckIn → Option String → σ → Prop
  /-- The call has nothing left to do. -/
  after : σ → Prop
  kept_before : Kept C before
  kept_found : ∀ c, Kept C (found c)
  kept_paused : ∀ c, Kept C (paused c)
  kept_paid : ∀ c transactionId, Kept C (paid c transactionId)
  kept_after : Kept C after
  read : ∀ {c w w'}, C.inv w → before w →
    C.exec (.findOneCheckIn { id := some i, passengerId := some p }) w (.ok (some c)) w' →
    c.status.isOpen = true → found c w'
  complete : ∀ {c w r w'}, C.inv w → found c w → weight ≤ cfg.maxBaggageKg →
    C.exec (.complete c weight none) w r w' → C.guar (.complete c weight none) w r w' ∧ after w'
  pause : ∀ {c w r w'}, C.inv w → found c w → cfg.maxBaggageKg < weight →
    C.exec (.awaitPayment c weight (cfg.feeOf weight)) w r w' →
    C.guar (.awaitPayment c weight (cfg.feeOf weight)) w r w' ∧
      match r with
      | .ok _ => paused c w'
      | .error _ => after w'
  pay : ∀ {c w r w'}, C.inv w → paused c w →
    C.exec (.postPayment (CheckInService.paymentRequest c (cfg.feeOf weight))) w r w' →
    C.guar (.postPayment (CheckInService.paymentRequest c (cfg.feeOf weight))) w r w' ∧
      match r with
      | .ok response =>
          if response.status = "confirmed" then paid c response.transactionId w' else paused c w'
      | .error _ => paused c w'
  settle : ∀ {c transactionId w r w'}, C.inv w → paid c transactionId w →
    cfg.maxBaggageKg < weight →
    C.exec (.complete (c.withFee weight (cfg.feeOf weight)) weight transactionId) w r w' →
    C.guar (.complete (c.withFee weight (cfg.feeOf weight)) weight transactionId) w r w' ∧
      after w'
  after_of_before : ∀ {w}, before w → after w
  after_of_found : ∀ {c w}, found c w → after w
  after_of_paused : ∀ {c w}, paused c w → after w

namespace ConfirmOutline

open CheckInService

variable {σ : Type} {cfg : Settings} {C : SkyContract σ} {i : CheckInId} {p : PassengerId}
  {weight : ℚ} {w : σ}

/-- The tail of a confirmation: the completing transaction, and reports of it. -/
lemma wp_completeCheckIn (hC : Tolerant C) {checkIn : CheckIn} {paymentId : Option String}
    {F A : σ → Prop} (hF : Kept C F) (hA : Kept C A) (hw : F w)
    (hcomplete : ∀ w₁ r w₂, F w₁ → C.inv w₁ → C.exec (.complete checkIn weight paymentId) w₁ r w₂ →
      C.guar (.complete checkIn weight paymentId) w₁ r w₂ ∧ A w₂) :
    (completeCheckIn checkIn weight paymentId).wp C (fun _ w' => A w') w := by
  refine Prog.wp_bind (wp_dateNow hC hF hw fun _ w₁ hw₁ => ?_)
  refine Prog.wp_bind (Prog.wp_mono (fun r w₂ hw₂ => ?_) (wp_act hF hw₁ hcomplete))
  cases r with
  | error e => exact hw₂
  | ok _ =>
      refine wp_harmless hC hA ?_ hw₂
      refine Prog.all_bind (harmless_dropHold checkIn) fun _ => ?_
      exact Prog.all_bind (idle_findCheckInOrFail _).harmless fun _ => trivial

variable (O : ConfirmOutline cfg C i p weight)

lemma wp_findCheckInOrThrow (hC : Tolerant C) (hw : O.before w) :
    (findCheckInOrThrow i p).wp C (fun r w' => O.before w' ∧
      ∀ c, r = .ok c → c.status.isOpen = true → O.found c w') w := by
  refine Prog.wp_bind (wp_harmless_act hC rfl O.kept_before hw ?_)
  intro w₁ r w₂ hw₁ hinv he hw₂
  cases r with
  | error e => exact ⟨hw₂, fun _ h => nomatch h⟩
  | ok result =>
      cases result with
      | none => exact ⟨hw₂, fun _ h => nomatch h⟩
      | some c =>
          refine ⟨hw₂, ?_⟩
          rintro _ ⟨⟩ hopen
          exact O.read hinv hw₁ he hopen

/-- Only an open check-in passes. -/
lemma wp_validateHoldNotExpired (hC : Tolerant C) {c : CheckIn} (hw : O.before w)
    (hfound : c.status.isOpen = true → O.found c w) :
    (validateHoldNotExpired c).wp C (fun r w' => match r with
      | .ok _ => O.found c w'
      | .error _ => O.after w') w := by
  refine Prog.wp_bind (Prog.wp_throwWhen (fun _ => O.after_of_before hw) fun hst => ?_)
  have hw₁ : O.found c w := hfound (by
    cases h : c.status <;> simp [h, CheckInStatus.isOpen] at hst ⊢)
  refine Prog.wp_mono (fun r w' h => ?_)
    (wp_harmless hC (O.kept_found c) (idle_validateHoldKey c.seatId).harmless hw₁)
  cases r with
  | ok _ => exact h
  | error _ => exact O.after_of_found h

/-- An attempt leaves the check-in paused unless it is answered with `confirmed`. -/
lemma wp_attempts (hC : Tolerant C) (c : CheckIn) (remaining : ℕ) :
    ∀ attempt lastError w, O.paused c w →
      (PaymentService.attempts cfg (paymentRequest c (cfg.feeOf weight)) remaining attempt
        lastError).wp C (fun r w' => match r with
          | .ok result => if result.success then O.paid c result.transactionId w' else O.paused c w'
          | .error _ => O.paused c w') w := by
  induction remaining with
  | zero => exact fun attempt lastError w hw => hw
  | succ remaining ih =>
      intro attempt lastError w hw
      refine Prog.wp_bind (Prog.wp_mono (fun r w₁ hw₁ => ?_)
        (wp_harmless hC (O.kept_paused c) (idle_backoff cfg attempt).harmless hw))
      cases r with
      | error e => exact hw₁
      | ok _ =>
          refine (Prog.wp_andThen _ _ _ _).mpr (wp_act (O.kept_paused c) hw₁ ?_)
          intro w₂ r w₃ hw₂ hinv he
          obtain ⟨hguar, hpost⟩ := O.pay hinv hw₂ he
          refine ⟨hguar, ?_⟩
          cases r with
          | error e => exact ih (attempt + 1) (some e) w₃ hpost
          | ok response =>
              by_cases hst : response.status = "confirmed" <;>
                simpa [PaymentService.resultOf, hst] using hpost

lemma wp_processPayment (hC : Tolerant C) (c : CheckIn) (hw : O.paused c w) :
    (PaymentService.processPayment cfg (paymentRequest c (cfg.feeOf weight))).wp C
      (fun r w' => match r with
        | .ok result => if result.success then O.paid c result.transactionId w' else O.paused c w'
        | .error _ => O.paused c w') w := by
  refine Prog.wp_bind (wp_auditLog hC rfl (O.kept_paused c) hw fun w₁ hw₁ => ?_)
  refine Prog.wp_bind (Prog.wp_mono (fun r w₂ hw₂ => ?_) (O.wp_attempts hC c _ _ _ w₁ hw₁))
  cases r with
  | error e => exact hw₂
  | ok result =>
      dsimp only at hw₂ ⊢
      refine Prog.wp_bind ?_
      unfold PaymentService.logConfirmed
      split at hw₂ <;> rename_i hsuccess
      · rw [if_pos hsuccess]
        refine wp_auditLog hC rfl (O.kept_paid c _) hw₂ fun w₃ hw₃ => ?_
        simpa [hsuccess] using hw₃
      · rw [if_neg hsuccess]
        simpa [hsuccess] using hw₂

lemma wp_handleExcessBaggage (hC : Tolerant C) {c : CheckIn} (hw : O.found c w)
    (hover : cfg.maxBaggageKg < weight) :
    (handleExcessBaggage cfg c weight (cfg.feeOf weight)).wp C (fun _ w' => O.after w') w := by
  refine Prog.wp_bind (wp_act (O.kept_found c) hw fun w₁ r w₂ hw₁ hinv he => ?_)
  obtain ⟨hguar, hpost⟩ := O.pause hinv hw₁ hover he
  refine ⟨hguar, ?_⟩
  cases r with
  | error e => exact hpost
  | ok _ =>
      refine Prog.wp_bind (Prog.wp_mono (fun r w₃ hw₃ => ?_) (O.wp_processPayment hC c hpost))
      cases r with
      | error e => exact O.after_of_paused hw₃
      | ok result =>
          dsimp only at hw₃ ⊢
          split at hw₃ <;> rename_i hsuccess
          · rw [if_pos hsuccess]
            exact wp_completeCheckIn hC (O.kept_paid c _) O.kept_after hw₃
              fun _ _ _ h hinv he => O.settle hinv h hover he
          · rw [if_neg hsuccess]
            refine Prog.wp_mono (fun _ _ h => O.after_of_paused h)
              (wp_harmless hC (O.kept_paused c) ?_ hw₃)
            exact Prog.all_bind (idle_findCheckInOrFail _).harmless fun _ => trivial

/-- **The walk through `confirmCheckIn`.** -/
theorem wp_confirmCheckIn (hC : Tolerant C) {dto : UpdateCheckInRequestDto}
    (hdto : declaredWeight dto = weight) (hw : O.before w) :
    (confirmCheckIn cfg i p dto).wp C (fun _ w' => O.after w') w := by
  refine Prog.wp_bind (Prog.wp_mono (fun r w₁ hw₁ => ?_) (O.wp_findCheckInOrThrow hC hw))
  cases r with
  | error e => exact O.after_of_before hw₁.1
  | ok c =>
      refine Prog.wp_bind (Prog.wp_mono (fun r w₂ hw₂ => ?_)
        (O.wp_validateHoldNotExpired hC hw₁.1 (hw₁.2 c rfl)))
      cases r with
      | error e => exact hw₂
      | ok _ =>
          dsimp only
          rw [hdto]
          refine Prog.wp_bind (Prog.wp_bind (Prog.wp_mono (fun r w₃ hw₃ => ?_)
            (wp_harmless hC (O.kept_found c) (idle_callWeightService p).harmless hw₂)))
          cases r with
          | error e => exact O.after_of_found hw₃
          | ok _ =>
              -- the fee is that of the declared weight, whatever has been measured
              show Prog.wp C (if _ then _ else _) _ w₃
              split
              · rename_i hover
                exact O.wp_handleExcessBaggage hC hw₃ (by simpa using hover)
              · rename_i hwithin
                exact wp_completeCheckIn hC (O.kept_found c) O.kept_after hw₃
                  fun _ _ _ h hinv he => O.complete hinv h (by simpa using hwithin) he

end ConfirmOutline

/-! ## The other calls

Fees and payments are the business of a confirmation only: no other call pauses or completes a
check-in or asks for a payment. -/

/-- The actions on the fee and the payment of a check-in. -/
def Action.bills : Action → Bool
  | .awaitPayment .. | .complete .. | .postPayment _ => true
  | _ => false

/-- A program that never bills. -/
abbrev Unbilled {α : Type} (p : Program α) : Prop := p.All fun a => a.bills = false

lemma Action.bills_of_harmless {a : Action} (h : a.harmless = true) : a.bills = false := by
  cases a with
  | awaitPayment | complete | postPayment => cases h
  | _ => rfl

/-- **Only a confirmation bills.** -/
theorem Call.unbilled_or_confirms (cfg : Settings) (call : Call) :
    Unbilled (call.program cfg) ∨ ∃ i p dto, call = .confirmCheckIn i p dto := by
  by_cases hcall : ∃ i p dto, call = .confirmCheckIn i p dto
  · exact .inr hcall
  · refine .inl ((call.all_uses cfg).mono fun a ha => ?_)
    cases a with
    | awaitPayment | complete | postPayment =>
        cases call with
        | confirmCheckIn i p dto => exact absurd ⟨i, p, dto, rfl⟩ hcall
        | _ => cases ha
    | _ => rfl

end SkyHighCore
