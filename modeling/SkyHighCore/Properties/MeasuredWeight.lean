import SkyHighCore.Framework.Monitor
import SkyHighCore.Properties.Confirmation
import SkyHighCore.Properties.Runs

/-!
# Measured weights

A confirmation asks the Weight Service for a weight and then goes by the declared one, whatever has
been measured.  `gateMonitor` watches whether a call has been told of a confirmed payment; a call
completes its check-in without one exactly if the weight that it declares is within the limit.
Hence a measured weight over the limit makes nobody pay who has not declared one.
-/

namespace SkyHighCore

open Framework

/-! ## Measurements and payments of a call -/

/-- The action asks the Weight Service. -/
def Action.weighs : Action → Bool
  | .getWeight _ => true
  | _ => false

/-- The action asks for a payment. -/
def Action.asksPayment : Action → Bool
  | .postPayment _ => true
  | _ => false

/-- In the transition, call `k` performs an action of this kind, with this kind of outcome. -/
def performs (k : ℕ) (kind : Action → Bool) (outcome : Choice → Bool) (t : SkyTransition) : Bool :=
  match t.label with
  | .act i ch => decide (i = k) && outcome ch && (t.pre.threads[k]?.bind (·.prog.next?)).any kind
  | _ => false

/-- The Weight Service has returned `m` to call `k` in time. -/
def Measured (ts : List SkyTransition) (k : ℕ) (m : ℚ) : Prop :=
  ∃ t ∈ ts, performs k Action.weighs (fun ch => !ch.fault && decide (ch.weight = m)) t = true

/-- A payment of call `k` has been confirmed. -/
def PaidWithin (ts : List SkyTransition) (k : ℕ) : Prop :=
  ∃ t ∈ ts, performs k Action.asksPayment (·.payment.confirmedId.isSome) t = true

instance (ts : List SkyTransition) (k : ℕ) (m : ℚ) : Decidable (Measured ts k m) :=
  inferInstanceAs (Decidable (∃ t ∈ ts, _))

instance (ts : List SkyTransition) (k : ℕ) : Decidable (PaidWithin ts k) :=
  inferInstanceAs (Decidable (∃ t ∈ ts, _))

lemma performs_act {c c' : SkyConfig} {i : ℕ} {ch : Choice} {call : Call} {a : Action}
    {cont : Except AppException a.Res → Program Reply}
    (hi : c.threads[i]? = some ⟨call, .act a cont⟩) (k : ℕ) (kind : Action → Bool)
    (outcome : Choice → Bool) :
    performs k kind outcome ⟨c, .act i ch, c'⟩ = (decide (i = k) && outcome ch && kind a) := by
  by_cases hk : i = k
  · subst hk
    simp [performs, hi, Prog.next?]
  · simp [performs, hk]

/-! ## The monitor -/

/-- Whether a call has been told of a confirmed payment: it completes a check-in exactly with a
weight over the limit then. -/
def gateMonitor (cfg : Settings) : Monitor Action Action.Res AppException Bool where
  start := false
  allows paid a := match a with
    | .complete _ weight _ => paid = decide (cfg.maxBaggageKg < weight)
    | _ => True
  next paid a r := match a, r with
    | .postPayment _, .ok response => paid || decide (response.status = "confirmed")
    | _, _ => paid
  final _ := True

variable {cfg : Settings}

lemma gateMonitor_next (paid : Bool) (a : Action) (ch : Choice) (w : World) :
    (gateMonitor cfg).next paid a (World.exec a ch w).1 =
      (paid || (ch.payment.confirmedId.isSome && a.asksPayment)) := by
  cases a with
  | postPayment request =>
      cases hout : ch.payment with
      | response body =>
          by_cases hst : body.status = "confirmed" <;>
            simp [gateMonitor, World.exec, hout, PaymentOutcome.confirmedId, hst,
              Action.asksPayment]
      | lost _ | unreachable _ =>
          simp [gateMonitor, World.exec, hout, PaymentOutcome.confirmedId]
  | _ => simp [gateMonitor, Action.asksPayment]

lemma gateMonitor_neutral {a : Action} (h : a.bills = false) (paid : Bool) :
    (gateMonitor cfg).Neutral paid a := by
  cases a with
  | awaitPayment | complete | postPayment => cases h
  | _ => exact ⟨trivial, fun _ => rfl⟩

lemma gateMonitor_tolerant (cfg : Settings) :
    Tolerant ((gateMonitor cfg).contract (skyHigh cfg)) where
  exec := fun ⟨⟨ch, w, h⟩, _⟩ => ⟨ch, w, h⟩
  harmless := by
    rintro a paid r paid' ha - ⟨-, rfl⟩
    obtain ⟨hallows, hnext⟩ : (gateMonitor cfg).Neutral paid a :=
      gateMonitor_neutral (Action.bills_of_harmless ha) paid
    exact ⟨hallows, (hnext r).symm⟩

/-- Whether a confirmation has been told of a payment, at each stage. -/
def gateOutline (cfg : Settings) (i : CheckInId) (p : PassengerId) (weight : ℚ) :
    ConfirmOutline cfg ((gateMonitor cfg).contract (skyHigh cfg)) i p weight where
  before paid := paid = false
  found _ paid := paid = false
  paused _ paid := paid = false
  paid _ _ paid := paid = true
  after _ := True
  kept_before := fun _ _ h hs => h ▸ hs
  kept_found := fun _ _ _ h hs => h ▸ hs
  kept_paused := fun _ _ _ h hs => h ▸ hs
  kept_paid := fun _ _ _ _ h hs => h ▸ hs
  kept_after := fun _ _ _ _ => trivial
  read := by
    rintro c paid r - rfl ⟨-, rfl⟩ -
    rfl
  complete := by
    rintro c paid r paid' - rfl hwithin -
    exact ⟨(decide_eq_false (not_lt.mpr hwithin)).symm, trivial⟩
  pause := by
    rintro c paid r paid' - rfl - ⟨-, rfl⟩
    refine ⟨trivial, ?_⟩
    cases r with
    | error e => trivial
    | ok _ => rfl
  pay := by
    rintro c paid r paid' - rfl ⟨-, rfl⟩
    refine ⟨trivial, ?_⟩
    cases r with
    | error e => rfl
    | ok response =>
        dsimp only
        split <;> rename_i hst
        · exact decide_eq_true hst
        · exact decide_eq_false hst
  settle := by
    rintro c transactionId paid r paid' - rfl hover -
    exact ⟨(decide_eq_true hover).symm, trivial⟩
  after_of_before _ := trivial
  after_of_found _ := trivial
  after_of_paused _ := trivial

/-- **Every call obeys the monitor.** -/
theorem obeys_gateMonitor (cfg : Settings) (call : Call) :
    (gateMonitor cfg).Obeys (skyHigh cfg) false ((skyHigh cfg).start call) := by
  rcases call.unbilled_or_confirms cfg with hunbilled | ⟨i, p, dto, rfl⟩
  · exact .of_neutral trivial (hunbilled.mono fun a ha => gateMonitor_neutral ha false)
  · refine Prog.wp_map ((gateOutline cfg i p _).wp_confirmCheckIn (gateMonitor_tolerant cfg) rfl ?_)
    exact (rfl : false = false)

/-! ## Runs -/

variable {w : World} {ts : List SkyTransition} {c c' : SkyConfig}

/-- The monitor of a call knows whether a payment of the call has been confirmed. -/
lemma run_paid (h : (skyHigh cfg).Run (.init w) ts c) :
    ∃ paid : ℕ → Bool, (gateMonitor cfg).Tracked (skyHigh cfg) c paid ∧
      ∀ k, paid k = true ↔ PaidWithin ts k := by
  induction h with
  | nil => exact ⟨fun _ => false, .init w, fun k => by simp [PaidWithin]⟩
  | @snoc ts c l c' _ hstep ih =>
      obtain ⟨paid, htracked, hpaid⟩ := ih
      have hsnoc : ∀ k, PaidWithin (ts ++ [⟨c, l, c'⟩]) k ↔ PaidWithin ts k ∨
          performs k Action.asksPayment (·.payment.confirmedId.isSome) ⟨c, l, c'⟩ = true := by
        intro k
        simp [PaidWithin, or_and_right, exists_or]
      rcases (skyHigh cfg).step_cases hstep with ⟨call, rfl, rfl⟩ | ⟨ms, rfl, rfl⟩ |
        ⟨i, ch, call, a, cont, rfl, hi, rfl⟩
      · refine ⟨paid, htracked.invoke (obeys_gateMonitor cfg call), fun k => ?_⟩
        rw [hsnoc, hpaid]
        simp [performs]
      · refine ⟨paid, htracked.of_threads rfl, fun k => ?_⟩
        rw [hsnoc, hpaid]
        simp [performs]
      · refine ⟨_, (htracked.act hi ch).2, fun k => ?_⟩
        rw [hsnoc, performs_act hi, ← hpaid]
        by_cases hk : i = k
        · subst hk
          have hnext : (gateMonitor cfg).next (paid i) a ((skyHigh cfg).exec a ch c.state).1 = _ :=
            gateMonitor_next (paid i) a ch c.state
          rw [Function.update_self, hnext]
          simp
        · rw [Function.update_of_ne (Ne.symm hk)]
          simp [hk]

/-- The weight that an action of a confirmation stores is the one that the call declares. -/
lemma run_declares (h : (skyHigh cfg).Run (.init w) ts c) {k : ℕ} {i : CheckInId}
    {p : PassengerId} {dto : UpdateCheckInRequestDto} {a : Action}
    {cont : Except AppException a.Res → Program Reply}
    (hk : c.threads[k]? = some ⟨.confirmCheckIn i p dto, .act a cont⟩) :
    a.Declares (CheckInService.declaredWeight dto) := by
  have hall := h.all (P := fun call a => ∀ i p dto, call = .confirmCheckIn i p dto →
    a.Declares (CheckInService.declaredWeight dto)) fun call => by
      by_cases hcall : ∃ i p dto, call = .confirmCheckIn i p dto
      · obtain ⟨i, p, dto, rfl⟩ := hcall
        refine Prog.all_map _ ((CheckInService.confirms_confirmCheckIn cfg i p dto).mono ?_)
        rintro a ha _ _ _ ⟨⟩
        exact ha.2
      · exact (call.all_uses cfg).mono fun a _ i p dto h => absurd ⟨i, p, dto, h⟩ hcall
  exact (hall _ (List.mem_of_getElem? hk)).1 i p dto rfl

/-- A completion comes after a confirmed payment of the same call exactly if the declared weight is
over the limit. -/
lemma paidWithin_iff (h : (skyHigh cfg).Run (.init w) ts c) {k : ℕ} {ch : Choice} {i : CheckInId}
    {p : PassengerId} {dto : UpdateCheckInRequestDto} {q : Program Reply}
    (hk : c.threads[k]? = some ⟨.confirmCheckIn i p dto, q⟩) {checkIn : CheckIn}
    (hdone : completion? ⟨c, .act k ch, c'⟩ = some checkIn) :
    PaidWithin ts k ↔ cfg.maxBaggageKg < CheckInService.declaredWeight dto := by
  obtain ⟨weight, paymentId, hc⟩ := completion?_eq_some_iff.mp hdone
  obtain ⟨_, _, call, cont, hl, hnext⟩ := next_of_committed? hc
  cases hl
  obtain ⟨rfl, rfl⟩ : Call.confirmCheckIn i p dto = call ∧ q = .act _ cont := by
    simpa using Option.some_inj.mp (hk.symm.trans hnext)
  obtain ⟨paid, htracked, hpaid⟩ := run_paid h
  have hallows : paid k = decide (cfg.maxBaggageKg < weight) := (htracked.act hk ch).1
  have hdeclared : weight = CheckInService.declaredWeight dto := run_declares h hk
  rw [← hpaid, hallows, decide_eq_true_iff, hdeclared]

/-- **When a measured weight gates the payment.**  A confirmation that completes its check-in after
a measured weight over the limit has confirmed a payment exactly if the weight that it declares is
over the limit too. -/
theorem measuredWeight_gates_iff (h : (skyHigh cfg).Run (.init w) ts c) {k : ℕ} {ch : Choice}
    {i : CheckInId} {p : PassengerId} {dto : UpdateCheckInRequestDto} {q : Program Reply}
    (hk : c.threads[k]? = some ⟨.confirmCheckIn i p dto, q⟩) {checkIn : CheckIn}
    (hdone : completion? ⟨c, .act k ch, c'⟩ = some checkIn) :
    (∀ m, Measured ts k m → cfg.maxBaggageKg < m → PaidWithin ts k) ↔
      ∀ m, Measured ts k m → cfg.maxBaggageKg < m →
        cfg.maxBaggageKg < CheckInService.declaredWeight dto := by
  rw [paidWithin_iff h hk hdone]

/-- A completion is a step. -/
lemma exists_step_of_completion (cfg : Settings) {k : ℕ} {ch : Choice} {c₁ : SkyConfig}
    {checkIn : CheckIn} (h : completion? ⟨c, .act k ch, c₁⟩ = some checkIn) :
    ∃ c', (skyHigh cfg).step (.act k ch) c = some c' := by
  obtain ⟨weight, paymentId, hc⟩ := completion?_eq_some_iff.mp h
  obtain ⟨_, _, call, cont, ⟨⟩, hnext⟩ := next_of_committed? hc
  exact exists_step cfg hnext ch

/-- Passenger 1 declares 30 kg, the Weight Service returns 40 kg, and the fee is paid. -/
def declaredOver : List SkyLabel :=
  start ++ [.invoke (.confirmCheckIn 1 1 (declaring 30))] ++ proceed 1 2 ++
  [.act 1 { weight := 40 }] ++ proceed 1 2 ++ [.act 1 (confirmedBy "txn_1")] ++ proceed 1 2

theorem measuredWeight_declaredOver : ∃ ts c c' checkIn,
    (skyHigh {}).Run (.init oneSeatWorld) ts c ∧ (skyHigh {}).step (.act 1 {}) c = some c' ∧
    completion? ⟨c, .act 1 {}, c'⟩ = some checkIn ∧ Measured ts 1 40 ∧
    ((∀ m, Measured ts 1 m → 25 < m → PaidWithin ts 1) ↔
      ∀ m, Measured ts 1 m → 25 < m → 25 < CheckInService.declaredWeight (declaring 30)) := by
  obtain ⟨ts, c, hrun, hcalls, htest⟩ := exists_run_calls declaredOver (fun ts c =>
    (completion? ⟨c, .act 1 {}, c⟩).isSome && decide (Measured ts 1 40)) (by decide +kernel)
  simp only [Bool.and_eq_true, Option.isSome_iff_exists, decide_eq_true_eq] at htest
  obtain ⟨⟨checkIn, hdone⟩, hmeasured⟩ := htest
  obtain ⟨q, hk⟩ : ∃ q, c.threads[1]? = some ⟨.confirmCheckIn 1 1 (declaring 30), q⟩ :=
    exists_thread (by rw [hcalls]; rfl)
  obtain ⟨c', hstep⟩ := exists_step_of_completion {} hdone
  exact ⟨ts, c, c', checkIn, hrun, hstep, hdone, hmeasured,
    measuredWeight_gates_iff hrun hk hdone⟩

/-- Passenger 1 declares no weight, and the Weight Service returns 40 kg. -/
def declaredNothing : List SkyLabel :=
  start ++ [.invoke (.confirmCheckIn 1 1 omittedWeight)] ++ proceed 1 2 ++
  [.act 1 { weight := 40 }] ++ proceed 1 1

/-- **A passenger who declares no weight completes a check-in of 40 kg without a payment.** -/
theorem measuredWeight_declaredNothing : ∃ ts c c' checkIn,
    (skyHigh {}).Run (.init oneSeatWorld) ts c ∧ (∀ t ∈ ts, Faultless t) ∧
    (skyHigh {}).step (.act 1 {}) c = some c' ∧ completion? ⟨c, .act 1 {}, c'⟩ = some checkIn ∧
    ¬ ∀ m, Measured ts 1 m → 25 < m → PaidWithin ts 1 := by
  obtain ⟨ts, c, hrun, htest⟩ := exists_run declaredNothing (fun ts c => ts.all faultless &&
    (completion? ⟨c, .act 1 {}, c⟩).isSome && decide (Measured ts 1 40) &&
    decide (¬ PaidWithin ts 1)) (by decide +kernel)
  simp only [Bool.and_eq_true, Option.isSome_iff_exists, decide_eq_true_eq] at htest
  obtain ⟨⟨⟨hfaultless, checkIn, hdone⟩, hmeasured⟩, hunpaid⟩ := htest
  obtain ⟨c', hstep⟩ := exists_step_of_completion {} hdone
  refine ⟨ts, c, c', checkIn, hrun, faultless_of_all hfaultless, hstep, hdone, fun h => ?_⟩
  exact hunpaid (h 40 hmeasured (by norm_num))

end SkyHighCore
