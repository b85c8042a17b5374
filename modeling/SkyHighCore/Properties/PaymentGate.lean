import Mathlib.Tactic.NormNum
import SkyHighCore.Properties.Runs

/-!
# The payment gate

A check-in is completed with a weight over the limit only against a confirmed payment of the fee
for that very weight.  `baggage_weight` and `payment_id` are also written by the statement that
pauses a check-in, and confirmations with different weights may overlap; but only a completion
leaves a check-in COMPLETED, and it writes weight and payment together (`Gated`).
-/

namespace SkyHighCore

open Framework

/-- Weight and payment of every completed check-in are those of one completion. -/
def Gated (cfg : Settings) (w : World) : Prop :=
  ∀ i c, w.db.bookings.checkIn i = some c → c.status = .completed →
    ∃ declared, c.baggageWeight = some (numericScale2 declared) ∧
      cfg.Settled w c declared c.paymentId

/-- A payment for one copy of a check-in is one for another copy of the same booking. -/
lemma Settings.Settled.congr {cfg : Settings} {w : World} {c c' : CheckIn} {weight : ℚ}
    {paymentId : Option String} (hid : c'.id = c.id) (hp : c'.passengerId = c.passengerId)
    (h : cfg.Settled w c weight paymentId) : cfg.Settled w c' weight paymentId := by
  have heq : ∀ fee, CheckInService.paymentRequest c' fee = CheckInService.paymentRequest c fee := by
    intro fee
    simp [CheckInService.paymentRequest, hid, hp]
  rw [Settings.Settled, heq]
  exact h

/-- A committed write keeps the gate: it completes a check-in whose fee is settled, or leaves no
completed check-in that was not there with the same weight and payment. -/
lemma Commits.gated {cfg : Settings} {w w' : World} {a : Action} (hprogress : w.Progress w')
    (hpre : a.Pre cfg w) (h : Commits w.db.bookings a w'.db.bookings) (hw : Gated cfg w) :
    Gated cfg w' := by
  intro i c' hc' hdone
  rcases h.of_completed hc' hdone with hc | ⟨snap, weight, payment, c, rfl, hid, hsame, hc, rfl⟩
  · obtain ⟨declared, hweight, hsettled⟩ := hw i c' hc hdone
    exact ⟨declared, hweight, CheckInService.stable_settled _ _ _ _ _ hprogress hsettled⟩
  · refine ⟨weight, rfl, CheckInService.stable_settled _ _ _ _ _ hprogress ?_⟩
    exact hpre.2.2.congr ((Table.key_of_get? hc).trans hid.symm) hsame.1

lemma run_gated {cfg : Settings} {w : World} (hw : w.Seeded) {ts : List SkyTransition}
    {c : SkyConfig} (h : (skyHigh cfg).Run (.init w) ts c) : Gated cfg c.state := by
  refine run_keeps (Gated cfg) (fun _ => True) hw h (fun _ _ => trivial) ?_ ?_ ?_
  · intro i d hd
    rw [hw.checkIn_eq_none] at hd
    cases hd
  · intro w₁ w₂ hprogress heq hgated i d hd hdone
    rw [heq] at hd
    obtain ⟨declared, hweight, hsettled⟩ := hgated i d hd hdone
    exact ⟨declared, hweight, CheckInService.stable_settled _ _ _ _ _ hprogress hsettled⟩
  · exact fun t a ht _ hpre hwrite _ hgated => hwrite.gated ht.progress hpre hgated

/-- **Payment gate.**  In every reachable state, a completed check-in whose stored weight exceeds
the limit carries the transaction id of a confirmed payment for this check-in, whose amount is the
fee of the declared weight that is stored.  The limit has at most two decimals, and a confirmed
response carries a transaction id. -/
theorem payment_gate {cfg : Settings} {w : World} (hw : w.Seeded) {ts : List SkyTransition}
    {c : SkyConfig} (h : (skyHigh cfg).Run (.init w) ts c) {n : ℤ}
    (hlimit : cfg.maxBaggageKg * 100 = n)
    (hconfirmed : ∀ e ∈ c.state.payments, e.outcome.confirmedId ≠ some none)
    {i : CheckInId} {d : CheckIn} {stored : ℚ} (hd : c.state.db.bookings.checkIn i = some d)
    (hdone : d.status = .completed) (hstored : d.baggageWeight = some stored)
    (hover : cfg.maxBaggageKg < stored) :
    ∃ declared transactionId, stored = numericScale2 declared ∧
      d.paymentId = some transactionId ∧
      ∃ e ∈ c.state.payments, e.request.checkInId = i ∧
        e.request.amount = (BaggageService.calculateFee cfg declared).excessFee ∧
        e.outcome = .response ⟨some transactionId, "confirmed"⟩ := by
  obtain ⟨declared, hweight, hwithin | ⟨-, e, he, hreq, hid⟩⟩ := run_gated hw h i d hd hdone
  · -- rounding on storage does not lift a weight over the limit
    have hle : stored ≤ cfg.maxBaggageKg := by
      rw [hstored, Option.some_inj] at hweight
      rw [hweight, ← numericScale2_of_decimals hlimit]
      exact numericScale2_mono hwithin.1
    exact absurd hover (not_lt.mpr hle)
  · cases hpid : d.paymentId with
    | none => exact absurd (hid.trans (by rw [hpid])) (hconfirmed e he)
    | some transactionId =>
        refine ⟨declared, transactionId, Option.some_inj.mp (hstored.symm.trans hweight), rfl, e,
          he, ?_, ?_, ?_⟩
        · rw [hreq]
          exact Table.key_of_get? hd
        · rw [hreq]
          rfl
        · rw [PaymentOutcome.eq_response hid, hpid]

theorem payment_gate_startThenPay : ∃ ts c d, (skyHigh {}).Run (.init oneSeatWorld) ts c ∧
    c.state.db.bookings.checkIn 1 = some d ∧ d.status = .completed ∧
      d.baggageWeight = some 30 ∧ ∃ declared transactionId, 30 = numericScale2 declared ∧
        d.paymentId = some transactionId ∧ ∃ e ∈ c.state.payments, e.request.checkInId = 1 ∧
          e.request.amount = (BaggageService.calculateFee {} declared).excessFee ∧
          e.outcome = .response ⟨some transactionId, "confirmed"⟩ := by
  obtain ⟨ts, c, hrun, htest⟩ := exists_run startThenPay
    (fun _ c => (c.state.payments.all fun e => e.outcome.confirmedId ≠ some none) &&
      (c.state.db.checkIns.get? 1).any fun d =>
        d.status = .completed ∧ d.baggageWeight = some 30) (by decide +kernel)
  simp only [Bool.and_eq_true, List.all_eq_true, Option.any_eq_true, decide_eq_true_eq] at htest
  obtain ⟨hconfirmed, d, hd, hdone, hweight⟩ := htest
  exact ⟨ts, c, d, hrun, hd, hdone, hweight,
    payment_gate oneSeatWorld_seeded hrun (n := 2500) (by norm_num) hconfirmed hd hdone hweight
      (by norm_num)⟩

end SkyHighCore
