import SkyHighCore.Properties.Runs

/-!
# The fee that a pause has recorded

The fee of a check-in is written by the attempt that pauses it, and read by nobody: an attempt
that completes a check-in looks at the weight it was sent, and leaves the recorded fee as it
is.  With attempts one after the other, an attempt with a weight over the limit completes the
check-in against the fee it has recorded itself a moment ago (`Action.FeeRecorded`); an attempt
within the limit completes it without a payment, whatever an earlier one has recorded.  So the
recorded fee of a completed check-in is paid exactly if no attempt of the second kind has found
one (`paidInFull_iff_cleared`).
-/

namespace SkyHighCore

open Framework

/-- Check-in `i` is there, and this fee is recorded in it. -/
def Bookings.HasFee (b : Bookings) (i : CheckInId) (fee : ℚ) : Prop :=
  ∃ c, b.checkIn i = some c ∧ c.excessFee = some fee

/-- An attempt over the limit completes a check-in in which the fee of its weight is
recorded. -/
def Action.FeeRecorded (cfg : Settings) : Action → World → Prop
  | .complete checkIn weight _, w =>
      cfg.maxBaggageKg < weight → w.db.bookings.HasFee checkIn.id (cfg.feeOf weight)
  | _, _ => True

lemma Action.feeRecorded_of_bills {cfg : Settings} {a : Action} (h : a.bills = false) (w : World) :
    a.FeeRecorded cfg w := by
  cases a with
  | complete => cases h
  | _ => trivial

/-- A fee is stored as it is. -/
lemma Settings.numericScale2_feeOf (cfg : Settings) (weight : ℚ) :
    numericScale2 (cfg.feeOf weight) = cfg.feeOf weight := by
  obtain ⟨n, hn⟩ := BaggageService.excessFee_cents cfg weight
  exact numericScale2_of_decimals hn

/-! ## A call that nobody interferes with -/

/-- The contract of a call that is the only one in flight: between its actions the bookings do
not change. -/
def solo (cfg : Settings) : Protocol (skyHigh cfg) where
  admits _ _ _ := True
  inv w := w.db.bookings.Linked
  rely _ w w' := w.Progress w' ∧ w'.db.bookings = w.db.bookings
  guar _ a w _ _ := a.Pre cfg w ∧ a.FeeRecorded cfg w

lemma solo_lawful (cfg : Settings) : (solo cfg).Lawful where
  rely_refl _ w _ := ⟨.refl w, rfl⟩
  rely_trans _ _ _ _ h h' := ⟨h.1.trans h'.1, h'.2.trans h.2⟩
  inv_step := by
    rintro call a w r w' hlinked ⟨ch, -, h⟩ ⟨hpre, -⟩
    exact exec_linked hlinked hpre h
  inv_tick _ _ h := h
  rely_tick _ ms w _ := ⟨w.progress_tick ms, rfl⟩

variable {cfg : Settings} {call : Call}

lemma solo_tolerant (cfg : Settings) (call : Call) : Tolerant ((solo cfg).contract call) where
  exec := fun ⟨ch, _, he⟩ => ⟨ch, _, congrArg Prod.fst he⟩
  harmless := by
    rintro a w r w' ha hlinked ⟨ch, -, he⟩
    have hpre : a.Pre cfg w := Action.harmless_pre ha w
    have hquiet := (exec_quiet (Action.books_of_harmless ha) hpre he).1
    exact ⟨⟨hpre, Action.feeRecorded_of_bills (Action.bills_of_harmless ha) w⟩,
      exec_progress hlinked hpre he, hquiet.1⟩

/-- Nobody changes what is known of the bookings. -/
lemma kept_bookings (call : Call) (F : Bookings → Prop) :
    Kept ((solo cfg).contract call) fun w => F w.db.bookings := by
  rintro w w' ⟨-, heq⟩ hw
  rw [heq]
  exact hw

/-- What is known of an open check-in that has been read. -/
def Bookings.HasOpen (b : Bookings) (c : CheckIn) : Prop := b.Has c ∧ c.status.isOpen = true

/-- A pause records the fee. -/
lemma Commits.hasFee {b b' : Bookings} {c : CheckIn} {weight fee : ℚ}
    (h : Commits b (.awaitPayment c weight fee) b') : b'.HasFee c.id (numericScale2 fee) := by
  cases h with
  | awaitPayment hc _ _ =>
      exact ⟨_, Bookings.update_eq_some_iff.mpr (.inl ⟨rfl, rfl⟩), rfl⟩

/-- What a completion leaves in its row: the recorded fee is not touched. -/
lemma Commits.complete_row {b b' : Bookings} {snap : CheckIn} {weight : ℚ}
    {payment : Option String} (h : Commits b (.complete snap weight payment) b') :
    ∃ c, b.checkIn snap.id = some c ∧ b'.checkIn snap.id = some { c with
      status := .completed, baggageWeight := some (numericScale2 weight)
      paymentId := payment } := by
  cases h with
  | complete hc _ _ _ _ =>
      exact ⟨_, hc, Bookings.update_eq_some_iff.mpr (.inl ⟨rfl, rfl⟩)⟩

namespace CheckInService

/-- What a confirmation knows at each stage when nobody interferes. -/
def soloOutline (cfg : Settings) (call : Call) (i : CheckInId) (p : PassengerId) (weight : ℚ) :
    ConfirmOutline cfg ((solo cfg).contract call) i p weight where
  before _ := True
  found c w := w.db.bookings.HasOpen c
  paused c w := w.db.bookings.HasOpen c ∧ w.db.bookings.HasFee c.id (cfg.feeOf weight)
  paid c transactionId w :=
    (w.db.bookings.HasOpen c ∧ w.db.bookings.HasFee c.id (cfg.feeOf weight)) ∧
      w.Charged (paymentRequest c (cfg.feeOf weight)) transactionId
  after _ := True
  kept_before _ _ _ _ := trivial
  kept_found c := kept_bookings call (·.HasOpen c)
  kept_paused c := kept_bookings call fun b => b.HasOpen c ∧ b.HasFee c.id (cfg.feeOf weight)
  kept_paid c transactionId := by
    rintro w w' hrely ⟨hw, hcharged⟩
    exact ⟨kept_bookings call (fun b => b.HasOpen c ∧ b.HasFee c.id (cfg.feeOf weight))
      w w' hrely hw, stable_charged _ _ _ _ hrely.1 hcharged⟩
  kept_after _ _ _ _ := trivial
  read := by
    rintro c w w' - - ⟨ch, -, he⟩ hopen
    obtain ⟨rfl, hc, -⟩ := exec_findOneCheckIn he
    exact ⟨⟨c, hc, .rfl⟩, hopen⟩
  complete := by
    intro c w r w' _ hw hwithin _
    refine ⟨⟨⟨hw.1, hw.2, .inl ⟨hwithin, rfl⟩⟩, fun hover => ?_⟩, trivial⟩
    exact absurd hover (not_lt.mpr hwithin)
  pause := by
    rintro c w r w' hlinked hw hover ⟨ch, -, he⟩
    have hpre : (Action.awaitPayment c weight (cfg.feeOf weight)).Pre cfg w :=
      ⟨hw.1, hw.2, hover, rfl⟩
    refine ⟨⟨hpre, trivial⟩, ?_⟩
    cases r with
    | error e => trivial
    | ok _ =>
        rcases exec_commits hlinked hpre he with ⟨-, hwrite, -⟩ | ⟨hcommitted, -⟩
        · have hfee := hwrite.hasFee
          rw [cfg.numericScale2_feeOf] at hfee
          exact ⟨⟨stable_has c _ _ (exec_progress hlinked hpre he) hw.1, hw.2⟩, hfee⟩
        · cases hcommitted
  pay := by
    rintro c w r w' hlinked hw ⟨ch, -, he⟩
    have hpre : (Action.postPayment (paymentRequest c (cfg.feeOf weight))).Pre cfg w := trivial
    have hquiet : w.db.Quiet w'.db := (exec_quiet rfl hpre he).1
    have hw' : w'.db.bookings.HasOpen c ∧ w'.db.bookings.HasFee c.id (cfg.feeOf weight) := by
      rw [hquiet.1]
      exact hw
    refine ⟨⟨hpre, trivial⟩, ?_⟩
    cases r with
    | error e => exact hw'
    | ok response =>
        dsimp only
        split
        · exact ⟨hw', charged_of_confirmed he ‹_›⟩
        · exact hw'
  settle := by
    intro c transactionId w r w' _ hw hover _
    exact ⟨⟨⟨hw.1.1.1, hw.1.1.2, .inr ⟨hover, hw.2⟩⟩, fun _ => hw.1.2⟩, trivial⟩
  after_of_before := fun _ => trivial
  after_of_found := fun _ => trivial
  after_of_paused := fun _ => trivial

end CheckInService

/-- Every call meets its contract when nobody interferes. -/
theorem solo_program (cfg : Settings) (call : Call) (w : World) :
    (call.program cfg).wp ((solo cfg).contract call) (fun _ _ => True) w := by
  rcases call.unbilled_or_confirms cfg with hunbilled | ⟨i, p, dto, rfl⟩
  · refine Prog.wp_transfer (C := contract cfg) ?_ ?_ ?_ ?_ hunbilled
      (disciplined_program cfg call w)
    · exact fun _ _ _ _ he => he
    · exact fun _ hinv => hinv
    · exact fun _ _ hrely => hrely.1
    · intro a w₁ _ _ ha hpre
      exact ⟨hpre, Action.feeRecorded_of_bills ha w₁⟩
  · exact Prog.wp_map ((CheckInService.soloOutline cfg _ i p _).wp_confirmCheckIn
      (solo_tolerant cfg _) rfl trivial)

/-! ## Runs of complete operations -/

/-- The recorded fee of a completed check-in has been paid, and it carries the transaction
id. -/
def PaidInFull (w : World) : Prop :=
  ∀ i c fee, w.db.bookings.checkIn i = some c → c.status = .completed →
    c.excessFee = some fee → 0 < fee → ∃ transactionId, c.paymentId = some transactionId ∧
      ∃ e ∈ w.payments, e.request.checkInId = i ∧ e.request.amount = fee ∧
        e.outcome = .response ⟨some transactionId, "confirmed"⟩

/-- An attempt within the limit completes a check-in in which no fee, or none above zero, is
recorded. -/
def Action.FeeCleared (cfg : Settings) : Action → World → Prop
  | .complete checkIn weight _, w =>
      weight ≤ cfg.maxBaggageKg → ∀ fee, w.db.bookings.HasFee checkIn.id fee → fee ≤ 0
  | _, _ => True

/-- The completion that the transition commits, if it commits one, finds the fee cleared. -/
def FeeCleared (cfg : Settings) (t : SkyTransition) : Prop :=
  ∀ a, committed? t = some a → a.FeeCleared cfg t.pre.state

/-- Confirmed responses carry a transaction id. -/
def World.Identified (w : World) : Prop := ∀ e ∈ w.payments, e.outcome.confirmedId ≠ some none

/-- A committed write leaves no unpaid fee behind, if a completion within the limit finds the fee
cleared. -/
lemma Commits.paidInFull {w w' : World} {a : Action} (hprogress : w.Progress w')
    (hidentified : w'.Identified) (hpre : a.Pre cfg w) (hrecorded : a.FeeRecorded cfg w)
    (hcleared : a.FeeCleared cfg w) (h : Commits w.db.bookings a w'.db.bookings)
    (hw : PaidInFull w) : PaidInFull w' := by
  intro i c' fee hc' hdone hfee hpos
  rcases h.of_completed hc' hdone with hc | ⟨snap, weight, payment, c, rfl, rfl, -, hc, rfl⟩
  · obtain ⟨tid, htid, e, he, hpaid⟩ := hw i c' fee hc hdone hfee hpos
    exact ⟨tid, htid, e, hprogress.payments.subset he, hpaid⟩
  obtain ⟨-, -, ⟨hwithin, -⟩ | ⟨hover, e, he, hreq, hid⟩⟩ := hpre
  · -- within the limit: a recorded fee would not have been cleared
    exact absurd hpos (not_lt.mpr (hcleared hwithin fee ⟨c, hc, hfee⟩))
  · -- over the limit: the recorded fee is the one that has been paid
    have he' : e ∈ w'.payments := hprogress.payments.subset he
    obtain ⟨d, hd, hdfee⟩ := hrecorded hover
    obtain rfl : d = c := Option.some_inj.mp (hd.symm.trans hc)
    have hamount : cfg.feeOf weight = fee := Option.some_inj.mp (hdfee.symm.trans hfee)
    cases payment with
    | none => exact absurd hid (hidentified e he')
    | some tid =>
        refine ⟨tid, rfl, e, he', ?_, ?_, PaymentOutcome.eq_response hid⟩
        · rw [hreq]
          rfl
        · rw [hreq]
          exact hamount

variable {w : World} {ts : List SkyTransition} {c : SkyConfig}

lemma World.Seeded.paidInFull (hw : w.Seeded) : PaidInFull w := by
  intro i d fee hd
  rw [hw.checkIn_eq_none] at hd
  cases hd

/-- In a run of complete operations, an attempt over the limit completes a check-in in which the
fee of its weight is recorded. -/
lemma run_feeRecorded (hw : w.Seeded) (h : (skyHigh cfg).Run (.init w) ts c)
    (hseq : Sequential ts) :
    ∀ t ∈ ts, ∀ a, committed? t = some a → a.FeeRecorded cfg t.pre.state := by
  have hguar := h.sound_of_sequential (P := solo cfg) (solo_lawful cfg)
    (fun call w' _ => solo_program cfg call w') hw.linked hseq (fun _ _ _ _ _ _ _ _ _ => trivial)
  intro t ht a hcommits
  obtain ⟨k, ch, call, cont, hl, hk⟩ := next_of_committed? hcommits
  exact (hguar t ht k ch hl call a cont hk).2

/-- After a run of complete operations all of whose completions find the fee cleared, every
recorded fee is paid. -/
theorem run_paidInFull (hw : w.Seeded) (h : (skyHigh cfg).Run (.init w) ts c)
    (hseq : Sequential ts) (hidentified : c.state.Identified)
    (hcleared : ∀ t ∈ ts, FeeCleared cfg t) : PaidInFull c.state := by
  refine run_keeps PaidInFull (fun t => t.post.state.Identified ∧ FeeCleared cfg t ∧
    ∀ a, committed? t = some a → a.FeeRecorded cfg t.pre.state) hw h ?_ ?_ ?_ ?_
  · intro t ht
    refine ⟨fun e he => hidentified e (run_payments hw h t ht he), hcleared t ht, ?_⟩
    exact run_feeRecorded hw h hseq t ht
  · exact hw.paidInFull
  · intro w₁ w₂ hprogress heq hpaid i d fee hd hdone hfee hpos
    rw [heq] at hd
    obtain ⟨tid, htid, e, he, hexchange⟩ := hpaid i d fee hd hdone hfee hpos
    exact ⟨tid, htid, e, hprogress.payments.subset he, hexchange⟩
  · intro t a ht hcommits hpre hwrite ⟨hidentified, hcleared, hrecorded⟩ hpaid
    exact hwrite.paidInFull ht.progress hidentified hpre (hrecorded a hcommits)
      (hcleared a hcommits) hpaid

/-- A completion that leaves no unpaid fee behind has found the fee cleared. -/
lemma Justified.feeCleared {t : SkyTransition} (ht : Justified cfg t)
    (hpaid : PaidInFull t.post.state) : FeeCleared cfg t := by
  intro a hcommits
  cases ht.effect with
  | quiet hnone _ =>
      rw [hcommits] at hnone
      cases hnone
  | @commit a' hcommits' hpre hwrite _ =>
      obtain rfl : a = a' := Option.some_inj.mp (hcommits.symm.trans hcommits')
      cases a with
      | complete snap weight payment =>
          rintro hwithin fee ⟨d, hd, hfee⟩
          by_contra hpos
          obtain ⟨-, -, ⟨-, rfl⟩ | ⟨hover, -⟩⟩ := hpre
          · obtain ⟨d', hd', hrow⟩ := hwrite.complete_row
            obtain rfl : d = d' := Option.some_inj.mp (hd.symm.trans hd')
            obtain ⟨tid, htid, -⟩ := hpaid snap.id _ fee hrow rfl hfee (not_le.mp hpos)
            cases htid
          · exact absurd hwithin (not_le.mpr hover)
      | _ => trivial

/-- **Paid fees.**  In a run of complete operations, every completed check-in with a recorded fee
above zero carries the transaction id of a confirmed payment of that fee, in every state, if
and only if no attempt within the weight limit completes a check-in in which such a fee is
recorded.  Confirmed responses carry a transaction id. -/
theorem paidInFull_iff_cleared (hw : w.Seeded) (h : (skyHigh cfg).Run (.init w) ts c)
    (hseq : Sequential ts) (hidentified : c.state.Identified) :
    (PaidInFull w ∧ ∀ t ∈ ts, PaidInFull t.post.state) ↔ ∀ t ∈ ts, FeeCleared cfg t := by
  refine ⟨fun hpaid t ht => (run_justified hw h t ht).feeCleared (hpaid.2 t ht), ?_⟩
  refine fun hcleared => ⟨?_, fun t ht => ?_⟩
  · exact hw.paidInFull
  · obtain ⟨us, vs, rfl, hpre, hstep, -⟩ := h.mem_split ht
    have hmem : ∀ t' ∈ us ++ [t], t' ∈ us ++ t :: vs := by
      intro t' ht'
      rw [List.append_cons]
      exact List.mem_append_left vs ht'
    exact run_paidInFull hw (hpre.snoc hstep) (fun t' ht' => hseq t' (hmem t' ht'))
      (fun e he => hidentified e (run_payments hw h t ht he))
      fun t' ht' => hcleared t' (hmem t' ht')

/-! ## Two runs -/

/-- A test for `FeeCleared`: no attempt within the limit completes a check-in at all. -/
def completesOverweight (t : SkyTransition) : Bool :=
  match committed? t with
  | some (.complete _ weight _) => decide (25 < weight)
  | _ => true

lemma feeCleared_of_completesOverweight {t : SkyTransition} (h : completesOverweight t = true) :
    FeeCleared {} t := by
  intro a hcommits
  rw [completesOverweight, hcommits] at h
  cases a with
  | complete checkIn weight payment =>
      intro hwithin
      exact absurd (of_decide_eq_true h) (not_lt.mpr hwithin)
  | _ => trivial

theorem paidInFull_startThenPay : ∃ ts c d, (skyHigh {}).Run (.init oneSeatWorld) ts c ∧
    c.state.db.bookings.checkIn 1 = some d ∧ d.status = .completed ∧ d.excessFee = some 50 ∧
      PaidInFull oneSeatWorld ∧ ∀ t ∈ ts, PaidInFull t.post.state := by
  obtain ⟨ts, c, hrun, htest⟩ := exists_run startThenPay
    (fun ts c => ts.all issuedAlone && ts.all completesOverweight &&
      (c.state.payments.all fun e => e.outcome.confirmedId ≠ some none) &&
      (c.state.db.checkIns.get? 1).any fun d =>
        d.status = .completed ∧ d.excessFee = some 50) (by decide +kernel)
  simp only [Bool.and_eq_true, Option.any_eq_true, decide_eq_true_eq] at htest
  obtain ⟨⟨⟨hseq, hover⟩, hidentified⟩, d, hd, hdone, hfee⟩ := htest
  refine ⟨ts, c, d, hrun, hd, hdone, hfee, ?_⟩
  refine (paidInFull_iff_cleared oneSeatWorld_seeded hrun (sequential_of_issuedAlone hseq) ?_).mpr
    fun t ht => feeCleared_of_completesOverweight (List.all_eq_true.mp hover t ht)
  intro e he
  exact of_decide_eq_true (List.all_eq_true.mp hidentified e he)

/-- Passenger 1 starts, declares 30 kg, is refused by the Payment Service, and confirms again
without a weight. -/
def refusedThenOmitted : List SkyLabel :=
  start ++ [.invoke (.confirmCheckIn 1 1 (declaring 30))] ++ proceed 1 5 ++
  [.act 1 { payment := .response ⟨none, "declined"⟩ }] ++ proceed 1 1 ++
  [.invoke (.confirmCheckIn 1 1 omittedWeight)] ++ proceed 2 8

/-- The second attempt completes the check-in: its fee of 50 stays recorded, and nobody has paid
it. -/
theorem paidInFull_refusedThenOmitted : ∃ ts c d, (skyHigh {}).Run (.init oneSeatWorld) ts c ∧
    Sequential ts ∧ c.quiescent ∧ c.state.Identified ∧
      c.state.db.bookings.checkIn 1 = some d ∧ d.status = .completed ∧ d.excessFee = some 50 ∧
      d.paymentId = none ∧ ¬ PaidInFull c.state := by
  obtain ⟨ts, c, hrun, htest⟩ := exists_run refusedThenOmitted
    (fun ts c => ts.all issuedAlone && (c.threads.all fun th => !th.prog.running) &&
      (c.state.payments.all fun e => e.outcome.confirmedId ≠ some none) &&
      (c.state.db.checkIns.get? 1).any fun d =>
        d.status = .completed ∧ d.excessFee = some 50 ∧ d.paymentId = none) (by decide +kernel)
  simp only [Bool.and_eq_true, Option.any_eq_true, decide_eq_true_eq] at htest
  obtain ⟨⟨⟨hseq, hquiet⟩, hidentified⟩, d, hd, hdone, hfee, hpayment⟩ := htest
  refine ⟨ts, c, d, hrun, sequential_of_issuedAlone hseq, ?_, ?_, hd, hdone, hfee, hpayment, ?_⟩
  · intro th hth
    simpa using List.all_eq_true.mp hquiet th hth
  · intro e he
    exact of_decide_eq_true (List.all_eq_true.mp hidentified e he)
  · intro hpaid
    obtain ⟨tid, htid, -⟩ := hpaid 1 d 50 hd hdone hfee (by norm_num)
    rw [hpayment] at htid
    cases htid

end SkyHighCore
