import SkyHighCore.Framework.Monitor
import SkyHighCore.Properties.Ledger
import SkyHighCore.Properties.Runs

/-!
# Charges and confirmations

The ledger of a running service: what the Payment Service has charged, what the check-ins store,
and what each call has been told and has not stored yet.  The last is the state of `billMonitor`,
which every call obeys: only a call that has been told of a charge brings a transaction id to a
completion, and such a call ends with that completion.

A transition of a run is an entry of the ledger or leaves it alone (`step_ledger`).  Hence in a
state without calls in flight the ledger agrees with the check-ins exactly when every step of the
run has been a safe entry (`ledger_agrees_iff`).
-/

namespace SkyHighCore

open Framework

/-! ## The ledger of a world -/

/-- The charges taken for check-in `i`, by their transaction ids. -/
def World.charges (w : World) (i : CheckInId) : List (Option String) :=
  w.payments.filterMap fun e => if e.request.checkInId = i then e.outcome.charge else none

/-- The transaction id that check-in `i` stores. -/
def Bookings.paymentId (b : Bookings) (i : CheckInId) : Option String :=
  (b.checkIn i).bind CheckIn.paymentId

/-- The ledger of a world whose calls owe `owed`. -/
def World.ledger (w : World)
    (owed : ℕ → Option (CheckInId × Option String) := fun _ => none) : Ledger where
  charges := w.charges
  stored := w.db.bookings.paymentId
  owed := owed

/-- Only a completion writes a transaction id. -/
lemma Commits.paymentId_eq {b b' : Bookings} {a : Action} (h : Commits b a b')
    (ha : ∀ checkIn weight paymentId, a ≠ .complete checkIn weight paymentId) :
    b'.paymentId = b.paymentId := by
  funext i
  cases h with
  | @holdSeat _ _ _ _ _ c h | @assign _ _ _ _ _ c h =>
      by_cases hi : i = c.id
      · subst hi
        simp [Bookings.paymentId, Bookings.acquired, h.fresh, h.unpaid.2.2]
      · simp [Bookings.paymentId, Bookings.acquired, hi]
  | release _ _ _ _ =>
      cases hc : b.checkIn i with
      | none => simp [Bookings.paymentId, Bookings.released, hc]
      | some c =>
          simp only [Bookings.paymentId, Bookings.released, hc, CheckIn.releasedFrom,
            Option.map_some, Option.bind_some]
          split <;> rfl
  | @cancel snap _ _ _ _ hc _ _ _ _ =>
      by_cases hi : i = snap.id
      · subst hi
        simp [Bookings.paymentId, Bookings.cancelled, hc]
      · simp [Bookings.paymentId, Bookings.cancelled, hi]
  | complete _ _ _ _ _ => exact absurd rfl (ha _ _ _)
  | @awaitPayment snap _ _ _ hc _ _ =>
      by_cases hi : i = snap.id
      · subst hi
        simp [Bookings.paymentId, Bookings.awaiting, hc]
      · simp [Bookings.paymentId, Bookings.awaiting, hi]

lemma Commits.paymentId_complete {b b' : Bookings} {checkIn : CheckIn} {weight : ℚ}
    {payment : Option String} (h : Commits b (.complete checkIn weight payment) b') :
    b'.paymentId = Function.update b.paymentId checkIn.id payment := by
  funext i
  cases h
  by_cases hi : i = checkIn.id
  · subst hi
    simp [Bookings.paymentId, Bookings.completed]
  · simp [Bookings.paymentId, Bookings.completed, hi]

/-! ## What a call owes -/

/-- The stored weight fits its column. -/
def FitsWeight (weight : ℚ) : Prop := |numericScale2 weight| < 1000

/-- What a call has been told of and has not completed yet: a check-in and a transaction id. -/
def billMonitor : Monitor Action Action.Res AppException (Option (CheckInId × Option String)) where
  start := none
  allows owed a := match a with
    | .complete checkIn weight paymentId =>
        (owed = none ∧ paymentId = none) ∨
          (owed = some (checkIn.id, paymentId) ∧ FitsWeight weight)
    | .postPayment _ => owed = none
    | _ => True
  next owed a r := match a, r with
    | .postPayment request, .ok response =>
        if response.status = "confirmed" then some (request.checkInId, response.transactionId)
        else owed
    | .complete .., _ => none
    | _, _ => owed
  final owed := owed = none

/-- An action that neither asks for a payment nor completes a check-in. -/
lemma billMonitor_neutral {a : Action} (hpost : ∀ request, a ≠ .postPayment request)
    (hcomplete : ∀ checkIn weight paymentId, a ≠ .complete checkIn weight paymentId)
    (owed : Option (CheckInId × Option String)) : billMonitor.Neutral owed a := by
  cases a with
  | postPayment request => exact absurd rfl (hpost request)
  | complete checkIn weight paymentId => exact absurd rfl (hcomplete checkIn weight paymentId)
  | _ => exact ⟨trivial, fun _ => rfl⟩

lemma billMonitor_neutral_of_unbilled {a : Action} (h : a.bills = false)
    (owed : Option (CheckInId × Option String)) : billMonitor.Neutral owed a := by
  refine billMonitor_neutral (fun request ha => ?_) (fun checkIn weight paymentId ha => ?_) owed
  · subst ha
    cases h
  · subst ha
    cases h

/-- A request with a confirmed response leaves its charge to be stored. -/
lemma billMonitor_next_post (request : PaymentRequestDto) (ch : Choice) (w : World) :
    billMonitor.next none (.postPayment request) (World.exec (.postPayment request) ch w).1 =
      ch.payment.confirmedId.map (request.checkInId, ·) := by
  cases hout : ch.payment with
  | response body =>
      by_cases hst : body.status = "confirmed" <;>
        simp [billMonitor, World.exec, hout, PaymentOutcome.confirmedId, hst]
  | lost _ | unreachable _ => simp [billMonitor, World.exec, hout, PaymentOutcome.confirmedId]

lemma fitsWeight_of_paused {checkIn : CheckIn} {weight fee : ℚ} {ch : Choice} {w : World} {u : Unit}
    (h : (World.exec (.awaitPayment checkIn weight fee) ch w).1 = .ok u) : FitsWeight weight := by
  have hexec : w.transaction ch (Tx.awaitPaymentUpdate checkIn weight fee) = (.ok u, _) :=
    Prod.ext h rfl
  rcases World.transaction_cases hexec with ⟨e, herr, -⟩ | ⟨_, db', -, hbody, -⟩
  · cases herr
  · exact Tx.awaitPaymentUpdate_fits hbody

section Outline

variable {cfg : Settings}

lemma billMonitor_tolerant (cfg : Settings) : Tolerant (billMonitor.contract (skyHigh cfg)) where
  exec := fun ⟨⟨ch, w, h⟩, _⟩ => ⟨ch, w, h⟩
  harmless := by
    rintro a owed r owed' ha - ⟨-, rfl⟩
    obtain ⟨hallows, hnext⟩ :=
      billMonitor_neutral_of_unbilled (Action.bills_of_harmless ha) owed
    exact ⟨hallows, (hnext r).symm⟩

/-- What a confirmation owes at each stage. -/
def billOutline (cfg : Settings) (i : CheckInId) (p : PassengerId) (weight : ℚ) :
    ConfirmOutline cfg (billMonitor.contract (skyHigh cfg)) i p weight where
  before owed := owed = none
  found _ owed := owed = none
  paused _ owed := owed = none ∧ FitsWeight weight
  paid c transactionId owed := owed = some (c.id, transactionId) ∧ FitsWeight weight
  after owed := owed = none
  kept_before := fun _ _ h hs => h ▸ hs
  kept_found := fun _ _ _ h hs => h ▸ hs
  kept_paused := fun _ _ _ h hs => h ▸ hs
  kept_paid := fun _ _ _ _ h hs => h ▸ hs
  kept_after := fun _ _ h hs => h ▸ hs
  read := by
    rintro c owed owed' - rfl ⟨-, rfl⟩ -
    rfl
  complete := by
    rintro c owed r owed' - rfl - ⟨-, rfl⟩
    exact ⟨.inl ⟨rfl, rfl⟩, rfl⟩
  pause := by
    rintro c owed r owed' - rfl - ⟨⟨ch, w, he⟩, rfl⟩
    refine ⟨trivial, ?_⟩
    cases r with
    | error e => rfl
    | ok _ => exact ⟨rfl, fitsWeight_of_paused he⟩
  pay := by
    rintro c owed r owed' - ⟨rfl, hfits⟩ ⟨-, rfl⟩
    refine ⟨rfl, ?_⟩
    cases r with
    | error e => exact ⟨rfl, hfits⟩
    | ok response =>
        dsimp only
        split <;> rename_i hst
        · exact ⟨if_pos hst, hfits⟩
        · exact ⟨if_neg hst, hfits⟩
  settle := by
    rintro c transactionId owed r owed' - ⟨rfl, hfits⟩ - ⟨-, rfl⟩
    exact ⟨.inr ⟨rfl, hfits⟩, rfl⟩
  after_of_before := id
  after_of_found := id
  after_of_paused := And.left

/-- **Every call obeys the monitor.** -/
theorem obeys_billMonitor (cfg : Settings) (call : Call) :
    billMonitor.Obeys (skyHigh cfg) none ((skyHigh cfg).start call) := by
  rcases call.unbilled_or_confirms cfg with hunbilled | ⟨i, p, dto, rfl⟩
  · exact .of_neutral rfl
      (hunbilled.mono fun a ha => billMonitor_neutral_of_unbilled ha none)
  · refine Prog.wp_map ((billOutline cfg i p _).wp_confirmCheckIn (billMonitor_tolerant cfg) rfl ?_)
    exact (rfl : (none : Option (CheckInId × Option String)) = none)

end Outline

/-! ## Safe steps -/

/-- The action is a safe entry of the ledger, or none.  A request that takes a charge takes the
first one for its check-in and is answered in time; a completion that brings a transaction id
does not fail; a completion that brings none overwrites none. -/
def Action.KeepsLedger (w : World) (ch : Choice) : Action → Prop
  | .postPayment request => ch.payment.charge ≠ none →
      (∀ transactionId, ch.payment ≠ .lost transactionId) ∧ w.charges request.checkInId = []
  | .complete _ _ (some transactionId) => ch.fault = false ∧ transactionId.length ≤ 100
  | .complete checkIn weight none =>
      (Action.complete checkIn weight none).committed
          (World.exec (.complete checkIn weight none) ch w).1 = true →
        w.db.bookings.paymentId checkIn.id = none
  | _ => True

/-- If the transition performs an action, the action keeps the ledger. -/
def KeepsLedger (t : SkyTransition) : Prop :=
  ∀ k ch, t.label = .act k ch → ∀ th a, t.pre.threads[k]? = some th → th.prog.next? = some a →
    a.KeepsLedger t.pre.state ch

lemma keepsLedger_of_not_act {t : SkyTransition} (h : ∀ k ch, t.label ≠ .act k ch) :
    KeepsLedger t :=
  fun k ch hl => absurd hl (h k ch)

lemma keepsLedger_act_iff {c c' : SkyConfig} {k : ℕ} {ch : Choice} {call : Call} {a : Action}
    {cont : Except AppException a.Res → Program Reply}
    (hk : c.threads[k]? = some ⟨call, .act a cont⟩) :
    KeepsLedger ⟨c, .act k ch, c'⟩ ↔ a.KeepsLedger c.state ch := by
  constructor
  · exact fun h => h k ch rfl _ a hk rfl
  · rintro h _ _ ⟨⟩ th a' hth hnext
    obtain rfl := Option.some_inj.mp (hk.symm.trans hth)
    obtain rfl := Option.some_inj.mp hnext
    exact h

/-- What a transition enters into the ledger. -/
inductive Entry (t : SkyTransition) (L L' : Ledger) : Prop
  | nothing (heq : L' = L) (hkeeps : KeepsLedger t)
  | post {k : ℕ} {i : CheckInId} {e : PaymentExchange} (hk : L.owed k = none)
      (he : e ∈ t.post.state.payments) (heq : L' = L.posted k i e.outcome)
      (hiff : KeepsLedger t ↔ L.SafePost i e.outcome)
  | settle {k : ℕ} {i : CheckInId} {paymentId : Option String} {commits : Bool}
      (hk : L.Owes k i paymentId) (heq : L' = L.settled k i paymentId commits)
      (hiff : KeepsLedger t ↔ L.SafeSettlement i paymentId commits)

namespace Entry

variable {t : SkyTransition} {L L' : Ledger}

/-- A step that keeps the ledger keeps its balance. -/
lemma balanced (h : Entry t L L') (hkeeps : KeepsLedger t) (hL : L.Balanced)
    (hconfirmed : ∀ e ∈ t.post.state.payments, e.outcome.confirmedId ≠ some none) :
    L'.Balanced := by
  cases h with
  | nothing heq _ =>
      rw [heq]
      exact hL
  | post hk he heq hiff =>
      rw [heq]
      exact hL.posted hk (hiff.mp hkeeps) (hconfirmed _ he)
  | settle hk heq hiff =>
      rw [heq]
      exact hL.settled hk (hiff.mp hkeeps)

/-- A step that does not keep the ledger breaks it. -/
lemma breaks (h : Entry t L L') (hnot : ¬ KeepsLedger t) (hL : L.Balanced) : L'.Broken := by
  cases h with
  | nothing _ hkeeps => exact absurd hkeeps hnot
  | post _ _ heq hiff =>
      rw [heq]
      exact hL.broken_posted (mt hiff.mpr hnot)
  | settle hk heq hiff =>
      rw [heq]
      exact hL.broken_settled hk (mt hiff.mpr hnot)

/-- No step repairs the ledger. -/
lemma broken (h : Entry t L L') (hL : L.Broken) : L'.Broken := by
  cases h with
  | nothing heq _ =>
      rw [heq]
      exact hL
  | post _ _ heq _ =>
      rw [heq]
      exact hL.posted
  | settle hk heq _ =>
      rw [heq]
      exact hL.settled hk

end Entry

section Steps

variable {cfg : Settings} {w w' : World} {ts : List SkyTransition} {c c' : SkyConfig}
  {owed : ℕ → Option (CheckInId × Option String)}

lemma ledger_ext {L : Ledger} (hcharges : w.charges = L.charges)
    (hstored : w.db.bookings.paymentId = L.stored) (howed : owed = L.owed) :
    w.ledger owed = L := by
  obtain ⟨charges, stored, owed'⟩ := L
  subst hcharges hstored howed
  rfl

lemma charges_post (request : PaymentRequestDto) (ch : Choice) (w : World) :
    (World.exec (.postPayment request) ch w).2.charges =
      Function.update w.charges request.checkInId
        (w.charges request.checkInId ++ ch.payment.charge.toList) := by
  funext i
  by_cases hi : i = request.checkInId
  · subst hi
    cases hcharge : ch.payment.charge <;>
      simp [World.charges, World.exec, hcharge]
  · simp [World.charges, World.exec, hi, Ne.symm hi]

lemma charges_eq {a : Action} (hpost : ∀ request, a ≠ .postPayment request) (ch : Choice)
    (w : World) : (World.exec a ch w).2.charges = w.charges := by
  funext i
  rw [World.charges, World.exec_payments_eq w ch hpost]
  rfl

/-- An action that neither asks for a payment nor completes a check-in. -/
lemma ledger_other {a : Action} {ch : Choice} (hlinked : w.db.bookings.Linked)
    (hpre : a.Pre cfg w) (hpost : ∀ request, a ≠ .postPayment request)
    (hcomplete : ∀ checkIn weight paymentId, a ≠ .complete checkIn weight paymentId) :
    (World.exec a ch w).2.ledger owed = w.ledger owed := by
  refine ledger_ext (charges_eq hpost ch w) ?_ rfl
  rcases exec_commits hlinked hpre (Prod.mk.eta (p := World.exec a ch w)).symm with
    ⟨-, hwrite, -⟩ | ⟨-, hquiet⟩
  · exact hwrite.paymentId_eq hcomplete
  · rw [hquiet.1]
    rfl

/-- A completion, whether it commits or not. -/
lemma ledger_complete {checkIn : CheckIn} {weight : ℚ} {paymentId : Option String} {ch : Choice}
    (hlinked : w.db.bookings.Linked) (hpre : (Action.complete checkIn weight paymentId).Pre cfg w)
    (k : ℕ) :
    (World.exec (.complete checkIn weight paymentId) ch w).2.ledger (Function.update owed k none) =
      (w.ledger owed).settled k checkIn.id paymentId
        ((Action.complete checkIn weight paymentId).committed
          (World.exec (.complete checkIn weight paymentId) ch w).1) := by
  have hpost : ∀ request, Action.complete checkIn weight paymentId ≠ .postPayment request := nofun
  refine ledger_ext (charges_eq hpost ch w) ?_ rfl
  rcases exec_commits hlinked hpre (Prod.mk.eta (p := World.exec _ ch w)).symm with
    ⟨hc, hwrite, -⟩ | ⟨hc, hquiet⟩
  · rw [hc, hwrite.paymentId_complete]
    rfl
  · rw [hc, hquiet.1]
    rfl

/-- A completion with a weight that fits commits unless the transaction faults or the id is too
long. -/
lemma committed_complete_iff {checkIn : CheckIn} {weight : ℚ} {paymentId : Option String}
    {ch : Choice} (hfits : FitsWeight weight) :
    (Action.complete checkIn weight paymentId).committed
        (World.exec (.complete checkIn weight paymentId) ch w).1 = true ↔
      ch.fault = false ∧ ∀ t ∈ paymentId, t.length ≤ 100 := by
  rw [← Tx.completeTransaction_isOk checkIn w.db hfits]
  simp only [World.exec, World.transaction]
  cases ch.fault with
  | true => simp [Action.committed]
  | false =>
      cases Tx.completeTransaction checkIn weight paymentId w.db with
      | ok out => simp [Action.committed, Except.isOk, Except.toBool]
      | error e => simp [Action.committed, Except.isOk, Except.toBool]

lemma Action.keepsLedger_other {a : Action} (hpost : ∀ request, a ≠ .postPayment request)
    (hcomplete : ∀ checkIn weight paymentId, a ≠ .complete checkIn weight paymentId) (w : World)
    (ch : Choice) : a.KeepsLedger w ch := by
  cases a with
  | postPayment request => exact absurd rfl (hpost request)
  | complete checkIn weight paymentId => exact absurd rfl (hcomplete checkIn weight paymentId)
  | _ => trivial

/-- **What a step enters into the ledger.** -/
theorem step_ledger {l : SkyLabel} (hw : w.Seeded) (h : (skyHigh cfg).Run (.init w) ts c)
    (htracked : billMonitor.Tracked (skyHigh cfg) c owed)
    (hstep : (skyHigh cfg).step l c = some c') :
    ∃ owed', billMonitor.Tracked (skyHigh cfg) c' owed' ∧
      Entry ⟨c, l, c'⟩ (c.state.ledger owed) (c'.state.ledger owed') := by
  rcases (skyHigh cfg).step_cases hstep with ⟨call, rfl, rfl⟩ | ⟨ms, rfl, rfl⟩ |
    ⟨k, ch, call, a, cont, rfl, hk, rfl⟩
  · exact ⟨owed, htracked.invoke (obeys_billMonitor cfg call),
      .nothing rfl (keepsLedger_of_not_act (by simp))⟩
  · exact ⟨owed, htracked.of_threads rfl, .nothing rfl (keepsLedger_of_not_act (by simp))⟩
  · obtain ⟨hallows, htracked'⟩ := htracked.act hk ch
    have hlinked := run_linked hw h
    have hpre := run_pre hw h hk
    refine ⟨_, htracked', ?_⟩
    by_cases hpost : ∃ request, a = .postPayment request
    · obtain ⟨request, rfl⟩ := hpost
      have howed : owed k = none := hallows
      refine .post (e := ⟨request, ch.payment⟩) (k := k) (i := request.checkInId) howed
        (List.mem_append_right _ (List.mem_singleton_self _)) ?_ (keepsLedger_act_iff hk)
      refine ledger_ext (charges_post request ch c.state) rfl ?_
      rw [howed]
      exact congrArg (Function.update owed k) (billMonitor_next_post request ch c.state)
    by_cases hcomplete : ∃ checkIn weight paymentId, a = .complete checkIn weight paymentId
    · obtain ⟨checkIn, weight, paymentId, rfl⟩ := hcomplete
      have howes : (c.state.ledger owed).Owes k checkIn.id paymentId := hallows.imp_right And.left
      refine .settle howes (ledger_complete hlinked hpre k) ((keepsLedger_act_iff hk).trans ?_)
      cases paymentId with
      | none => exact Iff.rfl
      | some transactionId =>
          have hfits : FitsWeight weight := by
            rcases hallows with ⟨-, hnone⟩ | ⟨-, hfits⟩
            · cases hnone
            · exact hfits
          show _ ↔ Action.committed _ _ = true
          rw [committed_complete_iff hfits]
          simp [Action.KeepsLedger]
    · simp only [not_exists] at hpost hcomplete
      obtain ⟨-, hnext⟩ := billMonitor_neutral hpost hcomplete (owed k)
      rw [hnext, Function.update_eq_self]
      exact .nothing (ledger_other hlinked hpre hpost hcomplete)
        ((keepsLedger_act_iff hk).mpr (Action.keepsLedger_other hpost hcomplete _ _))

end Steps

/-! ## Runs -/

section Runs

variable {cfg : Settings} {w : World} {ts : List SkyTransition} {c : SkyConfig}

lemma World.Seeded.balanced (hw : w.Seeded) : (w.ledger fun _ => none).Balanced := by
  intro i
  refine .uncharged ?_ ?_ fun k x hk => by cases hk
  · simp [World.ledger, World.charges, hw.payments]
  · simp [World.ledger, Bookings.paymentId, hw.checkIn_eq_none]

/-- The ledger of a run is balanced as long as every step keeps it, and broken afterwards. -/
lemma run_ledger (hw : w.Seeded) (h : (skyHigh cfg).Run (.init w) ts c)
    (hconfirmed : ∀ e ∈ c.state.payments, e.outcome.confirmedId ≠ some none) :
    ∃ owed, billMonitor.Tracked (skyHigh cfg) c owed ∧
      (((∀ t ∈ ts, KeepsLedger t) ∧ (c.state.ledger owed).Balanced) ∨
        ((∃ t ∈ ts, ¬ KeepsLedger t) ∧ (c.state.ledger owed).Broken)) := by
  induction h with
  | nil => exact ⟨fun _ => none, .init w, .inl ⟨by simp, hw.balanced⟩⟩
  | @snoc ts c l c' hrun hstep ih =>
      have hprogress := (run_justified hw (hrun.snoc hstep) ⟨c, l, c'⟩ (by simp)).progress
      obtain ⟨owed, htracked, hledger⟩ := ih fun e he => hconfirmed e (hprogress.payments.subset he)
      obtain ⟨owed', htracked', hentry⟩ := step_ledger hw hrun htracked hstep
      refine ⟨owed', htracked', ?_⟩
      rcases hledger with ⟨hall, hbalanced⟩ | ⟨⟨t, ht, hnot⟩, hbroken⟩
      · by_cases hkeeps : KeepsLedger ⟨c, l, c'⟩
        · refine .inl ⟨fun t ht => ?_, hentry.balanced hkeeps hbalanced hconfirmed⟩
          rcases List.mem_append.mp ht with ht | ht
          · exact hall t ht
          · rw [List.mem_singleton.mp ht]
            exact hkeeps
        · exact .inr ⟨⟨_, by simp, hkeeps⟩, hentry.breaks hkeeps hbalanced⟩
      · exact .inr ⟨⟨t, List.mem_append_left _ ht, hnot⟩, hentry.broken hbroken⟩

/-- **The payment ledger agrees with the check-ins**, in a state without calls in flight, exactly
when every step of the run has kept it.  A confirmed response carries a transaction id. -/
theorem ledger_agrees_iff (hw : w.Seeded) (h : (skyHigh cfg).Run (.init w) ts c)
    (hquiet : c.quiescent)
    (hconfirmed : ∀ e ∈ c.state.payments, e.outcome.confirmedId ≠ some none) :
    (∀ i, c.state.charges i = [] ∨ ∃ transactionId, c.state.charges i = [some transactionId] ∧
      c.state.db.bookings.paymentId i = some transactionId) ↔ ∀ t ∈ ts, KeepsLedger t := by
  obtain ⟨owed, htracked, hledger⟩ := run_ledger hw h hconfirmed
  have hclear : ∀ i, (c.state.ledger owed).Clear i := by
    intro i k x hk
    have hnone : owed k = none := by
      cases hth : c.threads[k]? with
      | none => exact htracked.idle k hth
      | some th => exact htracked.final hth (hquiet th (List.mem_of_getElem? hth))
    simp [World.ledger, hnone] at hk
  show (c.state.ledger owed).Agrees ↔ _
  rcases hledger with ⟨hall, hbalanced⟩ | ⟨⟨t, ht, hnot⟩, hbroken⟩
  · exact iff_of_true (hbalanced.agrees hclear) hall
  · exact iff_of_false hbroken.not_agrees fun hall => hnot (hall t ht)

end Runs

/-! ## Runs of one seat -/

/-- No call is in flight, and confirmed responses carry transaction ids. -/
def settledTest (c : SkyConfig) : Bool :=
  (c.threads.all fun th => !th.prog.running) &&
    c.state.payments.all fun e => e.outcome.confirmedId ≠ some none

lemma of_settledTest {c : SkyConfig} (h : settledTest c = true) :
    c.quiescent ∧ ∀ e ∈ c.state.payments, e.outcome.confirmedId ≠ some none := by
  simp only [settledTest, Bool.and_eq_true, List.all_eq_true, Bool.not_eq_true',
    decide_eq_true_eq] at h
  exact h

theorem ledger_startThenPay : ∃ ts c, (skyHigh {}).Run (.init oneSeatWorld) ts c ∧
    c.quiescent ∧ c.state.charges 1 = [some "txn_1"] ∧
      ((∀ i, c.state.charges i = [] ∨ ∃ transactionId, c.state.charges i = [some transactionId] ∧
        c.state.db.bookings.paymentId i = some transactionId) ↔ ∀ t ∈ ts, KeepsLedger t) := by
  obtain ⟨ts, c, hrun, htest⟩ := exists_run startThenPay
    (fun _ c => settledTest c && c.state.charges 1 = [some "txn_1"]) (by decide +kernel)
  simp only [Bool.and_eq_true, decide_eq_true_eq] at htest
  obtain ⟨hquiet, hconfirmed⟩ := of_settledTest htest.1
  exact ⟨ts, c, hrun, hquiet, htest.2,
    ledger_agrees_iff oneSeatWorld_seeded hrun hquiet hconfirmed⟩

/-- Passenger 1 declares 30 kg; the response to the first request is lost, the retry is
confirmed. -/
def lostResponse : List SkyLabel :=
  start ++ [.invoke (.confirmCheckIn 1 1 (declaring 30))] ++ proceed 1 5 ++
  [.act 1 { payment := .lost "txn_1" }, .act 1 {}, .act 1 (confirmedBy "txn_2")] ++ proceed 1 6

/-- The passenger is charged twice. -/
theorem ledger_lostResponse : ∃ ts c, oneSeatWorld.Seeded ∧
    (skyHigh {}).Run (.init oneSeatWorld) ts c ∧ c.quiescent ∧
    (∀ e ∈ c.state.payments, e.outcome.confirmedId ≠ some none) ∧
      ¬ ∀ i, c.state.charges i = [] ∨ ∃ transactionId, c.state.charges i = [some transactionId] ∧
        c.state.db.bookings.paymentId i = some transactionId := by
  obtain ⟨ts, c, hrun, htest⟩ := exists_run lostResponse
    (fun _ c => settledTest c && c.state.charges 1 = [some "txn_1", some "txn_2"])
    (by decide +kernel)
  simp only [Bool.and_eq_true, decide_eq_true_eq] at htest
  obtain ⟨hquiet, hconfirmed⟩ := of_settledTest htest.1
  refine ⟨ts, c, oneSeatWorld_seeded, hrun, hquiet, hconfirmed, fun hagrees => ?_⟩
  rcases hagrees 1 with hnil | ⟨transactionId, hone, -⟩
  · simp [htest.2] at hnil
  · simp [htest.2] at hone

end SkyHighCore
