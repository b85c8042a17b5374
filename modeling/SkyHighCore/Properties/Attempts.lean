import SkyHighCore.Properties.Alone
import SkyHighCore.Properties.Fees
import SkyHighCore.Properties.MeasuredWeight

/-!
# Repeated confirmations

A passenger who holds a seat may confirm again and again: an attempt over the limit whose payment is
not confirmed leaves the check-in paused, with the seat held and the hold key where it was, and the
next attempt starts from there.  The first attempt that is within the limit or has its payment
confirmed completes the check-in, and every later one finds it closed.  What one attempt does is
`Ends`, from the walk through `confirmCheckIn`; `repeated_confirmations_iff` is the induction over
any sequence of attempts.  One thing can go wrong: the transaction id of a confirmed payment may not
fit the column `payment_id`, and the completion then fails after the payment.
-/

namespace SkyHighCore

open Framework

/-! ## What an attempt starts from and ends in -/

/-- The row that a pause leaves. -/
def CheckIn.paused (c : CheckIn) (weight fee : ℚ) : CheckIn :=
  { c with status := .awaitingPayment, baggageWeight := some weight, excessFee := some fee }

/-- The row that a completion leaves. -/
def CheckIn.closed (c : CheckIn) (weight : ℚ) (payment : Option String) : CheckIn :=
  { c with status := .completed, baggageWeight := some weight, paymentId := payment }

/-- Passenger `p` holds seat `s` with check-in `c`, which is open and not paid. -/
structure Bookings.HeldWith (b : Bookings) (p : PassengerId) (s : SeatId) (c : CheckIn) :
    Prop where
  checkIn : b.checkIn c.id = some c
  passenger : c.passengerId = p
  seatId : c.seatId = some s
  isOpen : c.status.isOpen = true
  unpaid : c.paymentId = none
  seat : ∃ seat, b.seat s = some seat ∧ seat.status = .held ∧ seat.heldBy = some p

/-- Passenger `p` has seat `s` with the completed check-in `c`. -/
structure Bookings.TakenWith (b : Bookings) (p : PassengerId) (s : SeatId) (c : CheckIn) :
    Prop where
  checkIn : b.checkIn c.id = some c
  passenger : c.passengerId = p
  completed : c.status = .completed
  seat : ∃ seat, b.seat s = some seat ∧ seat.status = .confirmed ∧ seat.heldBy = some p

/-- The query of a confirmation. -/
lemma CheckInWhere.matches_own {c : CheckIn} {p : PassengerId} (hp : c.passengerId = p) :
    CheckInWhere.Matches { id := some c.id, passengerId := some p } c := by
  simp [CheckInWhere.Matches, hp]

namespace Bookings.HeldWith

variable {b : Bookings} {p : PassengerId} {s : SeatId} {c : CheckIn}

lemma awaiting (h : b.HeldWith p s c) (weight fee : ℚ) :
    (b.awaiting c.id c weight fee).HeldWith p s (c.paused weight fee) where
  checkIn := Bookings.update_eq_some_iff.mpr (.inl ⟨rfl, rfl⟩)
  passenger := h.passenger
  seatId := h.seatId
  isOpen := rfl
  unpaid := h.unpaid
  seat := h.seat

lemma completed (h : b.HeldWith p s c) {seat : Seat} (hseat : b.seat s = some seat) (weight : ℚ)
    (payment : Option String) :
    (b.completed c.id c s seat weight payment).TakenWith p s (c.closed weight payment) where
  checkIn := Bookings.update_eq_some_iff.mpr (.inl ⟨rfl, rfl⟩)
  passenger := h.passenger
  completed := rfl
  seat := by
    obtain ⟨seat', hseat', -, hby⟩ := h.seat
    obtain rfl : seat = seat' := Option.some_inj.mp (hseat.symm.trans hseat')
    exact ⟨seat.taken, Bookings.update_eq_some_iff.mpr (.inl ⟨rfl, rfl⟩), rfl, hby⟩

end Bookings.HeldWith

/-- The transaction ids that the Payment Service has confirmed in these exchanges. -/
def confirmedOf (exchanges : List PaymentExchange) : List (Option String) :=
  exchanges.filterMap fun e => e.outcome.confirmedId

/-- The transaction id fits the column `payment_id`. -/
def FitsColumn (transactionId : Option String) : Prop := ∀ t ∈ transactionId, t.length ≤ 100

lemma fitsColumn_none : FitsColumn none := by
  intro t ht
  cases ht

instance (transactionId : Option String) : Decidable (FitsColumn transactionId) := by
  unfold FitsColumn; infer_instance

/-- The weight and its fee fit their columns. -/
def Settings.Stores (cfg : Settings) (weight : ℚ) : Prop :=
  |numericScale2 weight| < 1000 ∧ |numericScale2 (cfg.feeOf weight)| < 100000000

/-- The hold of `p`, with its key that lapses at `e`, and the payments so far. -/
def World.Holding (p : PassengerId) (s : SeatId) (e : Time) (c : CheckIn)
    (payments : List PaymentExchange) (w : World) : Prop :=
  w.db.bookings.HeldWith p s c ∧ (∃ q, w.seatHolds s = some (q, e)) ∧ w.payments = payments

/-- The seat of `p`, without a key, and the payments so far. -/
def World.Taking (p : PassengerId) (s : SeatId) (c : CheckIn) (payments : List PaymentExchange)
    (w : World) : Prop :=
  w.db.bookings.TakenWith p s c ∧ w.seatHolds s = none ∧ w.payments = payments

/-- How an attempt ends that declares this weight on the hold with check-in `c`: its key may have
lapsed; it stays unpaid, or its payment is confirmed under an id that cannot be stored, and it is
paused; or it is completed. -/
inductive World.Ends (cfg : Settings) (p : PassengerId) (s : SeatId) (e : Time) (c : CheckIn)
    (weight : ℚ) (payments : List PaymentExchange) (w : World) : Prop
  | lapsed (hlate : e ≤ w.now) (h : w.Holding p s e c payments)
  | unpaid {exchanges} (hover : cfg.maxBaggageKg < weight) (hnone : confirmedOf exchanges = [])
      (h : w.Holding p s e (c.paused (numericScale2 weight) (numericScale2 (cfg.feeOf weight)))
        (payments ++ exchanges))
  | refused {exchanges transactionId} (hover : cfg.maxBaggageKg < weight)
      (hpaid : confirmedOf exchanges = [transactionId]) (hlong : ¬ FitsColumn transactionId)
      (h : w.Holding p s e (c.paused (numericScale2 weight) (numericScale2 (cfg.feeOf weight)))
        (payments ++ exchanges))
  | within (hwithin : weight ≤ cfg.maxBaggageKg)
      (h : w.Taking p s (c.closed (numericScale2 weight) none) payments)
  | paid {exchanges transactionId} (hover : cfg.maxBaggageKg < weight)
      (hpaid : confirmedOf exchanges = [transactionId]) (hfits : FitsColumn transactionId)
      (h : w.Taking p s ((c.paused (numericScale2 weight)
        (numericScale2 (cfg.feeOf weight))).closed (numericScale2 weight) transactionId)
        (payments ++ exchanges))

section Lasting

variable {cfg : Settings} {p : PassengerId} {s : SeatId} {e : Time} {c : CheckIn} {weight : ℚ}
  {payments : List PaymentExchange}

lemma World.lasting_holding : (skyHigh cfg).Lasting (World.Holding p s e c payments) :=
  fun _ _ h => h

lemma World.lasting_taking : (skyHigh cfg).Lasting (World.Taking p s c payments) :=
  fun _ _ h => h

lemma World.lasting_ends : (skyHigh cfg).Lasting (World.Ends cfg p s e c weight payments) := by
  intro ms w h
  cases h with
  | lapsed hlate h => exact .lapsed (hlate.trans (Nat.le_add_right _ ms)) h
  | unpaid hover hnone h => exact .unpaid hover hnone h
  | refused hover hpaid hlong h => exact .refused hover hpaid hlong h
  | within hwithin h => exact .within hwithin h
  | paid hover hpaid hfits h => exact .paid hover hpaid hfits h

end Lasting

/-! ## Actions of an attempt -/

/-- If it does not concern the Weight Service, the action fails only where nobody looks. -/
def Action.Relies (a : Action) (ch : Choice) : Prop :=
  a.fails = true → a.weighs = false → ch.fault = false

/-- Neither the database nor Redis fails in the transition. -/
def Reliable (t : SkyTransition) : Prop :=
  ∀ k ch, t.label = .act k ch → ∀ call a cont, t.pre.threads[k]? = some ⟨call, .act a cont⟩ →
    a.Relies ch

/-- The contract of a call that runs alone, with a database and a Redis that do not fail. -/
abbrev reliable (cfg : Settings) : SkyContract World := (skyHigh cfg).loneFor Action.Relies

namespace World

variable {w : World} {ch : Choice}

/-- A check-in is found by its id. -/
lemma exec_findOneCheckIn_id (hch : ch.fault = false) {q : CheckInWhere} {c : CheckIn}
    (hid : q.id = some c.id) (hc : w.db.bookings.checkIn c.id = some c) (hq : q.Matches c) :
    exec (.findOneCheckIn q) ch w = (.ok (some c), w) := by
  have hfound : w.db.checkIns.findOne (fun d => ch.rank d.id) q.Matches = some c := by
    rw [Table.findOne_of_key (k := c.id) _ _ fun d hd => hd.1 c.id hid]
    have hc' : w.db.checkIns.get? c.id = some c := hc
    simp [hc', Option.filter, hq]
  simp only [exec]
  rw [hfound]
  exact query_ok hch _

lemma exec_awaitPayment (hch : ch.fault = false) {snap c : CheckIn} {weight fee : ℚ}
    (hc : w.db.bookings.checkIn snap.id = some c) (hweight : |numericScale2 weight| < 1000)
    (hfee : |numericScale2 fee| < 100000000) :
    ∃ db', exec (.awaitPayment snap weight fee) ch w = (.ok (), { w with db := db' }) ∧
      db'.bookings = w.db.bookings.awaiting snap.id c (numericScale2 weight)
        (numericScale2 fee) := by
  obtain ⟨db', hbody⟩ := Tx.awaitPaymentUpdate_commits snap w.db hweight hfee
  exact ⟨db', transaction_ok hch hbody, (Tx.awaitPaymentUpdate_ok hbody hc).1⟩

/-- A completion commits, if the transaction id fits its column. -/
lemma exec_complete (payment : Option String) (hch : ch.fault = false) {snap c : CheckIn}
    {s : SeatId} {seat : Seat} {weight : ℚ} (hs : snap.seatId = some s)
    (hc : w.db.bookings.checkIn snap.id = some c) (hseat : w.db.bookings.seat s = some seat)
    (hweight : |numericScale2 weight| < 1000) :
    (FitsColumn payment ∧ ∃ db', exec (.complete snap weight payment) ch w =
        (.ok (), { w with db := db' }) ∧
      db'.bookings = w.db.bookings.completed snap.id c s seat (numericScale2 weight) payment) ∨
    (¬ FitsColumn payment ∧ ∃ error, exec (.complete snap weight payment) ch w =
      (.error error, w)) := by
  have hok : (Tx.completeTransaction snap weight payment w.db).isOk = true ↔ FitsColumn payment :=
    Tx.completeTransaction_isOk snap w.db hweight
  cases hbody : Tx.completeTransaction snap weight payment w.db with
  | ok out =>
      obtain ⟨u, db'⟩ := out
      refine .inl ⟨hok.mp (by rw [hbody]; rfl), db', transaction_ok hch hbody, ?_⟩
      exact (Tx.completeTransaction_ok hbody hs hc hseat).1
  | error error =>
      refine .inr ⟨fun hfits => ?_, error, ?_⟩
      · have htrue := hok.mpr hfits
        rw [hbody] at htrue
        cases htrue
      · simp [exec, transaction, hch, hbody]

end World

/-! ## The walk through an attempt -/

section Walk

variable {cfg : Settings} {p : PassengerId} {s : SeatId} {e : Time} {c : CheckIn} {weight : ℚ}
  {payments : List PaymentExchange} {w : World} {β : Type}

/-- An audit row that is written by itself touches neither hold nor payments. -/
lemma wp_auditLog_holding {dto : AuditLog} {k : Unit → Program β}
    {Q : Except AppException β → World → Prop} (hw : w.Holding p s e c payments)
    (hk : ∀ w', w'.Holding p s e c payments → (k ()).wp (reliable cfg) Q w') :
    (auditLog dto >>= k).wp (reliable cfg) Q w := by
  refine loneFor_ok World.lasting_holding hw (R := fun _ => World.Holding p s e c payments) ?_
    fun _ => hk
  intro ch w₁ _ hw₁
  cases hfault : ch.fault with
  | true => exact ⟨(), w₁, by simp [World.exec, hfault], hw₁⟩
  | false =>
      exact ⟨(), { w₁ with db := { w₁.db with auditLog := w₁.db.auditLog ++ [dto] } },
        by simp [World.exec, hfault], hw₁⟩

namespace PaymentService

/-- The requests of an attempt end with the first that is confirmed, if there is one. -/
lemma wp_attempts_holding (request : PaymentRequestDto) (remaining : ℕ) :
    ∀ attempt lastError w exchanges, w.Holding p s e c (payments ++ exchanges) →
      confirmedOf exchanges = [] →
      (attempts cfg request remaining attempt lastError).wp (reliable cfg) (fun r w' =>
        ∃ result exchanges', r = .ok result ∧ w'.Holding p s e c (payments ++ exchanges') ∧
          confirmedOf exchanges' = if result.success then [result.transactionId] else []) w := by
  induction remaining with
  | zero => exact fun attempt lastError w exchanges hw hnone => ⟨_, exchanges, rfl, hw, hnone⟩
  | succ remaining ih =>
      intro attempt lastError w exchanges hw hnone
      have hbackoff : (backoff cfg attempt).wp (reliable cfg) (fun r w' => r = .ok () ∧
          w'.Holding p s e c (payments ++ exchanges)) w := by
        unfold backoff
        split
        · refine System.wp_loneFor World.lasting_holding hw fun ch w₁ r w₂ _ hw₁ he => ?_
          obtain ⟨rfl, rfl⟩ := Prod.mk.inj he
          exact ⟨rfl, hw₁⟩
        · exact ⟨rfl, hw⟩
      refine Prog.wp_bind (Prog.wp_mono ?_ hbackoff)
      rintro r w₁ ⟨rfl, hw₁⟩
      refine (Prog.wp_andThen _ _ _ _).mpr
        (System.wp_loneFor World.lasting_holding hw₁ fun ch w₂ r w₃ _ hw₂ he => ?_)
      obtain ⟨rfl, rfl⟩ := Prod.mk.inj he
      have hnext : ∀ outcome,
          World.Holding p s e c (payments ++ (exchanges ++ [⟨request, outcome⟩]))
            { w₂ with payments := w₂.payments ++ [⟨request, outcome⟩] } := by
        intro outcome
        refine ⟨hw₂.1, hw₂.2.1, ?_⟩
        rw [← List.append_assoc, ← hw₂.2.2]
      have hconfirmed : ∀ outcome : PaymentOutcome,
          confirmedOf (exchanges ++ [⟨request, outcome⟩]) = outcome.confirmedId.toList := by
        intro outcome
        rw [confirmedOf, List.filterMap_append, ← confirmedOf, hnone, List.nil_append]
        cases hid : outcome.confirmedId <;> simp [hid]
      cases ch.payment with
      | response body =>
          refine ⟨resultOf body, _, rfl, hnext _, (hconfirmed _).trans ?_⟩
          by_cases hst : body.status = "confirmed" <;>
            simp [PaymentOutcome.confirmedId, resultOf, hst]
      | lost transactionId => exact ih _ _ _ _ (hnext _) (hconfirmed _)
      | unreachable message => exact ih _ _ _ _ (hnext _) (hconfirmed _)

lemma wp_processPayment_holding (request : PaymentRequestDto)
    (hw : w.Holding p s e c payments) :
    (processPayment cfg request).wp (reliable cfg) (fun r w' =>
      ∃ result exchanges, r = .ok result ∧ w'.Holding p s e c (payments ++ exchanges) ∧
        confirmedOf exchanges = if result.success then [result.transactionId] else []) w := by
  refine wp_auditLog_holding hw fun w₁ hw₁ => ?_
  have hw₁' : w₁.Holding p s e c (payments ++ []) := by rwa [List.append_nil]
  refine Prog.wp_bind (Prog.wp_mono ?_
    (wp_attempts_holding request (cfg.maxRetries + 1) 0 none w₁ [] hw₁' rfl))
  rintro r w₂ ⟨result, exchanges, rfl, hw₂, hconfirmed⟩
  dsimp only
  unfold logConfirmed
  split
  · exact wp_auditLog_holding hw₂ fun w₃ hw₃ => ⟨result, exchanges, rfl, hw₃, hconfirmed⟩
  · exact ⟨result, exchanges, rfl, hw₂, hconfirmed⟩

end PaymentService

namespace CheckInService

/-- After the transaction the key is dropped; the reports that follow change nothing. -/
lemma wp_dropHold_taking {snap : CheckIn} (hs : snap.seatId = some s)
    (htaken : w.db.bookings.TakenWith p s c) (hpayments : w.payments = payments)
    {k : Unit → Program β} {Q : Except AppException β → World → Prop}
    (hk : ∀ w', w'.Taking p s c payments → (k ()).wp (reliable cfg) Q w') :
    (dropHold snap >>= k).wp (reliable cfg) Q w := by
  have hdrop : dropHold snap =
      (delSeatHold s >>= fun _ => SeatService.invalidateCache snap.flightId) := by
    simp [dropHold, hs]
  rw [hdrop]
  refine Prog.wp_bind (loneFor_ok (F := fun w : World => w.db.bookings.TakenWith p s c ∧
    w.payments = payments) (R := fun _ => World.Taking p s c payments) (fun _ _ h => h)
    ⟨htaken, hpayments⟩ ?_ fun _ w₁ hw₁ => ?_)
  · intro ch w₁ hch hw₁
    refine ⟨(), _, World.redis_ok (hch rfl rfl) _ _, hw₁.1, ?_, hw₁.2⟩
    exact Function.update_self s none w₁.seatHolds
  · refine System.wp_loneFor World.lasting_taking hw₁ fun ch w₂ r w₃ hch hw₂ he => ?_
    obtain ⟨rfl, rfl⟩ := Prod.mk.inj ((World.redis_ok (hch rfl rfl) _ _).symm.trans he)
    exact hk _ hw₂

lemma wp_completeCheckIn_holding {snap : CheckIn} {payment : Option String}
    {Q : Except AppException CheckInResponseDto → World → Prop}
    (hw : w.Holding p s e c payments) (hid : snap.id = c.id) (hs : snap.seatId = some s)
    (hweight : |numericScale2 weight| < 1000)
    (hfits : FitsColumn payment →
      ∀ r w', w'.Taking p s (c.closed (numericScale2 weight) payment) payments → Q r w')
    (hlong : ¬ FitsColumn payment → ∀ r w', w'.Holding p s e c payments → Q r w') :
    (completeCheckIn snap weight payment).wp (reliable cfg) Q w := by
  refine loneFor_ok World.lasting_holding hw (R := fun _ => World.Holding p s e c payments)
    (fun ch w₁ _ hw₁ => ⟨w₁.now, w₁, rfl, hw₁⟩) fun confirmedAt w₁ hw₁ => ?_
  refine Prog.wp_bind
    (System.wp_loneFor World.lasting_holding hw₁ fun ch w₂ r w₃ hch hw₂ he => ?_)
  obtain ⟨hheld, hkey, hpayments⟩ := hw₂
  obtain ⟨seat, hseat, -, -⟩ := hheld.seat
  rcases World.exec_complete payment (hch rfl rfl) hs (hid ▸ hheld.checkIn) hseat hweight with
    ⟨hcolumn, db', hok, hb⟩ | ⟨hcolumn, error, herror⟩
  · obtain ⟨rfl, rfl⟩ := Prod.mk.inj (hok.symm.trans he)
    rw [hid] at hb
    have htaken := hheld.completed hseat (numericScale2 weight) payment
    rw [← hb] at htaken
    refine wp_dropHold_taking (w := { w₂ with db := db' }) hs htaken hpayments fun w₄ hw₄ => ?_
    refine Prog.wp_bind (Prog.wp_bind
      (System.wp_loneFor World.lasting_taking hw₄ fun ch w₅ r w₆ _ hw₅ he' => ?_))
    obtain rfl : w₆ = w₅ := World.query_world he'
    cases r with
    | error error => exact hfits hcolumn _ _ hw₅
    | ok found =>
        cases found with
        | none => exact hfits hcolumn _ _ hw₅
        | some checkIn => exact hfits hcolumn _ _ hw₅
  · obtain ⟨rfl, rfl⟩ := Prod.mk.inj (herror.symm.trans he)
    exact hlong hcolumn _ _ ⟨hheld, hkey, hpayments⟩

lemma wp_handleExcessBaggage_holding (hw : w.Holding p s e c payments)
    (hover : cfg.maxBaggageKg < weight) (hstores : cfg.Stores weight) :
    (handleExcessBaggage cfg c weight (cfg.feeOf weight)).wp (reliable cfg)
      (fun _ w' => w'.Ends cfg p s e c weight payments) w := by
  refine loneFor_ok World.lasting_holding hw (R := fun _ => World.Holding p s e
    (c.paused (numericScale2 weight) (numericScale2 (cfg.feeOf weight))) payments) ?_
    fun _ w₁ hw₁ => ?_
  · intro ch w₁ hch hw₁
    obtain ⟨db', hok, hb⟩ := World.exec_awaitPayment (hch rfl rfl) hw₁.1.checkIn hstores.1 hstores.2
    refine ⟨(), _, hok, ?_, hw₁.2⟩
    have hheld := hw₁.1.awaiting (numericScale2 weight) (numericScale2 (cfg.feeOf weight))
    rwa [← hb] at hheld
  refine Prog.wp_bind (Prog.wp_mono ?_
    (PaymentService.wp_processPayment_holding (paymentRequest c (cfg.feeOf weight)) hw₁))
  rintro r w₂ ⟨result, exchanges, rfl, hw₂, hconfirmed⟩
  show Prog.wp _ (if result.success = true then _ else _) _ w₂
  split <;> rename_i hsuccess
  · rw [if_pos hsuccess] at hconfirmed
    exact wp_completeCheckIn_holding hw₂ rfl hw.1.seatId hstores.1
      (fun hfits r w₃ hw₃ => .paid hover hconfirmed hfits hw₃)
      fun hlong r w₃ hw₃ => .refused hover hconfirmed hlong hw₃
  · rw [if_neg hsuccess] at hconfirmed
    refine Prog.wp_bind (Prog.wp_bind
      (System.wp_loneFor World.lasting_holding hw₂ fun ch w₃ r w₄ _ hw₃ he => ?_))
    obtain rfl : w₄ = w₃ := World.query_world he
    have hends : w₄.Ends cfg p s e c weight payments := .unpaid hover hconfirmed hw₃
    cases r with
    | error error => exact hends
    | ok found =>
        cases found with
        | none => exact hends
        | some checkIn => exact hends

/-- The key is there, or it has lapsed. -/
lemma wp_validateHoldNotExpired_holding (hw : w.Holding p s e c payments) :
    (validateHoldNotExpired c).wp (reliable cfg) (fun r w' =>
      (r = .ok () ∨ (∃ error, r = .error error) ∧ e ≤ w'.now) ∧ w'.Holding p s e c payments) w := by
  refine Prog.wp_bind (Prog.wp_throwWhen (fun hclosed => ?_) fun _ => ?_)
  · have hopen := hw.1.isOpen
    cases hst : c.status <;> simp [hst, CheckInStatus.isOpen] at hclosed hopen
  dsimp only
  rw [hw.1.seatId]
  refine Prog.wp_bind (System.wp_loneFor World.lasting_holding hw fun ch w₁ r w₂ hch hw₁ he => ?_)
  obtain ⟨rfl, rfl⟩ := Prod.mk.inj ((World.redis_ok (hch rfl rfl) _ _).symm.trans he)
  obtain ⟨q, hq⟩ := hw₁.2.1
  refine Prog.wp_throwWhen (fun hnone => ⟨.inr ⟨⟨_, rfl⟩, ?_⟩, hw₁⟩) fun _ => ⟨.inl rfl, hw₁⟩
  by_contra hlate
  simp [World.live, hq, not_le.mp hlate] at hnone

/-- The Weight Service is asked, and the fee is that of the declared weight. -/
lemma wp_validateAndCalculateFee_holding (hw : w.Holding p s e c payments) (weight : ℚ) :
    (BaggageService.validateAndCalculateFee cfg p weight).wp (reliable cfg) (fun r w' =>
      r = .ok (BaggageService.calculateFee cfg weight) ∧ w'.Holding p s e c payments) w := by
  refine Prog.wp_bind (Prog.wp_tryCatch (Prog.wp_bind
    (System.wp_loneFor World.lasting_holding hw fun ch w₁ r w₂ _ hw₁ he => ?_)))
  have hexec : World.exec (.getWeight p) ch w₁ = (r, w₂) := he
  obtain rfl : w₂ = w₁ := by
    simp only [World.exec] at hexec
    split at hexec
    · exact (Prod.mk.inj hexec).2.symm
    · exact (Prod.mk.inj hexec).2.symm
  cases r with
  | ok measured => exact ⟨rfl, hw₁⟩
  | error error => exact ⟨rfl, hw₁⟩

/-- **What an attempt does with a hold.** -/
lemma wp_confirmCheckIn_holding {dto : UpdateCheckInRequestDto}
    (hw : w.Holding p s e c payments) (hstores : cfg.Stores (declaredWeight dto)) :
    (confirmCheckIn cfg c.id p dto).wp (reliable cfg)
      (fun _ w' => w'.Ends cfg p s e c (declaredWeight dto) payments) w := by
  refine Prog.wp_bind (loneFor_ok World.lasting_holding hw
    (R := fun found w' => found = some c ∧ w'.Holding p s e c payments) ?_ ?_)
  · intro ch w₁ hch hw₁
    refine ⟨some c, w₁, World.exec_findOneCheckIn_id (hch rfl rfl) rfl hw₁.1.checkIn ?_, rfl, hw₁⟩
    exact CheckInWhere.matches_own hw₁.1.passenger
  rintro _ w₁ ⟨rfl, hw₁⟩
  refine Prog.wp_bind (Prog.wp_mono ?_ (wp_validateHoldNotExpired_holding hw₁))
  rintro r w₂ ⟨rfl | ⟨⟨error, rfl⟩, hlate⟩, hw₂⟩
  · refine Prog.wp_bind (Prog.wp_mono ?_
      (wp_validateAndCalculateFee_holding hw₂ (declaredWeight dto)))
    rintro r w₃ ⟨rfl, hw₃⟩
    show Prog.wp _ (if _ then _ else _) _ w₃
    split
    · rename_i hover
      exact wp_handleExcessBaggage_holding hw₃ (by simpa using hover) hstores
    · rename_i hwithin
      refine wp_completeCheckIn_holding hw₃ rfl hw₃.1.seatId hstores.1
        (fun _ r w₄ hw₄ => .within (by simpa using hwithin) hw₄) fun hlong => ?_
      exact absurd fitsColumn_none hlong
  · exact .lapsed hlate hw₂

/-- **What an attempt does with a completed check-in**: it is turned away. -/
lemma wp_confirmCheckIn_taken {db : Database} {dto : UpdateCheckInRequestDto}
    (htaken : db.bookings.TakenWith p s c) (hw : w.db = db ∧ w.payments = payments) :
    (confirmCheckIn cfg c.id p dto).wp (reliable cfg) (fun r w' => r = .error holdExpiredException ∧
      w'.db = db ∧ w'.payments = payments) w := by
  have hF : (skyHigh cfg).Lasting fun w : World => w.db = db ∧ w.payments = payments :=
    fun _ _ h => h
  refine Prog.wp_bind (loneFor_ok hF hw
    (R := fun found w' => found = some c ∧ w'.db = db ∧ w'.payments = payments) ?_ ?_)
  · rintro ch w₁ hch ⟨rfl, hpayments⟩
    exact ⟨some c, w₁, World.exec_findOneCheckIn_id (hch rfl rfl) rfl htaken.checkIn
      (CheckInWhere.matches_own htaken.passenger), rfl, rfl, hpayments⟩
  rintro _ w₁ ⟨rfl, hw₁⟩
  refine Prog.wp_bind (Prog.wp_bind (Prog.wp_throwWhen (fun _ => ⟨rfl, hw₁⟩) fun hopen => ?_))
  exact absurd (by simp [htaken.completed]) hopen

end CheckInService

end Walk

/-! ## Sequences of attempts -/

/-- An attempt: what it declares, what it ends with, and the world before and after it. -/
structure Attempt where
  dto : UpdateCheckInRequestDto
  outcome : Except AppException Reply
  pre : World
  post : World

/-- Confirmations of check-in `i` by passenger `p`, one after the other, and nothing else. -/
inductive Attempts (cfg : Settings) (i : CheckInId) (p : PassengerId) :
    SkyConfig → List Attempt → SkyConfig → Prop
  | nil {c} : Attempts cfg i p c [] c
  | cons {c c₁ c₂ dto ts r attempts}
      (solo : (skyHigh cfg).Solo c (.confirmCheckIn i p dto) ts r c₁)
      (reliable : ∀ t ∈ ts, Reliable t) (rest : Attempts cfg i p c₁ attempts c₂) :
      Attempts cfg i p c (⟨dto, r, c.state, c₁.state⟩ :: attempts) c₂

namespace Attempt

def weight (a : Attempt) : ℚ := CheckInService.declaredWeight a.dto

/-- The transaction ids that have been confirmed to the attempt. -/
def confirmed (a : Attempt) : List (Option String) :=
  confirmedOf (a.post.payments.drop a.pre.payments.length)

/-- The transaction of the attempt. -/
def transactionId (a : Attempt) : Option String := a.confirmed.head?.join

/-- The attempt is within the limit or has its payment confirmed. -/
def settles (cfg : Settings) (a : Attempt) : Bool :=
  decide (a.weight ≤ cfg.maxBaggageKg) || !a.confirmed.isEmpty

/-- After the attempt the check-in awaits its payment, with weight and fee of this attempt; the seat
is held, and its key is there. -/
structure Awaits (cfg : Settings) (i : CheckInId) (p : PassengerId) (s : SeatId) (a : Attempt) :
    Prop where
  row : ∃ c, a.post.db.checkIns.get? i = some c ∧ c.status = .awaitingPayment ∧
    c.baggageWeight = some (numericScale2 a.weight) ∧
    c.excessFee = some (numericScale2 (cfg.feeOf a.weight)) ∧ c.paymentId = none
  seat : ∃ seat, a.post.db.seats.get? s = some seat ∧ seat.status = .held ∧ seat.heldBy = some p
  key : (a.post.live (a.post.seatHolds s)).isSome = true

/-- After the attempt the check-in is completed, with weight and payment of this attempt; the seat
is confirmed, and its key is gone. -/
structure Completes (cfg : Settings) (i : CheckInId) (p : PassengerId) (s : SeatId) (a : Attempt) :
    Prop where
  row : ∃ c, a.post.db.checkIns.get? i = some c ∧ c.status = .completed ∧
    c.baggageWeight = some (numericScale2 a.weight) ∧
    c.paymentId = if a.weight ≤ cfg.maxBaggageKg then none else a.transactionId
  seat : ∃ seat, a.post.db.seats.get? s = some seat ∧ seat.status = .confirmed ∧
    seat.heldBy = some p
  key : a.post.seatHolds s = none

/-- The attempt is turned away: it changes no table and asks for no payment. -/
structure Rejected (a : Attempt) : Prop where
  outcome : a.outcome = .error CheckInService.holdExpiredException
  db : a.post.db = a.pre.db
  payments : a.post.payments = a.pre.payments

end Attempt

/-- The hold key of the seat, if it is there, has not lapsed. -/
def World.Unlapsed (s : SeatId) (w : World) : Prop :=
  ∀ q e, w.seatHolds s = some (q, e) → w.now < e

/-- The attempts before the first that settles leave the check-in awaiting its payment, that one
completes it, and the later ones are turned away. -/
def RunsAsMeant (cfg : Settings) (i : CheckInId) (p : PassengerId) (s : SeatId)
    (as : List Attempt) : Prop :=
  (∀ a ∈ as.takeWhile fun a => !a.settles cfg, a.Awaits cfg i p s) ∧
    ∀ a later, (as.dropWhile fun a => !a.settles cfg) = a :: later →
      a.Completes cfg i p s ∧ ∀ b ∈ later, b.Rejected

/-- If the first attempt that settles is over the limit, its transaction id fits the column. -/
def PaymentFits (cfg : Settings) (as : List Attempt) : Prop :=
  ∀ a later, (as.dropWhile fun a => !a.settles cfg) = a :: later →
    cfg.maxBaggageKg < a.weight → FitsColumn a.transactionId

section Sequences

variable {cfg : Settings} {i : CheckInId} {p : PassengerId} {s : SeatId} {a : Attempt}
  {as : List Attempt}

lemma runsAsMeant_cons_of_settles (h : a.settles cfg = true) :
    RunsAsMeant cfg i p s (a :: as) ↔ a.Completes cfg i p s ∧ ∀ b ∈ as, b.Rejected := by
  simp [RunsAsMeant, h]

lemma runsAsMeant_cons_of_not_settles (h : a.settles cfg = false) :
    RunsAsMeant cfg i p s (a :: as) ↔ a.Awaits cfg i p s ∧ RunsAsMeant cfg i p s as := by
  simp [RunsAsMeant, h, and_assoc]

lemma paymentFits_cons_of_settles (h : a.settles cfg = true) :
    PaymentFits cfg (a :: as) ↔ (cfg.maxBaggageKg < a.weight → FitsColumn a.transactionId) := by
  simp [PaymentFits, h]

lemma paymentFits_cons_of_not_settles (h : a.settles cfg = false) :
    PaymentFits cfg (a :: as) ↔ PaymentFits cfg as := by
  simp [PaymentFits, h]

end Sequences

namespace Attempt

variable {cfg : Settings} {p : PassengerId} {s : SeatId} {e : Time} {a : Attempt} {row : CheckIn}
  {payments : List PaymentExchange} {exchanges : List PaymentExchange}

lemma confirmed_eq (h : a.post.payments = a.pre.payments ++ exchanges) :
    a.confirmed = confirmedOf exchanges := by
  rw [confirmed, h, List.drop_left]

lemma settles_eq_false_iff :
    a.settles cfg = false ↔ cfg.maxBaggageKg < a.weight ∧ a.confirmed = [] := by
  simp [settles]

lemma settles_of_within (h : a.weight ≤ cfg.maxBaggageKg) : a.settles cfg = true := by
  simp [settles, h]

lemma settles_of_confirmed {transactionId : Option String} (h : a.confirmed = [transactionId]) :
    a.settles cfg = true := by
  simp [settles, h]

lemma transactionId_eq {transactionId : Option String} (h : a.confirmed = [transactionId]) :
    a.transactionId = transactionId := by
  simp [Attempt.transactionId, h]

lemma awaits_of_holding (h : a.post.Holding p s e
      (row.paused (numericScale2 a.weight) (numericScale2 (cfg.feeOf a.weight))) payments)
    (hkey : a.post.Unlapsed s) : a.Awaits cfg row.id p s where
  row := ⟨_, h.1.checkIn, rfl, rfl, rfl, h.1.unpaid⟩
  seat := h.1.seat
  key := by
    obtain ⟨q, hq⟩ := h.2.1
    simp [World.live, hq, hkey q e hq]

lemma not_completes_of_holding (h : a.post.Holding p s e row payments) (i : CheckInId) :
    ¬ a.Completes cfg i p s := by
  intro hcompletes
  obtain ⟨q, hq⟩ := h.2.1
  cases hq.symm.trans hcompletes.key

lemma completes_of_taken {i : CheckInId} {payment : Option String}
    (h : a.post.Taking p s (row.closed (numericScale2 a.weight) payment) payments)
    (hid : row.id = i)
    (hpayment : payment = if a.weight ≤ cfg.maxBaggageKg then none else a.transactionId) :
    a.Completes cfg i p s where
  row := ⟨_, hid ▸ h.1.checkIn, rfl, rfl, hpayment⟩
  seat := h.1.seat
  key := h.2.1

/-- An attempt on a hold whose key does not lapse leaves the hold awaiting its payment, is paid
under a transaction id that does not fit, or completes the check-in. -/
lemma cases_of_ends (h : a.post.Ends cfg p s e row a.weight a.pre.payments)
    (hkey : a.post.Unlapsed s) :
    (a.settles cfg = false ∧ a.Awaits cfg row.id p s ∧
      ∃ row' payments, row'.id = row.id ∧ a.post.Holding p s e row' payments) ∨
    (a.settles cfg = true ∧ ¬ a.Completes cfg row.id p s ∧ cfg.maxBaggageKg < a.weight ∧
      ¬ FitsColumn a.transactionId) ∨
    (a.settles cfg = true ∧ a.Completes cfg row.id p s ∧
      (cfg.maxBaggageKg < a.weight → FitsColumn a.transactionId) ∧
      ∃ row', row'.id = row.id ∧ a.post.db.bookings.TakenWith p s row') := by
  cases h with
  | lapsed hlate h =>
      obtain ⟨q, hq⟩ := h.2.1
      exact absurd (hkey q e hq) (not_lt.mpr hlate)
  | unpaid hover hnone h =>
      have hconfirmed := (confirmed_eq h.2.2).trans hnone
      exact .inl ⟨settles_eq_false_iff.mpr ⟨hover, hconfirmed⟩, awaits_of_holding h hkey,
        row.paused _ _, _, rfl, h⟩
  | refused hover hpaid hlong h =>
      have hconfirmed := (confirmed_eq h.2.2).trans hpaid
      refine .inr (.inl ⟨settles_of_confirmed hconfirmed, not_completes_of_holding h _, hover, ?_⟩)
      rwa [transactionId_eq hconfirmed]
  | within hwithin h =>
      refine .inr (.inr ⟨settles_of_within hwithin, ?_, fun hover => ?_, row.closed _ _, rfl, h.1⟩)
      · exact completes_of_taken h rfl (if_pos hwithin).symm
      · exact absurd hwithin (not_le.mpr hover)
  | paid hover hpaid hfits h =>
      have hconfirmed := (confirmed_eq h.2.2).trans hpaid
      have hid := transactionId_eq hconfirmed
      refine .inr (.inr ⟨settles_of_confirmed hconfirmed, ?_, fun _ => by rwa [hid],
        (row.paused _ _).closed _ _, rfl, h.1⟩)
      refine completes_of_taken h rfl ?_
      rw [if_neg (not_le.mpr hover), hid]

end Attempt

section Sequences

variable {cfg : Settings} {p : PassengerId} {s : SeatId} {e : Time} {c c' : SkyConfig}
  {row : CheckIn} {payments : List PaymentExchange} {as : List Attempt}

/-- An attempt on the hold with check-in `row`. -/
lemma ends_of_solo {dto : UpdateCheckInRequestDto} {ts : List SkyTransition}
    {r : Except AppException Reply}
    (h : (skyHigh cfg).Solo c (.confirmCheckIn row.id p dto) ts r c')
    (hrel : ∀ t ∈ ts, Reliable t) (hhold : c.state.Holding p s e row payments)
    (hstores : cfg.Stores (CheckInService.declaredWeight dto)) :
    c'.state.Ends cfg p s e row (CheckInService.declaredWeight dto) payments := by
  refine h.outcome_for hrel (Q := fun _ w => World.Ends cfg p s e row _ payments w)
    (fun _ => World.lasting_ends) ?_
  exact Prog.wp_map (CheckInService.wp_confirmCheckIn_holding hhold hstores)

/-- Once the check-in is completed, every attempt is turned away. -/
lemma rejected_of_taken (h : Attempts cfg row.id p c as c')
    (htaken : c.state.db.bookings.TakenWith p s row) : ∀ a ∈ as, a.Rejected := by
  induction h with
  | nil => exact fun a ha => absurd ha List.not_mem_nil
  | @cons c c₁ c₂ dto ts r as hsolo hrel _ ih =>
      have hrejected : r = .error CheckInService.holdExpiredException ∧
          c₁.state.db = c.state.db ∧ c₁.state.payments = c.state.payments := by
        refine hsolo.outcome_for hrel (Q := fun r (w : World) =>
          r = .error CheckInService.holdExpiredException ∧ w.db = c.state.db ∧
            w.payments = c.state.payments) (fun _ _ _ h => h) ?_
        refine Prog.wp_map (Prog.wp_mono ?_
          (CheckInService.wp_confirmCheckIn_taken htaken ⟨rfl, rfl⟩))
        rintro r' w' ⟨rfl, h⟩
        exact ⟨rfl, h⟩
      obtain ⟨hr, hdb, hpayments⟩ := hrejected
      intro a ha
      rcases List.mem_cons.mp ha with rfl | ha
      · exact ⟨hr, hdb, hpayments⟩
      · exact ih (by rwa [hdb]) a ha

/-- **Attempts on a hold.**  They run as meant unless a confirmed transaction id does not fit. -/
theorem runsAsMeant_iff (h : Attempts cfg row.id p c as c')
    (hhold : c.state.Holding p s e row payments) (hstores : ∀ a ∈ as, cfg.Stores a.weight)
    (hkey : ∀ a ∈ as, a.post.Unlapsed s) :
    RunsAsMeant cfg row.id p s as ↔ PaymentFits cfg as := by
  generalize hi : row.id = i at h ⊢
  induction h generalizing row payments with
  | nil => simp [RunsAsMeant, PaymentFits]
  | @cons c c₁ c₂ dto ts r as hsolo hrel hrest ih =>
      subst hi
      let a : Attempt := ⟨dto, r, c.state, c₁.state⟩
      have hrow : cfg.Stores a.weight := hstores a List.mem_cons_self
      obtain rfl : c.state.payments = payments := hhold.2.2
      have hends : a.post.Ends cfg p s e row a.weight a.pre.payments :=
        ends_of_solo hsolo hrel hhold hrow
      rcases a.cases_of_ends hends (hkey a List.mem_cons_self) with
        ⟨hsettles, hawaits, row', payments, hid, hhold'⟩ | ⟨hsettles, hnot, hover, hlong⟩ |
        ⟨hsettles, hcompletes, hfits, row', hid, htaken⟩
      · rw [runsAsMeant_cons_of_not_settles hsettles, paymentFits_cons_of_not_settles hsettles,
          and_iff_right hawaits]
        exact ih hhold' (fun b hb => hstores b (List.mem_cons_of_mem a hb))
          (fun b hb => hkey b (List.mem_cons_of_mem a hb)) hid
      · rw [runsAsMeant_cons_of_settles hsettles, paymentFits_cons_of_settles hsettles]
        exact iff_of_false (fun hmeant => hnot hmeant.1) fun hfits => hlong (hfits hover)
      · rw [runsAsMeant_cons_of_settles hsettles, paymentFits_cons_of_settles hsettles]
        rw [← hid] at hrest
        exact iff_of_true ⟨hcompletes, rejected_of_taken hrest htaken⟩ hfits

end Sequences

/-! ## From a check-in in progress -/

/-- A check-in in progress is not paid. -/
def Bookings.UnpaidInProgress (b : Bookings) : Prop :=
  ∀ i c, b.checkIn i = some c → c.status = .inProgress → c.paymentId = none

/-- Only a new check-in is in progress after a write that has not been so before. -/
lemma Bookings.Step.unpaidInProgress {b b' : Bookings} (h : b.Step b')
    (hb : b.UnpaidInProgress) : b'.UnpaidInProgress := by
  intro i c' hc' hst
  cases h with
  | acquire h =>
      rcases Bookings.update_eq_some_iff.mp hc' with ⟨-, rfl⟩ | ⟨-, hc⟩
      · exact h.unpaid.2.2
      · exact hb i c' hc hst
  | release =>
      obtain ⟨c, hc, rfl⟩ := Option.map_eq_some_iff.mp hc'
      unfold CheckIn.releasedFrom at hst ⊢
      split at hst
      · cases hst
      · rename_i hother
        rw [if_neg hother]
        exact hb i c hc hst
  | cancel | complete | awaitPayment =>
      rcases Bookings.update_eq_some_iff.mp hc' with ⟨-, rfl⟩ | ⟨-, hc⟩
      · cases hst
      · exact hb i c' hc hst

/-- Passenger `p` holds seat `s` with check-in `i`, which is in progress, and the hold key is
there. -/
structure World.Holds (w : World) (i : CheckInId) (p : PassengerId) (s : SeatId) : Prop where
  row : ∃ c, w.db.checkIns.get? i = some c ∧ c.passengerId = p ∧ c.seatId = some s ∧
    c.status = .inProgress
  seat : ∃ seat, w.db.seats.get? s = some seat ∧ seat.status = .held ∧ seat.heldBy = some p
  key : ∃ q e, w.seatHolds s = some (q, e)

section Repeated

variable {cfg : Settings} {w : World} {ts : List SkyTransition} {c c' : SkyConfig}
  {i : CheckInId} {p : PassengerId} {s : SeatId} {as : List Attempt}

/-- In every reachable state a check-in in progress is not paid. -/
lemma run_unpaidInProgress (hw : w.Seeded) (h : (skyHigh cfg).Run (.init w) ts c) :
    c.state.db.bookings.UnpaidInProgress := by
  refine run_keeps (fun w => w.db.bookings.UnpaidInProgress) (fun _ => True) hw h
    (fun _ _ => trivial) ?_ ?_ ?_
  · intro i row hrow
    rw [hw.checkIn_eq_none] at hrow
    cases hrow
  · intro w₁ w₂ _ heq hunpaid
    rwa [heq]
  · intro t a _ _ _ hwrite _ hunpaid
    exact hwrite.step.unpaidInProgress hunpaid

/-- **Repeated confirmations.**  Passenger `p` holds seat `s` with a check-in in progress and
confirms again and again, with weights that can be stored, whatever the Payment Service and the
Weight Service answer; the hold key does not lapse while it is there.  The attempts before the
first that is within the limit or has its payment confirmed leave the check-in awaiting its
payment, that one completes it and the later ones are turned away, if and only if the transaction
id of that payment fits the column. -/
theorem repeated_confirmations_iff (hw : w.Seeded) (h : (skyHigh cfg).Run (.init w) ts c)
    (hholds : c.state.Holds i p s) (has : Attempts cfg i p c as c')
    (hstores : ∀ a ∈ as, cfg.Stores a.weight) (hkey : ∀ a ∈ as, a.post.Unlapsed s) :
    RunsAsMeant cfg i p s as ↔ PaymentFits cfg as := by
  obtain ⟨row, hrow, hp, hs, hst⟩ := hholds.row
  obtain rfl : row.id = i := Table.key_of_get? hrow
  obtain ⟨q, e, hkey₀⟩ := hholds.key
  have hheld : c.state.db.bookings.HeldWith p s row := {
    checkIn := hrow
    passenger := hp
    seatId := hs
    isOpen := by simp [hst, CheckInStatus.isOpen]
    unpaid := run_unpaidInProgress hw h row.id row hrow hst
    seat := hholds.seat }
  exact runsAsMeant_iff has ⟨hheld, ⟨q, hkey₀⟩, rfl⟩ hstores hkey

end Repeated

/-! ## Played attempts -/

/-- Passenger 1 confirms check-in 1, one attempt after the other; each has its schedule. -/
def play : List (UpdateCheckInRequestDto × List SkyLabel) → SkyConfig →
    Option (List Attempt × SkyConfig)
  | [], c => some ([], c)
  | (dto, schedule) :: rest, c =>
      let call : Call := .confirmCheckIn 1 1 dto
      ((skyHigh {}).execute schedule { c with
        threads := c.threads ++ [⟨call, call.program {}⟩] }).bind fun out =>
          if ended c ∧ out.1.flatMap (fun t => t.label.issued) = [] ∧ out.1.all faultless then
            (outcome? out.2 c.threads.length).bind fun r =>
              (play rest out.2).map fun later =>
                (⟨dto, r, c.state, out.2.state⟩ :: later.1, later.2)
          else none

lemma attempts_of_play {attempts : List (UpdateCheckInRequestDto × List SkyLabel)}
    {c c' : SkyConfig} {as : List Attempt} (h : play attempts c = some (as, c')) :
    Attempts {} 1 1 c as c' := by
  induction attempts generalizing c as with
  | nil =>
      obtain ⟨rfl, rfl⟩ := Prod.mk.inj (Option.some_inj.mp h)
      exact .nil
  | cons attempt attempts ih =>
      obtain ⟨dto, schedule⟩ := attempt
      obtain ⟨out, hout, h⟩ := Option.bind_eq_some_iff.mp h
      split at h
      · rename_i hcond
        obtain ⟨hended, hissued, hfaultless⟩ := hcond
        obtain ⟨r, hr, h⟩ := Option.bind_eq_some_iff.mp h
        obtain ⟨⟨later, c₂⟩, hlater, h⟩ := Option.map_eq_some_iff.mp h
        obtain ⟨rfl, rfl⟩ := Prod.mk.inj h
        refine .cons (solo_of_execute hended hout hissued hr) (fun t ht => ?_) (ih hlater)
        exact fun k ch hl _ _ _ _ _ _ => faultless_of_all hfaultless t ht k ch hl
      · cases h

/-- A test for `World.Holds`. -/
def World.holds (w : World) (i : CheckInId) (p : PassengerId) (s : SeatId) : Bool :=
  ((w.db.checkIns.get? i).any fun c =>
    c.passengerId = p ∧ c.seatId = some s ∧ c.status = .inProgress) &&
  ((w.db.seats.get? s).any fun seat => seat.status = .held ∧ seat.heldBy = some p) &&
  (w.seatHolds s).isSome

lemma World.holds_of_test {w : World} {i : CheckInId} {p : PassengerId} {s : SeatId}
    (h : w.holds i p s = true) : w.Holds i p s := by
  simp only [World.holds, Bool.and_eq_true, Option.any_eq_true, decide_eq_true_eq,
    Option.isSome_iff_exists, Prod.exists] at h
  exact ⟨h.1.1, h.1.2, h.2⟩

/-- A test for what is known of an attempt on a hold of seat 100. -/
def Attempt.timely (a : Attempt) : Bool :=
  decide (|numericScale2 a.weight| < 1000) &&
  decide (|numericScale2 (({} : Settings).feeOf a.weight)| < 100000000) &&
  (a.post.seatHolds 100).all fun key => a.post.now < key.2

lemma Attempt.timely_spec {a : Attempt} (h : a.timely = true) :
    ({} : Settings).Stores a.weight ∧ a.post.Unlapsed 100 := by
  simp only [Attempt.timely, Bool.and_eq_true, decide_eq_true_eq] at h
  refine ⟨h.1, fun q e he => ?_⟩
  simpa [he] using h.2

/-- A test that attempts of passenger 1 on the hold of seat 100 pass. -/
lemma exists_attempts (attempts : List (UpdateCheckInRequestDto × List SkyLabel))
    (test : List Attempt → Bool)
    (h : (((skyHigh {}).execute start (.init oneSeatWorld)).any fun out =>
      out.2.state.holds 1 1 100 && (play attempts out.2).any fun out' =>
        out'.1.all Attempt.timely && test out'.1) = true) :
    ∃ ts c as c', (skyHigh {}).Run (.init oneSeatWorld) ts c ∧ c.state.Holds 1 1 100 ∧
      Attempts {} 1 1 c as c' ∧ (∀ a ∈ as, ({} : Settings).Stores a.weight) ∧
      (∀ a ∈ as, a.post.Unlapsed 100) ∧ test as = true := by
  obtain ⟨⟨ts, c⟩, hout, h⟩ := (Option.any_eq_true _ _).mp h
  obtain ⟨hholds, h⟩ := Bool.and_eq_true_iff.mp h
  obtain ⟨⟨as, c'⟩, hplay, h⟩ := (Option.any_eq_true _ _).mp h
  obtain ⟨htimely, htest⟩ := Bool.and_eq_true_iff.mp h
  have hspec : ∀ a ∈ as, ({} : Settings).Stores a.weight ∧ a.post.Unlapsed 100 :=
    fun a ha => Attempt.timely_spec (List.all_eq_true.mp htimely a ha)
  exact ⟨ts, c, as, c', System.run_of_execute hout, World.holds_of_test hholds,
    attempts_of_play hplay, fun a ha => (hspec a ha).1, fun a ha => (hspec a ha).2, htest⟩

/-- An attempt with 30 kg, the `k`-th call, whose payment is declined. -/
def declined (k : ℕ) : UpdateCheckInRequestDto × List SkyLabel :=
  (declaring 30,
    proceed k 5 ++ [.act k { payment := .response ⟨none, "declined"⟩ }] ++ proceed k 1)

/-- Passenger 1 declares 30 kg, again with a payment, and once more. -/
theorem repeated_confirmations_paid : ∃ c as c', Attempts {} 1 1 c as c' ∧
    as.map (Attempt.settles {}) = [false, true, false] ∧ RunsAsMeant {} 1 1 100 as := by
  obtain ⟨ts, c, as, c', hrun, hholds, has, hstores, hkey, htest⟩ := exists_attempts
    [declined 1, (declaring 30, proceed 2 5 ++ [.act 2 (confirmedBy "txn_1")] ++ proceed 2 6),
      (declaring 30, proceed 3 1)]
    (fun as => decide (as.map (Attempt.settles {}) = [false, true, false]) &&
      as.all fun a => decide (FitsColumn a.transactionId)) (by decide +kernel)
  obtain ⟨hsettles, hfits⟩ := Bool.and_eq_true_iff.mp htest
  refine ⟨c, as, c', has, of_decide_eq_true hsettles, ?_⟩
  refine (repeated_confirmations_iff oneSeatWorld_seeded hrun hholds has hstores hkey).mpr ?_
  intro a later hfirst _
  have hmem : a ∈ as := by
    apply (List.dropWhile_sublist fun a => !Attempt.settles {} a).subset
    rw [hfirst]
    exact List.mem_cons_self
  exact of_decide_eq_true (List.all_eq_true.mp hfits a hmem)

/-- **Not every sequence of attempts runs as meant.**  The payment of 30 kg is confirmed under a
transaction id of 101 characters; the completion fails and the check-in goes on awaiting its
payment. -/
theorem not_forall_runsAsMeant : ¬ ∀ (cfg : Settings) (w : World) (ts : List SkyTransition)
    (c c' : SkyConfig) (i : CheckInId) (p : PassengerId) (s : SeatId) (as : List Attempt),
    w.Seeded → (skyHigh cfg).Run (.init w) ts c → c.state.Holds i p s →
    Attempts cfg i p c as c' → (∀ a ∈ as, cfg.Stores a.weight) →
    (∀ a ∈ as, a.post.Unlapsed s) → RunsAsMeant cfg i p s as := by
  intro hall
  obtain ⟨ts, c, as, c', hrun, hholds, has, hstores, hkey, htest⟩ := exists_attempts
    [(declaring 30, proceed 1 5 ++
      [.act 1 (confirmedBy (String.ofList (List.replicate 101 '0')))] ++ proceed 1 3)]
    (fun as => match as with
      | [a] => a.settles {} && (a.post.seatHolds 100).isSome
      | _ => false) (by decide +kernel)
  have hmeant := hall {} oneSeatWorld ts c c' 1 1 100 as oneSeatWorld_seeded hrun hholds has
    hstores hkey
  split at htest
  · rename_i a
    obtain ⟨hsettles, hkept⟩ := Bool.and_eq_true_iff.mp htest
    have hcompletes := ((runsAsMeant_cons_of_settles hsettles).mp hmeant).1
    rw [hcompletes.key] at hkept
    cases hkept
  · cases htest

end SkyHighCore
