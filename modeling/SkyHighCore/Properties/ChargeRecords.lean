import SkyHighCore.Properties.Alone
import SkyHighCore.Properties.Fees
import SkyHighCore.Properties.MeasuredWeight
import SkyHighCore.Properties.Retries

/-!
# What the record says of a charge

A confirmation over the limit writes the declared weight and its fee to the check-in, and asks for
the fee.  The fee is that of the weight as it has been declared; the column keeps two decimals of
it.  So the record explains the charge, in that the fee of the stored weight is the stored one and
the one that has been asked for, only if no rounding of a fee comes between the two weights, and a
request that is made for any weight over the limit asks for something only if the fee is not
rounded to nothing.  `record_explains_iff` says exactly when this is.
-/

namespace SkyHighCore

open Framework

/-! ## Rounding -/

/-- A number is rounded to more than `n` from `n + 1 / 2` on. -/
lemma lt_round_iff {n : ℤ} {x : ℚ} : n < round x ↔ (n : ℚ) + 1 / 2 ≤ x := by
  rw [round_eq, ← Int.add_one_le_iff, Int.le_floor, Int.cast_add, Int.cast_one]
  constructor
  · intro h
    linarith
  · intro h
    linarith

/-- Two numbers are rounded alike if no half lies between them. -/
lemma round_eq_round_iff {x y : ℚ} :
    round x = round y ↔ ∀ n : ℤ, (n : ℚ) + 1 / 2 ≤ x ↔ (n : ℚ) + 1 / 2 ≤ y := by
  simp only [← lt_round_iff]
  constructor
  · intro h n
    rw [h]
  · exact fun h => eq_of_forall_lt_iff h

namespace Settings

/-- The fee of a weight in cents, before it is rounded. -/
def centsOf (cfg : Settings) (weight : ℚ) : ℚ :=
  (weight - cfg.maxBaggageKg) * cfg.excessFeePerKg * 100

/-- No half cent lies between the fee of a weight and that of the weight as it is stored, and the
fee is half a cent at least. -/
def ChargesAsStored (cfg : Settings) (weight : ℚ) : Prop :=
  (∀ n : ℤ, (n : ℚ) + 1 / 2 ≤ cfg.centsOf weight ↔
    (n : ℚ) + 1 / 2 ≤ cfg.centsOf (numericScale2 weight)) ∧ 1 / 2 ≤ cfg.centsOf weight

variable {cfg : Settings} {weight : ℚ}

/-- At the limit the fee is nothing, so that the formula holds there too. -/
lemma feeOf_eq (h : cfg.maxBaggageKg ≤ weight) :
    cfg.feeOf weight = round (cfg.centsOf weight) / 100 := by
  rcases h.lt_or_eq with hover | rfl
  · simp [feeOf, BaggageService.calculateFee, BaggageService.roundCents, hover, centsOf]
  · simp [feeOf, BaggageService.calculateFee, centsOf]

/-- A weight over the limit is not stored as one below it. -/
lemma le_numericScale2 {n : ℤ} (hlimit : cfg.maxBaggageKg * 100 = n)
    (hover : cfg.maxBaggageKg < weight) : cfg.maxBaggageKg ≤ numericScale2 weight := by
  rw [← numericScale2_of_decimals hlimit]
  exact numericScale2_mono hover.le

lemma feeOf_eq_iff {weight' : ℚ} (h : cfg.maxBaggageKg ≤ weight) (h' : cfg.maxBaggageKg ≤ weight') :
    cfg.feeOf weight = cfg.feeOf weight' ↔ ∀ n : ℤ, (n : ℚ) + 1 / 2 ≤ cfg.centsOf weight ↔
      (n : ℚ) + 1 / 2 ≤ cfg.centsOf weight' := by
  rw [feeOf_eq h, feeOf_eq h', div_left_inj' (by norm_num), Int.cast_inj, round_eq_round_iff]

lemma feeOf_pos_iff (h : cfg.maxBaggageKg ≤ weight) :
    0 < cfg.feeOf weight ↔ 1 / 2 ≤ cfg.centsOf weight := by
  rw [feeOf_eq h, div_pos_iff_of_pos_right (by norm_num), Int.cast_pos, lt_round_iff, Int.cast_zero,
    zero_add]

/-- The fee of the stored weight is the one that is asked for, and it is something. -/
lemma chargesAsStored_iff {n : ℤ} (hlimit : cfg.maxBaggageKg * 100 = n)
    (hover : cfg.maxBaggageKg < weight) : cfg.ChargesAsStored weight ↔
      cfg.feeOf weight = cfg.feeOf (numericScale2 weight) ∧ 0 < cfg.feeOf weight := by
  rw [feeOf_eq_iff hover.le (le_numericScale2 hlimit hover), feeOf_pos_iff hover.le]
  rfl

/-- A weight with two decimals is stored as it is. -/
lemma chargesAsStored_of_decimals {n : ℤ} (h : weight * 100 = n)
    (hcents : 1 / 2 ≤ cfg.centsOf weight) : cfg.ChargesAsStored weight := by
  refine ⟨fun m => ?_, hcents⟩
  rw [numericScale2_of_decimals h]

end Settings

/-! ## The requests of a confirmation -/

/-- The action pauses a check-in or asks for a payment. -/
def Action.charges : Action → Bool
  | .awaitPayment .. | .postPayment _ => true
  | _ => false

/-- The action pauses a check-in. -/
def Action.pauses : Action → Bool
  | .awaitPayment .. => true
  | _ => false

lemma Action.pauses_of_charges {a : Action} (h : a.charges = false) : a.pauses = false := by
  cases a with
  | awaitPayment => cases h
  | _ => rfl

lemma Action.pauses_of_ofPayment {a : Action} (h : a.ofPayment = true) : a.pauses = false := by
  cases a with
  | awaitPayment => cases h
  | _ => rfl

lemma Action.charges_of_idle {a : Action} (h : a.idle = true) : a.charges = false := by
  cases a with
  | awaitPayment | postPayment => cases h
  | _ => rfl

namespace PaymentService

lemma posts_append (tr tr' : SkyTrace) : posts (tr ++ tr') = posts tr ++ posts tr' :=
  List.filterMap_append

lemma posts_eq_nil {tr : SkyTrace} (h : ∀ e ∈ tr, e.1.charges = false) : posts tr = [] := by
  induction tr with
  | nil => rfl
  | cons e tr ih =>
      have he : ∀ request, e.1 ≠ .postPayment request := by
        intro request heq
        have hno := h e List.mem_cons_self
        rw [heq] at hno
        cases hno
      rw [posts_cons_of_ne he]
      exact ih fun e' he' => h e' (List.mem_cons_of_mem e he')

/-- A payment is asked for once at least, and always the same. -/
lemma posts_processPayment {cfg : Settings} {request : PaymentRequestDto} {tr : SkyTrace}
    {r : Except AppException PaymentResultDto} (h : (processPayment cfg request).Yields tr r)
    (hoccurs : ∀ e ∈ tr, Occurs e) : ∃ n, posts tr = List.replicate (n + 1) request := by
  obtain ⟨o, ho⟩ := exists_answered hoccurs
  obtain ⟨m, hmade, -⟩ := exists_attemptsMade cfg.maxRetries o
  have hloop := yields_callPaymentServiceWithRetry cfg request o
  rw [hmade] at hloop
  obtain ⟨rfl, -⟩ := (yields_processPayment hloop tr r).mp ⟨h, ho⟩
  refine ⟨m, ?_⟩
  rw [paymentTrace, posts_append, posts_cons_of_ne (by simp), posts_loopTrace]
  split <;> simp [posts]

end PaymentService

namespace CheckInService

open PaymentService

variable {cfg : Settings} {i : CheckInId} {p : PassengerId} {dto : UpdateCheckInRequestDto}
  {tr : SkyTrace}

lemma chargeless_completeCheckIn (checkIn : CheckIn) (weight : ℚ) (paymentId : Option String) :
    (completeCheckIn checkIn weight paymentId).All fun a => a.charges = false := by
  refine Prog.all_bind (Prog.all_perform rfl) fun _ => ?_
  refine Prog.all_bind (Prog.all_perform rfl) fun _ => ?_
  refine Prog.all_bind ?_ fun _ => ?_
  · unfold dropHold
    split
    · trivial
    · exact Prog.all_bind (Prog.all_perform rfl) fun _ => Prog.all_perform rfl
  · refine Prog.all_bind ?_ fun _ => trivial
    exact (idle_findCheckInOrFail _).mono fun a ha => Action.charges_of_idle ha

/-- The check-in that has been found is the one that was looked for. -/
lemma id_of_findCheckInOrThrow {checkIn : CheckIn}
    (h : (findCheckInOrThrow i p).Yields tr (.ok checkIn)) (hoccurs : ∀ e ∈ tr, Occurs e) :
    checkIn.id = i := by
  rcases Prog.yields_perform_bind.mp h with ⟨found, tr', rfl, hrest⟩ | ⟨e, -, hfalse⟩
  · cases found with
    | none =>
        obtain ⟨-, hfalse⟩ := hrest
        cases hfalse
    | some c =>
        obtain ⟨-, hc⟩ := hrest
        obtain rfl : checkIn = c := Except.ok.inj hc
        obtain ⟨ch, w, hexec⟩ := hoccurs _ List.mem_cons_self
        have hfound : World.exec (.findOneCheckIn { id := some i, passengerId := some p }) ch w =
            (.ok (some checkIn), _) := Prod.ext hexec.symm rfl
        exact (exec_findOneCheckIn hfound).2.2.1 i rfl
  · cases hfalse

/-- What a confirmation over the limit does: it is turned away before it has written anything, or
goes on with the excess baggage of the check-in. -/
lemma yields_confirmCheckIn {r : Except AppException CheckInResponseDto}
    (h : (confirmCheckIn cfg i p dto).Yields tr r) (hoccurs : ∀ e ∈ tr, Occurs e)
    (hover : cfg.maxBaggageKg < declaredWeight dto) :
    (∃ error, r = .error error ∧ ∀ e ∈ tr, e.1.charges = false) ∨
      ∃ checkIn tr₁ tr₂, tr = tr₁ ++ tr₂ ∧ checkIn.id = i ∧ (∀ e ∈ tr₁, e.1.charges = false) ∧
        (handleExcessBaggage cfg checkIn (declaredWeight dto)
          (cfg.feeOf (declaredWeight dto))).Yields tr₂ r := by
  have hidle : ∀ {α : Type} {q : Program α}, Idle q → q.All fun a => a.charges = false :=
    fun hq => hq.mono fun a ha => Action.charges_of_idle ha
  have hfind := hidle (idle_findCheckInOrThrow i p)
  have hvalidate : ∀ c, (validateHoldNotExpired c).All fun a => a.charges = false := fun c =>
    Prog.all_bind Prog.all_throwWhen fun _ => hidle (idle_validateHoldKey _)
  have hweigh : (BaggageService.validateAndCalculateFee cfg p (declaredWeight dto)).All
      fun a => a.charges = false :=
    Prog.all_bind (hidle (idle_callWeightService p)) fun _ => trivial
  rcases Prog.yields_bind.mp h with ⟨tr₁, tr', c, rfl, h₁, h⟩ | ⟨error, h₁, rfl⟩
  · have hid := id_of_findCheckInOrThrow h₁ fun e he => hoccurs e (List.mem_append_left _ he)
    rcases Prog.yields_bind.mp h with ⟨tr₂, tr'', _, rfl, h₂, h⟩ | ⟨error, h₂, rfl⟩
    · rcases Prog.yields_bind.mp h with ⟨tr₃, tr₄, result, rfl, h₃, h⟩ | ⟨error, h₃, rfl⟩
      · -- the fee is that of the declared weight, whatever has been measured
        have hresult : result = BaggageService.calculateFee cfg (declaredWeight dto) := by
          rcases Prog.yields_bind.mp h₃ with ⟨_, _, _, -, -, -, hok⟩ | ⟨_, -, hfalse⟩
          · exact Except.ok.inj hok
          · cases hfalse
        subst hresult
        have hexcess : (if (BaggageService.calculateFee cfg (declaredWeight dto)).isOverweight then
            handleExcessBaggage cfg c (declaredWeight dto) (cfg.feeOf (declaredWeight dto))
            else completeCheckIn c (declaredWeight dto) none).Yields tr₄ r := h
        rw [if_pos (by simpa using hover)] at hexcess
        refine .inr ⟨c, tr₁ ++ (tr₂ ++ tr₃), tr₄, by simp, hid, ?_, hexcess⟩
        rw [List.forall_mem_append, List.forall_mem_append]
        exact ⟨hfind.of_yields h₁, (hvalidate c).of_yields h₂, hweigh.of_yields h₃⟩
      · refine .inl ⟨error, rfl, ?_⟩
        rw [List.forall_mem_append, List.forall_mem_append]
        exact ⟨hfind.of_yields h₁, (hvalidate c).of_yields h₂, hweigh.of_yields h₃⟩
    · refine .inl ⟨error, rfl, ?_⟩
      rw [List.forall_mem_append]
      exact ⟨hfind.of_yields h₁, (hvalidate c).of_yields h₂⟩
  · exact .inl ⟨error, rfl, hfind.of_yields h₁⟩

/-- What becomes of excess baggage: the pause fails, or the fee is asked for once at least, and
nothing else is paused. -/
lemma yields_handleExcessBaggage {checkIn : CheckIn} {weight fee : ℚ}
    {r : Except AppException CheckInResponseDto}
    (h : (handleExcessBaggage cfg checkIn weight fee).Yields tr r) (hoccurs : ∀ e ∈ tr, Occurs e) :
    (∃ error, r = .error error ∧ tr = [⟨.awaitPayment checkIn weight fee, .error error⟩]) ∨
      ∃ tr' n, tr = ⟨.awaitPayment checkIn weight fee, .ok ()⟩ :: tr' ∧
        posts tr' = List.replicate (n + 1) (paymentRequest checkIn fee) ∧
        ∀ e ∈ tr', e.1.pauses = false := by
  have hpay := (spells_processPayment cfg (paymentRequest checkIn fee)).mono fun a ha =>
    Action.pauses_of_ofPayment ha
  rcases Prog.yields_perform_bind.mp h with ⟨_, tr', rfl, hpaused⟩ | ⟨error, rfl, rfl⟩
  · have hoccurs' : ∀ e ∈ tr', Occurs e := fun e he => hoccurs e (List.mem_cons_of_mem _ he)
    rcases Prog.yields_bind.mp hpaused with ⟨tr₁, tr₂, result, rfl, h₁, h₂⟩ | ⟨error, h₁, rfl⟩
    · obtain ⟨n, hposts⟩ := posts_processPayment h₁ fun e he =>
        hoccurs' e (List.mem_append_left _ he)
      have hrest : ∀ e ∈ tr₂, e.1.charges = false := by
        have hif : (if result.success then completeCheckIn
            { checkIn with baggageWeight := some weight, excessFee := some fee } weight
              result.transactionId
          else findCheckInOrFail checkIn.id >>= fun updatedCheckIn =>
            pure (awaitingResponse updatedCheckIn fee)).Yields tr₂ r := h₂
        split at hif
        · exact (chargeless_completeCheckIn _ _ _).of_yields hif
        · have hread : (findCheckInOrFail checkIn.id).All fun a => a.charges = false :=
            (idle_findCheckInOrFail _).mono fun a ha => Action.charges_of_idle ha
          rcases Prog.yields_bind.mp hif with ⟨tr₃, _, _, rfl, h₃, rfl, -⟩ | ⟨_, h₃, -⟩
          · rw [List.append_nil]
            exact hread.of_yields h₃
          · exact hread.of_yields h₃
      refine .inr ⟨_, n, rfl, ?_, ?_⟩
      · rw [posts_append, hposts, posts_eq_nil hrest, List.append_nil]
      · rw [List.forall_mem_append]
        exact ⟨hpay.of_yields h₁, fun e he => Action.pauses_of_charges (hrest e he)⟩
    · obtain ⟨n, hposts⟩ := posts_processPayment h₁ hoccurs'
      exact .inr ⟨_, n, rfl, hposts, hpay.of_yields h₁⟩
  · exact .inl ⟨error, rfl, rfl⟩

end CheckInService

/-! ## The row -/

/-- The row of check-in `i` shows this weight and this fee. -/
def Bookings.Records (b : Bookings) (i : CheckInId) (weight fee : ℚ) : Prop :=
  ∃ row, b.checkIn i = some row ∧ row.baggageWeight = some weight ∧ row.excessFee = some fee

/-- The check-in whose weight the action writes. -/
def Action.weighed : Action → Option CheckInId
  | .awaitPayment checkIn _ _ => some checkIn.id
  | .complete checkIn _ _ => some checkIn.id
  | _ => none

section Rows

variable {cfg : Settings} {b b' : Bookings} {a : Action} {i : CheckInId} {weight : ℚ} {w : World}

/-- Other rows are not touched. -/
lemma Bookings.Records.update {c : CheckIn} {j : CheckInId} {fee : ℚ}
    (hr : b.Records i weight fee)
    (hc : i = j → c.baggageWeight = some weight ∧ c.excessFee = some fee) :
    ∃ row, Function.update b.checkIn j (some c) i = some row ∧ row.baggageWeight = some weight ∧
      row.excessFee = some fee := by
  by_cases hij : i = j
  · exact ⟨c, Bookings.update_eq_some_iff.mpr (.inl ⟨hij, rfl⟩), hc hij⟩
  · obtain ⟨row, hrow, hshows⟩ := hr
    exact ⟨row, Bookings.update_eq_some_iff.mpr (.inr ⟨hij, hrow⟩), hshows⟩

/-- A pause shows the weight and the fee. -/
lemma Commits.records_awaitPayment {snap : CheckIn} {fee : ℚ}
    (h : Commits b (.awaitPayment snap weight fee) b') :
    b'.Records snap.id (numericScale2 weight) (numericScale2 fee) := by
  cases h with
  | awaitPayment hc _ _ => exact ⟨_, Bookings.update_eq_some_iff.mpr (.inl ⟨rfl, rfl⟩), rfl, rfl⟩

/-- A row keeps its weight and its fee as long as nobody stores another weight in it. -/
lemma Commits.records (h : Commits b a b') (hpre : a.Pre cfg w)
    (hown : a.weighed = some i → a.Declares weight)
    (hr : b.Records i (numericScale2 weight) (cfg.feeOf weight)) :
    b'.Records i (numericScale2 weight) (cfg.feeOf weight) := by
  cases h with
  | holdSeat h _ _ | assign h _ _ =>
      apply hr.update
      rintro rfl
      obtain ⟨row, hrow, -⟩ := hr
      cases h.fresh.symm.trans hrow
  | release _ _ _ _ =>
      obtain ⟨row, hrow, hshows⟩ := hr
      refine ⟨_, Option.map_eq_some_iff.mpr ⟨row, hrow, rfl⟩, ?_⟩
      unfold CheckIn.releasedFrom
      split
      · exact hshows
      · exact hshows
  | @cancel snap _ c _ _ hc _ _ _ _ =>
      apply hr.update
      rintro rfl
      obtain ⟨row, hrow, hshows⟩ := hr
      obtain rfl : c = row := Option.some_inj.mp (hc.symm.trans hrow)
      exact hshows
  | @complete snap weight' _ c _ _ hc _ _ _ _ =>
      apply hr.update
      rintro rfl
      obtain ⟨row, hrow, -, hfee⟩ := hr
      obtain rfl : c = row := Option.some_inj.mp (hc.symm.trans hrow)
      have hweight : weight' = weight := hown rfl
      exact ⟨congrArg (fun x => some (numericScale2 x)) hweight, hfee⟩
  | @awaitPayment snap weight' fee c _ _ _ =>
      apply hr.update
      rintro rfl
      have hweight : weight' = weight := hown rfl
      have hfee : fee = cfg.feeOf weight' := hpre.2.2.2
      rw [hfee, cfg.numericScale2_feeOf, hweight]
      exact ⟨rfl, rfl⟩

end Rows

/-! ## Runs -/

/-- Call `k` pauses a check-in in the transition. -/
def pauses (k : ℕ) (t : SkyTransition) : Bool :=
  match t.label, committed? t with
  | .act j _, some a => decide (j = k) && a.pauses
  | _, _ => false

/-- A call other than `k` stores a weight in check-in `i` in the transition. -/
def overwrites (k : ℕ) (i : CheckInId) (t : SkyTransition) : Bool :=
  match t.label, committed? t with
  | .act j _, some a => decide (j ≠ k ∧ a.weighed = some i)
  | _, _ => false

/-- The row of check-in `i` explains the requests: the fee of the stored weight is the stored fee
and the amount of each request, and there is a request exactly if this is more than nothing. -/
def Bookings.Explains (cfg : Settings) (b : Bookings) (i : CheckInId)
    (requests : List PaymentRequestDto) : Prop :=
  ∃ weight fee, b.Records i weight fee ∧ fee = cfg.feeOf weight ∧
    (∀ request ∈ requests, request.amount = cfg.feeOf weight) ∧
    (requests ≠ [] ↔ 0 < cfg.feeOf weight)

/-- The row shows one weight and one fee. -/
lemma Bookings.Records.explains_iff {cfg : Settings} {b : Bookings} {i : CheckInId}
    {weight fee : ℚ} (hr : b.Records i weight fee) (requests : List PaymentRequestDto) :
    b.Explains cfg i requests ↔ fee = cfg.feeOf weight ∧
      (∀ request ∈ requests, request.amount = cfg.feeOf weight) ∧
      (requests ≠ [] ↔ 0 < cfg.feeOf weight) := by
  constructor
  · rintro ⟨weight', fee', ⟨row', hrow', hweight', hfee'⟩, hexplains⟩
    obtain ⟨row, hrow, hweight, hfee⟩ := hr
    obtain rfl : row = row' := Option.some_inj.mp (hrow.symm.trans hrow')
    rw [hweight', Option.some_inj] at hweight
    rw [hfee', Option.some_inj] at hfee
    rwa [← hweight, ← hfee]
  · exact fun h => ⟨weight, fee, hr, h⟩

section Runs

variable {cfg : Settings} {w : World} {us vs ts : List SkyTransition} {c c₁ : SkyConfig} {k : ℕ}
  {i : CheckInId} {p : PassengerId} {dto : UpdateCheckInRequestDto} {t : SkyTransition}

lemma pauses_eq_true (cfg : Settings) (h : pauses k t = true) : ∃ snap weight fee,
    committed? t = some (.awaitPayment snap weight fee) ∧
      (skyHigh cfg).event? k t = some ⟨.awaitPayment snap weight fee, .ok ()⟩ := by
  unfold pauses at h
  split at h
  · rename_i j ch a hl hcommits
    obtain ⟨hj, hpauses⟩ := Bool.and_eq_true_iff.mp h
    obtain rfl := of_decide_eq_true hj
    cases a with
    | awaitPayment snap weight fee =>
        refine ⟨snap, weight, fee, hcommits, ?_⟩
        obtain ⟨k', ch', call, cont, hl', hk⟩ := next_of_committed? hcommits
        obtain ⟨rfl, rfl⟩ : j = k' ∧ ch = ch' := by simpa using hl.symm.trans hl'
        have hok : (World.exec (.awaitPayment snap weight fee) ch t.pre.state).1 = .ok () := by
          simp only [committed?, hl, hk] at hcommits
          cases hr : (World.exec (.awaitPayment snap weight fee) ch t.pre.state).1 with
          | ok _ => rfl
          | error e =>
              rw [hr] at hcommits
              simp [Action.committed] at hcommits
        refine System.event?_eq_some_iff.mpr ⟨ch, call, _, cont, hl, hk, ?_⟩
        exact congrArg _ hok.symm
    | _ => cases hpauses
  · cases h

/-- A pause in the trace of a call is one of its transitions. -/
lemma exists_pause {snap : CheckIn} {weight fee : ℚ}
    (h : ⟨.awaitPayment snap weight fee, .ok ()⟩ ∈ (skyHigh cfg).trace k ts) :
    ∃ t ∈ ts, pauses k t = true := by
  obtain ⟨t, ht, ch, call, a, cont, hl, hk, he⟩ := System.mem_trace_iff.mp h
  obtain ⟨rfl, hr⟩ := Sigma.mk.inj he
  have hok : (World.exec (.awaitPayment snap weight fee) ch t.pre.state).1 = .ok () :=
    (eq_of_heq hr).symm
  refine ⟨t, ht, ?_⟩
  simp [pauses, committed?, hl, hk, hok, Action.committed, Action.pauses]

lemma occurs_of_mem_trace {e : Event Action Action.Res AppException}
    (he : e ∈ (skyHigh cfg).trace k ts) : Occurs e := by
  obtain ⟨t, -, ch, call, a, cont, -, -, rfl⟩ := System.mem_trace_iff.mp he
  exact ⟨ch, t.pre.state, rfl⟩

/-- **The charge of a confirmation over the limit.**  It is turned away before it has written
anything, or its pause fails, or it pauses its check-in, and no other, and asks for the fee. -/
lemma run_charged {r : Except AppException Reply} (h : (skyHigh cfg).Run (.init w) ts c)
    (hk : c.threads[k]? = some ⟨.confirmCheckIn i p dto, .done r⟩)
    (hover : cfg.maxBaggageKg < CheckInService.declaredWeight dto) :
    ((∃ error, r = .error error) ∧ ∀ t ∈ ts, pauses k t = false) ∨
      ∃ checkIn n, checkIn.id = i ∧ (∃ t ∈ ts, pauses k t = true) ∧
        (∀ t ∈ ts, pauses k t = true → committed? t = some (.awaitPayment checkIn
          (CheckInService.declaredWeight dto) (cfg.feeOf (CheckInService.declaredWeight dto)))) ∧
        PaymentService.posts ((skyHigh cfg).trace k ts) = List.replicate (n + 1)
          (CheckInService.paymentRequest checkIn
            (cfg.feeOf (CheckInService.declaredWeight dto))) := by
  obtain ⟨o, hyields, rfl⟩ := Prog.yields_map.mp (h.yields hk)
  have hoccurs : ∀ e ∈ (skyHigh cfg).trace k ts, Occurs e := fun e he => occurs_of_mem_trace he
  -- a pause of the call is an event of its trace
  have hevent : ∀ t ∈ ts, pauses k t = true → ∃ snap weight fee,
      committed? t = some (.awaitPayment snap weight fee) ∧
        ⟨.awaitPayment snap weight fee, .ok ()⟩ ∈ (skyHigh cfg).trace k ts := by
    intro t ht hpauses
    obtain ⟨snap, weight, fee, hcommits, hevent⟩ := pauses_eq_true cfg hpauses
    exact ⟨snap, weight, fee, hcommits, List.mem_filterMap.mpr ⟨t, ht, hevent⟩⟩
  rcases CheckInService.yields_confirmCheckIn hyields hoccurs hover with
    ⟨error, rfl, hnone⟩ | ⟨checkIn, tr₁, tr₂, htrace, hid, hnone, hexcess⟩
  · refine .inl ⟨⟨error, rfl⟩, fun t ht => ?_⟩
    by_contra hpauses
    obtain ⟨snap, weight, fee, -, hmem⟩ := hevent t ht ((Bool.not_eq_false _).mp hpauses)
    cases hnone _ hmem
  rw [htrace] at hoccurs hevent ⊢
  rcases CheckInService.yields_handleExcessBaggage hexcess
    fun e he => hoccurs e (List.mem_append_right _ he) with
    ⟨error, rfl, rfl⟩ | ⟨tr', n, rfl, hposts, hunpaused⟩
  · refine .inl ⟨⟨error, rfl⟩, fun t ht => ?_⟩
    by_contra hpauses
    obtain ⟨snap, weight, fee, -, hmem⟩ := hevent t ht ((Bool.not_eq_false _).mp hpauses)
    rcases List.mem_append.mp hmem with hmem | hmem
    · cases hnone _ hmem
    · cases List.mem_singleton.mp hmem
  · have hpaused : ⟨.awaitPayment checkIn (CheckInService.declaredWeight dto)
        (cfg.feeOf (CheckInService.declaredWeight dto)), .ok ()⟩ ∈ (skyHigh cfg).trace k ts := by
      rw [htrace]
      exact List.mem_append_right _ List.mem_cons_self
    refine .inr ⟨checkIn, n, hid, exists_pause hpaused, fun t ht hpauses => ?_, ?_⟩
    · obtain ⟨snap, weight, fee, hcommits, hmem⟩ := hevent t ht hpauses
      rcases List.mem_append.mp hmem with hmem | hmem
      · cases hnone _ hmem
      · rcases List.mem_cons.mp hmem with heq | hmem
        · cases heq
          exact hcommits
        · cases hunpaused _ hmem
    · rw [PaymentService.posts_append, PaymentService.posts_eq_nil hnone, List.nil_append,
        PaymentService.posts_cons_of_ne (by simp), hposts]

/-- **The record lasts** as long as no other call stores a weight in the row. -/
lemma run_records (hw : w.Seeded) (hrun : (skyHigh cfg).Run (.init w) us c)
    {q : Program Reply} (hk : c.threads[k]? = some ⟨.confirmCheckIn i p dto, q⟩)
    (hvs : (skyHigh cfg).Run c vs c₁) (hown : ∀ t ∈ vs, overwrites k i t = false)
    (hr : c.state.db.bookings.Records i (numericScale2 (CheckInService.declaredWeight dto))
      (cfg.feeOf (CheckInService.declaredWeight dto))) :
    c₁.state.db.bookings.Records i (numericScale2 (CheckInService.declaredWeight dto))
      (cfg.feeOf (CheckInService.declaredWeight dto)) := by
  induction hvs with
  | nil => exact hr
  | @snoc vs c₂ l c₃ hvs hstep ih =>
      have hrec := ih fun t ht => hown t (List.mem_append_left _ ht)
      have hrun₂ := hrun.append hvs
      have hjust : Justified cfg ⟨c₂, l, c₃⟩ := run_justified hw (hrun₂.snoc hstep) _ (by simp)
      have hmine := hown _ (List.mem_append_right vs List.mem_cons_self)
      cases hjust.effect with
      | quiet _ hquiet =>
          rw [show c₃.state.db.bookings = c₂.state.db.bookings from hquiet.1]
          exact hrec
      | @commit a hcommits hpre hwrite _ =>
          refine hwrite.records hpre (fun hweighed => ?_) hrec
          obtain ⟨j, ch, call, cont, hl, hj⟩ := next_of_committed? hcommits
          obtain rfl : l = .act j ch := hl
          obtain rfl : j = k := by
            by_contra hne
            simp [overwrites, hcommits, hne, hweighed] at hmine
          obtain ⟨q', hq'⟩ := hvs.thread hk
          obtain ⟨rfl, rfl⟩ : Call.confirmCheckIn i p dto = call ∧ q' = .act a cont := by
            simpa using Option.some_inj.mp (hq'.symm.trans hj)
          exact run_declares hrun₂ hj

/-- A pause is made by a call over the limit. -/
lemma over_of_pauses (hw : w.Seeded) (h : (skyHigh cfg).Run (.init w) (us ++ t :: vs) c)
    (hpauses : pauses k t = true) {q : Program Reply}
    (hk : c.threads[k]? = some ⟨.confirmCheckIn i p dto, q⟩) :
    (∃ q', t.post.threads[k]? = some ⟨.confirmCheckIn i p dto, q'⟩) ∧
      cfg.maxBaggageKg < CheckInService.declaredWeight dto := by
  obtain ⟨hpre, hstep, hrest⟩ := h.at_transition
  obtain ⟨snap, weight, fee, hcommits, hevent⟩ := pauses_eq_true cfg hpauses
  obtain ⟨ch, call, a, cont, hl, hcall, he⟩ := System.event?_eq_some_iff.mp hevent
  obtain ⟨rfl, -⟩ := Sigma.mk.inj he
  obtain ⟨q₁, hq₁⟩ := (System.Run.single hstep).thread hcall
  obtain ⟨q₂, hq₂⟩ := hrest.thread hq₁
  obtain ⟨rfl, -⟩ : call = .confirmCheckIn i p dto ∧ q₂ = q := by
    simpa using Option.some_inj.mp (hq₂.symm.trans hk)
  have hweight : weight = CheckInService.declaredWeight dto := run_declares hpre hcall
  refine ⟨⟨q₁, hq₁⟩, ?_⟩
  rw [← hweight]
  exact (run_pre hw hpre hcall).2.2.1

/-- **When the record explains the charge.**  A confirmation over the limit that returns has paused
its check-in.  From then on, as long as no other call stores a weight in the row, the fee of the
stored weight is the stored fee and the amount of every request that the call makes, and there is a
request exactly if that is more than nothing, if and only if no half cent lies between the fees of
the declared and of the stored weight and the fee is half a cent at least.  The limit has at most
two decimals. -/
theorem record_explains_iff (hw : w.Seeded) (h : (skyHigh cfg).Run (.init w) ts c)
    {r : Except AppException Reply}
    (hk : c.threads[k]? = some ⟨.confirmCheckIn i p dto, .done r⟩) {n : ℤ}
    (hlimit : cfg.maxBaggageKg * 100 = n) :
    (∀ reply, r = .ok reply → cfg.maxBaggageKg < CheckInService.declaredWeight dto →
      ∃ t ∈ ts, pauses k t = true) ∧
    ∀ us t vs xs c₁, ts = us ++ t :: (vs ++ xs) → pauses k t = true →
      (skyHigh cfg).Run (.init w) (us ++ t :: vs) c₁ → (∀ t' ∈ vs, overwrites k i t' = false) →
      (c₁.state.db.bookings.Explains cfg i
          (PaymentService.posts ((skyHigh cfg).trace k ts)) ↔
        cfg.ChargesAsStored (CheckInService.declaredWeight dto)) := by
  constructor
  · rintro reply rfl hover
    rcases run_charged h hk hover with ⟨⟨error, herror⟩, -⟩ | ⟨checkIn, n, -, hpause, -⟩
    · cases herror
    · exact hpause
  · rintro us t vs xs c₁ rfl hpauses hrun hown
    have ht : t ∈ us ++ t :: (vs ++ xs) := List.mem_append_right us List.mem_cons_self
    obtain ⟨⟨q, hq⟩, hover⟩ := over_of_pauses hw h hpauses hk
    rcases run_charged h hk hover with ⟨-, hnone⟩ | ⟨checkIn, m, rfl, -, hcommits, hposts⟩
    · rw [hnone t ht] at hpauses
      cases hpauses
    -- the pause writes the weight and the fee, and they stay
    have hrecords : c₁.state.db.bookings.Records checkIn.id
        (numericScale2 (CheckInService.declaredWeight dto))
        (cfg.feeOf (CheckInService.declaredWeight dto)) := by
      obtain ⟨hpre, hstep, hrest⟩ := hrun.at_transition
      have hsnoc := hpre.snoc hstep
      refine run_records hw hsnoc hq hrest hown ?_
      have hjust := run_justified hw hsnoc t (by simp)
      cases hjust.effect with
      | quiet hnone _ => cases (hcommits t ht hpauses).symm.trans hnone
      | @commit a hcommits' _ hwrite _ =>
          obtain rfl := Option.some_inj.mp ((hcommits t ht hpauses).symm.trans hcommits')
          have hrec := hwrite.records_awaitPayment
          rwa [cfg.numericScale2_feeOf] at hrec
    rw [hposts, hrecords.explains_iff, Settings.chargesAsStored_iff hlimit hover]
    constructor
    · rintro ⟨hfee, -, hpositive⟩
      refine ⟨hfee, ?_⟩
      rw [hfee]
      exact hpositive.mp (by simp)
    · rintro ⟨hfee, hpositive⟩
      refine ⟨hfee, fun request hrequest => ?_, iff_of_true (by simp) ?_⟩
      · rw [List.eq_of_mem_replicate hrequest]
        exact hfee
      · rwa [← hfee]

end Runs

/-! ## Two runs -/

theorem record_explains_startThenPay : ∃ ts c reply, (skyHigh {}).Run (.init oneSeatWorld) ts c ∧
    c.threads[(1 : ℕ)]? = some ⟨.confirmCheckIn 1 1 (declaring 30), .done (.ok reply)⟩ ∧
    c.state.db.bookings.Explains {} 1 (PaymentService.posts ((skyHigh {}).trace 1 ts)) := by
  obtain ⟨ts, c, hrun, hcalls, htest⟩ := exists_run_calls startThenPay
    (fun ts c => (outcome? c 1).any (fun r => r.toOption.isSome) &&
      ts.all fun t => !overwrites 1 1 t) (by decide +kernel)
  simp only [Bool.and_eq_true, Option.any_eq_true, List.all_eq_true, Bool.not_eq_true'] at htest
  obtain ⟨⟨r, hr, hok⟩, hown⟩ := htest
  cases r with
  | error e => cases hok
  | ok reply =>
      have hk : c.threads[(1 : ℕ)]? =
          some ⟨.confirmCheckIn 1 1 (declaring 30), .done (.ok reply)⟩ :=
        ended_of_outcome? (by rw [hcalls]; rfl) hr
      have hlimit : ({} : Settings).maxBaggageKg * 100 = (2500 : ℤ) := by norm_num
      have hweight : CheckInService.declaredWeight (declaring 30) = 30 := rfl
      obtain ⟨hpause, hexplains⟩ := record_explains_iff oneSeatWorld_seeded hrun hk hlimit
      rw [hweight] at hpause hexplains
      obtain ⟨t, ht, hpauses⟩ := hpause reply rfl (by norm_num)
      obtain ⟨us, vs, rfl⟩ := List.append_of_mem ht
      refine ⟨_, c, reply, hrun, hk, ?_⟩
      refine (hexplains us t vs [] c (by simp) hpauses hrun fun t' ht' => ?_).mpr ?_
      · exact hown t' (List.mem_append_right us (List.mem_cons_of_mem t ht'))
      · exact Settings.chargesAsStored_of_decimals (n := 3000) (by norm_num)
          (by norm_num [Settings.centsOf])

/-- The body of a `PATCH` that declares 25.004 kg. -/
def declaringLittleMore : UpdateCheckInRequestDto :=
  ⟨some 25.004, fun _ h => Option.some_inj.mp h ▸ by norm_num⟩

/-- Passenger 1 starts, declares 25.004 kg and pays. -/
def startThenPayLittle : List SkyLabel :=
  start ++ [.invoke (.confirmCheckIn 1 1 declaringLittleMore)] ++ proceed 1 5 ++
  [.act 1 (confirmedBy "txn_1")] ++ proceed 1 6

/-- **The record does not explain every charge.**  The fee of 25.004 kg is 0.04; the row says 25 kg,
for which there is none. -/
theorem not_forall_explained : ¬ ∀ (cfg : Settings) (w : World) (ts : List SkyTransition)
    (c : SkyConfig) (k : ℕ) (i : CheckInId) (p : PassengerId) (dto : UpdateCheckInRequestDto)
    (reply : Reply), w.Seeded → (skyHigh cfg).Run (.init w) ts c →
    c.threads[k]? = some ⟨.confirmCheckIn i p dto, .done (.ok reply)⟩ →
    cfg.maxBaggageKg < CheckInService.declaredWeight dto →
    (∃ n : ℤ, cfg.maxBaggageKg * 100 = n) → (∃ n : ℤ, cfg.excessFeePerKg * 100 = n) →
    (∀ t ∈ ts, overwrites k i t = false) →
    c.state.db.bookings.Explains cfg i (PaymentService.posts ((skyHigh cfg).trace k ts)) := by
  intro hall
  obtain ⟨ts, c, hrun, hcalls, htest⟩ := exists_run_calls startThenPayLittle
    (fun ts c => (outcome? c 1).any (fun r => r.toOption.isSome) &&
      (ts.all fun t => !overwrites 1 1 t) &&
      (c.state.db.checkIns.get? 1).any fun row =>
        row.baggageWeight = some 25 ∧ row.excessFee = some 0.04) (by decide +kernel)
  simp only [Bool.and_eq_true, Option.any_eq_true, List.all_eq_true, Bool.not_eq_true',
    decide_eq_true_eq] at htest
  obtain ⟨⟨⟨r, hr, hok⟩, hown⟩, row, hrow, hshows⟩ := htest
  cases r with
  | error e => cases hok
  | ok reply =>
      have hk : c.threads[(1 : ℕ)]? =
          some ⟨.confirmCheckIn 1 1 declaringLittleMore, .done (.ok reply)⟩ :=
        ended_of_outcome? (by rw [hcalls]; rfl) hr
      have hexplains := hall {} oneSeatWorld ts c 1 1 1 declaringLittleMore reply
        oneSeatWorld_seeded hrun hk
        (by norm_num [CheckInService.declaredWeight, declaringLittleMore])
        ⟨2500, by norm_num⟩ ⟨1000, by norm_num⟩ hown
      have hrecords : c.state.db.bookings.Records 1 25 0.04 := ⟨row, hrow, hshows⟩
      have hfee := ((hrecords.explains_iff _).mp hexplains).1
      norm_num [Settings.feeOf, BaggageService.calculateFee] at hfee

end SkyHighCore
