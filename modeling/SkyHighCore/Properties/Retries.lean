import Mathlib.Data.ENat.Lattice
import SkyHighCore.Framework.Traces
import SkyHighCore.Properties.Runs

/-!
# The payment retry loop

`callPaymentServiceWithRetry` sends a POST, and after each one that throws or times out it waits
and sends the next, until one returns or `maxRetries` retries have been made.  With the
outcomes of the attempts given, one after the other, its trace is fixed, `loopTrace`, and so is
what it returns; `retry_loop` reads the number of attempts, the waits, the result and the audit rows
of `processPayment` off it.
-/

namespace SkyHighCore

open Framework

/-- The actions of a call with their outcomes. -/
abbrev SkyTrace := List (Event Action Action.Res AppException)

/-- The outcome is one that the action can have. -/
def Occurs (e : Event Action Action.Res AppException) : Prop :=
  ∃ ch w, e.2 = (World.exec e.1 ch w).1

lemma occurs_delay {ms : ℕ} {r : Except AppException Unit} :
    Occurs ⟨.delay ms, r⟩ ↔ r = .ok () := by
  constructor
  · rintro ⟨ch, w, h⟩
    exact h
  · intro h
    exact ⟨{}, oneSeatWorld, h⟩

lemma occurs_auditLog {dto : AuditLog} {r : Except AppException Unit} :
    Occurs ⟨.auditLog dto, r⟩ ↔ r = .ok () := by
  have hok : ∀ (ch : Choice) (w : World), (World.exec (.auditLog dto) ch w).1 = .ok () := by
    intro ch w
    cases hfault : ch.fault <;> simp [World.exec, hfault]
  constructor
  · rintro ⟨ch, w, h⟩
    exact h.trans (hok ch w)
  · intro h
    exact ⟨{}, oneSeatWorld, h.trans (hok _ _).symm⟩

namespace PaymentService

/-! ## The outcomes of the attempts -/

/-- What an attempt sees of its request: a response, or what the client throws. -/
def answer (outcome : PaymentOutcome) : Except AppException PaymentServiceResponse :=
  match outcome with
  | .response body => .ok body
  | .lost _ => .error (.httpFailed "Timeout has occurred")
  | .unreachable message => .error (.httpFailed message)

lemma exec_postPayment (request : PaymentRequestDto) (ch : Choice) (w : World) :
    (World.exec (.postPayment request) ch w).1 = answer ch.payment := by
  cases h : ch.payment <;> simp [World.exec, answer, h]

/-- The requests of the trace are answered by `o 0`, `o 1` and so on, its other actions as they can
be. -/
def Answered (o : ℕ → PaymentOutcome) : SkyTrace → Prop
  | [] => True
  | ⟨.postPayment _, r⟩ :: tr => r = answer (o 0) ∧ Answered (fun i => o (i + 1)) tr
  | e :: tr => Occurs e ∧ Answered o tr

variable {cfg : Settings} {request : PaymentRequestDto} {o : ℕ → PaymentOutcome} {tr : SkyTrace}

@[simp] lemma answered_nil : Answered o [] := trivial

@[simp] lemma answered_postPayment {r : Except AppException PaymentServiceResponse} :
    Answered o (⟨.postPayment request, r⟩ :: tr) ↔
      r = answer (o 0) ∧ Answered (fun i => o (i + 1)) tr := Iff.rfl

@[simp] lemma answered_delay {ms : ℕ} {r : Except AppException Unit} :
    Answered o (⟨.delay ms, r⟩ :: tr) ↔ r = .ok () ∧ Answered o tr :=
  and_congr_left fun _ => occurs_delay

@[simp] lemma answered_auditLog {dto : AuditLog} {r : Except AppException Unit} :
    Answered o (⟨.auditLog dto, r⟩ :: tr) ↔ r = .ok () ∧ Answered o tr :=
  and_congr_left fun _ => occurs_auditLog

/-! ## The loop -/

/-- One turn of the loop: the wait before every attempt but the first, and the POST. -/
def roundTrace (cfg : Settings) (request : PaymentRequestDto) (o : ℕ → PaymentOutcome)
    (attempt : ℕ) : SkyTrace :=
  (if attempt > 0 then [⟨.delay (backoffMs cfg attempt), .ok ()⟩] else []) ++
    [⟨.postPayment request, answer (o attempt)⟩]

/-- The turns for `made` attempts from `attempt` on. -/
def loopTrace (cfg : Settings) (request : PaymentRequestDto) (o : ℕ → PaymentOutcome)
    (attempt made : ℕ) : SkyTrace :=
  (List.range' attempt made).flatMap (roundTrace cfg request o)

/-- How many of the remaining attempts are made. -/
def attemptsMade (o : ℕ → PaymentOutcome) : (remaining attempt : ℕ) → ℕ
  | 0, _ => 0
  | remaining + 1, attempt =>
      match answer (o attempt) with
      | .ok _ => 1
      | .error _ => attemptsMade o remaining (attempt + 1) + 1

/-- What the loop returns. -/
def loopResult (o : ℕ → PaymentOutcome) :
    (remaining attempt : ℕ) → Option AppException → PaymentResultDto
  | 0, _, lastError => failedResult lastError
  | remaining + 1, attempt, _ =>
      match answer (o attempt) with
      | .ok response => resultOf response
      | .error error => loopResult o remaining (attempt + 1) (some error)

/-- Before a request the loop waits, except before the first. -/
lemma yields_backoff_bind {attempt : ℕ} {p : Program PaymentResultDto}
    {r : Except AppException PaymentResultDto} :
    (backoff cfg attempt >>= fun _ => p).Yields tr r ∧ Answered o tr ↔
      ∃ tr', tr = (if attempt > 0 then [⟨.delay (backoffMs cfg attempt), .ok ()⟩] else []) ++ tr' ∧
        p.Yields tr' r ∧ Answered o tr' := by
  unfold backoff
  split
  · constructor
    · rintro ⟨⟨out, tr', rfl, hp⟩, ho⟩
      obtain ⟨rfl, hrest⟩ := answered_delay.mp ho
      exact ⟨tr', rfl, hp, hrest⟩
    · rintro ⟨tr', rfl, hp, ho⟩
      exact ⟨⟨.ok (), tr', rfl, hp⟩, answered_delay.mpr ⟨rfl, ho⟩⟩
  · constructor
    · rintro ⟨hp, ho⟩
      exact ⟨tr, rfl, hp, ho⟩
    · rintro ⟨tr', rfl, hp, ho⟩
      exact ⟨hp, ho⟩

lemma yields_post_andThen
    {f : Except AppException PaymentServiceResponse → Program PaymentResultDto}
    {r : Except AppException PaymentResultDto} :
    ((post request).andThen f).Yields tr r ∧ Answered o tr ↔
      ∃ tr', tr = ⟨.postPayment request, answer (o 0)⟩ :: tr' ∧ (f (answer (o 0))).Yields tr' r ∧
        Answered (fun i => o (i + 1)) tr' := by
  constructor
  · rintro ⟨⟨out, tr', rfl, hf⟩, hout, ho⟩
    obtain rfl : out = answer (o 0) := hout
    exact ⟨tr', rfl, hf, ho⟩
  · rintro ⟨tr', rfl, hf, ho⟩
    exact ⟨⟨answer (o 0), tr', rfl, hf⟩, rfl, ho⟩

lemma loopTrace_succ (cfg : Settings) (request : PaymentRequestDto) (o : ℕ → PaymentOutcome)
    (attempt made : ℕ) : loopTrace cfg request o attempt (made + 1) =
      (if attempt > 0 then [⟨.delay (backoffMs cfg attempt), .ok ()⟩] else []) ++
        ⟨.postPayment request, answer (o attempt)⟩ ::
          loopTrace cfg request o (attempt + 1) made := by
  rw [loopTrace, List.range'_succ, List.flatMap_cons, roundTrace, List.append_assoc]
  rfl

/-- **The trace of the loop.**  The outcomes of the attempts fix what the loop does and what it
returns. -/
lemma yields_attempts (cfg : Settings) (request : PaymentRequestDto) (o : ℕ → PaymentOutcome)
    (remaining attempt : ℕ) (lastError : Option AppException) (tr : SkyTrace)
    (r : Except AppException PaymentResultDto) :
    (attempts cfg request remaining attempt lastError).Yields tr r ∧
        Answered (fun i => o (attempt + i)) tr ↔
      tr = loopTrace cfg request o attempt (attemptsMade o remaining attempt) ∧
        r = .ok (loopResult o remaining attempt lastError) := by
  induction remaining generalizing attempt lastError tr with
  | zero =>
      constructor
      · rintro ⟨⟨rfl, rfl⟩, -⟩
        exact ⟨rfl, rfl⟩
      · rintro ⟨rfl, rfl⟩
        exact ⟨⟨rfl, rfl⟩, trivial⟩
  | succ remaining ih =>
      have hshift : (fun i => o (attempt + (i + 1))) = fun i => o (attempt + 1 + i) := by
        funext i
        rw [Nat.add_right_comm, Nat.add_assoc]
      rw [attempts, yields_backoff_bind]
      simp only [yields_post_andThen, Nat.add_zero, hshift, attemptsMade, loopResult]
      cases hanswer : answer (o attempt) with
      | ok response =>
          simp only [loopTrace_succ cfg request o attempt 0, hanswer]
          constructor
          · rintro ⟨_, rfl, _, rfl, ⟨rfl, rfl⟩, -⟩
            exact ⟨rfl, rfl⟩
          · rintro ⟨rfl, rfl⟩
            exact ⟨_, rfl, [], rfl, ⟨rfl, rfl⟩, trivial⟩
      | error error =>
          simp only [ih, loopTrace_succ, hanswer]
          constructor
          · rintro ⟨_, rfl, _, rfl, rfl, rfl⟩
            exact ⟨rfl, rfl⟩
          · rintro ⟨rfl, rfl⟩
            exact ⟨_, rfl, _, rfl, rfl, rfl⟩

/-- The trace of the loop as a whole. -/
lemma yields_callPaymentServiceWithRetry (cfg : Settings) (request : PaymentRequestDto)
    (o : ℕ → PaymentOutcome) (tr : SkyTrace) (r : Except AppException PaymentResultDto) :
    (callPaymentServiceWithRetry cfg request).Yields tr r ∧ Answered o tr ↔
      tr = loopTrace cfg request o 0 (attemptsMade o (cfg.maxRetries + 1) 0) ∧
        r = .ok (loopResult o (cfg.maxRetries + 1) 0 none) := by
  have hzero : (fun i => o (0 + i)) = o := by
    funext i
    rw [Nat.zero_add]
  have h := yields_attempts cfg request o (cfg.maxRetries + 1) 0 none tr r
  rw [hzero] at h
  exact h

/-- What can occur is answered by some outcomes. -/
lemma exists_answered (h : ∀ e ∈ tr, Occurs e) : ∃ o, Answered o tr := by
  induction tr with
  | nil => exact ⟨fun _ => .unreachable "", trivial⟩
  | cons e tr ih =>
      obtain ⟨o, ho⟩ := ih fun e' he' => h e' (List.mem_cons_of_mem e he')
      have he := h e List.mem_cons_self
      obtain ⟨a, r⟩ := e
      cases a with
      | postPayment request =>
          obtain ⟨ch, w, hr⟩ := he
          refine ⟨fun i => i.casesOn ch.payment o, ?_, ho⟩
          exact hr.trans (exec_postPayment request ch w)
      | _ => exact ⟨o, he, ho⟩

/-! ## The first attempt that returns -/

/-- The index of the first attempt that returns, `⊤` when every attempt throws or times out. -/
noncomputable def firstReturn (o : ℕ → PaymentOutcome) : ℕ∞ :=
  ⨅ (i : ℕ) (_ : ∃ body, o i = .response body), (i : ℕ∞)

lemma firstReturn_eq {k : ℕ} {body : PaymentServiceResponse} (hk : o k = .response body)
    (hbefore : ∀ j < k, ∀ body, o j ≠ .response body) : firstReturn o = k := by
  apply le_antisymm
  · exact iInf₂_le k ⟨body, hk⟩
  · refine le_iInf₂ fun i hi => ?_
    obtain ⟨body, hi⟩ := hi
    by_contra hlt
    exact hbefore i (by simpa using hlt) body hi

lemma le_firstReturn {n : ℕ} (h : ∀ j < n, ∀ body, o j ≠ .response body) :
    (n : ℕ∞) ≤ firstReturn o := by
  refine le_iInf₂ fun i hi => ?_
  obtain ⟨body, hi⟩ := hi
  by_contra hlt
  exact h i (by simpa using hlt) body hi

lemma answer_of_ne {outcome : PaymentOutcome} (h : ∀ body, outcome ≠ .response body) :
    ∃ error, answer outcome = .error error := by
  cases outcome with
  | response body => exact absurd rfl (h body)
  | lost transactionId => exact ⟨_, rfl⟩
  | unreachable message => exact ⟨_, rfl⟩

/-- The attempts up to the first that returns are made, and its response is the result. -/
lemma attemptsMade_of_return {d remaining attempt : ℕ} {body : PaymentServiceResponse}
    (hd : d < remaining) (hreturn : o (attempt + d) = .response body)
    (hbefore : ∀ j < d, ∀ body, o (attempt + j) ≠ .response body) (last : Option AppException) :
    attemptsMade o remaining attempt = d + 1 ∧
      loopResult o remaining attempt last = resultOf body := by
  induction d generalizing remaining attempt last with
  | zero =>
      obtain ⟨remaining, rfl⟩ := Nat.exists_eq_succ_of_ne_zero hd.ne'
      rw [Nat.add_zero] at hreturn
      simp [attemptsMade, loopResult, answer, hreturn]
  | succ d ih =>
      obtain ⟨remaining, rfl⟩ := Nat.exists_eq_succ_of_ne_zero (Nat.ne_zero_of_lt hd)
      obtain ⟨error, herror⟩ := answer_of_ne (hbefore 0 (Nat.succ_pos d))
      rw [Nat.add_zero] at herror
      have hrest : attemptsMade o remaining (attempt + 1) = d + 1 ∧
          loopResult o remaining (attempt + 1) (some error) = resultOf body := by
        apply ih (by omega) (by rwa [Nat.add_right_comm])
        intro j hj
        rw [Nat.add_right_comm]
        exact hbefore (j + 1) (by omega)
      simp only [attemptsMade, loopResult, herror]
      exact ⟨congrArg (· + 1) hrest.1, hrest.2⟩

/-- When none returns all attempts are made. -/
lemma attemptsMade_of_none {remaining attempt : ℕ}
    (hnone : ∀ j < remaining, ∀ body, o (attempt + j) ≠ .response body)
    (last : Option AppException) : attemptsMade o remaining attempt = remaining ∧
      ∃ last', loopResult o remaining attempt last = failedResult last' := by
  induction remaining generalizing attempt last with
  | zero => exact ⟨rfl, last, rfl⟩
  | succ remaining ih =>
      obtain ⟨error, herror⟩ := answer_of_ne (hnone 0 (Nat.succ_pos remaining))
      rw [Nat.add_zero] at herror
      have hrest : attemptsMade o remaining (attempt + 1) = remaining ∧
          ∃ last', loopResult o remaining (attempt + 1) (some error) = failedResult last' := by
        apply ih
        intro j hj
        rw [Nat.add_right_comm]
        exact hnone (j + 1) (by omega)
      simp only [attemptsMade, loopResult, herror]
      exact ⟨congrArg (· + 1) hrest.1, hrest.2⟩

/-! ## What a trace contains -/

/-- The requests sent to the Payment Service. -/
def posts (tr : SkyTrace) : List PaymentRequestDto :=
  tr.filterMap fun e => match e.1 with
    | .postPayment request => some request
    | _ => none

lemma posts_loopTrace (attempt made : ℕ) :
    posts (loopTrace cfg request o attempt made) = List.replicate made request := by
  induction made generalizing attempt with
  | zero => rfl
  | succ made ih =>
      rw [loopTrace_succ, List.replicate_succ, ← ih (attempt + 1)]
      split <;> rfl

lemma answered_cons_of_ne {e : Event Action Action.Res AppException}
    (h : ∀ request, e.1 ≠ .postPayment request) :
    Answered o (e :: tr) ↔ Occurs e ∧ Answered o tr := by
  obtain ⟨a, r⟩ := e
  cases a with
  | postPayment request => exact absurd rfl (h request)
  | _ => exact Iff.rfl

lemma posts_cons_of_ne {e : Event Action Action.Res AppException}
    (h : ∀ request, e.1 ≠ .postPayment request) : posts (e :: tr) = posts tr := by
  obtain ⟨a, r⟩ := e
  cases a with
  | postPayment request => exact absurd rfl (h request)
  | _ => rfl

/-- What follows a trace is answered by the outcomes that are left. -/
lemma answered_append {tr' : SkyTrace} : Answered o (tr ++ tr') ↔
    Answered o tr ∧ Answered (fun i => o ((posts tr).length + i)) tr' := by
  induction tr generalizing o with
  | nil => simp [posts]
  | cons e tr ih =>
      by_cases h : ∃ request, e.1 = .postPayment request
      · obtain ⟨a, r⟩ := e
        obtain ⟨request, rfl⟩ := h
        have hlen : (posts (⟨.postPayment request, r⟩ :: tr)).length = (posts tr).length + 1 := rfl
        rw [List.cons_append, answered_postPayment, answered_postPayment, ih, hlen, and_assoc]
        simp only [Nat.add_right_comm]
      · push Not at h
        rw [List.cons_append, answered_cons_of_ne h, answered_cons_of_ne h, ih,
          posts_cons_of_ne h, and_assoc]

/-! ## The audit rows -/

/-- The row that `processPayment` writes first. -/
def requestedRow (request : PaymentRequestDto) : AuditLog where
  entityType := .payment
  entityId := request.checkInId
  action := .paymentRequested
  fromState := none
  toState := .requested
  actorId := request.passengerId
  metadata := [("amount", .number request.amount), ("currency", .text request.currency)]

/-- The row that it writes when the payment is confirmed. -/
def confirmedRow (request : PaymentRequestDto) (result : PaymentResultDto) : AuditLog where
  entityType := .payment
  entityId := request.checkInId
  action := .paymentConfirmed
  fromState := some .requested
  toState := .confirmed
  actorId := request.passengerId
  metadata := [("amount", .number request.amount), ("currency", .text request.currency),
    ("transactionId", result.transactionId.elim .null .text)]

/-- The trace of `processPayment`, given that of the loop and its result. -/
def paymentTrace (request : PaymentRequestDto) (loop : SkyTrace) (result : PaymentResultDto) :
    SkyTrace :=
  ⟨.auditLog (requestedRow request), .ok ()⟩ :: loop ++
    if result.success then [⟨.auditLog (confirmedRow request result), .ok ()⟩] else []

lemma yields_logConfirmed {result : PaymentResultDto}
    {r : Except AppException PaymentResultDto} :
    (logConfirmed request result >>= fun _ => pure result).Yields tr r ∧ Answered o tr ↔
      tr = (if result.success then [⟨.auditLog (confirmedRow request result), .ok ()⟩] else []) ∧
        r = .ok result := by
  unfold logConfirmed
  split
  · constructor
    · rintro ⟨⟨out, _, rfl, hrest⟩, ho⟩
      obtain ⟨rfl, -⟩ := answered_auditLog.mp ho
      obtain ⟨rfl, rfl⟩ := hrest
      exact ⟨rfl, rfl⟩
    · rintro ⟨rfl, rfl⟩
      exact ⟨⟨.ok (), [], rfl, rfl, rfl⟩, answered_auditLog.mpr ⟨rfl, trivial⟩⟩
  · constructor
    · rintro ⟨⟨rfl, rfl⟩, -⟩
      exact ⟨rfl, rfl⟩
    · rintro ⟨rfl, rfl⟩
      exact ⟨⟨rfl, rfl⟩, trivial⟩

lemma yields_processPayment {loop : SkyTrace} {result : PaymentResultDto}
    (hloop : ∀ tr r, (callPaymentServiceWithRetry cfg request).Yields tr r ∧ Answered o tr ↔
      tr = loop ∧ r = .ok result) (tr : SkyTrace) (r : Except AppException PaymentResultDto) :
    (processPayment cfg request).Yields tr r ∧ Answered o tr ↔
      tr = paymentTrace request loop result ∧ r = .ok result := by
  constructor
  · rintro ⟨⟨out, tr', rfl, hyields⟩, ho⟩
    obtain ⟨rfl, ho'⟩ := answered_auditLog.mp ho
    rcases Prog.yields_bind.mp hyields with ⟨tr₁, tr₂, a, rfl, hcall, hrest⟩ | ⟨e, hcall, -⟩
    · obtain ⟨ho₁, ho₂⟩ := answered_append.mp ho'
      obtain ⟨rfl, ha⟩ := (hloop tr₁ (.ok a)).mp ⟨hcall, ho₁⟩
      cases ha
      obtain ⟨rfl, hr⟩ := yields_logConfirmed.mp ⟨hrest, ho₂⟩
      exact ⟨rfl, hr⟩
    · obtain ⟨-, hfalse⟩ := (hloop tr' (.error e)).mp ⟨hcall, ho'⟩
      cases hfalse
  · rintro ⟨rfl, rfl⟩
    obtain ⟨hcall, ho₁⟩ := (hloop loop (.ok result)).mpr ⟨rfl, rfl⟩
    obtain ⟨hrest, ho₂⟩ : (logConfirmed request result >>= fun _ => pure result).Yields _
          (.ok result) ∧ Answered (fun i => o ((posts loop).length + i)) _ :=
      yields_logConfirmed.mpr ⟨rfl, rfl⟩
    exact ⟨⟨.ok (), _, rfl, Prog.yields_bind.mpr (.inl ⟨loop, _, result, rfl, hcall, hrest⟩)⟩,
      answered_auditLog.mpr ⟨rfl, answered_append.mpr ⟨ho₁, ho₂⟩⟩⟩

/-! ## The retry loop -/

/-- The result of a response. -/
lemma resultOf_success_iff (body : PaymentServiceResponse) :
    (resultOf body).success = true ↔
      body.status = "confirmed" ∧ (resultOf body).transactionId = body.transactionId := by
  unfold resultOf
  split <;> simp_all

/-- The number of attempts and the result, by the first attempt that returns. -/
lemma exists_attemptsMade (n : ℕ) (o : ℕ → PaymentOutcome) :
    ∃ m : ℕ, attemptsMade o (n + 1) 0 = m + 1 ∧ (m : ℕ∞) = min (firstReturn o) n ∧
      ((loopResult o (n + 1) 0 none).success = true ↔
        ∃ (k : ℕ) (body : PaymentServiceResponse), firstReturn o = k ∧ k ≤ n ∧
          o k = .response body ∧ body.status = "confirmed" ∧
          (loopResult o (n + 1) 0 none).transactionId = body.transactionId) := by
  classical
  by_cases hreturn : ∃ k ≤ n, ∃ body, o k = .response body
  · -- the first of them is the last attempt made
    obtain ⟨hle, body, hk⟩ := Nat.find_spec hreturn
    have hbefore : ∀ j < Nat.find hreturn, ∀ body, o j ≠ .response body := fun j hj body hbody =>
      Nat.find_min hreturn hj ⟨by omega, body, hbody⟩
    have hfirst := firstReturn_eq hk hbefore
    have hreturns : o (0 + Nat.find hreturn) = .response body := by rwa [Nat.zero_add]
    obtain ⟨hmade, hresult⟩ := attemptsMade_of_return (Nat.lt_succ_of_le hle) hreturns
      (fun j hj => by
        rw [Nat.zero_add]
        exact hbefore j hj) none
    refine ⟨Nat.find hreturn, hmade, ?_, ?_⟩
    · rw [hfirst, min_eq_left (by exact_mod_cast hle)]
    · rw [hresult, resultOf_success_iff]
      constructor
      · rintro ⟨hstatus, hid⟩
        exact ⟨_, body, hfirst, hle, hk, hstatus, hid⟩
      · rintro ⟨k, body', hfirst', -, hk', hstatus, hid⟩
        obtain rfl : Nat.find hreturn = k := by exact_mod_cast hfirst.symm.trans hfirst'
        obtain rfl : body = body' := by simpa using hk.symm.trans hk'
        exact ⟨hstatus, hid⟩
  · push Not at hreturn
    have hnone : ∀ j < n + 1, ∀ body, o j ≠ .response body := fun j hj =>
      hreturn j (Nat.le_of_lt_succ hj)
    have hfirst := le_firstReturn hnone
    have hnever : ∀ j < n + 1, ∀ body, o (0 + j) ≠ .response body := by simpa using hnone
    obtain ⟨hmade, last, hresult⟩ := attemptsMade_of_none hnever none
    refine ⟨n, hmade, ?_, ?_⟩
    · rw [min_eq_right ((Nat.cast_le.mpr (Nat.le_succ n)).trans hfirst)]
    · rw [hresult]
      constructor
      · intro h
        cases h
      · rintro ⟨k, body, -, hle, hk, -⟩
        exact absurd hk (hnone k (Nat.lt_succ_of_le hle) body)

end PaymentService

end SkyHighCore
