import SkyHighCore.Properties.Commits

/-!
# Contracts of calls

How the world changes between two actions of a call (`World.Progress`), and the rules for
programs under a contract on it.  Most actions of a call are harmless: they read, lock, touch the
cache, wait or report.  A contract is `Tolerant` if it asks nothing of them, and then a program
of harmless actions keeps every fact that interference keeps (`wp_harmless`), so that a proof
about a service has to look at its transactions and payments only.
-/

namespace SkyHighCore

open Framework

/-! ## Progress -/

/-- How the world may change between two actions of a call. -/
structure World.Progress (w w' : World) : Prop where
  bookings : w.db.bookings.Evolves w'.db.bookings
  now : w.now ≤ w'.now
  payments : w.payments <+: w'.payments

lemma World.Progress.refl (w : World) : w.Progress w :=
  ⟨.refl _, le_refl _, List.prefix_rfl⟩

lemma World.Progress.trans {w w' w'' : World} (h : w.Progress w') (h' : w'.Progress w'') :
    w.Progress w'' :=
  ⟨h.bookings.trans h'.bookings, h.now.trans h'.now, h.payments.trans h'.payments⟩

lemma World.progress_tick (ms : ℕ) (w : World) : w.Progress (w.tick ms) :=
  ⟨.refl _, Nat.le_add_right _ _, List.prefix_rfl⟩

namespace World

variable {α : Type} (w : World) (ch : Choice)

@[simp] lemma query_snd (x : α) : (w.query ch x).2 = w := by
  unfold query
  split <;> rfl

@[simp] lemma transaction_now (body : Tx α) : (w.transaction ch body).2.now = w.now := by
  unfold transaction
  repeat' split
  all_goals rfl

@[simp] lemma transaction_payments (body : Tx α) :
    (w.transaction ch body).2.payments = w.payments := by
  unfold transaction
  repeat' split
  all_goals rfl

@[simp] lemma redis_now (x : α) (w' : World) (h : w'.now = w.now) :
    (w.redis ch x w').2.now = w.now := by
  unfold redis
  split
  · rfl
  · exact h

@[simp] lemma redis_payments (x : α) (w' : World) (h : w'.payments = w.payments) :
    (w.redis ch x w').2.payments = w.payments := by
  unfold redis
  split
  · rfl
  · exact h

/-- No action moves the clock. -/
lemma exec_now (a : Action) : (exec a ch w).2.now = w.now := by
  cases a with
  | auditLog dto =>
      simp only [exec]
      split <;> rfl
  | _ => simp [exec, apply_ite Prod.snd]

/-- Only a payment request is recorded as one. -/
lemma exec_payments_eq {a : Action} (h : ∀ request, a ≠ .postPayment request) :
    (exec a ch w).2.payments = w.payments := by
  cases a with
  | postPayment request => exact absurd rfl (h request)
  | auditLog dto =>
      simp only [exec]
      split <;> rfl
  | _ => simp [exec, apply_ite Prod.snd]

/-- No action erases a payment request. -/
lemma exec_payments (a : Action) : w.payments <+: (exec a ch w).2.payments := by
  by_cases h : ∃ request, a = .postPayment request
  · obtain ⟨request, rfl⟩ := h
    exact List.prefix_append _ _
  · exact (exec_payments_eq w ch (not_exists.mp h)).symm ▸ List.prefix_rfl

end World

/-- An action that meets its precondition is progress. -/
lemma exec_progress {cfg : Settings} {a : Action} {ch : Choice} {w w' : World}
    {r : Except AppException a.Res} (hlinked : w.db.bookings.Linked) (hpre : a.Pre cfg w)
    (h : World.exec a ch w = (r, w')) : w.Progress w' := by
  obtain rfl : (World.exec a ch w).2 = w' := congrArg Prod.snd h
  refine ⟨?_, (World.exec_now w ch a).ge, World.exec_payments w ch a⟩
  rcases exec_commits hlinked hpre h with ⟨-, hc, -⟩ | ⟨-, hq, -⟩
  · exact hc.step.evolves
  · rw [hq]
    exact .refl _

/-- An action that meets its precondition keeps the links. -/
lemma exec_linked {cfg : Settings} {a : Action} {ch : Choice} {w w' : World}
    {r : Except AppException a.Res} (hlinked : w.db.bookings.Linked) (hpre : a.Pre cfg w)
    (h : World.exec a ch w = (r, w')) : w'.db.bookings.Linked := by
  rcases exec_commits hlinked hpre h with ⟨-, hc, -⟩ | ⟨-, hq, -⟩
  · exact hc.step.linked hlinked
  · rw [hq]
    exact hlinked

/-! ## What an action leaves alone -/

namespace World

variable {α : Type} (w : World) (ch : Choice)

@[simp] lemma transaction_seatHolds (body : Tx α) :
    (w.transaction ch body).2.seatHolds = w.seatHolds := by
  unfold transaction
  repeat' split
  all_goals rfl

@[simp] lemma transaction_seatMapCache (body : Tx α) :
    (w.transaction ch body).2.seatMapCache = w.seatMapCache := by
  unfold transaction
  repeat' split
  all_goals rfl

/-- A hold key is written by the two commands on it only. -/
lemma exec_seatHolds_of {a : Action} {s : SeatId} (hset : ∀ p ttl, a ≠ .setSeatHold s p ttl)
    (hdel : a ≠ .delSeatHold s) : (exec a ch w).2.seatHolds s = w.seatHolds s := by
  cases a with
  | setSeatHold s' p ttl =>
      have hs : s ≠ s' := by
        rintro rfl
        exact hset p ttl rfl
      simp only [exec, redis]
      split
      · rfl
      · exact Function.update_of_ne hs _ _
  | delSeatHold s' =>
      have hs : s ≠ s' := by
        rintro rfl
        exact hdel rfl
      simp only [exec, redis]
      split
      · rfl
      · exact Function.update_of_ne hs _ _
  | existsSeatHold | getSeatMapCache | setSeatMapCache | delSeatMapCache | auditLog =>
      simp only [exec, redis]
      split <;> rfl
  | _ => simp [exec, apply_ite Prod.snd]

/-- A cached map is written by the two commands on it only. -/
lemma exec_seatMapCache_of {a : Action} {f : FlightId}
    (hset : ∀ data ttl, a ≠ .setSeatMapCache f data ttl) (hdel : a ≠ .delSeatMapCache f) :
    (exec a ch w).2.seatMapCache f = w.seatMapCache f := by
  cases a with
  | setSeatMapCache f' data ttl =>
      have hf : f ≠ f' := by
        rintro rfl
        exact hset data ttl rfl
      simp only [exec, redis]
      split
      · rfl
      · exact Function.update_of_ne hf _ _
  | delSeatMapCache f' =>
      have hf : f ≠ f' := by
        rintro rfl
        exact hdel rfl
      simp only [exec, redis]
      split
      · rfl
      · exact Function.update_of_ne hf _ _
  | setSeatHold | delSeatHold | existsSeatHold | getSeatMapCache | auditLog =>
      simp only [exec, redis]
      split <;> rfl
  | _ => simp [exec, apply_ite Prod.snd]

end World

/-- The actions that do not write to the database. -/
def Action.sparesDatabase : Action → Bool
  | .holdSeat .. | .awaitPayment .. | .complete .. | .cancel .. | .release _ | .assign ..
  | .saveWaitlist _ | .insertWaitlist .. | .auditLog _ => false
  | _ => true

/-- The actions that write neither to the database nor to the hold keys. -/
def Action.passive : Action → Bool
  | .setSeatHold .. | .delSeatHold _ => false
  | a => a.sparesDatabase

lemma Action.sparesDatabase_of_passive {a : Action} (h : a.passive = true) :
    a.sparesDatabase = true := by
  cases a with
  | setSeatHold | delSeatHold => rfl
  | _ => exact h

namespace World

lemma exec_sparesDatabase {a : Action} (h : a.sparesDatabase = true) (ch : Choice) (w : World) :
    (exec a ch w).2.db = w.db := by
  cases a with
  | holdSeat | awaitPayment | complete | cancel | release | assign | saveWaitlist | insertWaitlist
  | auditLog => cases h
  | setSeatHold | existsSeatHold | delSeatHold | getSeatMapCache | setSeatMapCache
  | delSeatMapCache => exact redis_db (Prod.mk.eta).symm rfl
  | _ => simp [exec, apply_ite Prod.snd]

lemma exec_passive {a : Action} (h : a.passive = true) (ch : Choice) (w : World) :
    (exec a ch w).2.seatHolds = w.seatHolds := by
  cases a with
  | holdSeat | awaitPayment | complete | cancel | release | assign | saveWaitlist | insertWaitlist
  | auditLog | setSeatHold | delSeatHold => cases h
  | existsSeatHold | getSeatMapCache | setSeatMapCache | delSeatMapCache =>
      simp only [exec, redis]
      split <;> rfl
  | _ => simp [exec, apply_ite Prod.snd]

end World

/-! ## Rules -/

/-- A contract between calls of the services, on the world or on what is to be tracked of it. -/
abbrev SkyContract (σ : Type) := Contract Action Action.Res AppException σ

/-- The actions that write neither to the bookings nor to the payments. -/
def Action.harmless : Action → Bool
  | .auditLog dto => !dto.action.ofBooking
  | .postPayment _ => false
  | a => !a.books

lemma Action.harmless_pre {cfg : Settings} {a : Action} (h : a.harmless = true) (w : World) :
    a.Pre cfg w := by
  cases a with
  | auditLog dto => simpa [Action.harmless, Action.Pre] using h
  | holdSeat | awaitPayment | complete | cancel | release | assign => cases h
  | _ => trivial

lemma Action.books_of_harmless {a : Action} (h : a.harmless = true) : a.books = false := by
  cases a with
  | holdSeat | awaitPayment | complete | cancel | release | assign => cases h
  | _ => rfl

/-- The actions that write neither to the tables nor to a key, a map or the payments. -/
def Action.idle : Action → Bool
  | .holdSeat .. | .awaitPayment .. | .complete .. | .cancel .. | .release _ | .assign ..
  | .saveWaitlist _ | .insertWaitlist .. | .auditLog _ | .setSeatHold .. | .delSeatHold _
  | .setSeatMapCache .. | .delSeatMapCache _ | .postPayment _ => false
  | _ => true

lemma Action.harmless_of_idle {a : Action} (h : a.idle = true) : a.harmless = true := by
  cases a with
  | holdSeat | awaitPayment | complete | cancel | release | assign | auditLog | postPayment =>
      cases h
  | _ => rfl

/-- A contract whose actions have the outcomes they have in the world, and which asks nothing of
harmless ones. -/
structure Tolerant {σ : Type} (C : SkyContract σ) : Prop where
  exec : ∀ {a s r s'}, C.exec a s r s' → ∃ ch w, (World.exec a ch w).1 = r
  harmless : ∀ {a s r s'}, a.harmless = true → C.inv s → C.exec a s r s' →
    C.guar a s r s' ∧ C.rely s s'

/-- Interference keeps `F`. -/
def Kept {σ : Type} (C : SkyContract σ) (F : σ → Prop) : Prop := ∀ s s', C.rely s s' → F s → F s'

/-- A program that can perform harmless actions only. -/
abbrev Harmless {α : Type} (p : Program α) : Prop := p.All fun a => a.harmless = true

/-- A program that can perform idle actions only. -/
abbrev Idle {α : Type} (p : Program α) : Prop := p.All fun a => a.idle = true

lemma Idle.harmless {α : Type} {p : Program α} (hp : Idle p) : Harmless p :=
  Prog.All.mono (fun _ => Action.harmless_of_idle) hp

section Rules

variable {σ : Type} {C : SkyContract σ} {α : Type} {s : σ} {F : σ → Prop}

/-- The rule for one action. -/
lemma wp_act {a : Action} {Q : Except AppException a.Res → σ → Prop} (hF : Kept C F)
    (hs : F s) (h : ∀ s₁ r s₂, F s₁ → C.inv s₁ → C.exec a s₁ r s₂ → C.guar a s₁ r s₂ ∧ Q r s₂) :
    (act a).wp C Q s :=
  fun s₁ hr hinv r s₂ he => h s₁ r s₂ (hF s s₁ hr hs) hinv he

/-- The rule for one harmless action, of which the outcome matters. -/
lemma wp_harmless_act (hC : Tolerant C) {a : Action} (ha : a.harmless = true)
    {Q : Except AppException a.Res → σ → Prop} (hF : Kept C F) (hs : F s)
    (h : ∀ s₁ r s₂, F s₁ → C.inv s₁ → C.exec a s₁ r s₂ → F s₂ → Q r s₂) :
    (act a).wp C Q s := by
  refine wp_act hF hs fun s₁ r s₂ hs₁ hinv he => ?_
  obtain ⟨hguar, hrely⟩ := hC.harmless ha hinv he
  exact ⟨hguar, h s₁ r s₂ hs₁ hinv he (hF _ _ hrely hs₁)⟩

/-- A program of harmless actions keeps what interference keeps. -/
lemma wp_harmless (hC : Tolerant C) {p : Program α} (hF : Kept C F) (hp : Harmless p)
    (hs : F s) : p.wp C (fun _ s' => F s') s :=
  Prog.wp_of_all (fun _ _ _ _ ha hinv he => hC.harmless ha hinv he) hF hp hs

/-- `Date.now()` does not fail. -/
lemma wp_dateNow (hC : Tolerant C) {Q : Except AppException Time → σ → Prop} (hF : Kept C F)
    (hs : F s) (h : ∀ t s', F s' → Q (.ok t) s') : dateNow.wp C Q s := by
  refine wp_harmless_act hC rfl hF hs fun s₁ r s₂ _ _ he hs₂ => ?_
  obtain ⟨ch, w, rfl⟩ := hC.exec he
  exact h w.now s₂ hs₂

/-- `AuditService.log` does not fail. -/
lemma wp_auditLog (hC : Tolerant C) {dto : AuditLog} (hdto : dto.action.ofBooking = false)
    {Q : Except AppException Unit → σ → Prop} (hF : Kept C F) (hs : F s)
    (h : ∀ s', F s' → Q (.ok ()) s') : (auditLog dto).wp C Q s := by
  have ha : (Action.auditLog dto).harmless = true := by simpa [Action.harmless] using hdto
  refine wp_harmless_act hC ha hF hs fun s₁ r s₂ _ _ he hs₂ => ?_
  obtain ⟨ch, w, rfl⟩ := hC.exec he
  have hok : (World.exec (.auditLog dto) ch w).1 = .ok () := by
    simp only [World.exec]
    split <;> rfl
  rw [hok]
  exact h s₂ hs₂

end Rules

/-! ## Reads and payments -/

/-- A seat that was found is there. -/
lemma exec_findOneSeat {q : SeatWhere} {ch : Choice} {w w' : World} {seat : Seat}
    (h : World.exec (.findOneSeat q) ch w = (.ok (some seat), w')) :
    w' = w ∧ w.db.seats.get? seat.id = some seat ∧ q.Matches seat := by
  simp only [World.exec, World.query] at h
  split at h
  · cases h
  · obtain ⟨hr, rfl⟩ := Prod.mk.inj h
    obtain ⟨hmem, hq, -⟩ := Table.findOne_spec (Except.ok.inj hr)
    exact ⟨rfl, (Table.mem_rows_iff _).mp hmem, hq⟩

/-- A check-in that was found is there. -/
lemma exec_findOneCheckIn {q : CheckInWhere} {ch : Choice} {w w' : World} {c : CheckIn}
    (h : World.exec (.findOneCheckIn q) ch w = (.ok (some c), w')) :
    w' = w ∧ w.db.checkIns.get? c.id = some c ∧ q.Matches c := by
  simp only [World.exec, World.query] at h
  split at h
  · cases h
  · obtain ⟨hr, rfl⟩ := Prod.mk.inj h
    obtain ⟨hmem, hq, -⟩ := Table.findOne_spec (Except.ok.inj hr)
    exact ⟨rfl, (Table.mem_rows_iff _).mp hmem, hq⟩

/-- A payment request is recorded with its outcome; an answer is the outcome. -/
lemma exec_postPayment {request : PaymentRequestDto} {ch : Choice} {w w' : World}
    {r : Except AppException PaymentServiceResponse}
    (h : World.exec (.postPayment request) ch w = (r, w')) :
    w' = { w with payments := w.payments ++ [⟨request, ch.payment⟩] } ∧
      match r with
      | .ok response => ch.payment = .response response
      | .error _ => ∀ response, ch.payment ≠ .response response := by
  simp only [World.exec, Prod.mk.injEq] at h
  obtain ⟨hr, rfl⟩ := h
  refine ⟨rfl, ?_⟩
  split at hr <;> subst hr
  · assumption
  all_goals
    intro response
    simp [*]

/-- An answer with status `confirmed` is a charge for this request. -/
lemma charged_of_confirmed {request : PaymentRequestDto} {ch : Choice} {w w' : World}
    {response : PaymentServiceResponse}
    (h : World.exec (.postPayment request) ch w = (.ok response, w'))
    (hst : response.status = "confirmed") : w'.Charged request response.transactionId := by
  obtain ⟨rfl, hout⟩ := exec_postPayment h
  exact ⟨⟨request, ch.payment⟩, by simp, rfl, by simp [hout, PaymentOutcome.confirmedId, hst]⟩

/-! ## Harmless programs -/

lemma harmless_act {a : Action} (h : a.harmless = true) : Harmless (act a) := Prog.all_perform h

lemma idle_act {a : Action} (h : a.idle = true) : Idle (act a) := Prog.all_perform h

lemma harmless_getSeatMap (f : FlightId) : Harmless (SeatService.getSeatMap f) := by
  refine Prog.all_bind (harmless_act rfl) fun cached => ?_
  cases cached with
  | some map => trivial
  | none =>
      refine Prog.all_bind (harmless_act rfl) fun flight => ?_
      cases flight with
      | none => trivial
      | some flight =>
          refine Prog.all_bind (harmless_act (a := .findFlightSeats f) rfl) fun seats => ?_
          refine Prog.all_bind (harmless_act (a := .setSeatMapCache f _ _) rfl) fun _ => ?_
          trivial

lemma harmless_invalidateCache (f : FlightId) : Harmless (SeatService.invalidateCache f) :=
  harmless_act rfl

lemma idle_callWeightService (p : PassengerId) :
    Idle (BaggageService.callWeightService p) := by
  refine Prog.all_tryCatch (Prog.all_bind (idle_act rfl) fun _ => ?_) fun _ => ?_ <;> trivial

lemma idle_backoff (cfg : Settings) (attempt : ℕ) :
    Idle (PaymentService.backoff cfg attempt) := by
  unfold PaymentService.backoff
  split
  · exact idle_act rfl
  · trivial

namespace CheckInService

lemma idle_validateFlightExists (f : FlightId) : Idle (validateFlightExists f) := by
  refine Prog.all_bind (idle_act rfl) fun flight => ?_
  cases flight <;> trivial

lemma idle_validateSeatBelongsToFlight (s : SeatId) (f : FlightId) :
    Idle (validateSeatBelongsToFlight s f) := by
  refine Prog.all_bind (idle_act rfl) fun seat => ?_
  cases seat <;> trivial

lemma idle_findCheckInOrThrow (i : CheckInId) (p : PassengerId) :
    Idle (findCheckInOrThrow i p) := by
  refine Prog.all_bind (idle_act rfl) fun found => ?_
  cases found <;> trivial

lemma idle_validateHoldKey (s : Option SeatId) : Idle (validateHoldKey s) := by
  cases s with
  | none => trivial
  | some s => exact Prog.all_bind (idle_act rfl) fun _ => Prog.all_throwWhen

lemma idle_validateNoActiveCheckIn (p : PassengerId) (f : FlightId) :
    Idle (validateNoActiveCheckIn p f) := by
  refine Prog.all_bind (idle_act rfl) fun existing => ?_
  cases existing with
  | none => trivial
  | some existing => exact Prog.all_throwWhen

lemma idle_countAndRethrow (f : FlightId) (e : AppException) :
    Idle (countAndRethrow f e) := by
  refine Prog.all_bind ?_ fun _ => trivial
  unfold countContention
  split
  · exact idle_act rfl
  · trivial

lemma harmless_dropHold (checkIn : CheckIn) : Harmless (dropHold checkIn) := by
  unfold dropHold
  split
  · trivial
  · exact Prog.all_bind (harmless_act rfl) fun _ => harmless_invalidateCache _

lemma idle_findCheckInOrFail (i : CheckInId) : Idle (findCheckInOrFail i) := by
  refine Prog.all_bind (idle_act rfl) fun c => ?_
  cases c <;> trivial

end CheckInService

namespace HoldExpiryService

lemma harmless_markWaitlistEntryExpired (f : FlightId) (p : Option PassengerId) :
    Harmless (markWaitlistEntryExpired f p) := by
  unfold markWaitlistEntryExpired
  split
  · trivial
  · refine Prog.all_bind (harmless_act rfl) fun entry => ?_
    cases entry with
    | none => trivial
    | some entry => exact harmless_act rfl

lemma harmless_afterRelease (seat : Seat) : Harmless (afterRelease seat) := by
  refine Prog.all_bind (harmless_markWaitlistEntryExpired _ _) fun _ => ?_
  refine Prog.all_bind (harmless_invalidateCache _) fun _ => ?_
  exact Prog.all_bind (harmless_act rfl) fun _ => trivial

end HoldExpiryService

namespace WaitlistService

lemma idle_getNextPosition (f : FlightId) : Idle (getNextPosition f) :=
  Prog.all_bind (idle_act rfl) fun _ => trivial

lemma harmless_joinWaitlist (p : PassengerId) (f : FlightId) : Harmless (joinWaitlist p f) := by
  refine Prog.all_bind (harmless_act rfl) fun flight => ?_
  cases flight with
  | none => trivial
  | some flight =>
      refine Prog.all_bind (harmless_act rfl) fun existing => ?_
      refine Prog.all_bind Prog.all_throwWhen fun _ => ?_
      refine Prog.all_bind (idle_getNextPosition f).harmless fun position => ?_
      refine Prog.all_bind (harmless_act rfl) fun saved => ?_
      exact Prog.all_bind (harmless_act rfl) fun _ => trivial

lemma harmless_leaveWaitlist (i : WaitlistId) (p : PassengerId) :
    Harmless (leaveWaitlist i p) := by
  refine Prog.all_bind (harmless_act rfl) fun entry => ?_
  cases entry with
  | none => trivial
  | some entry =>
      refine Prog.all_bind Prog.all_throwWhen fun _ => ?_
      exact Prog.all_bind (harmless_act rfl) fun _ => trivial

end WaitlistService

end SkyHighCore
