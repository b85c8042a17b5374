import SkyHighCore.Framework.Traces
import SkyHighCore.Properties.Alone
import SkyHighCore.Properties.Matching

/-!
# Losing a race for a seat

A call of `startCheckIn` that does not get its seat is turned away by the read under the lock or by
the compare-and-swap, with a `SeatAlreadyHeldException` that is counted.  Redlock turns callers
away as well: a lock that another caller holds is refused after the configured retries, and
`acquireLock` throws what Redlock throws.  That error passes `startCheckIn` unchanged and
uncounted, as does any other failure of a query, a transaction or a lock command
(`rejected_iff_granted`).
-/

namespace SkyHighCore

open Framework CheckInService

/-- The actions of a call with their outcomes. -/
abbrev StartTrace := List (Event Action Action.Res AppException)

/-- The event throws something else than a `SeatAlreadyHeldException`. -/
def Breaks (e : Event Action Action.Res AppException) : Prop :=
  ∃ error, e.2 = .error error ∧ error.isSeatAlreadyHeld = false

/-- How often a call has counted a contention. -/
def contentions (tr : StartTrace) : ℕ :=
  tr.countP fun e => match e.1 with
    | .incSeatContention _ => true
    | _ => false

/-- What the events of a call are that does not get the seat: the rows it looks for are there,
its passenger has no check-in, and it does not take the seat. -/
def Loses : Event Action Action.Res AppException → Prop
  | ⟨.findOneFlight _, .ok found⟩ => found ≠ none
  | ⟨.findOneSeat _, .ok found⟩ => found ≠ none
  | ⟨.findOneCheckIn _, .ok found⟩ => found = none
  | ⟨.holdSeat .., .ok _⟩ => False
  | ⟨.holdSeat .., .error _⟩ => True
  | ⟨.dateNow, .error _⟩ | ⟨.incSeatContention _, .error _⟩ => False
  | ⟨_, .ok _⟩ => True
  | ⟨_, .error error⟩ => error.isSeatAlreadyHeld = false

/-- A stretch of a call throws, and it throws a `SeatAlreadyHeldException` exactly when none of its
events breaks; that is when it counts `counted` contentions, and else none. -/
def Turned (counted : ℕ) {α : Type} (tr : StartTrace) (o : Except AppException α) : Prop :=
  ∃ error, o = .error error ∧
    contentions tr = (if error.isSeatAlreadyHeld then counted else 0) ∧
    (error.isSeatAlreadyHeld = true ↔ ∀ e ∈ tr, ¬ Breaks e)

/-! ## The walk through a lost call -/

/-- The actions of a start besides the transaction and the counter. -/
def Action.steady : Action → Bool
  | .holdSeat .. | .incSeatContention _ => false
  | _ => true

lemma Loses.isSeatAlreadyHeld {a : Action} (ha : a.steady = true) {error : AppException}
    (h : Loses ⟨a, .error error⟩) : error.isSeatAlreadyHeld = false := by
  cases a with
  | holdSeat | incSeatContention => cases ha
  | dateNow => exact h.elim
  | _ => exact h

lemma not_breaks_ok {a : Action} {v : a.Res} : ¬ Breaks ⟨a, .ok v⟩ := by
  rintro ⟨error, h, -⟩
  cases h

lemma breaks_error_iff {a : Action} {error : AppException} :
    Breaks ⟨a, .error error⟩ ↔ error.isSeatAlreadyHeld = false := by
  constructor
  · rintro ⟨error', h, hno⟩
    cases h
    exact hno
  · exact fun h => ⟨error, rfl, h⟩

lemma contentions_cons {a : Action} (ha : a.steady = true) (r : Except AppException a.Res)
    (tr : StartTrace) : contentions (⟨a, r⟩ :: tr) = contentions tr := by
  cases a with
  | holdSeat | incSeatContention => cases ha
  | _ => rfl

lemma contentions_append (tr tr' : StartTrace) :
    contentions (tr ++ tr') = contentions tr + contentions tr' :=
  List.countP_append

section Walk

variable {α β : Type} {counted : ℕ} {tr : StartTrace} {a : Action}

lemma Turned.cons (ha : a.steady = true) (v : a.Res) {o : Except AppException α}
    (h : Turned counted tr o) : Turned counted (⟨a, .ok v⟩ :: tr) o := by
  obtain ⟨error, rfl, hcount, hiff⟩ := h
  refine ⟨error, rfl, (contentions_cons ha _ tr).trans hcount, hiff.trans ?_⟩
  rw [List.forall_mem_cons]
  exact (and_iff_right not_breaks_ok).symm

/-- An action that breaks is the last one. -/
lemma turned_of_breaks (ha : a.steady = true) {error : AppException}
    (h : error.isSeatAlreadyHeld = false) :
    Turned counted [⟨a, .error error⟩] (.error error : Except AppException α) := by
  refine ⟨error, rfl, ?_, ?_⟩
  · rw [contentions_cons ha, h]
    rfl
  · simp [breaks_error_iff, h]

/-- The rule for an action in front. -/
lemma turned_perform_bind (ha : a.steady = true) {f : a.Res → Program β}
    {o : Except AppException β} (h : (act a >>= f).Yields tr o) (hloses : ∀ e ∈ tr, Loses e)
    (hf : ∀ v tr', Loses ⟨a, .ok v⟩ → (f v).Yields tr' o → (∀ e ∈ tr', Loses e) →
      Turned counted tr' o) : Turned counted tr o := by
  rcases Prog.yields_perform_bind.mp h with ⟨v, tr', rfl, hrest⟩ | ⟨error, rfl, rfl⟩
  · obtain ⟨hv, hloses⟩ := List.forall_mem_cons.mp hloses
    exact (hf v tr' hv hrest hloses).cons ha v
  · exact turned_of_breaks ha ((hloses _ List.mem_cons_self).isSeatAlreadyHeld ha)

/-- The rule for a check that lets the call pass. -/
lemma turned_check_bind (ha : a.steady = true) {g : a.Res → Program Unit}
    (hg : ∀ v, Loses ⟨a, .ok v⟩ → g v = pure ()) {rest : Program β} {o : Except AppException β}
    (h : ((act a >>= g) >>= fun _ => rest).Yields tr o) (hloses : ∀ e ∈ tr, Loses e)
    (hrest : ∀ tr', rest.Yields tr' o → (∀ e ∈ tr', Loses e) → Turned counted tr' o) :
    Turned counted tr o := by
  obtain ⟨r, tr', rfl, hyields⟩ := h
  obtain ⟨hr, hloses'⟩ := List.forall_mem_cons.mp hloses
  cases r with
  | ok v =>
      have hpass : ((g v) >>= fun _ => rest).Yields tr' o := hyields
      rw [hg v hr] at hpass
      exact (hrest tr' hpass hloses').cons ha v
  | error error =>
      obtain ⟨rfl, rfl⟩ := hyields
      exact turned_of_breaks ha (hr.isSeatAlreadyHeld ha)

lemma turned_holdSeatWithinLock {p : PassengerId} {f : FlightId} {s : SeatId}
    {o : Except AppException CheckInResponseDto} (h : (holdSeatWithinLock p f s).Yields tr o)
    (hloses : ∀ e ∈ tr, Loses e) : Turned 0 tr o := by
  apply turned_perform_bind rfl h hloses
  intro found tr₁ _ h₁ hloses₁
  by_cases hno : notAvailable found
  · -- the read under the lock turns the call away
    rw [Prog.throwWhen, if_pos hno] at h₁
    obtain ⟨rfl, rfl⟩ := h₁
    exact ⟨_, rfl, rfl, by simp [AppException.isSeatAlreadyHeld]⟩
  rw [Prog.throwWhen, if_neg hno] at h₁
  apply turned_perform_bind rfl h₁ hloses₁
  intro heldAt tr₂ _ h₂ hloses₂
  rcases Prog.yields_perform_bind.mp h₂ with ⟨checkIn, tr₃, rfl, -⟩ | ⟨error, rfl, rfl⟩
  · exact (hloses₂ _ List.mem_cons_self).elim
  · -- the compare-and-swap does, or the transaction fails
    refine ⟨error, rfl, ?_, ?_⟩
    · cases error.isSeatAlreadyHeld <;> rfl
    · rw [List.forall_mem_singleton, breaks_error_iff, Bool.not_eq_false]

/-- The release of the lock lets the outcome pass, or replaces it. -/
lemma turned_releaseLock {resource : LockKey} {tr₁ tr₂ : StartTrace}
    {o o' : Except AppException α} (h : Turned counted tr₁ o)
    (hend : (releaseLock resource).Yields tr₂ (.ok ()) ∧ o' = o ∨
      ∃ e, (releaseLock resource).Yields tr₂ (.error e) ∧ o' = .error e)
    (hloses : ∀ e ∈ tr₂, Loses e) (hzero : counted = 0) : Turned counted (tr₁ ++ tr₂) o' := by
  subst hzero
  obtain ⟨error, rfl, hcount, hiff⟩ := h
  rw [ite_self] at hcount
  rcases hend with ⟨hfin, rfl⟩ | ⟨e, hfin, rfl⟩
  · obtain rfl := Prog.yields_perform.mp hfin
    refine ⟨error, rfl, ?_, hiff.trans ?_⟩
    · rw [contentions_append, hcount, ite_self]
      rfl
    · rw [List.forall_mem_append, List.forall_mem_singleton, and_iff_left not_breaks_ok]
  · obtain rfl := Prog.yields_perform.mp hfin
    have he := (hloses _ List.mem_cons_self).isSeatAlreadyHeld rfl
    refine ⟨e, rfl, ?_, ?_⟩
    · rw [contentions_append, hcount, ite_self]
      rfl
    · rw [List.forall_mem_append, List.forall_mem_singleton, breaks_error_iff, he]
      simp

/-- The `catch` block counts a lost seat. -/
lemma turned_countAndRethrow {f : FlightId} {error : AppException} {tr₁ tr₂ : StartTrace}
    {o : Except AppException CheckInResponseDto}
    (h : Turned 0 tr₁ (.error error : Except AppException CheckInResponseDto))
    (hcatch : (countAndRethrow f error).Yields tr₂ o) (hloses : ∀ e ∈ tr₂, Loses e) :
    Turned 1 (tr₁ ++ tr₂) o := by
  obtain ⟨_, hthrown, hcount, hiff⟩ := h
  cases hthrown
  rw [ite_self] at hcount
  cases hheld : error.isSeatAlreadyHeld with
  | false =>
      rw [countAndRethrow, countContention, hheld] at hcatch
      obtain ⟨rfl, rfl⟩ := hcatch
      rw [List.append_nil]
      exact ⟨error, rfl, by rw [hcount, hheld]; rfl, hiff⟩
  | true =>
      rw [countAndRethrow, countContention, hheld] at hcatch
      rcases Prog.yields_perform_bind.mp hcatch with ⟨v, tr₃, rfl, rfl, rfl⟩ | ⟨e, rfl, -⟩
      · refine ⟨error, rfl, ?_, hiff.trans ?_⟩
        · rw [contentions_append, hcount, hheld]
          rfl
        · rw [List.forall_mem_append, List.forall_mem_singleton, and_iff_left not_breaks_ok]
      · exact (hloses _ List.mem_cons_self).elim

/-- **The walk.**  A lost call throws; it throws a `SeatAlreadyHeldException`, and has counted it,
exactly when none of its events breaks. -/
lemma turned_startCheckIn {p : PassengerId} {dto : StartCheckInRequestDto}
    {o : Except AppException CheckInResponseDto} (h : (startCheckIn p dto).Yields tr o)
    (hloses : ∀ e ∈ tr, Loses e) : Turned 1 tr o := by
  refine turned_check_bind rfl ?_ h hloses ?_
  · intro found hfound
    cases found with
    | none => exact absurd rfl hfound
    | some flight => rfl
  intro tr₁ h₁ hloses₁
  refine turned_check_bind rfl ?_ h₁ hloses₁ ?_
  · intro found hfound
    cases found with
    | none => exact absurd rfl hfound
    | some seat => rfl
  intro tr₂ h₂ hloses₂
  refine turned_check_bind rfl ?_ h₂ hloses₂ ?_
  · intro found hfound
    obtain rfl : found = none := hfound
    rfl
  intro tr₃ h₃ hloses₃
  have hlocked : ∀ tr (o : Except AppException CheckInResponseDto),
      (do
        acquireLock (.seatLock dto.seatId)
        (holdSeatWithinLock p dto.flightId dto.seatId).tryFinally
          (releaseLock (.seatLock dto.seatId)) : Program CheckInResponseDto).Yields tr o →
      (∀ e ∈ tr, Loses e) → Turned 0 tr o := by
    intro tr o h hloses
    apply turned_perform_bind rfl h hloses
    intro _ tr' _ h' hloses'
    obtain ⟨tr₁, tr₂, o', rfl, hwithin, hend⟩ := Prog.yields_tryFinally.mp h'
    rw [List.forall_mem_append] at hloses'
    exact turned_releaseLock (turned_holdSeatWithinLock hwithin hloses'.1) hend hloses'.2 rfl
  rcases Prog.yields_tryCatch.mp h₃ with ⟨v, hok, rfl⟩ | ⟨tr₄, tr₅, error, rfl, hthrown, hcatch⟩
  · obtain ⟨_, hfalse, -⟩ := hlocked _ _ hok hloses₃
    cases hfalse
  · rw [List.forall_mem_append] at hloses₃
    exact turned_countAndRethrow (hlocked _ _ hthrown hloses₃.1) hcatch hloses₃.2

end Walk

/-! ## What the calls of a race do -/

/-- The actions of the call that makes the request `r`. -/
def Action.Asks (f : FlightId) (r : SeatRequest) : Action → Prop
  | .findOneFlight f' => f' = f
  | .findOneSeat q => q.id = some r.seatId ∧ (∀ f' ∈ q.flightId, f' = f) ∧ q.status = none
  | .findOneCheckIn q => q = { passengerId := some r.passengerId, flightId := some f }
  | .holdSeat p f' s _ => p = r.passengerId ∧ f' = f ∧ s = r.seatId
  | .acquireLock _ | .releaseLock _ | .dateNow | .setSeatHold .. | .delSeatMapCache _
  | .incSeatContention _ => True
  | _ => False

lemma all_startCheckIn (f : FlightId) (r : SeatRequest) :
    (startCheckIn r.passengerId ⟨f, r.seatId⟩).All (Action.Asks f r) := by
  have hflight : (validateFlightExists f).All (Action.Asks f r) :=
    Prog.all_bind (Prog.all_perform rfl) fun found => by cases found <;> trivial
  have hseat : (validateSeatBelongsToFlight r.seatId f).All (Action.Asks f r) :=
    Prog.all_bind (Prog.all_perform ⟨rfl, fun _ h => (Option.some_inj.mp h).symm, rfl⟩)
      fun found => by cases found <;> trivial
  have hcheckIn : (validateNoActiveCheckIn r.passengerId f).All (Action.Asks f r) :=
    Prog.all_bind (Prog.all_perform rfl) fun found => by
      cases found with
      | none => trivial
      | some existing => exact Prog.all_throwWhen
  have hwithin : (holdSeatWithinLock r.passengerId f r.seatId).All (Action.Asks f r) := by
    refine Prog.all_bind (Prog.all_perform ⟨rfl, by simp, rfl⟩) fun found => ?_
    refine Prog.all_bind Prog.all_throwWhen fun _ => ?_
    refine Prog.all_bind (Prog.all_perform trivial) fun heldAt => ?_
    refine Prog.all_bind (Prog.all_perform ⟨rfl, rfl, rfl⟩) fun checkIn => ?_
    refine Prog.all_bind (Prog.all_perform trivial) fun _ => ?_
    exact Prog.all_bind (Prog.all_perform trivial) fun _ => trivial
  have hlocked := Prog.all_bind (Prog.all_perform (P := Action.Asks f r)
    (a := .acquireLock (.seatLock r.seatId)) trivial) fun _ =>
      Prog.all_tryFinally hwithin
        (Prog.all_perform (a := Action.releaseLock (.seatLock r.seatId)) trivial)
  refine Prog.all_bind hflight fun _ => Prog.all_bind hseat fun _ => Prog.all_bind hcheckIn fun _ =>
    Prog.all_tryCatch hlocked fun error => Prog.all_bind ?_ fun _ => trivial
  unfold countContention
  split
  · exact Prog.all_perform trivial
  · trivial

/-- The transaction commits a win, and nothing else writes to the database. -/
lemma Action.Asks.exec {f : FlightId} {r : SeatRequest} {a : Action} (ha : a.Asks f r) {ch : Choice}
    {w w' : World} {o : Except AppException a.Res} (h : World.exec a ch w = (o, w')) :
    w'.db = w.db ∨ ∃ win : Win, win.toSeatRequest = r ∧ Awarded f win w.db w'.db := by
  cases a with
  | holdSeat p f' s heldAt =>
      obtain ⟨rfl, rfl, rfl⟩ := ha
      rcases World.transaction_cases h with ⟨_, -, rfl⟩ | ⟨checkIn, db, -, hbody, rfl⟩
      · exact .inl rfl
      · exact .inr ⟨_, rfl, (Tx.holdSeatTransaction_awarded hbody).2⟩
  | findOneFlight | findOneSeat | findOneCheckIn | acquireLock | releaseLock | dateNow
  | setSeatHold | delSeatMapCache | incSeatContention =>
      have hdb : w'.db = (World.exec _ ch w).2.db := congrArg (fun x => x.2.db) h.symm
      exact .inl (hdb.trans (World.exec_sparesDatabase rfl ch w))
  | _ => exact ha.elim

/-- An action that the environment lets fail breaks. -/
lemma breaks_of_fault {a : Action} {ch : Choice} (ha : a.fails = true) (hch : ch.fault = true)
    (w : World) : Breaks ⟨a, (World.exec a ch w).1⟩ := by
  cases a with
  | auditLog | postPayment | dateNow | delay | emit | incSeatContention => cases ha
  | _ =>
      simp [Breaks, World.exec, World.query, World.transaction, World.redis, hch,
        AppException.isSeatAlreadyHeld]

section Runs

variable {cfg : Settings} {f : FlightId} {requests : List SeatRequest} {r : SeatRequest}
  {w w₁ w₂ : World} {wins : List Win} {ch : Choice} {a : Action}

lemma loses_of_breaks {o : Except AppException a.Res} (ha : a.fails = true)
    (h : Breaks ⟨a, o⟩) : Loses ⟨a, o⟩ := by
  obtain ⟨error, hthrown, herror⟩ := h
  obtain rfl : o = .error error := hthrown
  cases a with
  | dateNow | incSeatContention => cases ha
  | holdSeat => trivial
  | _ => exact herror

/-- A win leaves a check-in. -/
lemma Awarded.not_absent {win : Win} {db db' : Database} (h : Awarded f win db db') :
    ¬ db'.Absent win.passengerId f := by
  intro habsent
  apply habsent (win.checkIn f) _ ⟨rfl, rfl⟩
  rw [h.checkIns]
  exact List.mem_append_right _ (List.mem_singleton_self _)

/-- An action that the environment does not let fail, in a call whose passenger has no check-in
before and after it. -/
lemma Contest.loses_of_granted (hcontest : Contest f requests w.db) (hr : r ∈ requests)
    (ha : a.Asks f r) (hwins : Matching f w.db w₁.db wins)
    (hrequests : ∀ win ∈ wins, win.toSeatRequest ∈ requests)
    (habsent : w₁.db.Absent r.passengerId f) {o : Except AppException a.Res}
    (h : World.exec a ch w₁ = (o, w₂)) (hafter : w₂.db.Absent r.passengerId f)
    (hch : a.fails = true → ch.fault = false) : Loses ⟨a, o⟩ ∧ ¬ Breaks ⟨a, o⟩ := by
  obtain ⟨seat₀, hseat₀, -⟩ := hcontest.seats r hr
  obtain ⟨flight, hflight⟩ := hcontest.flight
  rw [← hwins.flights] at hflight
  cases a with
  | findOneFlight f' =>
      obtain rfl : f' = f := ha
      obtain ⟨rfl, -⟩ := Prod.mk.inj ((World.query_ok (hch rfl) _).symm.trans h)
      exact ⟨by rw [Loses, hflight]; simp, not_breaks_ok⟩
  | findOneSeat q =>
      obtain ⟨rfl, -⟩ := Prod.mk.inj ((World.query_ok (hch rfl) _).symm.trans h)
      have hinv : (contest {} f requests w).inv w₁ := ⟨wins, hwins, hrequests⟩
      obtain ⟨seat, hfound, -⟩ := hcontest.findOne_seat hr hinv (fun s => ch.rank s.id)
        ha.1 ha.2.1 ha.2.2
      exact ⟨by rw [Loses, hfound]; simp, not_breaks_ok⟩
  | findOneCheckIn q =>
      obtain rfl : q = _ := ha
      obtain ⟨rfl, -⟩ := Prod.mk.inj ((World.query_ok (hch rfl) _).symm.trans h)
      refine ⟨(Table.findOne_eq_none_iff _ _ _).mpr fun c hc hmatches => ?_, not_breaks_ok⟩
      exact habsent c hc ⟨hmatches.2.1 _ rfl, hmatches.2.2 _ rfl⟩
  | holdSeat p f' s heldAt =>
      obtain ⟨rfl, rfl, rfl⟩ := ha
      rcases World.transaction_cases h with ⟨error, rfl, -⟩ | ⟨checkIn, db, -, hbody, rfl⟩
      · obtain ⟨hbody, -⟩ := World.transaction_error (hch rfl) h
        obtain ⟨seat, hseat, -⟩ := hwins.seat hseat₀
        obtain ⟨⟨detail, rfl⟩, -⟩ := Tx.holdSeatTransaction_rejected hbody habsent
          (hwins.passengers ▸ hcontest.registered r hr) (by simp [hflight]) (by simp [hseat])
        exact ⟨trivial, mt breaks_error_iff.mp (by simp [AppException.isSeatAlreadyHeld])⟩
      · exact absurd hafter (Tx.holdSeatTransaction_awarded hbody).2.not_absent
  | acquireLock =>
      obtain ⟨rfl, -⟩ := Prod.mk.inj ((World.exec_acquireLock (hch rfl) _).symm.trans h)
      exact ⟨trivial, not_breaks_ok⟩
  | releaseLock =>
      obtain ⟨rfl, -⟩ := Prod.mk.inj ((World.exec_releaseLock (hch rfl) _).symm.trans h)
      exact ⟨trivial, not_breaks_ok⟩
  | setSeatHold | delSeatMapCache =>
      obtain ⟨rfl, -⟩ := Prod.mk.inj ((World.redis_ok (hch rfl) _ _).symm.trans h)
      exact ⟨trivial, not_breaks_ok⟩
  | dateNow | incSeatContention =>
      obtain ⟨rfl, -⟩ := Prod.mk.inj h
      exact ⟨trivial, not_breaks_ok⟩
  | _ => exact ha.elim

/-- An action of such a call breaks exactly when the environment lets it fail. -/
lemma Contest.loses (hcontest : Contest f requests w.db) (hr : r ∈ requests) (ha : a.Asks f r)
    (hwins : Matching f w.db w₁.db wins) (hrequests : ∀ win ∈ wins, win.toSeatRequest ∈ requests)
    (habsent : w₁.db.Absent r.passengerId f) {o : Except AppException a.Res}
    (h : World.exec a ch w₁ = (o, w₂)) (hafter : w₂.db.Absent r.passengerId f) :
    Loses ⟨a, o⟩ ∧ (Breaks ⟨a, o⟩ ↔ a.fails = true ∧ ch.fault = true) := by
  by_cases hfault : a.fails = true ∧ ch.fault = true
  · have hbreaks := breaks_of_fault hfault.1 hfault.2 w₁
    rw [h] at hbreaks
    exact ⟨loses_of_breaks hfault.1 hbreaks, iff_of_true hbreaks hfault⟩
  · have hch : a.fails = true → ch.fault = false := by
      intro ha
      rw [← Bool.not_eq_true]
      exact fun hyes => hfault ⟨ha, hyes⟩
    obtain ⟨hloses, hno⟩ := hcontest.loses_of_granted hr ha hwins hrequests habsent h hafter hch
    exact ⟨hloses, iff_of_false hno hfault⟩

variable {ts : List SkyTransition} {c : SkyConfig}

/-- Every call of the run makes one of the requests. -/
def OnlyRequests (f : FlightId) (requests : List SeatRequest) (c : SkyConfig) : Prop :=
  ∀ call ∈ c.calls, ∃ r ∈ requests, call = r.call f

lemma OnlyRequests.before {l : SkyLabel} {c c' : SkyConfig} (h : OnlyRequests f requests c')
    (hstep : (skyHigh cfg).step l c = some c') : OnlyRequests f requests c := by
  intro call hcall
  apply h call
  rw [System.step_calls hstep]
  exact List.mem_append_left _ hcall

/-- What is left of a call asks for its request. -/
lemma run_asks (h : (skyHigh cfg).Run (.init w) ts c) {k : ℕ} {call : Call}
    {q : Program Reply} (hk : c.threads[k]? = some ⟨call, q⟩) (hcall : call = r.call f) :
    q.All (Action.Asks f r) := by
  have hall := h.all (P := fun call a => ∀ f r, call = SeatRequest.call f r → a.Asks f r)
    (fun call => ?_) _ (List.mem_of_getElem? hk)
  · exact hall.mono fun a ha => ha f r hcall
  · by_cases hstart : ∃ f r, call = SeatRequest.call f r
    · obtain ⟨f, ⟨p, s⟩, rfl⟩ := hstart
      refine (Prog.all_map _ (all_startCheckIn f ⟨p, s⟩)).mono fun a ha f' r' heq => ?_
      obtain ⟨p', s'⟩ := r'
      cases heq
      exact ha
    · exact .of_forall (fun a f r heq => absurd ⟨f, r, heq⟩ hstart) _

/-- A step of the run adds at most one win to the tables. -/
lemma step_matching {l : SkyLabel} {c c' : SkyConfig} (h : (skyHigh cfg).Run (.init w) ts c)
    (honly : OnlyRequests f requests c) (hstep : (skyHigh cfg).step l c = some c')
    (hwins : Matching f w.db c.state.db wins)
    (hrequests : ∀ win ∈ wins, win.toSeatRequest ∈ requests) :
    c.state.db.checkIns.rows ⊆ c'.state.db.checkIns.rows ∧ ∃ wins',
      Matching f w.db c'.state.db wins' ∧ ∀ win ∈ wins', win.toSeatRequest ∈ requests := by
  rcases (skyHigh cfg).step_cases hstep with ⟨call, rfl, rfl⟩ | ⟨ms, rfl, rfl⟩ |
    ⟨i, ch, call, a, k, rfl, hi, rfl⟩
  · exact ⟨List.Subset.refl _, wins, hwins, hrequests⟩
  · exact ⟨List.Subset.refl _, wins, hwins, hrequests⟩
  · obtain ⟨r, hr, hcall⟩ := honly call (List.mem_map.mpr ⟨_, List.mem_of_getElem? hi, rfl⟩)
    have hasks := (run_asks h hi hcall).1
    rcases hasks.exec (Prod.mk.eta (p := World.exec a ch c.state)).symm with hdb | ⟨win, rfl, hwin⟩
    · rw [show ((skyHigh cfg).exec a ch c.state).2.db = c.state.db from hdb]
      exact ⟨List.Subset.refl _, wins, hwins, hrequests⟩
    · refine ⟨?_, wins ++ [win], hwins.award hwin, fun win' hwin' => ?_⟩
      · rw [show ((skyHigh cfg).exec a ch c.state).2.db.checkIns.rows = _ from hwin.checkIns]
        exact List.subset_append_left _ _
      · rcases List.mem_append.mp hwin' with hold | hnew
        · exact hrequests win' hold
        · rw [List.mem_singleton.mp hnew]
          exact hr

/-- The tables hold the wins so far, and no check-in of the run has been lost. -/
lemma run_matching (h : (skyHigh cfg).Run (.init w) ts c) (honly : OnlyRequests f requests c) :
    (∀ t ∈ ts, t.pre.state.db.checkIns.rows ⊆ c.state.db.checkIns.rows ∧
      t.post.state.db.checkIns.rows ⊆ c.state.db.checkIns.rows) ∧ ∃ wins,
      Matching f w.db c.state.db wins ∧ ∀ win ∈ wins, win.toSeatRequest ∈ requests := by
  induction h with
  | nil => exact ⟨by simp, [], .nil f w.db, by simp⟩
  | @snoc ts c l c' hrun hstep ih =>
      obtain ⟨hrows, wins, hwins, hrequests⟩ := ih (honly.before hstep)
      obtain ⟨hgrow, hmatching⟩ :=
        step_matching hrun (honly.before hstep) hstep hwins hrequests
      refine ⟨fun t ht => ?_, hmatching⟩
      rcases List.mem_append.mp ht with ht | ht
      · exact ⟨List.Subset.trans (hrows t ht).1 hgrow, List.Subset.trans (hrows t ht).2 hgrow⟩
      · obtain rfl := List.mem_singleton.mp ht
        exact ⟨hgrow, List.Subset.refl _⟩

lemma OnlyRequests.of_run {c₁ : SkyConfig} (h : (skyHigh cfg).Run c₁ ts c)
    (honly : OnlyRequests f requests c) : OnlyRequests f requests c₁ := by
  induction h with
  | nil => exact honly
  | snoc hrun hstep ih => exact ih (honly.before hstep)

/-- No query, transaction, Redis command or lock command of the `k`-th call fails in the step. -/
def Granted (k : ℕ) (t : SkyTransition) : Prop :=
  ∀ ch call a cont, t.label = .act k ch → t.pre.threads[k]? = some ⟨call, .act a cont⟩ →
    a.fails = true → ch.fault = false

/-- A passenger who does not hold the seat in the end has won nothing. -/
lemma Contest.absent_of_lost (hcontest : Contest f requests w.db) (hr : r ∈ requests)
    (hwins : Matching f w.db w₁.db wins) (hrequests : ∀ win ∈ wins, win.toSeatRequest ∈ requests)
    (hlost : ∀ seat, w₁.db.seats.get? r.seatId = some seat →
      seat.heldBy ≠ some r.passengerId) : w₁.db.Absent r.passengerId f := by
  intro checkIn hcheckIn heq
  rw [hwins.checkIns] at hcheckIn
  rcases List.mem_append.mp hcheckIn with hold | hnew
  · exact hcontest.absent r hr checkIn hold heq
  · obtain ⟨win, hwin, rfl⟩ := List.mem_map.mp hnew
    obtain rfl : win.toSeatRequest = r :=
      List.inj_on_of_nodup_map hcontest.distinct (hrequests win hwin) hr heq.1
    obtain ⟨seat, -, -, hheld⟩ := hwins.won win hwin
    exact hlost _ hheld rfl

/-- The state that an action of the `k`-th call leaves. -/
lemma post_of_act {t : SkyTransition} (hstep : (skyHigh cfg).step t.label t.pre = some t.post)
    {k : ℕ} {call : Call} {a : Action} {cont : Except AppException a.Res → Program Reply}
    (hlabel : t.label = .act k ch) (hk : t.pre.threads[k]? = some ⟨call, .act a cont⟩) :
    World.exec a ch t.pre.state = ((World.exec a ch t.pre.state).1, t.post.state) := by
  rw [hlabel] at hstep
  simp only [System.step, hk, Option.some_inj] at hstep
  rw [← hstep]
  rfl

/-- The events of a lost call: what breaks is what the environment lets fail. -/
lemma run_event (hcontest : Contest f requests w.db) (h : (skyHigh cfg).Run (.init w) ts c)
    (honly : OnlyRequests f requests c) (hr : r ∈ requests)
    (habsent : c.state.db.Absent r.passengerId f) {k : ℕ} {q : Program Reply}
    (hk : c.threads[k]? = some ⟨r.call f, q⟩) {t : SkyTransition} (ht : t ∈ ts) {call : Call}
    {a : Action} {cont : Except AppException a.Res → Program Reply} (hlabel : t.label = .act k ch)
    (hth : t.pre.threads[k]? = some ⟨call, .act a cont⟩) :
    Loses ⟨a, (World.exec a ch t.pre.state).1⟩ ∧
      (Breaks ⟨a, (World.exec a ch t.pre.state).1⟩ ↔ a.fails = true ∧ ch.fault = true) := by
  obtain ⟨us, vs, rfl, hpre, hstep, hpost⟩ := h.mem_split ht
  have hrest := (System.Run.single hstep).append hpost
  obtain ⟨q', hq'⟩ := hrest.thread hth
  obtain rfl : call = r.call f := by
    rw [hk] at hq'
    exact (congrArg Thread.call (Option.some_inj.mp hq')).symm
  obtain ⟨-, wins, hwins, hrequests⟩ := run_matching hpre (honly.of_run hrest)
  obtain ⟨hbefore, hafter⟩ := (run_matching h honly).1 t ht
  exact hcontest.loses hr (run_asks hpre hth rfl).1 hwins hrequests
    (fun d hd => habsent d (hbefore hd)) (post_of_act hstep hlabel hth)
    (fun d hd => habsent d (hafter hd))

/-- **Losing a seat race is a 409, unless something fails.**  Passengers without a check-in on the
flight start their check-ins under any schedule, and queries, transactions, Redis commands and lock
commands may fail, a lock request of a caller among them that Redlock refuses.  A call that has
ended without getting its seat rejects with a `SeatAlreadyHeldException` and has counted one
contention if and only if none of its own commands has failed. -/
theorem rejected_iff_granted (hcontest : Contest f requests w.db)
    (h : (skyHigh cfg).Run (.init w) ts c) (honly : OnlyRequests f requests c) (hr : r ∈ requests)
    {k : ℕ} {res : Except AppException Reply} (hended : Ended c k (r.call f) res)
    (hlost : ∀ seat, c.state.db.seats.get? r.seatId = some seat →
      seat.heldBy ≠ some r.passengerId) :
    ((∃ detail, res = .error (.seatAlreadyHeld detail)) ∧
      contentions ((skyHigh cfg).trace k ts) = 1) ↔ ∀ t ∈ ts, Granted k t := by
  obtain ⟨-, wins, hwins, hrequests⟩ := run_matching h honly
  have habsent := hcontest.absent_of_lost hr hwins hrequests hlost
  have hloses : ∀ e ∈ (skyHigh cfg).trace k ts, Loses e := by
    intro e he
    obtain ⟨t, ht, ch, call, a, cont, hlabel, hth, rfl⟩ := System.mem_trace_iff.mp he
    exact (run_event hcontest h honly hr habsent hended ht hlabel hth).1
  have hgranted : (∀ e ∈ (skyHigh cfg).trace k ts, ¬ Breaks e) ↔ ∀ t ∈ ts, Granted k t := by
    constructor
    · intro hno t ht ch call a cont hlabel hth hfails
      rw [← Bool.not_eq_true]
      intro hfault
      apply hno _ (System.mem_trace_iff.mpr ⟨t, ht, ch, call, a, cont, hlabel, hth, rfl⟩)
      exact (run_event hcontest h honly hr habsent hended ht hlabel hth).2.mpr ⟨hfails, hfault⟩
    · intro hgranted e he hbreaks
      obtain ⟨t, ht, ch, call, a, cont, hlabel, hth, rfl⟩ := System.mem_trace_iff.mp he
      obtain ⟨hfails, hfault⟩ :=
        (run_event hcontest h honly hr habsent hended ht hlabel hth).2.mp hbreaks
      cases hfault.symm.trans (hgranted t ht ch call a cont hlabel hth hfails)
  obtain ⟨o, hyields, rfl⟩ := Prog.yields_map.mp (h.yields hended)
  obtain ⟨error, rfl, hcount, hiff⟩ := turned_startCheckIn hyields hloses
  rw [← hgranted, ← hiff, hcount]
  cases error <;> simp [Except.map, AppException.isSeatAlreadyHeld]

end Runs

/-! ## A refused lock -/

/-- Nothing fails in the step but a lock request. -/
def Refuses (t : SkyTransition) : Prop :=
  ∀ k ch call a cont, t.label = .act k ch → t.pre.threads[k]? = some ⟨call, .act a cont⟩ →
    ch.fault = true → ∃ resource, a = .acquireLock resource

/-- A test for `Refuses`. -/
def refuses (t : SkyTransition) : Bool :=
  match t.label with
  | .act k ch =>
      match t.pre.threads[k]? with
      | some ⟨_, .act (.acquireLock _) _⟩ => true
      | _ => !ch.fault
  | _ => true

lemma refuses_of_all {ts : List SkyTransition} (h : ts.all refuses = true) :
    ∀ t ∈ ts, Refuses t := by
  intro t ht k ch call a cont hlabel hk hfault
  have hall := List.all_eq_true.mp h t ht
  simp only [refuses, hlabel, hk, hfault] at hall
  cases a with
  | acquireLock resource => exact ⟨resource, rfl⟩
  | _ => cases hall

/-- The holder of seat 100. -/
def holder? (c : SkyConfig) : Option PassengerId :=
  (c.state.db.seats.get? 100).bind Seat.heldBy

lemma lost_of_holder? {c : SkyConfig} {p : PassengerId} (h : holder? c ≠ some p) :
    ∀ seat, c.state.db.seats.get? 100 = some seat → seat.heldBy ≠ some p := by
  intro seat hseat hheld
  apply h
  rw [holder?, hseat]
  exact hheld

lemma onlyRequests_of_calls {c : SkyConfig}
    (h : c.calls = [⟨1, 100⟩, ⟨2, 100⟩].map (SeatRequest.call 10)) :
    OnlyRequests 10 [⟨1, 100⟩, ⟨2, 100⟩] c := by
  intro call hcall
  rw [h] at hcall
  obtain ⟨r, hr, rfl⟩ := List.mem_map.mp hcall
  exact ⟨r, hr, rfl⟩

theorem rejected_iff_granted_race : ∃ ts c detail, (skyHigh {}).Run (.init oneSeatWorld) ts c ∧
    Ended c 0 (SeatRequest.call 10 ⟨1, 100⟩) (.error (.seatAlreadyHeld detail)) ∧
    contentions ((skyHigh {}).trace 0 ts) = 1 := by
  obtain ⟨ts, c, hrun, hcalls, htest⟩ := exists_run_calls race
    (fun ts c => (outcome? c 0).isSome && decide (holder? c ≠ some 1) && ts.all faultless)
    (by decide +kernel)
  simp only [Bool.and_eq_true, decide_eq_true_eq, Option.isSome_iff_exists] at htest
  obtain ⟨⟨⟨res, hres⟩, hholder⟩, hfaultless⟩ := htest
  have hended : Ended c 0 (SeatRequest.call 10 ⟨1, 100⟩) res :=
    ended_of_outcome? (by rw [hcalls]; rfl) hres
  have hgranted : ∀ t ∈ ts, Granted 0 t := fun t ht ch _ _ _ hlabel _ _ =>
    faultless_of_all hfaultless t ht 0 ch hlabel
  obtain ⟨⟨detail, rfl⟩, hcount⟩ := (rejected_iff_granted contest_oneSeatWorld hrun
    (onlyRequests_of_calls hcalls) (by simp) hended (lost_of_holder? hholder)).mpr hgranted
  exact ⟨ts, c, detail, hrun, hended, hcount⟩

/-- Passenger 1 holds the lock of the seat when Redlock gives up on the request of passenger 2. -/
def refusedRace : List SkyLabel :=
  [.invoke (.startCheckIn 1 ⟨10, 100⟩), .invoke (.startCheckIn 2 ⟨10, 100⟩)] ++
  proceed 0 4 ++ proceed 1 3 ++ [.act 1 { fault := true }] ++ proceed 0 6

/-- The loser is turned away with the error of Redlock. -/
theorem not_forall_rejected : ¬ ∀ (f : FlightId) (requests : List SeatRequest) (w : World)
    (ts : List SkyTransition) (c : SkyConfig) (r : SeatRequest) (k : ℕ)
    (res : Except AppException Reply), Contest f requests w.db →
    (skyHigh {}).Run (.init w) ts c → OnlyRequests f requests c → (∀ t ∈ ts, Refuses t) →
    r ∈ requests → Ended c k (r.call f) res →
    (∀ seat, c.state.db.seats.get? r.seatId = some seat → seat.heldBy ≠ some r.passengerId) →
    (∃ detail, res = .error (.seatAlreadyHeld detail)) ∧
      contentions ((skyHigh {}).trace k ts) = 1 := by
  intro hall
  obtain ⟨ts, c, hrun, hcalls, htest⟩ := exists_run_calls refusedRace
    (fun ts c => (outcome? c 1).any (fun res => match res with
      | .error .lockFailed => true
      | _ => false) && decide (holder? c ≠ some 2) && ts.all refuses) (by decide +kernel)
  simp only [Bool.and_eq_true, decide_eq_true_eq, Option.any_eq_true] at htest
  obtain ⟨⟨⟨res, hres, hlock⟩, hholder⟩, hrefuses⟩ := htest
  have hended : Ended c 1 (SeatRequest.call 10 ⟨2, 100⟩) res :=
    ended_of_outcome? (by rw [hcalls]; rfl) hres
  obtain ⟨⟨detail, rfl⟩, -⟩ := hall 10 _ oneSeatWorld ts c ⟨2, 100⟩ 1 res contest_oneSeatWorld hrun
    (onlyRequests_of_calls hcalls) (refuses_of_all hrefuses) (by simp) hended
    (lost_of_holder? hholder)
  cases hlock

end SkyHighCore
