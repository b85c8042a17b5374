import SkyHighCore.Properties.Contracts

/-!
# The alphabets of the calls

Which kinds of actions a call can perform at all, whatever happens while it runs.  Each service
method writes through a few actions of its own, besides the idle ones; `Call.uses` lists them, and
`Call.all_uses` says that the list is complete.  What a kind of call never does follows from it,
without another walk through its program.
-/

namespace SkyHighCore

open Framework

/-! ## Alphabets -/

/-- The actions of `startCheckIn`. -/
def Action.ofStart : Action → Bool
  | .holdSeat .. | .setSeatHold .. | .delSeatMapCache _ => true
  | a => a.idle

/-- The actions of `confirmCheckIn`. -/
def Action.ofConfirm : Action → Bool
  | .awaitPayment .. | .complete .. | .postPayment _ | .auditLog _ | .delSeatHold _
  | .delSeatMapCache _ => true
  | a => a.idle

/-- If the action stores a declared weight, it is this one. -/
def Action.Declares (weight : ℚ) : Action → Prop
  | .awaitPayment _ baggageWeight _ | .complete _ baggageWeight _ => baggageWeight = weight
  | _ => True

/-- The actions of a `confirmCheckIn` that declares this weight. -/
def Action.Confirms (weight : ℚ) (a : Action) : Prop := a.ofConfirm = true ∧ a.Declares weight

/-- The actions of `processPayment`. -/
def Action.ofPayment : Action → Bool
  | .postPayment _ | .auditLog _ => true
  | a => a.idle

/-- The actions of `cancelCheckIn`. -/
def Action.ofCancel : Action → Bool
  | .cancel .. | .delSeatHold _ | .delSeatMapCache _ => true
  | a => a.idle

/-- The actions of `releaseSeat`, and of what leads to it. -/
def Action.ofRelease : Action → Bool
  | .release _ | .saveWaitlist _ | .delSeatMapCache _ => true
  | a => a.idle

/-- The actions of `processWaitlist`. -/
def Action.ofProcess : Action → Bool
  | .assign .. | .setSeatHold .. | .delSeatMapCache _ => true
  | a => a.idle

/-- The actions of `joinWaitlist`. -/
def Action.ofJoin : Action → Bool
  | .insertWaitlist .. | .auditLog _ => true
  | a => a.idle

/-- The actions of `leaveWaitlist`. -/
def Action.ofLeave : Action → Bool
  | .saveWaitlist _ => true
  | a => a.idle

/-- The actions of `getSeatMap`. -/
def Action.ofSeatMap : Action → Bool
  | .setSeatMapCache .. => true
  | a => a.idle

/-- The actions of a call. -/
def Call.uses : Call → Action → Bool
  | .startCheckIn .., a => a.ofStart
  | .confirmCheckIn .., a => a.ofConfirm
  | .cancelCheckIn .., a => a.ofCancel
  | .handleHoldExpired _, a | .releaseSeat _, a | .sweepExpiredHolds, a => a.ofRelease
  | .processWaitlist .., a => a.ofProcess
  | .joinWaitlist .., a => a.ofJoin
  | .leaveWaitlist .., a => a.ofLeave
  | .getSeatMap _, a => a.ofSeatMap

/-- A program within an alphabet. -/
abbrev Spells (letters : Action → Bool) {α : Type} (p : Program α) : Prop :=
  p.All fun a => letters a = true

lemma spells_act {letters : Action → Bool} {a : Action} (h : letters a = true) :
    Spells letters (act a) := Prog.all_perform h

/-- An alphabet that contains the idle actions. -/
def Hospitable (letters : Action → Bool) : Prop := ∀ a : Action, a.idle = true → letters a = true

lemma Idle.spells {letters : Action → Bool} (hl : Hospitable letters) {α : Type} {p : Program α}
    (hp : Idle p) : Spells letters p :=
  hp.mono hl

lemma hospitable_ofStart : Hospitable Action.ofStart := fun a h => by
  cases a with
  | holdSeat | setSeatHold | delSeatMapCache => rfl
  | _ => exact h

lemma hospitable_ofConfirm : Hospitable Action.ofConfirm := fun a h => by
  cases a with
  | awaitPayment | complete | postPayment | auditLog | delSeatHold | delSeatMapCache => rfl
  | _ => exact h

lemma hospitable_ofPayment : Hospitable Action.ofPayment := fun a h => by
  cases a with
  | postPayment | auditLog => rfl
  | _ => exact h

lemma Action.declares_of_idle {a : Action} (h : a.idle = true) (weight : ℚ) :
    a.Declares weight := by
  cases a with
  | awaitPayment | complete => cases h
  | _ => trivial

lemma hospitable_ofCancel : Hospitable Action.ofCancel := fun a h => by
  cases a with
  | cancel | delSeatHold | delSeatMapCache => rfl
  | _ => exact h

/-! ## The services -/

namespace CheckInService

theorem spells_startCheckIn (p : PassengerId) (dto : StartCheckInRequestDto) :
    Spells Action.ofStart (startCheckIn p dto) := by
  have hidle : ∀ {α : Type} {q : Program α}, Idle q → Spells Action.ofStart q :=
    fun h => h.spells hospitable_ofStart
  refine Prog.all_bind (hidle (idle_validateFlightExists _)) fun _ => ?_
  refine Prog.all_bind (hidle (idle_validateSeatBelongsToFlight _ _)) fun _ => ?_
  refine Prog.all_bind (hidle (idle_validateNoActiveCheckIn _ _)) fun _ => ?_
  refine Prog.all_tryCatch ?_ fun e => hidle (idle_countAndRethrow _ e)
  refine Prog.all_bind (spells_act rfl) fun _ => ?_
  refine Prog.all_tryFinally ?_ (spells_act rfl)
  refine Prog.all_bind (spells_act rfl) fun seat => ?_
  refine Prog.all_bind Prog.all_throwWhen fun _ => ?_
  refine Prog.all_bind (spells_act rfl) fun heldAt => ?_
  refine Prog.all_bind (spells_act rfl) fun checkIn => ?_
  refine Prog.all_bind (spells_act rfl) fun _ => ?_
  exact Prog.all_bind (spells_act rfl) fun _ => trivial

lemma spells_dropHold {letters : Action → Bool} (hhold : ∀ s, letters (.delSeatHold s) = true)
    (hmap : ∀ f, letters (.delSeatMapCache f) = true) (c : CheckIn) :
    Spells letters (dropHold c) := by
  unfold dropHold
  split
  · trivial
  · exact Prog.all_bind (spells_act (hhold _)) fun _ => spells_act (hmap _)

theorem spells_cancelCheckIn (i : CheckInId) (p : PassengerId) :
    Spells Action.ofCancel (cancelCheckIn i p) := by
  refine Prog.all_bind ((idle_findCheckInOrThrow i p).spells hospitable_ofCancel) fun c => ?_
  refine Prog.all_bind (spells_act rfl) fun flight => ?_
  refine Prog.all_bind Prog.all_throwWhen fun _ => ?_
  refine Prog.all_bind (spells_act rfl) fun cancelledAt => ?_
  refine Prog.all_bind (spells_act rfl) fun _ => ?_
  refine Prog.all_bind (spells_dropHold (fun _ => rfl) (fun _ => rfl) c) fun _ => ?_
  exact Prog.all_bind (spells_act rfl) fun _ => trivial

lemma confirms_act {a : Action} {weight : ℚ} (h : a.ofConfirm = true) (hw : a.Declares weight) :
    (act a).All (Action.Confirms weight) := Prog.all_perform ⟨h, hw⟩

lemma Idle.confirms {α : Type} {p : Program α} (hp : Idle p) (weight : ℚ) :
    p.All (Action.Confirms weight) :=
  hp.mono fun a h => ⟨hospitable_ofConfirm a h, Action.declares_of_idle h weight⟩

theorem spells_processPayment (cfg : Settings) (request : PaymentRequestDto) :
    Spells Action.ofPayment (PaymentService.processPayment cfg request) := by
  have hattempts : ∀ remaining attempt lastError, Spells Action.ofPayment
      (PaymentService.attempts cfg request remaining attempt lastError) := by
    intro remaining
    induction remaining with
    | zero => exact fun _ _ => trivial
    | succ remaining ih =>
        intro attempt lastError
        refine Prog.all_bind ((idle_backoff cfg attempt).spells hospitable_ofPayment) fun _ => ?_
        refine Prog.all_andThen (spells_act rfl) fun r => ?_
        cases r with
        | ok response => trivial
        | error e => exact ih (attempt + 1) (some e)
  refine Prog.all_bind (spells_act rfl) fun _ => ?_
  refine Prog.all_bind (hattempts _ _ _) fun result => Prog.all_bind ?_ fun _ => trivial
  unfold PaymentService.logConfirmed
  split
  · exact spells_act rfl
  · trivial

lemma confirms_processPayment (cfg : Settings) (request : PaymentRequestDto) (weight : ℚ) :
    (PaymentService.processPayment cfg request).All (Action.Confirms weight) := by
  refine (spells_processPayment cfg request).mono fun a ha => ?_
  cases a with
  | postPayment | auditLog => exact ⟨rfl, trivial⟩
  | _ => exact ⟨hospitable_ofConfirm _ ha, Action.declares_of_idle (by exact ha) weight⟩

lemma confirms_completeCheckIn (c : CheckIn) (weight : ℚ) (paymentId : Option String) :
    (completeCheckIn c weight paymentId).All (Action.Confirms weight) := by
  refine Prog.all_bind (confirms_act (a := .dateNow) rfl trivial) fun _ => ?_
  refine Prog.all_bind (confirms_act (a := .complete c weight paymentId) rfl rfl) fun _ => ?_
  refine Prog.all_bind ?_ fun _ => ?_
  · unfold dropHold
    split
    · trivial
    · exact Prog.all_bind (confirms_act (a := .delSeatHold _) rfl trivial) fun _ =>
        confirms_act (a := .delSeatMapCache _) rfl trivial
  · exact Prog.all_bind (Idle.confirms (idle_findCheckInOrFail c.id) weight) fun _ => trivial

/-- **A confirmation stores the weight that it declares.** -/
theorem confirms_confirmCheckIn (cfg : Settings) (i : CheckInId) (p : PassengerId)
    (dto : UpdateCheckInRequestDto) :
    (confirmCheckIn cfg i p dto).All (Action.Confirms (declaredWeight dto)) := by
  have hidle : ∀ {α : Type} {q : Program α}, Idle q →
      q.All (Action.Confirms (declaredWeight dto)) := fun h => Idle.confirms h _
  refine Prog.all_bind (hidle (idle_findCheckInOrThrow i p)) fun c => ?_
  refine Prog.all_bind (Prog.all_bind Prog.all_throwWhen fun _ => hidle (idle_validateHoldKey _))
    fun _ => ?_
  refine Prog.all_bind (Prog.all_bind (hidle (idle_callWeightService p)) fun _ => trivial)
    fun baggageResult => ?_
  show Prog.All _ (if _ then _ else _)
  split
  · refine Prog.all_bind (confirms_act (a := .awaitPayment c _ _) rfl rfl) fun _ => ?_
    refine Prog.all_bind (confirms_processPayment cfg _ _) fun paymentResult => ?_
    show Prog.All _ (if _ then _ else _)
    split
    · exact confirms_completeCheckIn _ _ _
    · exact Prog.all_bind (hidle (idle_findCheckInOrFail c.id)) fun _ => trivial
  · exact confirms_completeCheckIn c _ none

end CheckInService

namespace HoldExpiryService

lemma spells_afterRelease (seat : Seat) : Spells Action.ofRelease (afterRelease seat) := by
  refine Prog.all_bind ?_ fun _ => ?_
  · unfold markWaitlistEntryExpired
    split
    · trivial
    · refine Prog.all_bind (spells_act rfl) fun entry => ?_
      cases entry with
      | none => trivial
      | some entry => exact spells_act rfl
  · exact Prog.all_bind (spells_act rfl) fun _ => Prog.all_bind (spells_act rfl) fun _ => trivial

theorem spells_releaseSeat (s : SeatId) : Spells Action.ofRelease (releaseSeat s) := by
  refine Prog.all_andThen (spells_act rfl) fun r => ?_
  cases r with
  | error e => trivial
  | ok _ =>
      refine Prog.all_tryFinally (Prog.all_bind (spells_act rfl) fun found => ?_) (spells_act rfl)
      cases found with
      | none => trivial
      | some seat =>
          show Prog.All _ (if _ then _ else _)
          split
          · trivial
          · refine Prog.all_bind (spells_act rfl) fun now => ?_
            show Prog.All _ (if _ then _ else _)
            split
            · trivial
            · refine Prog.all_bind (spells_act rfl) fun updateResult => ?_
              show Prog.All _ (if _ then _ else _)
              split
              · exact spells_afterRelease seat
              · trivial

theorem spells_sweepExpiredHolds : Spells Action.ofRelease sweepExpiredHolds := by
  refine Prog.all_bind (spells_act rfl) fun now => ?_
  refine Prog.all_bind (spells_act rfl) fun staleSeats => ?_
  exact Prog.all_forEach fun seat => Prog.all_bind (spells_releaseSeat seat.id) fun _ => trivial

end HoldExpiryService

namespace WaitlistService

theorem spells_processWaitlist (f : FlightId) (s : Option SeatId) :
    Spells Action.ofProcess (processWaitlist f s) := by
  refine Prog.all_andThen (spells_act rfl) fun r => ?_
  cases r with
  | error e => trivial
  | ok _ =>
      refine Prog.all_tryFinally (Prog.all_bind (spells_act rfl) fun next => ?_) (spells_act rfl)
      cases next with
      | none => trivial
      | some entry =>
          refine Prog.all_bind (spells_act rfl) fun found => ?_
          cases found with
          | none => trivial
          | some seat =>
              refine Prog.all_bind (spells_act rfl) fun heldAt => ?_
              refine Prog.all_bind (spells_act rfl) fun assigned => ?_
              show Prog.All _ (if _ then _ else _)
              split
              · refine Prog.all_bind (spells_act rfl) fun _ => ?_
                exact Prog.all_bind (spells_act rfl) fun _ => spells_act rfl
              · trivial

theorem spells_joinWaitlist (p : PassengerId) (f : FlightId) :
    Spells Action.ofJoin (joinWaitlist p f) := by
  refine Prog.all_bind (spells_act rfl) fun flight => ?_
  cases flight with
  | none => trivial
  | some flight =>
      refine Prog.all_bind (spells_act rfl) fun existing => ?_
      refine Prog.all_bind Prog.all_throwWhen fun _ => ?_
      refine Prog.all_bind (Prog.all_bind (spells_act rfl) fun _ => trivial) fun position => ?_
      refine Prog.all_bind (spells_act rfl) fun saved => ?_
      exact Prog.all_bind (spells_act rfl) fun _ => trivial

theorem spells_leaveWaitlist (i : WaitlistId) (p : PassengerId) :
    Spells Action.ofLeave (leaveWaitlist i p) := by
  refine Prog.all_bind (spells_act rfl) fun entry => ?_
  cases entry with
  | none => trivial
  | some entry =>
      refine Prog.all_bind Prog.all_throwWhen fun _ => ?_
      exact Prog.all_bind (spells_act rfl) fun _ => trivial

end WaitlistService

theorem SeatService.spells_getSeatMap (f : FlightId) : Spells Action.ofSeatMap (getSeatMap f) := by
  refine Prog.all_bind (spells_act rfl) fun cached => ?_
  cases cached with
  | some map => trivial
  | none =>
      refine Prog.all_bind (spells_act rfl) fun flight => ?_
      cases flight with
      | none => trivial
      | some flight =>
          refine Prog.all_bind (spells_act rfl) fun seats => ?_
          exact Prog.all_bind (spells_act rfl) fun _ => trivial

/-- **A call performs the actions of its alphabet only.** -/
theorem Call.all_uses (cfg : Settings) (call : Call) : Spells call.uses (call.program cfg) := by
  cases call with
  | startCheckIn p dto => exact Prog.all_map _ (CheckInService.spells_startCheckIn p dto)
  | confirmCheckIn i p dto =>
      exact Prog.all_map _
        ((CheckInService.confirms_confirmCheckIn cfg i p dto).mono fun _ h => h.1)
  | cancelCheckIn i p => exact Prog.all_map _ (CheckInService.spells_cancelCheckIn i p)
  | handleHoldExpired s =>
      exact Prog.all_map _ (Prog.all_bind (HoldExpiryService.spells_releaseSeat s) fun _ => trivial)
  | releaseSeat s => exact Prog.all_map _ (HoldExpiryService.spells_releaseSeat s)
  | sweepExpiredHolds => exact Prog.all_map _ HoldExpiryService.spells_sweepExpiredHolds
  | processWaitlist f s => exact Prog.all_map _ (WaitlistService.spells_processWaitlist f s)
  | joinWaitlist p f => exact Prog.all_map _ (WaitlistService.spells_joinWaitlist p f)
  | leaveWaitlist i p => exact Prog.all_map _ (WaitlistService.spells_leaveWaitlist i p)
  | getSeatMap f => exact Prog.all_map _ (SeatService.spells_getSeatMap f)

end SkyHighCore
