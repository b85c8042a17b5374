import SkyHighCore.Construction.Notifications
import SkyHighCore.Properties.Grounds

/-!
# Notifications of assigned seats

A waitlisted passenger hears of a seat by one POST, which `NotificationService` makes for the event
that an assignment emits.  `Call.all_utters` says which call emits which events.  The record of a
call then justifies every notification by the assignment that the same call has committed before
(`announced_processWaitlist`), and two assignments of one flight to one passenger exclude each other
(`run_assigns_once`), so nobody is notified twice (`run_notifications`).
-/

namespace SkyHighCore

open Framework

/-! ## What the calls emit -/

/-- The events that a call emits. -/
def Call.Utters : Call → AppEvent → Prop
  | .cancelCheckIn .., .waitlistProcess _ seatId => seatId = none
  | .handleHoldExpired _, .waitlistProcess _ seatId | .releaseSeat _, .waitlistProcess _ seatId
  | .sweepExpiredHolds, .waitlistProcess _ seatId => seatId.isSome = true
  | .processWaitlist f _, .waitlistNotification _ flightId _ _ => flightId = f
  | _, _ => False

/-- If the action emits an event, it is one of these. -/
def Action.Utters (P : AppEvent → Prop) : Action → Prop
  | .emit event => P event
  | _ => True

/-- The action emits nothing. -/
def Action.mute : Action → Bool
  | .emit _ => false
  | _ => true

abbrev Mute {α : Type} (p : Program α) : Prop := p.All fun a => a.mute = true

section Programs

variable {α : Type} {P : AppEvent → Prop}

lemma Mute.utters {p : Program α} (hp : Mute p) : p.All (Action.Utters P) :=
  hp.mono fun a ha => by
    cases a with
    | emit => cases ha
    | _ => trivial

lemma mute_act {a : Action} (h : a.mute = true) : Mute (act a) := Prog.all_perform h

lemma utters_act {a : Action} (h : a.mute = true) : (act a).All (Action.Utters P) :=
  (mute_act h).utters

lemma utters_emit {event : AppEvent} (h : P event) :
    (SkyHighCore.emit event).All (Action.Utters P) :=
  Prog.all_perform (a := Action.emit event) h

lemma mute_processPayment (cfg : Settings) (request : PaymentRequestDto) :
    Mute (PaymentService.processPayment cfg request) := by
  have hattempts : ∀ remaining attempt lastError,
      Mute (PaymentService.attempts cfg request remaining attempt lastError) := by
    intro remaining
    induction remaining with
    | zero => exact fun _ _ => trivial
    | succ remaining ih =>
        intro attempt lastError
        refine Prog.all_bind ?_ fun _ => Prog.all_andThen (mute_act rfl) fun r => ?_
        · unfold PaymentService.backoff
          split
          · exact mute_act rfl
          · trivial
        · cases r with
          | ok response => trivial
          | error e => exact ih (attempt + 1) (some e)
  refine Prog.all_bind (mute_act rfl) fun _ => ?_
  refine Prog.all_bind (hattempts _ _ _) fun result => Prog.all_bind ?_ fun _ => trivial
  unfold PaymentService.logConfirmed
  split
  · exact mute_act rfl
  · trivial

namespace CheckInService

lemma mute_startCheckIn (p : PassengerId) (dto : StartCheckInRequestDto) :
    Mute (startCheckIn p dto) := by
  refine Prog.all_bind ?_ fun _ => Prog.all_bind ?_ fun _ => Prog.all_bind ?_ fun _ => ?_
  · refine Prog.all_bind (mute_act rfl) fun flight => ?_
    cases flight <;> trivial
  · refine Prog.all_bind (mute_act rfl) fun seat => ?_
    cases seat <;> trivial
  · refine Prog.all_bind (mute_act rfl) fun existing => ?_
    cases existing with
    | none => trivial
    | some c => exact Prog.all_throwWhen
  · refine Prog.all_tryCatch ?_ fun e => Prog.all_bind ?_ fun _ => trivial
    · refine Prog.all_bind (mute_act rfl) fun _ => Prog.all_tryFinally ?_ (mute_act rfl)
      refine Prog.all_bind (mute_act rfl) fun seat => Prog.all_bind Prog.all_throwWhen fun _ => ?_
      refine Prog.all_bind (mute_act rfl) fun heldAt => Prog.all_bind (mute_act rfl) fun c => ?_
      exact Prog.all_bind (mute_act rfl) fun _ => Prog.all_bind (mute_act rfl) fun _ => trivial
    · unfold countContention
      split
      · exact mute_act rfl
      · trivial

lemma mute_dropHold (c : CheckIn) : Mute (dropHold c) := by
  unfold dropHold
  split
  · trivial
  · exact Prog.all_bind (mute_act rfl) fun _ => mute_act rfl

lemma mute_findCheckInOrThrow (i : CheckInId) (p : PassengerId) :
    Mute (findCheckInOrThrow i p) := by
  refine Prog.all_bind (mute_act rfl) fun found => ?_
  cases found <;> trivial

lemma mute_findCheckInOrFail (i : CheckInId) : Mute (findCheckInOrFail i) := by
  refine Prog.all_bind (mute_act rfl) fun found => ?_
  cases found <;> trivial

lemma mute_completeCheckIn (c : CheckIn) (weight : ℚ) (paymentId : Option String) :
    Mute (completeCheckIn c weight paymentId) := by
  refine Prog.all_bind (mute_act rfl) fun _ => Prog.all_bind (mute_act rfl) fun _ => ?_
  refine Prog.all_bind (mute_dropHold c) fun _ => ?_
  exact Prog.all_bind (mute_findCheckInOrFail c.id) fun _ => trivial

lemma mute_confirmCheckIn (cfg : Settings) (i : CheckInId) (p : PassengerId)
    (dto : UpdateCheckInRequestDto) : Mute (confirmCheckIn cfg i p dto) := by
  refine Prog.all_bind (mute_findCheckInOrThrow i p) fun c => ?_
  refine Prog.all_bind (Prog.all_bind Prog.all_throwWhen fun _ => ?_) fun _ => ?_
  · unfold validateHoldKey
    split
    · trivial
    · exact Prog.all_bind (mute_act rfl) fun _ => Prog.all_throwWhen
  refine Prog.all_bind (Prog.all_bind ?_ fun _ => trivial) fun baggageResult => ?_
  · exact Prog.all_tryCatch (Prog.all_bind (mute_act rfl) fun _ => trivial) fun _ => trivial
  show Prog.All _ (if _ then _ else _)
  split
  · refine Prog.all_bind (mute_act rfl) fun _ => ?_
    refine Prog.all_bind (mute_processPayment cfg _) fun paymentResult => ?_
    show Prog.All _ (if _ then _ else _)
    split
    · exact mute_completeCheckIn _ _ _
    · exact Prog.all_bind (mute_findCheckInOrFail c.id) fun _ => trivial
  · exact mute_completeCheckIn c _ none

lemma utters_cancelCheckIn (i : CheckInId) (p : PassengerId)
    (hP : ∀ f, P (.waitlistProcess f none)) : (cancelCheckIn i p).All (Action.Utters P) := by
  refine Prog.all_bind (mute_findCheckInOrThrow i p).utters fun c => ?_
  refine Prog.all_bind (utters_act rfl) fun flight => Prog.all_bind Prog.all_throwWhen fun _ => ?_
  refine Prog.all_bind (utters_act rfl) fun _ => Prog.all_bind (utters_act rfl) fun _ => ?_
  refine Prog.all_bind (mute_dropHold c).utters fun _ => ?_
  exact Prog.all_bind (utters_emit (hP c.flightId)) fun _ => trivial

end CheckInService

lemma utters_releaseSeat (s : SeatId) (hP : ∀ f s, P (.waitlistProcess f (some s))) :
    (HoldExpiryService.releaseSeat s).All (Action.Utters P) := by
  refine Prog.all_andThen (utters_act rfl) fun r => ?_
  cases r with
  | error e => trivial
  | ok _ =>
      refine Prog.all_tryFinally (Prog.all_bind (utters_act rfl) fun found => ?_) (utters_act rfl)
      cases found with
      | none => trivial
      | some seat =>
          show Prog.All _ (if _ then _ else _)
          split
          · trivial
          refine Prog.all_bind (utters_act rfl) fun now => ?_
          show Prog.All _ (if _ then _ else _)
          split
          · trivial
          refine Prog.all_bind (utters_act rfl) fun updateResult => ?_
          show Prog.All _ (if _ then _ else _)
          split
          · refine Prog.all_bind ?_ fun _ => Prog.all_bind (utters_act rfl) fun _ => ?_
            · unfold HoldExpiryService.markWaitlistEntryExpired
              split
              · trivial
              · refine Prog.all_bind (utters_act rfl) fun entry => ?_
                cases entry with
                | none => trivial
                | some entry => exact utters_act rfl
            · exact Prog.all_bind (utters_emit (hP _ _)) fun _ => trivial
          · trivial

namespace WaitlistService

lemma utters_processWaitlist (f : FlightId) (s : Option SeatId)
    (hP : ∀ p s i, P (.waitlistNotification p f s i)) :
    (processWaitlist f s).All (Action.Utters P) := by
  refine Prog.all_andThen (utters_act rfl) fun r => ?_
  cases r with
  | error e => trivial
  | ok _ =>
      refine Prog.all_tryFinally (Prog.all_bind (utters_act rfl) fun next => ?_) (utters_act rfl)
      cases next with
      | none => trivial
      | some entry =>
          refine Prog.all_bind (utters_act rfl) fun found => ?_
          cases found with
          | none => trivial
          | some seat =>
              refine Prog.all_bind (utters_act rfl) fun heldAt => ?_
              refine Prog.all_bind (utters_act rfl) fun assigned => ?_
              show Prog.All _ (if _ then _ else _)
              split
              · refine Prog.all_bind (utters_act rfl) fun _ => ?_
                exact Prog.all_bind (utters_act rfl) fun _ => utters_emit (hP _ _ _)
              · trivial

lemma mute_joinWaitlist (p : PassengerId) (f : FlightId) : Mute (joinWaitlist p f) := by
  refine Prog.all_bind (mute_act rfl) fun flight => ?_
  cases flight with
  | none => trivial
  | some flight =>
      refine Prog.all_bind (mute_act rfl) fun _ => Prog.all_bind Prog.all_throwWhen fun _ => ?_
      refine Prog.all_bind (Prog.all_bind (mute_act rfl) fun _ => trivial) fun position => ?_
      exact Prog.all_bind (mute_act rfl) fun _ => Prog.all_bind (mute_act rfl) fun _ => trivial

lemma mute_leaveWaitlist (i : WaitlistId) (p : PassengerId) : Mute (leaveWaitlist i p) := by
  refine Prog.all_bind (mute_act rfl) fun entry => ?_
  cases entry with
  | none => trivial
  | some entry =>
      refine Prog.all_bind Prog.all_throwWhen fun _ => ?_
      exact Prog.all_bind (mute_act rfl) fun _ => trivial

end WaitlistService

lemma mute_getSeatMap (f : FlightId) : Mute (SeatService.getSeatMap f) := by
  refine Prog.all_bind (mute_act rfl) fun cached => ?_
  cases cached with
  | some map => trivial
  | none =>
      refine Prog.all_bind (mute_act rfl) fun flight => ?_
      cases flight with
      | none => trivial
      | some flight =>
          exact Prog.all_bind (mute_act rfl) fun _ => Prog.all_bind (mute_act rfl) fun _ => trivial

end Programs

/-- **A call emits the events of its kind only.** -/
theorem Call.all_utters (cfg : Settings) (call : Call) :
    (call.program cfg).All (Action.Utters call.Utters) := by
  cases call with
  | startCheckIn p dto => exact Prog.all_map _ (CheckInService.mute_startCheckIn p dto).utters
  | confirmCheckIn i p dto =>
      exact Prog.all_map _ (CheckInService.mute_confirmCheckIn cfg i p dto).utters
  | cancelCheckIn i p =>
      exact Prog.all_map _ (CheckInService.utters_cancelCheckIn i p fun _ => rfl)
  | handleHoldExpired s =>
      exact Prog.all_map _ (Prog.all_bind (utters_releaseSeat s fun _ _ => rfl) fun _ => trivial)
  | releaseSeat s => exact Prog.all_map _ (utters_releaseSeat s fun _ _ => rfl)
  | sweepExpiredHolds =>
      refine Prog.all_map _ (Prog.all_bind (utters_act rfl) fun _ => ?_)
      refine Prog.all_bind (utters_act rfl) fun staleSeats => Prog.all_forEach fun seat => ?_
      exact Prog.all_bind (utters_releaseSeat seat.id fun _ _ => rfl) fun _ => trivial
  | processWaitlist f s =>
      exact Prog.all_map _ (WaitlistService.utters_processWaitlist f s fun _ _ _ => rfl)
  | joinWaitlist p f => exact Prog.all_map _ (WaitlistService.mute_joinWaitlist p f).utters
  | leaveWaitlist i p => exact Prog.all_map _ (WaitlistService.mute_leaveWaitlist i p).utters
  | getSeatMap f => exact Prog.all_map _ (mute_getSeatMap f).utters

/-! ## The record of a notification -/

/-- The event for an assignment. -/
def noticeOf (entry : Waitlist) (seat : Seat) (f : FlightId) : AppEvent :=
  .waitlistNotification entry.passengerId f seat.id entry.id

/-- The event notifies a passenger. -/
def AppEvent.notifies : AppEvent → Bool
  | .waitlistNotification .. => true
  | .waitlistProcess .. => false

/-- The event of a record is a notification. -/
def isNotice (event : Event Action Action.Res AppException) : Bool :=
  match event.1 with
  | .emit event => event.notifies
  | _ => false

/-- The call has committed the assignment. -/
def HasAssigned (entry : Waitlist) (seat : Seat) (f : FlightId) (tr : SkyRecord) : Prop :=
  ∃ t : Time, ⟨.assign entry seat f t, .ok true⟩ ∈ tr

/-- A notification is of an assignment that the call has committed, and its first one. -/
def Announces (tr : SkyRecord) : Action → Prop
  | .emit event => event.notifies = true →
      (∃ entry seat f, HasAssigned entry seat f tr ∧ event = noticeOf entry seat f) ∧
      ∀ e ∈ tr, isNotice e = false
  | _ => True

/-- The action has assigned a seat. -/
def assigns (event : Event Action Action.Res AppException) : Bool :=
  match event with
  | ⟨.assign .., .ok true⟩ => true
  | _ => false

/-- The call has neither assigned a seat nor notified anybody. -/
def Unannounced (tr : SkyRecord) : Prop :=
  ∀ event ∈ tr, isNotice event = false ∧ assigns event = false

/-- What the call has assigned it has announced. -/
def Announced (tr : SkyRecord) : Prop :=
  ∀ entry seat f, HasAssigned entry seat f tr → ∃ r, ⟨.emit (noticeOf entry seat f), r⟩ ∈ tr

section Records

variable {tr tr' : SkyRecord} {a : Action} {r : Except AppException a.Res}

lemma announces_of_mute (h : a.mute = true) : Announces tr a := by
  cases a with
  | emit => cases h
  | _ => trivial

lemma isNotice_of_mute (h : a.mute = true) : isNotice ⟨a, r⟩ = false := by
  cases a with
  | emit => cases h
  | _ => rfl

lemma Unannounced.snoc (h : Unannounced tr) (ha : a.mute = true) (hr : assigns ⟨a, r⟩ = false) :
    Unannounced (tr ++ [⟨a, r⟩]) := by
  intro event hevent
  rcases List.mem_append.mp hevent with hevent | hevent
  · exact h event hevent
  · rw [List.mem_singleton.mp hevent]
    exact ⟨isNotice_of_mute ha, hr⟩

lemma Unannounced.not_assigned (h : Unannounced tr) {entry : Waitlist} {seat : Seat}
    {f : FlightId} : ¬ HasAssigned entry seat f tr := by
  rintro ⟨t, hmem⟩
  cases (h _ hmem).2

lemma Unannounced.announced (h : Unannounced tr) : Announced tr :=
  fun _ _ _ hassigned => absurd hassigned h.not_assigned

lemma Announced.snoc (h : Announced tr) (hr : assigns ⟨a, r⟩ = false) :
    Announced (tr ++ [⟨a, r⟩]) := by
  rintro entry seat f ⟨t, hmem⟩
  rcases List.mem_append.mp hmem with hmem | hmem
  · obtain ⟨r', hemitted⟩ := h entry seat f ⟨t, hmem⟩
    exact ⟨r', List.mem_append_left _ hemitted⟩
  · rw [← List.mem_singleton.mp hmem] at hr
    cases hr

/-- A call on the way from its assignment to the notification. -/
structure Assigning (entry : Waitlist) (seat : Seat) (f : FlightId) (tr : SkyRecord) : Prop where
  assigned : HasAssigned entry seat f tr
  only : ∀ entry' seat' f', HasAssigned entry' seat' f' tr →
    noticeOf entry' seat' f' = noticeOf entry seat f
  silent : ∀ event ∈ tr, isNotice event = false

variable {entry : Waitlist} {seat : Seat} {f : FlightId} {t : Time}

lemma Unannounced.assigning (h : Unannounced tr) :
    Assigning entry seat f (tr ++ [⟨.assign entry seat f t, .ok true⟩]) where
  assigned := ⟨t, List.mem_append_right _ List.mem_cons_self⟩
  only := by
    rintro entry' seat' f' ⟨t', hmem⟩
    rcases List.mem_append.mp hmem with hmem | hmem
    · exact absurd ⟨t', hmem⟩ h.not_assigned
    · cases List.mem_singleton.mp hmem
      rfl
  silent event hevent := by
    rcases List.mem_append.mp hevent with hevent | hevent
    · exact (h event hevent).1
    · rw [List.mem_singleton.mp hevent]
      rfl

lemma Assigning.snoc (h : Assigning entry seat f tr) (ha : a.mute = true)
    (hr : assigns ⟨a, r⟩ = false) : Assigning entry seat f (tr ++ [⟨a, r⟩]) where
  assigned := h.assigned.imp fun _ => List.mem_append_left _
  only := by
    rintro entry' seat' f' ⟨t', hmem⟩
    rcases List.mem_append.mp hmem with hmem | hmem
    · exact h.only entry' seat' f' ⟨t', hmem⟩
    · rw [← List.mem_singleton.mp hmem] at hr
      cases hr
  silent event hevent := by
    rcases List.mem_append.mp hevent with hevent | hevent
    · exact h.silent event hevent
    · rw [List.mem_singleton.mp hevent]
      exact isNotice_of_mute ha

lemma Assigning.announced (h : Assigning entry seat f tr)
    {r : Except AppException (Action.emit (noticeOf entry seat f)).Res} :
    Announced (tr ++ [⟨.emit (noticeOf entry seat f), r⟩]) := by
  rintro entry' seat' f' ⟨t', hmem⟩
  rcases List.mem_append.mp hmem with hmem | hmem
  · rw [h.only entry' seat' f' ⟨t', hmem⟩]
    exact ⟨r, List.mem_append_right _ List.mem_cons_self⟩
  · cases List.mem_singleton.mp hmem

/-- Every notification is justified, and what is returned keeps `Q`. -/
abbrev Notices {α : Type} (p : Program α) (Q : α → SkyRecord → Prop) (tr : SkyRecord) : Prop :=
  p.Records (fun _ _ => True) Announces (fun _ _ => True) Q tr

lemma notices_bind {α : Type} {k : a.Res → Program α} {Q : α → SkyRecord → Prop}
    (ha : a.mute = true) (hk : ∀ v, Notices (k v) Q (tr ++ [⟨a, .ok v⟩])) :
    Notices (act a >>= k) Q tr :=
  .perform_bind (announces_of_mute ha) (fun _ _ => trivial) fun v _ => hk v

end Records

namespace WaitlistService

/-- What `processWaitlist` has assigned when it returns, it has announced. -/
lemma announced_processWaitlist (f : FlightId) (s : Option SeatId) :
    Notices (processWaitlist f s) (fun _ tr => Announced tr) [] := by
  refine .andThen (Q := fun _ tr => Unannounced tr) (E := fun _ tr => Unannounced tr) ?_
    (fun _ tr htr => ?_) fun _ _ htr => .pure htr.announced
  · have hnil : Unannounced [] := fun _ h => absurd h List.not_mem_nil
    exact .perform (announces_of_mute rfl) (fun _ _ => hnil.snoc rfl rfl)
      fun _ _ => hnil.snoc rfl rfl
  refine .tryFinally (Q := fun _ tr => Announced tr) (E := fun _ _ => True) ?_
    (fun _ tr htr => .perform (announces_of_mute rfl) (fun _ _ => trivial) fun _ _ => htr.snoc rfl)
    fun _ tr _ => .perform (announces_of_mute rfl) (fun _ _ => trivial) fun _ _ => trivial
  refine notices_bind rfl fun next => ?_
  have htr₁ := htr.snoc (a := .findOneWaitlist _) (r := .ok next) rfl rfl
  cases next with
  | none => exact .pure htr₁.announced
  | some entry =>
      refine notices_bind (a := .findOneSeat (availableSeatWhere f s)) rfl fun found => ?_
      have htr₂ := htr₁.snoc (a := .findOneSeat _) (r := .ok found) rfl rfl
      cases found with
      | none => exact .pure htr₂.announced
      | some seat =>
          refine notices_bind rfl fun heldAt => ?_
          have htr₃ := htr₂.snoc (a := .dateNow) (r := .ok heldAt) rfl rfl
          refine notices_bind (a := .assign entry seat f heldAt) rfl fun assigned => ?_
          cases assigned with
          | false =>
              exact .pure (htr₃.snoc (a := .assign entry seat f heldAt) (r := .ok false) rfl
                rfl).announced
          | true =>
              have htr₄ : Assigning entry seat f _ := htr₃.assigning (t := heldAt)
              refine notices_bind (a := .setSeatHold seat.id entry.passengerId seatHoldTtl) rfl
                fun _ => ?_
              have htr₅ := htr₄.snoc (a := .setSeatHold seat.id entry.passengerId seatHoldTtl)
                (r := .ok ()) rfl rfl
              refine notices_bind (a := .delSeatMapCache f) rfl fun _ => ?_
              have htr₆ := htr₅.snoc (a := .delSeatMapCache f) (r := .ok ()) rfl rfl
              exact .perform (fun _ => ⟨⟨entry, seat, f, htr₆.assigned, rfl⟩, htr₆.silent⟩)
                (fun _ _ => trivial) fun _ _ => htr₆.announced

end WaitlistService

/-- **Every notification of a call is justified**, and a handler that has returned owes none. -/
theorem announced_program (cfg : Settings) (call : Call) :
    Notices (call.program cfg)
      (fun _ tr => ∀ f s, call = .processWaitlist f s → Announced tr) [] := by
  cases call with
  | processWaitlist f s =>
      exact .map ((WaitlistService.announced_processWaitlist f s).mono (fun _ _ h _ _ _ => h)
        fun _ _ h => h)
  | _ =>
      refine (Prog.Records.of_all (F := fun _ => True) (fun a tr ha _ => ?_)
        (fun _ _ _ _ _ _ => trivial) (Call.all_utters cfg _) trivial).mono
        (fun _ _ _ _ _ h => by cases h) fun _ _ h => h
      cases a with
      | emit event =>
          cases event with
          | waitlistProcess => exact fun h => by cases h
          | waitlistNotification => exact (show False from ha).elim
      | _ => trivial

/-! ## Runs -/

section Runs

open System

variable {cfg : Settings} {w : World} {ts us : List SkyTransition} {c : SkyConfig} {k : ℕ}
  {call : Call} {p : PassengerId} {f : FlightId}

/-- The transition commits an assignment of a seat of `f` to `p`. -/
def AssignsTo (p : PassengerId) (f : FlightId) (x : SkyTransition) : Prop :=
  ∃ entry seat t, committed? x = some (.assign entry seat f t) ∧ entry.passengerId = p

/-- The passenger has had a check-in of the flight. -/
def Bookings.Admits (b : Bookings) (p : PassengerId) (f : FlightId) : Prop :=
  ∃ i d, b.checkIn i = some d ∧ d.passengerId = p ∧ d.flightId = f

lemma Bookings.Admits.evolves {b b' : Bookings} (h : b.Evolves b') (hp : b.Admits p f) :
    b'.Admits p f := by
  obtain ⟨i, d, hd, hdp, hdf⟩ := hp
  obtain ⟨d', hd', hsame⟩ := h.checkIn i d hd
  exact ⟨i, d', hd', hsame.1.trans hdp, hsame.2.1.trans hdf⟩

lemma run_assigns {x : SkyTransition} (hw : w.Seeded) (h : (skyHigh cfg).Run (.init w) ts c)
    (hx : x ∈ ts) (hassigns : AssignsTo p f x) :
    ¬ x.pre.state.db.bookings.Admits p f ∧ x.post.state.db.bookings.Admits p f := by
  obtain ⟨entry, seat, t, hcommitted, rfl⟩ := hassigns
  cases (run_justified hw h x hx).effect with
  | quiet hnone _ => cases hnone.symm.trans hcommitted
  | commit hsome _ hwrite _ =>
      obtain rfl := Option.some_inj.mp (hsome.symm.trans hcommitted)
      generalize hpost : x.post.state.db.bookings = b at hwrite
      cases hwrite with
      | @assign _ _ _ row _ d hacq hp hf =>
          refine ⟨fun ⟨i, e, he, hep, hef⟩ => ?_, ⟨d.id, d, ?_, hp, hf⟩⟩
          · exact hacq.unique i e he ⟨hep.trans hp.symm, hef.trans hf.symm⟩
          · exact Function.update_self ..

/-- **No flight is assigned twice to a passenger.** -/
lemma run_assigns_once {x y : SkyTransition} (hw : w.Seeded)
    (h : (skyHigh cfg).Run (.init w) ts c) (hx : x ∈ ts) (hy : y ∈ ts)
    (hassigns : AssignsTo p f x) (hassigns' : AssignsTo p f y) : x = y := by
  -- one of them would find the check-in of the other
  have hbefore : ∀ {us vs} {x y : SkyTransition}, (skyHigh cfg).Run (.init w) (us ++ x :: vs) c →
      AssignsTo p f x → AssignsTo p f y → y ∉ vs := by
    intro us vs x y h hx hy hmem
    obtain ⟨hpre, hstep, hpost⟩ := h.at_transition
    obtain ⟨vs₁, vs₂, rfl, hbetween, -, -⟩ := hpost.mem_split hmem
    have hadmits := (run_assigns hw h (by simp) hx).2
    have hrun := (hpre.append (Run.single hstep))
    have hkept := hadmits.evolves (run_progress hw hrun hbetween).bookings
    exact (run_assigns hw h (by simp) hy).1 hkept
  obtain ⟨us, vs, rfl⟩ := List.append_of_mem hx
  rcases List.mem_append.mp hy with hy | hy
  · obtain ⟨us₁, us₂, rfl⟩ := List.append_of_mem hy
    rw [List.append_assoc, List.cons_append] at h
    exact absurd (by simp) (hbefore h hassigns' hassigns)
  · rcases List.mem_cons.mp hy with rfl | hy
    · rfl
    · exact absurd hy (hbefore h hassigns hassigns')

/-- A call that has an assignment in its record has committed it in the run. -/
lemma exists_assigns {entry : Waitlist} {seat : Seat}
    (h : HasAssigned entry seat f ((skyHigh cfg).trace k ts)) :
    ∃ y ∈ ts, (∃ ch, y.label = .act k ch) ∧
      ∃ t, committed? y = some (.assign entry seat f t) := by
  obtain ⟨t, hmem⟩ := h
  obtain ⟨y, hy, ch, call, a, cont, hl, hth, heq⟩ := mem_trace_iff.mp hmem
  obtain ⟨rfl, hout⟩ := Sigma.mk.inj_iff.mp heq
  have hout : (World.exec (.assign entry seat f t) ch y.pre.state).1 = .ok true :=
    (eq_of_heq hout).symm
  refine ⟨y, hy, ⟨ch, hl⟩, t, ?_⟩
  simp only [committed?, hl, hth, hout]
  rfl

/-! ### The emitted events -/

/-- The event that the transition emits. -/
def emitted? (x : SkyTransition) : Option AppEvent :=
  match x.label with
  | .act k _ =>
      match x.pre.threads[k]? with
      | some ⟨_, .act (.emit event) _⟩ => some event
      | _ => none
  | _ => none

lemma emitted?_eq_some {x : SkyTransition} {event : AppEvent} (h : emitted? x = some event) :
    ∃ k ch call cont, x.label = .act k ch ∧
      x.pre.threads[k]? = some ⟨call, .act (.emit event) cont⟩ := by
  unfold emitted? at h
  split at h
  · rename_i k ch hl
    split at h
    · rename_i call event' cont hth
      obtain rfl := Option.some_inj.mp h
      exact ⟨k, ch, call, cont, hl, hth⟩
    · cases h
  · cases h

namespace World

variable {α : Type} (w : World) (ch : Choice)

lemma transaction_events (body : Tx α) : (w.transaction ch body).2.events = w.events := by
  unfold transaction
  repeat' split
  all_goals rfl

lemma redis_events (x : α) {w' : World} (h : w'.events = w.events) :
    (w.redis ch x w').2.events = w.events := by
  unfold redis
  split
  · rfl
  · exact h

/-- Only `emit` adds an event. -/
lemma exec_events {a : Action} (ha : a.mute = true) : (exec a ch w).2.events = w.events := by
  cases a with
  | emit => cases ha
  | holdSeat | awaitPayment | complete | cancel | release | assign | saveWaitlist
  | insertWaitlist => exact transaction_events w ch _
  | setSeatHold | existsSeatHold | delSeatHold | getSeatMapCache | setSeatMapCache
  | delSeatMapCache => exact redis_events w ch _ rfl
  | auditLog | acquireLock | releaseLock | getWeight =>
      simp only [exec]
      split <;> rfl
  | findOneFlight | findOneSeat | findOneCheckIn | findOneWaitlist | findStaleSeats
  | findFlightSeats | maxPosition => exact congrArg World.events (query_snd w ch _)
  | postPayment | dateNow | delay | incSeatContention => rfl

end World

lemma run_events (h : (skyHigh cfg).Run (.init w) ts c) :
    c.state.events = w.events ++ ts.filterMap emitted? := by
  induction h with
  | nil => simp [Config.init]
  | @snoc ts c l c' _ hstep ih =>
      rw [List.filterMap_append, ← List.append_assoc, ← ih]
      rcases (skyHigh cfg).step_cases hstep with ⟨call, rfl, rfl⟩ | ⟨ms, rfl, rfl⟩ |
        ⟨i, ch, call, a, cont, rfl, hi, rfl⟩
      · exact (List.append_nil _).symm
      · exact (List.append_nil _).symm
      · by_cases ha : a.mute = true
        · have hnone : emitted? ⟨c, .act i ch, ⟨((skyHigh cfg).exec a ch c.state).2,
              c.threads.set i ⟨call, cont ((skyHigh cfg).exec a ch c.state).1⟩⟩⟩ = none := by
            simp only [emitted?, hi]
            cases a with
            | emit => cases ha
            | _ => rfl
          rw [List.filterMap_cons, hnone, List.filterMap_nil]
          exact (World.exec_events c.state ch ha).trans (List.append_nil _).symm
        · cases a with
          | emit event => simp [emitted?, hi]; rfl
          | _ => exact absurd rfl ha

/-! ### The requests -/

/-- The request that the event leads to. -/
def AppEvent.request? : AppEvent → Option NotificationRequest
  | .waitlistNotification p f s i => some (NotificationService.assignmentRequest p f s i)
  | .waitlistProcess .. => none

/-- Whom a request addresses, and for which flight. -/
def NotificationRequest.addressee (r : NotificationRequest) : PassengerId × FlightId :=
  (r.passengerId, r.flightId)

/-- What is left of a call notifies for what its record shows as assigned. -/
lemma announced_left {q : Program Reply} (h : (skyHigh cfg).Run (.init w) ts c)
    (hk : c.threads[k]? = some ⟨call, q⟩) :
    Notices q (fun _ tr => ∀ f s, call = .processWaitlist f s → Announced tr)
      ((skyHigh cfg).trace k ts) := by
  have hstart : ∀ call, ((skyHigh cfg).start call).Records (fun _ _ => True)
      ((fun _ => Announces) call) ((fun _ _ _ => True) call)
      ((fun call _ tr => ∀ f s, call = Call.processWaitlist f s → Announced tr) call) [] :=
    announced_program cfg
  exact h.records (fun _ _ _ => trivial) hstart hk

/-- A call that is about to notify somebody has committed the assignment, and has not notified
anybody before. -/
lemma next_announces {event : AppEvent} {cont : Except AppException Unit → Program Reply}
    (h : (skyHigh cfg).Run (.init w) ts c)
    (hk : c.threads[k]? = some ⟨call, .act (.emit event) cont⟩)
    (hnotifies : event.notifies = true) :
    (∃ entry seat f, HasAssigned entry seat f ((skyHigh cfg).trace k ts) ∧
      event = noticeOf entry seat f) ∧ ∀ e ∈ (skyHigh cfg).trace k ts, isNotice e = false :=
  (announced_left h hk _ rfl trivial (.ok ()) _ ⟨trivial, rfl⟩).1 hnotifies

/-- A notification in a run comes after the assignment, in the same call. -/
lemma run_announces {x : SkyTransition} {event : AppEvent} (h : (skyHigh cfg).Run (.init w) ts c)
    (hx : x ∈ ts) (hemitted : emitted? x = some event) (hnotifies : event.notifies = true) :
    ∃ k ch entry seat f t y, event = noticeOf entry seat f ∧ y ∈ ts ∧ y.label = .act k ch ∧
      committed? y = some (.assign entry seat f t) ∧
      ∃ e ∈ (skyHigh cfg).trace k ts, isNotice e = true := by
  obtain ⟨us, vs, rfl, hpre, -, -⟩ := h.mem_split hx
  obtain ⟨k, ch, call, cont, hl, hth⟩ := emitted?_eq_some hemitted
  obtain ⟨⟨entry, seat, f, hassigned, rfl⟩, -⟩ := next_announces hpre hth hnotifies
  obtain ⟨y, hy, ⟨ch', hlabel⟩, t, hcommitted⟩ := exists_assigns hassigned
  exact ⟨k, ch', entry, seat, f, t, y, rfl, List.mem_append_left _ hy, hlabel, hcommitted, _,
    mem_trace_iff.mpr ⟨x, hx, ch, call, _, cont, hl, hth, rfl⟩, rfl⟩

lemma AppEvent.notifies_of_request {event : AppEvent} {r : NotificationRequest}
    (h : event.request? = some r) : event.notifies = true := by
  cases event with
  | waitlistProcess => cases h
  | waitlistNotification => rfl

lemma request?_noticeOf {entry : Waitlist} {seat : Seat} {r : NotificationRequest}
    (h : (noticeOf entry seat f).request? = some r) :
    r = NotificationService.assignmentRequest entry.passengerId f seat.id entry.id :=
  (Option.some_inj.mp h).symm

/-- **Nobody is notified twice for a flight.** -/
lemma run_addressees (hw : w.Seeded) (h : (skyHigh cfg).Run (.init w) ts c) :
    (((ts.filterMap emitted?).filterMap AppEvent.request?).map
      NotificationRequest.addressee).Nodup := by
  induction h with
  | nil => exact List.nodup_nil
  | @snoc ts c l c' hrun hstep ih =>
      cases hemitted : emitted? ⟨c, l, c'⟩ with
      | none => simpa [hemitted] using ih
      | some event =>
          cases hrequest : event.request? with
          | none => simpa [hemitted, hrequest] using ih
          | some r =>
              simp only [List.filterMap_append, List.filterMap_cons, hemitted, hrequest,
                List.filterMap_nil, List.map_append, List.map_cons, List.map_nil]
              refine List.nodup_append.mpr ⟨ih, List.nodup_singleton _, ?_⟩
              rintro address hold _ hnew rfl
              obtain ⟨r', hr', haddress⟩ := List.mem_map.mp hold
              obtain ⟨event', hevent', hrequest'⟩ := List.mem_filterMap.mp hr'
              obtain ⟨x, hx, hemitted'⟩ := List.mem_filterMap.mp hevent'
              -- the call of the older notification, and the call that notifies now
              obtain ⟨k, ch, entry, seat, f, t, y, rfl, hy, hyl, hcommitted, e, he, hnotice⟩ :=
                run_announces hrun hx hemitted' (AppEvent.notifies_of_request hrequest')
              obtain ⟨k', ch', call, cont, hl, hth⟩ := emitted?_eq_some hemitted
              obtain ⟨⟨entry', seat', f', hassigned', rfl⟩, hsilent⟩ :=
                next_announces hrun hth (AppEvent.notifies_of_request hrequest)
              obtain ⟨y', hy', ⟨ch₁, hyl'⟩, t', hcommitted'⟩ := exists_assigns hassigned'
              rw [request?_noticeOf hrequest, List.mem_singleton] at hnew
              rw [request?_noticeOf hrequest'] at haddress
              obtain ⟨hp, hf⟩ := Prod.mk.inj (haddress.trans hnew)
              have hp : entry.passengerId = entry'.passengerId := hp
              have hf : f = f' := hf
              obtain rfl := run_assigns_once hw hrun hy hy' ⟨entry, seat, t, hcommitted, rfl⟩
                ⟨entry', seat', t', hf ▸ hcommitted', hp.symm⟩
              obtain ⟨rfl, -⟩ := Label.act.inj (hyl.symm.trans hyl')
              exact Bool.false_ne_true ((hsilent e he).symm.trans hnotice)

/-- What a notification says is in the tables: the passenger has had a check-in for this seat, and
the entry is the passenger's and does not wait any more. -/
structure NotificationRequest.Truthful (r : NotificationRequest) (db : Database) : Prop where
  checkIn : ∃ i d, db.checkIns.get? i = some d ∧ d.passengerId = r.passengerId ∧
    d.flightId = r.flightId ∧ d.seatId = some r.seatId
  entry : ∃ e, db.waitlist.get? r.waitlistEntryId = some e ∧ e.passengerId = r.passengerId ∧
    e.flightId = r.flightId ∧ e.status ≠ .waiting

lemma Requeues.left {q q' : Queue} {a : Action} (h : Requeues q a q') (hwarrant : a.Warrant w)
    {i : WaitlistId} {e e' : Waitlist} (he : q i = some e) (he' : q' i = some e')
    (hleft : e.status ≠ .waiting) : e'.status ≠ .waiting := by
  have hkept : ∀ {j : WaitlistId} {row : Waitlist}, Function.update q j (some row) i = some e' →
      (i = j → row.status ≠ .waiting) → e'.status ≠ .waiting := by
    intro j row hrow hstatus
    rcases Bookings.update_eq_some_iff.mp hrow with ⟨hij, rfl⟩ | ⟨-, hsame⟩
    · exact hstatus hij
    · rwa [← Option.some_inj.mp (he.symm.trans hsame)]
  cases h with
  | assign _ _ => exact hkept he' fun _ => by simp
  | save _ _ =>
      refine hkept he' fun _ => ?_
      rcases hwarrant.2 with hst | hst <;> simp [hst]
  | insert hfresh _ _ _ _ _ =>
      refine hkept he' fun hi => ?_
      rw [hi, hfresh] at he
      cases he

/-- An entry that does not wait any more never does. -/
lemma run_entry_left (hw : w.Seeded) (h : (skyHigh cfg).Run (.init w) ts c) {c' : SkyConfig}
    (hrun : (skyHigh cfg).Run c us c') {i : WaitlistId} {e : Waitlist}
    (he : c.state.db.queue i = some e) (hleft : e.status ≠ .waiting) :
    ∃ e', c'.state.db.queue i = some e' ∧ e.SameEntry e' ∧ e'.status ≠ .waiting := by
  induction hrun with
  | nil => exact ⟨e, he, .rfl, hleft⟩
  | snoc hrun hstep ih =>
      obtain ⟨e', he', hsame, hleft'⟩ := ih
      cases step_requeues hw (h.append hrun) hstep with
      | same _ heq => exact ⟨e', (congrFun (congrArg Table.get? heq) i).trans he', hsame, hleft'⟩
      | write _ hwarrant hwrite =>
          obtain ⟨e'', he'', hsame'⟩ := hwrite.evolves i e' he'
          exact ⟨e'', he'', hsame.trans hsame', hwrite.left hwarrant he' he'' hleft'⟩

lemma run_truthful {entry : Waitlist} {seat : Seat} {t : Time} {y : SkyTransition}
    (hw : w.Seeded) (h : (skyHigh cfg).Run (.init w) ts c) (hy : y ∈ ts)
    (hcommitted : committed? y = some (.assign entry seat f t)) :
    (NotificationService.assignmentRequest entry.passengerId f seat.id entry.id).Truthful
      c.state.db := by
  obtain ⟨us, vs, rfl, hpre, hstep, hpost⟩ := h.mem_split hy
  have hrun := hpre.append (Run.single hstep)
  have hprogress := (run_progress hw hrun hpost).bookings
  constructor
  · cases (run_justified hw h y hy).effect with
    | quiet hnone _ => cases hnone.symm.trans hcommitted
    | commit hsome _ hwrite _ =>
        obtain rfl := Option.some_inj.mp (hsome.symm.trans hcommitted)
        generalize hb : y.post.state.db.bookings = b at hwrite
        cases hwrite with
        | @assign _ _ _ row _ d hacq hp hf =>
            have hd : y.post.state.db.bookings.checkIn d.id = some d := by
              rw [hb]
              exact Function.update_self ..
            obtain ⟨d', hd', hsame⟩ := hprogress.checkIn d.id d hd
            exact ⟨d.id, d', hd', hsame.1.trans hp, hsame.2.1.trans hf,
              hsame.2.2.trans hacq.seatId⟩
  · cases run_requeues hw h y hy with
    | same hnone _ => cases hnone.symm.trans (requeued?_assign_iff.mpr hcommitted)
    | write hsome hwarrant hwrite =>
        obtain rfl := Option.some_inj.mp (hsome.symm.trans (requeued?_assign_iff.mpr hcommitted))
        generalize hq : y.post.state.db.queue = q at hwrite
        cases hwrite with
        | @assign _ _ _ _ e he hsame =>
            have he' : y.post.state.db.queue entry.id = some { e with status := .assigned } := by
              rw [hq]
              exact Function.update_self ..
            obtain ⟨e', he'', hsame', hleft⟩ := run_entry_left hw hrun hpost he' (by simp)
            exact ⟨e', he'', hsame'.2.1.trans hsame.2.1,
              (hsame'.1.trans hsame.1).trans hwarrant.2.2, hleft⟩

end Runs

/-! ## The listener -/

namespace NotificationService

/-- **Fire and forget.**  Whatever becomes of the request, the listener makes it once and does not
throw. -/
lemma yields_handleWaitlistAssignment {p : PassengerId} {f : FlightId} {s : SeatId}
    {i : WaitlistId} {tr : List (Event NotificationAction NotificationAction.Res AppException)}
    {r : Except AppException Unit} :
    (handleWaitlistAssignment p f s i).Yields tr r ↔
      (∃ o, tr = [⟨.post (assignmentRequest p f s i), o⟩]) ∧ r = .ok () := by
  constructor
  · rintro ⟨o, tr', rfl, hrest⟩
    cases o with
    | ok response =>
        obtain ⟨rfl, rfl⟩ := hrest
        exact ⟨⟨_, rfl⟩, rfl⟩
    | error e =>
        obtain ⟨rfl, rfl⟩ := hrest
        exact ⟨⟨_, rfl⟩, rfl⟩
  · rintro ⟨⟨o, rfl⟩, rfl⟩
    cases o with
    | ok response => exact ⟨.ok response, [], rfl, rfl, rfl⟩
    | error e => exact ⟨.error e, [], rfl, rfl, rfl⟩

/-- An event that has been heard has led to its request. -/
lemma requests_of_heard {event : AppEvent}
    {tr : List (Event NotificationAction NotificationAction.Res AppException)}
    (h : Heard event tr) : tr.map (fun e => e.1.request) = event.request?.toList := by
  cases event with
  | waitlistProcess f s =>
      obtain rfl : tr = [] := h
      rfl
  | waitlistNotification p f s i =>
      obtain ⟨r, hyields⟩ := h
      obtain ⟨⟨o, rfl⟩, -⟩ := yields_handleWaitlistAssignment.mp hyields
      rfl

/-- What is sent is one request for each notification, in the order of the events. -/
lemma Delivered.eq_filterMap {events : List AppEvent} {sent : List NotificationRequest}
    (h : Delivered events sent) : sent = events.filterMap AppEvent.request? := by
  obtain ⟨traces, hheard, rfl⟩ := h
  induction hheard with
  | nil => rfl
  | @cons event tr events traces hfirst _ ih =>
      rw [List.flatten_cons, List.map_append, ih, requests_of_heard hfirst]
      cases hrequest : event.request? with
      | none => simp [hrequest]
      | some r => simp [hrequest]

/-- The requests can be made, also when none of them is answered. -/
lemma delivered_filterMap (events : List AppEvent) :
    Delivered events (events.filterMap AppEvent.request?) := by
  induction events with
  | nil => exact ⟨[], .nil, rfl⟩
  | cons event events ih =>
      obtain ⟨traces, hheard, hsent⟩ := ih
      cases event with
      | waitlistProcess f s => exact ⟨[] :: traces, .cons rfl hheard, hsent⟩
      | waitlistNotification p f s i =>
          let tr : List (Event NotificationAction NotificationAction.Res AppException) :=
            [⟨.post (assignmentRequest p f s i), .error (.httpFailed "Timeout has occurred")⟩]
          have hfirst : Heard (.waitlistNotification p f s i) tr :=
            ⟨.ok (), yields_handleWaitlistAssignment.mpr ⟨⟨_, rfl⟩, rfl⟩⟩
          refine ⟨tr :: traces, .cons hfirst hheard, ?_⟩
          rw [List.flatten_cons, List.map_append, ← hsent]
          rfl

end NotificationService

/-- **Waitlisted passengers are notified truthfully, and at most once for a flight.**  In every
run, whatever the interleaving, let every emitted event be heard by its listener, whatever becomes
of the request that the listener makes.  No passenger is sent two notifications about a flight; a
notification names a check-in for this very seat and an entry of this passenger that does not wait
any more; and an assignment that a handler has committed before it returned has been notified. -/
theorem run_notifications {cfg : Settings} {w : World} {ts : List SkyTransition} {c : SkyConfig}
    (hw : w.Seeded) (h : (skyHigh cfg).Run (.init w) ts c) {sent : List NotificationRequest}
    (hsent : NotificationService.Delivered c.state.events sent) :
    (sent.map NotificationRequest.addressee).Nodup ∧
    (∀ r ∈ sent, r.Truthful c.state.db) ∧
    ∀ k f s reply, c.threads[k]? = some ⟨.processWaitlist f s, .done (.ok reply)⟩ →
      ∀ entry seat f' t, ⟨.assign entry seat f' t, .ok true⟩ ∈ (skyHigh cfg).trace k ts →
        NotificationService.assignmentRequest entry.passengerId f' seat.id entry.id ∈ sent := by
  have hevents : c.state.events = ts.filterMap emitted? := by
    rw [run_events h, hw.events, List.nil_append]
  obtain rfl := hsent.eq_filterMap
  rw [hevents]
  refine ⟨run_addressees hw h, fun r hr => ?_, fun k f s reply hk entry seat f' t hmem => ?_⟩
  · obtain ⟨event, hevent, hrequest⟩ := List.mem_filterMap.mp hr
    obtain ⟨x, hx, hemitted⟩ := List.mem_filterMap.mp hevent
    obtain ⟨k, ch, entry, seat, f, t, y, rfl, hy, -, hcommitted, -⟩ :=
      run_announces h hx hemitted (AppEvent.notifies_of_request hrequest)
    rw [request?_noticeOf hrequest]
    exact run_truthful hw h hy hcommitted
  · have hannounced : Announced ((skyHigh cfg).trace k ts) :=
      announced_left h hk f s rfl
    obtain ⟨r, hemit⟩ := hannounced entry seat f' ⟨t, hmem⟩
    obtain ⟨x, hx, ch, call, a, cont, hl, hth, heq⟩ := System.mem_trace_iff.mp hemit
    obtain ⟨rfl, -⟩ := Sigma.mk.inj_iff.mp heq
    have hemitted : emitted? x = some (noticeOf entry seat f') := by simp [emitted?, hl, hth]
    exact List.mem_filterMap.mpr ⟨_, List.mem_filterMap.mpr ⟨x, hx, hemitted⟩, rfl⟩

/-- Passenger 1 joins the waitlist, and two handlers serve the queue in turns. -/
def joinThenServe : List SkyLabel :=
  [.invoke (.joinWaitlist 1 10)] ++ proceed 0 5 ++
  [.invoke (.processWaitlist 10 none), .invoke (.processWaitlist 10 (some 100))] ++
  proceed 1 4 ++ proceed 2 4 ++ proceed 1 5 ++ proceed 2 2

theorem run_notifications_joinThenServe : ∃ ts c sent,
    (skyHigh {}).Run (.init oneSeatWorld) ts c ∧ c.quiescent ∧
    NotificationService.Delivered c.state.events sent ∧
    sent = [NotificationService.assignmentRequest 1 10 100 1] ∧
    (sent.map NotificationRequest.addressee).Nodup ∧ ∀ r ∈ sent, r.Truthful c.state.db := by
  obtain ⟨ts, c, hrun, htest⟩ := exists_run joinThenServe (fun _ c => ended c &&
    decide (c.state.events.filterMap AppEvent.request? =
      [NotificationService.assignmentRequest 1 10 100 1])) (by decide +kernel)
  obtain ⟨hended, hsent⟩ := (Bool.and_eq_true _ _).mp htest
  have hdelivered := NotificationService.delivered_filterMap c.state.events
  obtain ⟨honce, htruthful, -⟩ := run_notifications oneSeatWorld_seeded hrun hdelivered
  exact ⟨ts, c, _, hrun, quiescent_of_ended hended, hdelivered, of_decide_eq_true hsent, honce,
    htruthful⟩

end SkyHighCore
