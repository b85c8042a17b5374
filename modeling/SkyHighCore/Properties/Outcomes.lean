import SkyHighCore.Framework.Records
import SkyHighCore.Construction.HttpLayer
import SkyHighCore.Properties.Failures

/-!
# What a call has done when it ends

Every call is walked through once with its record.  `Call.Ends` is what the record shows when the
call throws: one of its actions has failed with this exception (`Raised`), or the call has read
something that forbids to go on (`Call.Throws`); and an exception that refuses the request comes
before the call has touched anything.  `Call.Acknowledges` is what a reply stands for: the writes
that the call has committed, in order.  Along the way every write is made with the
arguments of the call (`Call.Writes`).

Nothing here speaks of a state: the outcomes are those that an action can have in some world.
-/

namespace SkyHighCore

open Framework

abbrev SkyRecord := Record Action Action.Res AppException

/-- The outcomes that an action can have. -/
def Possible (a : Action) (r : Except AppException a.Res) : Prop :=
  ∃ ch w, (World.exec a ch w).1 = r

/-! ## Actions and their outcomes -/

/-- The action has changed the database, Redis, the payments or the emitted events. -/
def Action.affects : (a : Action) → Except AppException a.Res → Bool
  | .holdSeat .., .ok _ | .awaitPayment .., .ok _ | .complete .., .ok _ | .cancel .., .ok _
  | .saveWaitlist _, .ok _ | .insertWaitlist .., .ok _ | .setSeatHold .., .ok _
  | .delSeatHold _, .ok _ | .setSeatMapCache .., .ok _ | .delSeatMapCache _, .ok _ => true
  | .release _, .ok affected => affected
  | .assign .., .ok assigned => assigned
  | .auditLog _, _ | .postPayment _, _ | .emit _, _ => true
  | _, _ => false

/-- The action has committed a write to a seat, a check-in or a waitlist entry. -/
def Action.wrote : (a : Action) → Except AppException a.Res → Bool
  | .saveWaitlist _, .ok _ | .insertWaitlist .., .ok _ => true
  | a, r => a.committed r

/-- The writes that the call has committed, in order. -/
def writes (tr : SkyRecord) : List Action :=
  (tr.filter fun event => event.1.wrote event.2).map Sigma.fst

/-- The call has changed nothing but the contention counter. -/
def Untouched (tr : SkyRecord) : Prop := ∀ event ∈ tr, event.1.affects event.2 = false

/-- A failure of the action never leaves the service that performs it. -/
def Action.swallowed : Action → Bool
  | .getWeight _ | .postPayment _ => true
  | _ => false

/-- An action of the call has failed with `e`. -/
def Raised (e : AppException) (tr : SkyRecord) : Prop :=
  ∃ a : Action, a.swallowed = false ∧ ⟨a, .error e⟩ ∈ tr

/-- The exceptions that `HttpExceptionFilter` blames on the request: the domain exceptions, and a
violated unique constraint. -/
def AppException.refuses (e : AppException) : Bool :=
  e.domain?.isSome || decide (e = .queryFailed .uniqueViolation)

/-- The action can fail by refusing the request. -/
def Action.canRefuse : Action → Bool
  | .holdSeat .. | .assign .. | .insertWaitlist .. => true
  | _ => false

/-- The action writes to seats, check-ins or waitlist entries. -/
def Action.writesRows : Action → Bool
  | .holdSeat .. | .awaitPayment .. | .complete .. | .cancel .. | .release _ | .assign ..
  | .saveWaitlist _ | .insertWaitlist .. => true
  | _ => false

/-- The passenger who has made the request. -/
def Call.caller? : Call → Option PassengerId
  | .startCheckIn p _ | .confirmCheckIn _ p _ | .cancelCheckIn _ p | .joinWaitlist p _
  | .leaveWaitlist _ p => some p
  | _ => none

/-- The call has found the flight. -/
def FlightFound (f : FlightId) (tr : SkyRecord) : Prop :=
  ∃ flight : Flight, ⟨.findOneFlight f, .ok (some flight)⟩ ∈ tr

/-- The call has found the seat on the flight that the request names. -/
def SeatFound (dto : StartCheckInRequestDto) (tr : SkyRecord) : Prop := ∃ seat : Seat,
  ⟨.findOneSeat { id := some dto.seatId, flightId := some dto.flightId }, .ok (some seat)⟩ ∈ tr

/-- The writes of a call, with the arguments that it makes them with, and what it has found out
before. -/
def Call.Writes (tr : SkyRecord) : Call → Action → Prop
  | .startCheckIn p dto, .holdSeat p' f s _ =>
      (p' = p ∧ f = dto.flightId ∧ s = dto.seatId) ∧ FlightFound f tr
  | .startCheckIn .., .complete .. | .startCheckIn .., .cancel .. => False
  | .confirmCheckIn i p dto, .awaitPayment snap weight _
  | .confirmCheckIn i p dto, .complete snap weight _ =>
      snap.id = i ∧ snap.passengerId = p ∧ weight = CheckInService.declaredWeight dto
  | .cancelCheckIn i p, .cancel snap i' p' =>
      snap.id = i ∧ snap.passengerId = p ∧ i' = i ∧ p' = p
  | .joinWaitlist p f, .insertWaitlist f' p' _ => (f' = f ∧ p' = p) ∧ FlightFound f tr
  | .leaveWaitlist i p, .saveWaitlist entry => entry.id = i ∧ entry.passengerId = p
  | .processWaitlist f _, .assign entry seat f' _ =>
      entry.flightId = f ∧ seat.flightId = f ∧ f' = f
  | .handleHoldExpired s, .release seat | .releaseSeat s, .release seat => seat.id = s
  | .handleHoldExpired _, .saveWaitlist _ | .releaseSeat _, .saveWaitlist _
  | .sweepExpiredHolds, .release _ | .sweepExpiredHolds, .saveWaitlist _ => True
  | _, a => a.writesRows = false

/-- The call has found its passenger's check-in, as `snap`. -/
def FoundOwn (i : CheckInId) (p : PassengerId) (snap : CheckIn) (tr : SkyRecord) : Prop :=
  ⟨.findOneCheckIn { id := some i, passengerId := some p }, .ok (some snap)⟩ ∈ tr

/-- It has found it, and later this has happened. -/
def FoundOwnThen (i : CheckInId) (p : PassengerId) (snap : CheckIn)
    (event : Event Action Action.Res AppException) (tr : SkyRecord) : Prop :=
  List.Sublist [⟨.findOneCheckIn { id := some i, passengerId := some p }, .ok (some snap)⟩, event]
    tr

/-- What the call has read forbids to go on, and it throws `e`. -/
def Call.Throws (tr : SkyRecord) : Call → AppException → Prop
  | .startCheckIn _ dto, .flightNotFound _ => ⟨.findOneFlight dto.flightId, .ok none⟩ ∈ tr
  | .startCheckIn _ dto, .seatNotFound _ =>
      ⟨.findOneSeat { id := some dto.seatId, flightId := some dto.flightId }, .ok none⟩ ∈ tr
  | .startCheckIn p dto, .alreadyCheckedIn _ => ∃ c : CheckIn, c.status ≠ .cancelled ∧
      ⟨.findOneCheckIn { passengerId := some p, flightId := some dto.flightId }, .ok (some c)⟩ ∈ tr
  | .startCheckIn _ dto, .seatAlreadyHeld _ => ∃ seat, CheckInService.notAvailable seat ∧
      SeatFound dto tr ∧ ⟨.findOneSeat { id := some dto.seatId }, .ok seat⟩ ∈ tr
  | .confirmCheckIn i p _, .checkInNotFound _ | .cancelCheckIn i p, .checkInNotFound _ =>
      ⟨.findOneCheckIn { id := some i, passengerId := some p }, .ok none⟩ ∈ tr
  | .confirmCheckIn i p _, .holdExpired _ => ∃ snap : CheckIn,
      (snap.status.isOpen = false ∧ FoundOwn i p snap tr) ∨
      ∃ s, snap.seatId = some s ∧ FoundOwnThen i p snap ⟨.existsSeatHold s, .ok false⟩ tr
  | .confirmCheckIn i p _, .entityNotFound => ∃ snap : CheckIn,
      FoundOwnThen i p snap ⟨.findOneCheckIn { id := some snap.id }, .ok none⟩ tr
  | .cancelCheckIn i p, .cancellationNotAllowed _ => ∃ (snap : CheckIn) (flight : Flight),
      flight.status = .departed ∧
        FoundOwnThen i p snap ⟨.findOneFlight snap.flightId, .ok (some flight)⟩ tr
  | .joinWaitlist _ f, .flightNotFound _ | .getSeatMap f, .flightNotFound _ =>
      ⟨.findOneFlight f, .ok none⟩ ∈ tr
  | .joinWaitlist p f, .alreadyOnWaitlist _ => ∃ entry,
      ⟨.findOneWaitlist { flightId := some f, passengerId := some p, status := some .waiting },
        .ok (some entry)⟩ ∈ tr
  | .leaveWaitlist i p, .waitlistNotFound _ => ∃ found : Option Waitlist,
      (∀ entry ∈ found, entry.status ≠ .waiting) ∧
        ⟨.findOneWaitlist { id := some i, passengerId := some p }, .ok found⟩ ∈ tr
  | _, _ => False

/-- What the record shows of a call that has thrown `e`. -/
def Call.Ends (call : Call) (e : AppException) (tr : SkyRecord) : Prop :=
  (Raised e tr ∨ call.Throws tr e) ∧ (e.refuses = true → Untouched tr)

/-- The program of a call from a record on: its writes are those of the call, and an exception is
explained by the record. -/
abbrev Recorded (call : Call) {α : Type} (p : Program α) (Q : α → SkyRecord → Prop)
    (tr : SkyRecord) : Prop :=
  p.Records Possible (fun tr a => call.Writes tr a) call.Ends Q tr

section Records

variable {tr tr' : SkyRecord} {a : Action} {r : Except AppException a.Res}

@[simp] lemma writes_nil : writes [] = [] := rfl

@[simp] lemma writes_append : writes (tr ++ tr') = writes tr ++ writes tr' := by
  simp [writes]

lemma writes_single : writes [⟨a, r⟩] = if a.wrote r then [a] else [] := by
  cases h : a.wrote r <;> simp [writes, h]

lemma untouched_nil : Untouched [] := by simp [Untouched]

lemma Untouched.snoc (h : Untouched tr) (hr : a.affects r = false) :
    Untouched (tr ++ [⟨a, r⟩]) := by
  intro event hevent
  rcases List.mem_append.mp hevent with hevent | hevent
  · exact h event hevent
  · rw [List.mem_singleton.mp hevent]
    exact hr

lemma FlightFound.append {f : FlightId} (h : FlightFound f tr) : FlightFound f (tr ++ tr') :=
  h.imp fun _ => List.mem_append_left _

lemma SeatFound.append {dto : StartCheckInRequestDto} (h : SeatFound dto tr) :
    SeatFound dto (tr ++ tr') :=
  h.imp fun _ => List.mem_append_left _

lemma FoundOwn.append {i : CheckInId} {p : PassengerId} {snap : CheckIn}
    (h : FoundOwn i p snap tr) : FoundOwn i p snap (tr ++ tr') :=
  List.mem_append_left _ h

lemma FoundOwn.andThen {i : CheckInId} {p : PassengerId} {snap : CheckIn}
    (h : FoundOwn i p snap tr) {event : Event Action Action.Res AppException} :
    FoundOwnThen i p snap event (tr ++ [event]) :=
  (List.singleton_sublist.mpr h).append (List.Sublist.refl [event])

lemma FoundOwnThen.append {i : CheckInId} {p : PassengerId} {snap : CheckIn}
    {event : Event Action Action.Res AppException} (h : FoundOwnThen i p snap event tr) :
    FoundOwnThen i p snap event (tr ++ tr') :=
  h.trans (List.sublist_append_left tr tr')

lemma Raised.append {e : AppException} (h : Raised e tr) : Raised e (tr ++ tr') := by
  obtain ⟨a, ha, hmem⟩ := h
  exact ⟨a, ha, List.mem_append_left _ hmem⟩

/-- A failing action changes nothing, unless it is a payment request. -/
lemma affects_error {e : AppException} (ha : a.swallowed = false)
    (h : Possible a (.error e)) : a.affects (.error e) = false := by
  cases a with
  | postPayment | getWeight => cases ha
  | auditLog dto =>
      obtain ⟨ch, w, h⟩ := h
      simp only [World.exec] at h
      split at h <;> cases h
  | emit event =>
      obtain ⟨ch, w, h⟩ := h
      cases h
  | _ => rfl

lemma wrote_of_unaffected (h : a.affects r = false) : a.wrote r = false := by
  cases a <;> cases r <;> first | rfl | exact h

/-- Only an action that can refuse a request does. -/
lemma refuses_of_possible {e : AppException} (ha : a.swallowed = false)
    (hcan : a.canRefuse = false) (h : Possible a (.error e)) : e.refuses = false := by
  obtain ⟨ch, w, h⟩ := h
  have hexec : World.exec a ch w = (.error e, (World.exec a ch w).2) := by rw [← h]
  have hpost : ∀ request, a ≠ .postPayment request := by
    rintro request rfl
    cases ha
  have hweight : ∀ p, a ≠ .getWeight p := by
    rintro p rfl
    cases ha
  rcases (exec_error hpost hweight hexec).2 with ⟨-, hfault⟩ | hrefused
  · unfold AppException.isFault at hfault
    split at hfault
    · rfl
    · rfl
    · rfl
    · cases hfault
  · unfold Action.RefusedBy at hrefused
    split at hrefused
    · cases hcan
    · cases hcan
    · cases hcan
    · cases hcan
    · cases hcan
    · cases hcan
    · cases hcan
    · rfl
    · rfl
    · rfl
    · exact hrefused.elim

variable {call : Call} {e : AppException}

/-- An action of the call has failed: it refuses the request before anything has been touched, or
it does not refuse it. -/
lemma Call.Ends.of_raised (ha : a.swallowed = false) (hclean : Untouched tr ∨ a.canRefuse = false)
    (h : Possible a (.error e)) : call.Ends e (tr ++ [⟨a, .error e⟩]) := by
  refine ⟨.inl ⟨a, ha, List.mem_append_right _ List.mem_cons_self⟩, fun hrefuses => ?_⟩
  rcases hclean with hclean | hcan
  · exact hclean.snoc (affects_error ha h)
  · rw [refuses_of_possible ha hcan h] at hrefuses
    cases hrefuses

lemma Call.Throws.append (h : call.Throws tr e) : call.Throws (tr ++ tr') e := by
  unfold Call.Throws at h ⊢
  split at h <;> try exact h.elim
  all_goals grind [SeatFound, FoundOwn, FoundOwnThen.append]

/-- What the record shows stays true if the call goes on without touching anything. -/
lemma Call.Ends.snoc (h : call.Ends e tr) (hr : a.affects r = false) :
    call.Ends e (tr ++ [⟨a, r⟩]) :=
  ⟨h.1.imp Raised.append Call.Throws.append, fun hrefuses => (h.2 hrefuses).snoc hr⟩

end Records

/-! ## What replies stand for -/

/-- The fee for the weight that a confirmation declares. -/
def Settings.declaredFee (cfg : Settings) (dto : UpdateCheckInRequestDto) : ℚ :=
  (BaggageService.calculateFee cfg (CheckInService.declaredWeight dto)).excessFee

/-- The writes that a confirmation of `snap` has committed when it answers `response`: it has
completed the check-in, with or without a payment before, or it waits for one. -/
def ConfirmWrites (cfg : Settings) (dto : UpdateCheckInRequestDto) (snap : CheckIn)
    (response : CheckInResponseDto) (ws : List Action) : Prop :=
  let weight := CheckInService.declaredWeight dto
  let paused := Action.awaitPayment snap weight (cfg.declaredFee dto)
  (response.confirmedAt.isSome = true ∧ response.message = none ∧
    (ws = [.complete snap weight none] ∨ ∃ snap' paymentId, snap'.id = snap.id ∧
      ws = [paused, .complete snap' weight paymentId])) ∨
  (response.confirmedAt = none ∧ response.message.isSome = true ∧ ws = [paused])

/-- The writes that a release has committed when it returns `released`. -/
def ReleaseWrites (s : SeatId) (released : Bool) (ws : List Action) : Prop :=
  match released with
  | false => ws = []
  | true => ∃ seat : Seat, seat.id = s ∧
      (ws = [.release seat] ∨ ∃ entry, ws = [.release seat, .saveWaitlist entry])

/-- The call has committed the writes `ws` and replies with `reply`. -/
def Call.Acknowledges (cfg : Settings) : Call → Reply → List Action → Prop
  | .startCheckIn p dto, .checkIn response, ws => ∃ heldAt,
      ws = [.holdSeat p dto.flightId dto.seatId heldAt] ∧ response.passengerId = p ∧
      response.flightId = dto.flightId ∧ response.seatId = some dto.seatId ∧
      response.status = .inProgress ∧ response.holdExpiresAt = some (heldAt + seatHoldTtl * 1000)
  | .confirmCheckIn i p dto, .checkIn response, ws => ∃ snap : CheckIn,
      snap.id = i ∧ snap.passengerId = p ∧ ConfirmWrites cfg dto snap response ws
  | .cancelCheckIn i p, .cancelled response, ws => response.id = i ∧ ∃ snap : CheckIn,
      snap.id = i ∧ snap.passengerId = p ∧ ws = [.cancel snap i p]
  | .joinWaitlist p f, .waitlist entry, ws => entry.passengerId = p ∧ entry.flightId = f ∧
      entry.status = .waiting ∧ ws = [.insertWaitlist f p entry.position]
  | .leaveWaitlist i p, .waitlist entry, ws => entry.id = i ∧ entry.passengerId = p ∧
      entry.status = .cancelled ∧ ws = [.saveWaitlist entry]
  | .getSeatMap _, .seatMap _, ws => ws = []
  | .releaseSeat s, .released released, ws => ReleaseWrites s released ws
  | .handleHoldExpired s, .void, ws => ∃ released, ReleaseWrites s released ws
  | .processWaitlist f _, .void, ws =>
      ws = [] ∨ ∃ entry seat heldAt, ws = [.assign entry seat f heldAt]
  | .sweepExpiredHolds, .void, ws => ∃ rounds : List (List Action), ws = rounds.flatten ∧
      ∀ round ∈ rounds, ∃ s released, ReleaseWrites s released round
  | _, _, _ => False

/-! ## Rows that are found -/

lemma possible_findOneSeat {q : SeatWhere} {seat : Seat}
    (h : Possible (.findOneSeat q) (.ok (some seat))) : q.Matches seat := by
  obtain ⟨ch, w, h⟩ := h
  exact (exec_findOneSeat (Prod.ext h rfl)).2.2

lemma possible_findOneCheckIn {q : CheckInWhere} {c : CheckIn}
    (h : Possible (.findOneCheckIn q) (.ok (some c))) : q.Matches c := by
  obtain ⟨ch, w, h⟩ := h
  exact (exec_findOneCheckIn (Prod.ext h rfl)).2.2

lemma possible_findOneWaitlist {q : WaitlistWhere} {entry : Waitlist}
    (h : Possible (.findOneWaitlist q) (.ok (some entry))) : q.Matches entry := by
  obtain ⟨ch, w, h⟩ := h
  simp only [World.exec, World.query] at h
  split at h
  · cases h
  · exact (Table.findOne_spec (Except.ok.inj h)).2.1

lemma possible_holdSeat {p : PassengerId} {f : FlightId} {s : SeatId} {t : Time} {c : CheckIn}
    (h : Possible (.holdSeat p f s t) (.ok c)) :
    c.passengerId = p ∧ c.flightId = f ∧ c.seatId = some s ∧ c.status = .inProgress := by
  obtain ⟨ch, w, h⟩ := h
  rcases World.transaction_cases (Prod.ext h rfl) with ⟨e, h, -⟩ | ⟨x, db', h, hbody, -⟩
  · cases h
  · obtain rfl := Except.ok.inj h
    obtain ⟨rfl, -⟩ := Tx.holdSeatTransaction_ok hbody
    exact ⟨rfl, rfl, rfl, rfl⟩

lemma possible_insertWaitlist {p : PassengerId} {f : FlightId} {n : ℕ} {entry : Waitlist}
    (h : Possible (.insertWaitlist f p n) (.ok entry)) :
    entry.passengerId = p ∧ entry.flightId = f ∧ entry.status = .waiting ∧
      entry.position = n := by
  obtain ⟨ch, w, h⟩ := h
  rcases World.transaction_cases (Prod.ext h rfl) with ⟨e, h, -⟩ | ⟨x, db', h, hbody, -⟩
  · cases h
  · obtain rfl := Except.ok.inj h
    unfold Tx.insertWaitlist at hbody
    split at hbody
    · cases hbody
    · split at hbody
      · cases hbody
      · cases hbody
        exact ⟨rfl, rfl, rfl, rfl⟩

/-! ## Stretches of a call -/

section Stretches

variable {call : Call} {tr tr' : SkyRecord} {α β : Type}

lemma writes_of_no_rows {a : Action} (h : a.writesRows = false) : call.Writes tr a := by
  unfold Call.Writes
  split <;> first | exact h | cases h

lemma Untouched.writes_eq (h : Untouched tr) : writes tr = [] := by
  have hnone : ∀ event ∈ tr, ¬ event.1.wrote event.2 = true := fun event hevent => by
    simp [wrote_of_unaffected (h event hevent)]
  rw [writes, List.filter_eq_nil_iff.mpr hnone, List.map_nil]

/-- The call goes on without a write. -/
def Extends (tr tr' : SkyRecord) : Prop := tr <+: tr' ∧ writes tr' = writes tr

lemma Extends.refl (tr : SkyRecord) : Extends tr tr := ⟨List.prefix_rfl, rfl⟩

lemma Extends.trans {tr'' : SkyRecord} (h : Extends tr tr') (h' : Extends tr' tr'') :
    Extends tr tr'' :=
  ⟨h.1.trans h'.1, h'.2.trans h.2⟩

lemma Extends.snoc (h : Extends tr tr') {a : Action} {r : Except AppException a.Res}
    (hr : a.wrote r = false) : Extends tr (tr' ++ [⟨a, r⟩]) := by
  refine ⟨h.1.trans (List.prefix_append _ _), ?_⟩
  rw [writes_append, writes_single, hr, h.2]
  exact List.append_nil _

lemma FoundOwn.extends {i : CheckInId} {p : PassengerId} {snap : CheckIn}
    (h : FoundOwn i p snap tr) (hext : Extends tr tr') : FoundOwn i p snap tr' :=
  hext.1.subset h

/-- One action in front of the rest of a call. -/
lemma recorded_bind {a : Action} {k : a.Res → Program β} {R : β → SkyRecord → Prop}
    (hwrites : call.Writes tr a) (ha : a.swallowed = false)
    (hclean : Untouched tr ∨ a.canRefuse = false)
    (hk : ∀ v, Possible a (.ok v) → Recorded call (k v) R (tr ++ [⟨a, .ok v⟩])) :
    Recorded call (act a >>= k) R tr :=
  .perform_bind hwrites (fun _ h => .of_raised ha hclean h) hk

/-- The last action of a call. -/
lemma recorded_act {a : Action} {R : a.Res → SkyRecord → Prop} (hwrites : call.Writes tr a)
    (ha : a.swallowed = false) (hclean : Untouched tr ∨ a.canRefuse = false)
    (hk : ∀ v, Possible a (.ok v) → R v (tr ++ [⟨a, .ok v⟩])) : Recorded call (act a) R tr :=
  .perform hwrites (fun _ h => .of_raised ha hclean h) hk

/-- What holds a lock gives it back. -/
lemma recorded_withLock {p : Program α} {Q : α → SkyRecord → Prop} {resource : LockKey}
    (hp : Recorded call p Q tr)
    (hQ : ∀ v tr' r, Q v tr' → Q v (tr' ++ [⟨.releaseLock resource, r⟩])) :
    Recorded call (p.tryFinally (releaseLock resource)) Q tr := by
  refine Prog.Records.tryFinally hp (fun v tr' hv => ?_) fun e tr' he => ?_
  · exact recorded_act (writes_of_no_rows rfl) rfl (.inr rfl) fun _ _ => hQ v tr' _ hv
  · exact recorded_act (writes_of_no_rows rfl) rfl (.inr rfl) fun _ _ => he.snoc rfl

lemma recorded_invalidateCache (f : FlightId) :
    Recorded call (SeatService.invalidateCache f) (fun _ tr' => Extends tr tr') tr :=
  recorded_act (writes_of_no_rows rfl) rfl (.inr rfl) fun _ _ => (Extends.refl tr).snoc rfl

lemma recorded_dropHold (c : CheckIn) :
    Recorded call (CheckInService.dropHold c) (fun _ tr' => Extends tr tr') tr := by
  unfold CheckInService.dropHold
  split
  · exact .pure (.refl tr)
  · refine recorded_bind (writes_of_no_rows rfl) rfl (.inr rfl) fun _ _ => ?_
    exact (recorded_invalidateCache c.flightId).mono
      (fun _ tr' h => ((Extends.refl tr).snoc rfl).trans h) fun _ _ h => h

end Stretches

end SkyHighCore
