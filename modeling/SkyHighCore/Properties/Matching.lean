import SkyHighCore.Properties.Runs

/-!
# Calls that compete for seats

Any number of passengers start a check-in on one flight at the same time, and several of them may
want the same seat.  The calls read the seat before they try to take it, and what they have read
may be out of date by then; what decides is the compare-and-swap of the transaction, which also
takes back the check-in and the audit row of a call that comes too late.  The locks are not
needed for this.

`Matching` describes the tables by the list of the wins so far.  A call adds at most one win to
it, its own (`contest`); it relies on nobody writing a check-in for its passenger, and on nobody
touching a seat once it is taken.
-/

namespace SkyHighCore

open Framework

/-! ## Wins -/

/-- A passenger who asks for a seat. -/
structure SeatRequest where
  passengerId : PassengerId
  seatId : SeatId
  deriving DecidableEq

/-- The call that makes the request. -/
def SeatRequest.call (f : FlightId) (r : SeatRequest) : Call :=
  .startCheckIn r.passengerId ⟨f, r.seatId⟩

/-- A request that has been met, with the id and the instants that have been written. -/
structure Win extends SeatRequest where
  checkInId : CheckInId
  createdAt : Time
  heldAt : Time

namespace Win

/-- The check-in behind the win. -/
def checkIn (f : FlightId) (win : Win) : CheckIn where
  id := win.checkInId
  passengerId := win.passengerId
  flightId := f
  seatId := some win.seatId
  status := .inProgress
  baggageWeight := none
  excessFee := none
  paymentId := none
  createdAt := win.createdAt

/-- The audit row of the win. -/
def auditLog (f : FlightId) (win : Win) : AuditLog where
  entityType := .seat
  entityId := win.seatId
  action := .seatHeld
  fromState := some (.seat .available)
  toState := .seat .held
  actorId := win.passengerId
  metadata := [("flightId", .uuid f), ("checkInId", .uuid win.checkInId)]

/-- What the call of the winner returns. -/
def response (f : FlightId) (win : Win) : CheckInResponseDto :=
  CheckInService.toCheckInResponse (win.checkIn f) (some (win.heldAt + CheckInService.holdTtlMs))

end Win

/-- Passenger `p` has no check-in on flight `f`. -/
def Database.Absent (db : Database) (p : PassengerId) (f : FlightId) : Prop :=
  ∀ c ∈ db.checkIns.rows, ¬ (c.passengerId = p ∧ c.flightId = f)

/-- Seat `s` is there, and it is not available any more. -/
def Database.Taken (db : Database) (s : SeatId) : Prop :=
  ∃ seat, db.seats.get? s = some seat ∧ seat.status ≠ .available

/-- The check-in and the hold of the win are there. -/
def Win.Stands (f : FlightId) (win : Win) (db : Database) : Prop :=
  win.checkIn f ∈ db.checkIns.rows ∧ ∃ seat, db.seats.get? win.seatId = some seat ∧
    seat.status ≠ .available ∧ seat.heldAt = some win.heldAt

/-- The write of a win. -/
structure Awarded (f : FlightId) (win : Win) (db db' : Database) : Prop where
  seats : ∃ seat, db.seats.get? win.seatId = some seat ∧ seat.status = .available ∧
    db'.seats.get? =
      Function.update db.seats.get? win.seatId (some (seat.heldFor win.passengerId win.heldAt))
  absent : db.Absent win.passengerId f
  checkIns : db'.checkIns.rows = db.checkIns.rows ++ [win.checkIn f]
  auditLog : db'.auditLog = db.auditLog ++ [win.auditLog f]
  passengers : db'.passengers = db.passengers
  flights : db'.flights = db.flights
  waitlist : db'.waitlist = db.waitlist

namespace Tx

/-- A transaction that commits is a win. -/
theorem holdSeatTransaction_awarded {now t : Time} {p : PassengerId} {f : FlightId} {s : SeatId}
    {c : CheckIn} {db db' : Database} (h : holdSeatTransaction now p f s t db = .ok (c, db')) :
    c = (Win.mk ⟨p, s⟩ c.id now t).checkIn f ∧ Awarded f (Win.mk ⟨p, s⟩ c.id now t) db db' := by
  simp only [holdSeatTransaction, run_bind, run_updateSeats, run_ite, run_throw, run_pure,
    run_logWithTransaction] at h
  split at h
  · cases h
  · rename_i hcas
    obtain ⟨seat, hseat, havailable⟩ := available_of_count hcas
    split at h
    · rename_i c' db₂ hins
      cases h
      obtain ⟨hunique, hc, hfresh, rfl⟩ := insertCheckIn_ok hins
      obtain rfl : c = newCheckIn now p f s db := hc
      exact ⟨rfl, ⟨seat, hseat, havailable, seats_acquire p t hseat havailable⟩, hunique, rfl, rfl,
        rfl, rfl, rfl⟩
    · cases h

/-- For a passenger without a check-in, a transaction is rolled back only if the seat is taken. -/
theorem holdSeatTransaction_rejected {now t : Time} {p : PassengerId} {f : FlightId} {s : SeatId}
    {e : AppException} {db : Database} (h : holdSeatTransaction now p f s t db = .error e)
    (habsent : db.Absent p f) (hp : p ∈ db.passengers) (hf : db.flights.get? f ≠ none)
    (hs : db.seats.get? s ≠ none) : (∃ detail, e = .seatAlreadyHeld detail) ∧ db.Taken s := by
  simp only [holdSeatTransaction, run_bind, run_updateSeats, run_ite, run_throw, run_pure,
    run_logWithTransaction] at h
  split at h
  · rename_i hcas
    cases h
    obtain ⟨seat, hseat⟩ := Option.ne_none_iff_exists'.mp hs
    refine ⟨⟨_, rfl⟩, seat, hseat, fun havailable => ?_⟩
    exact (Table.count_eq_zero_iff _ _).mp hcas s seat hseat ⟨Table.key_of_get? hseat, havailable⟩
  · split at h
    · cases h
    · rename_i hins
      rcases insertCheckIn_error hins with ⟨d, hd, hpf⟩ | hp' | hf' | hs'
      · exact absurd hpf (habsent d hd)
      · exact absurd hp hp'
      · exact absurd hf' hf
      · rw [Table.get?_updateWhere, Option.map_eq_none_iff] at hs'
        exact absurd hs' hs

end Tx

/-! ## The tables -/

/-- The tables after these wins, and no other writes. -/
structure Matching (f : FlightId) (db₀ db : Database) (wins : List Win) : Prop where
  checkIns : db.checkIns.rows = db₀.checkIns.rows ++ wins.map (Win.checkIn f)
  auditLog : db.auditLog = db₀.auditLog ++ wins.map (Win.auditLog f)
  distinct : (wins.map fun win => win.seatId).Nodup
  won : ∀ win ∈ wins, ∃ seat, db₀.seats.get? win.seatId = some seat ∧ seat.status = .available ∧
    db.seats.get? win.seatId = some (seat.heldFor win.passengerId win.heldAt)
  others : ∀ s, (∀ win ∈ wins, win.seatId ≠ s) → db.seats.get? s = db₀.seats.get? s
  passengers : db.passengers = db₀.passengers
  flights : db.flights = db₀.flights
  waitlist : db.waitlist = db₀.waitlist

namespace Matching

variable {f : FlightId} {db₀ db db' : Database} {wins : List Win}

lemma nil (f : FlightId) (db : Database) : Matching f db db [] where
  checkIns := (List.append_nil _).symm
  auditLog := (List.append_nil _).symm
  distinct := List.nodup_nil
  won _ h := nomatch h
  others _ _ := rfl
  passengers := rfl
  flights := rfl
  waitlist := rfl

/-- A seat that has been won is taken. -/
lemma taken (h : Matching f db₀ db wins) {win : Win} (hwin : win ∈ wins) :
    db.Taken win.seatId := by
  obtain ⟨seat, -, -, hheld⟩ := h.won win hwin
  exact ⟨_, hheld, nofun⟩

/-- One more win. -/
lemma award (h : Matching f db₀ db wins) {win : Win} (ha : Awarded f win db db') :
    Matching f db₀ db' (wins ++ [win]) := by
  obtain ⟨seat, hseat, havailable, hseats⟩ := ha.seats
  have hnew : ∀ old ∈ wins, old.seatId ≠ win.seatId := by
    intro old hold heq
    obtain ⟨seat', hseat', htaken⟩ := h.taken hold
    rw [heq, hseat, Option.some_inj] at hseat'
    exact htaken (hseat' ▸ havailable)
  refine ⟨?_, ?_, ?_, ?_, ?_, ha.passengers.trans h.passengers, ha.flights.trans h.flights,
    ha.waitlist.trans h.waitlist⟩
  · rw [ha.checkIns, h.checkIns, List.map_append, List.append_assoc]
    rfl
  · rw [ha.auditLog, h.auditLog, List.map_append, List.append_assoc]
    rfl
  · rw [List.map_append, List.nodup_append]
    refine ⟨h.distinct, List.nodup_singleton _, ?_⟩
    intro s hs s' hs'
    obtain ⟨old, hold, rfl⟩ := List.mem_map.mp hs
    rw [List.mem_singleton.mp hs']
    exact hnew old hold
  · intro win' hwin'
    rw [hseats]
    rcases List.mem_append.mp hwin' with hold | hlast
    · rw [Function.update_of_ne (hnew win' hold)]
      exact h.won win' hold
    · rw [List.mem_singleton.mp hlast, Function.update_self]
      refine ⟨seat, ?_, havailable, rfl⟩
      rw [← h.others win.seatId hnew]
      exact hseat
  · intro s hs
    rw [hseats, Function.update_of_ne (hs win (by simp)).symm]
    exact h.others s fun win' hwin' => hs win' (by simp [hwin'])

/-- Seats stay on their flight. -/
lemma seat (h : Matching f db₀ db wins) {s : SeatId} {seat : Seat}
    (hseat : db₀.seats.get? s = some seat) :
    ∃ seat', db.seats.get? s = some seat' ∧ seat'.flightId = seat.flightId := by
  by_cases hs : ∃ win ∈ wins, win.seatId = s
  · obtain ⟨win, hwin, rfl⟩ := hs
    obtain ⟨seat', hseat', -, hheld⟩ := h.won win hwin
    obtain rfl : seat = seat' := Option.some_inj.mp (hseat.symm.trans hseat')
    exact ⟨_, hheld, rfl⟩
  · rw [h.others s fun win hwin heq => hs ⟨win, hwin, heq⟩]
    exact ⟨seat, hseat, rfl⟩

end Matching

/-! ## What competitors may do to each other -/

/-- What the call of passenger `p` can rely on: nobody else writes a check-in for `p`, check-ins
stay, and so does a seat that is taken. -/
structure Undisturbed (f : FlightId) (p : PassengerId) (db db' : Database) : Prop where
  absent : db.Absent p f → db'.Absent p f
  checkIns : db.checkIns.rows ⊆ db'.checkIns.rows
  taken : ∀ s seat, db.seats.get? s = some seat → seat.status ≠ .available →
    db'.seats.get? s = some seat

lemma Undisturbed.refl (f : FlightId) (p : PassengerId) (db : Database) :
    Undisturbed f p db db := ⟨id, List.Subset.refl _, fun _ _ h _ => h⟩

lemma Undisturbed.trans {f : FlightId} {p : PassengerId} {db db' db'' : Database}
    (h : Undisturbed f p db db') (h' : Undisturbed f p db' db'') : Undisturbed f p db db'' :=
  ⟨h'.absent ∘ h.absent, List.Subset.trans h.checkIns h'.checkIns,
    fun s seat hseat hst => h'.taken s seat (h.taken s seat hseat hst) hst⟩

lemma Awarded.stands {f : FlightId} {win : Win} {db db' : Database} (h : Awarded f win db db') :
    win.Stands f db' := by
  obtain ⟨seat, -, -, hseats⟩ := h.seats
  refine ⟨?_, seat.heldFor win.passengerId win.heldAt, ?_, nofun, rfl⟩
  · rw [h.checkIns]
    exact List.mem_append_right _ (List.mem_singleton_self _)
  · rw [hseats, Function.update_self]

/-- A win does not disturb the other passengers. -/
lemma Awarded.undisturbed {f : FlightId} {win : Win} {db db' : Database} (h : Awarded f win db db')
    {p : PassengerId} (hp : win.passengerId ≠ p) : Undisturbed f p db db' := by
  obtain ⟨seat, hseat, havailable, hseats⟩ := h.seats
  refine ⟨fun habsent c hc => ?_, ?_, fun s seat' hseat' hst => ?_⟩
  · rw [h.checkIns] at hc
    rcases List.mem_append.mp hc with hold | hnew
    · exact habsent c hold
    · rw [List.mem_singleton.mp hnew]
      exact fun heq => hp heq.1
  · rw [h.checkIns]
    exact List.subset_append_left _ _
  · have hs : s ≠ win.seatId := by
      rintro rfl
      obtain rfl : seat = seat' := Option.some_inj.mp (hseat.symm.trans hseat')
      exact hst havailable
    rw [hseats, Function.update_of_ne hs]
    exact hseat'

/-- The passengers and what they ask for: no passenger asks twice or has a check-in already, and
every seat is an available one of the flight. -/
structure Contest (f : FlightId) (requests : List SeatRequest) (db : Database) : Prop where
  flight : ∃ flight, db.flights.get? f = some flight
  distinct : (requests.map SeatRequest.passengerId).Nodup
  registered : ∀ r ∈ requests, r.passengerId ∈ db.passengers
  absent : ∀ r ∈ requests, db.Absent r.passengerId f
  seats : ∀ r ∈ requests, ∃ seat, db.seats.get? r.seatId = some seat ∧ seat.flightId = f ∧
    seat.status = .available

/-- The contracts of the competing calls, which do not fail. -/
def contest (cfg : Settings) (f : FlightId) (requests : List SeatRequest) (w₀ : World) :
    Protocol (skyHigh cfg) where
  admits _ ch _ := ch.fault = false
  inv w := ∃ wins, Matching f w₀.db w.db wins ∧ ∀ win ∈ wins, win.toSeatRequest ∈ requests
  rely
    | .startCheckIn p _, w, w' => Undisturbed f p w.db w'.db
    | _, _, _ => True
  guar call _ w _ w' := w'.db = w.db ∨ ∃ win, call = win.call f ∧
    win.toSeatRequest ∈ requests ∧ Awarded f win w.db w'.db

lemma contest_lawful (cfg : Settings) (f : FlightId) (requests : List SeatRequest) (w₀ : World) :
    (contest cfg f requests w₀).Lawful where
  rely_refl call w _ := by
    cases call with
    | startCheckIn p _ => exact .refl f p w.db
    | _ => trivial
  rely_trans call w₁ w₂ w₃ h h' := by
    cases call with
    | startCheckIn p _ => exact Undisturbed.trans h h'
    | _ => trivial
  inv_step := by
    rintro call a w r w' ⟨wins, hwins, hrequests⟩ - (hdb | ⟨win, -, hrequest, hwin⟩)
    · exact ⟨wins, hdb ▸ hwins, hrequests⟩
    · refine ⟨wins ++ [win], hwins.award hwin, fun win' hwin' => ?_⟩
      rcases List.mem_append.mp hwin' with hold | hnew
      · exact hrequests win' hold
      · rw [List.mem_singleton.mp hnew]
        exact hrequest
  inv_tick _ _ h := h
  rely_tick call _ w _ := by
    cases call with
    | startCheckIn p _ => exact .refl f p w.db
    | _ => trivial

/-- Calls of different passengers. -/
def Call.Competes (call call' : Call) : Prop :=
  ∀ p dto p' dto', call = .startCheckIn p dto → call' = .startCheckIn p' dto' → p ≠ p'

/-- What a call guarantees is what its competitors rely on. -/
lemma contest_compatible {cfg : Settings} {f : FlightId} {requests : List SeatRequest} {w₀ : World}
    {call call' : Call} (h : call.Competes call') {a : Action} {w w' : World}
    {r : Except AppException a.Res} (hguar : (contest cfg f requests w₀).guar call a w r w') :
    (contest cfg f requests w₀).rely call' w w' := by
  cases call' with
  | startCheckIn p dto =>
      rcases hguar with hdb | ⟨win, rfl, -, hwin⟩
      · show Undisturbed f p w.db w'.db
        rw [hdb]
        exact .refl f p w.db
      · exact hwin.undisturbed (h _ _ _ _ rfl rfl)
  | _ => trivial

/-! ## The walk through `startCheckIn` -/

section Walk

variable {cfg : Settings} {f : FlightId} {requests : List SeatRequest} {w₀ w : World}
  {r : SeatRequest}

/-- The contract of the call that makes the request `r`. -/
abbrev contender (cfg : Settings) (f : FlightId) (requests : List SeatRequest) (w₀ : World)
    (r : SeatRequest) : SkyContract World :=
  (contest cfg f requests w₀).contract (r.call f)

/-- What stays true of the tables while others act. -/
def Durable (f : FlightId) (p : PassengerId) (F : Database → Prop) : Prop :=
  ∀ db db', Undisturbed f p db db' → F db → F db'

lemma durable_absent (f : FlightId) (p : PassengerId) : Durable f p fun db => db.Absent p f :=
  fun _ _ h => h.absent

/-- An action that does not write to the database. -/
lemma wp_spares {a : Action} (ha : a.sparesDatabase = true) {F : Database → Prop}
    (hF : Durable f r.passengerId F) (hw : F w.db) {Q : Except AppException a.Res → World → Prop}
    (h : ∀ ch w₁ w₂, ch.fault = false → F w₁.db → (contest cfg f requests w₀).inv w₁ →
      w₂.db = w₁.db → Q (World.exec a ch w₁).1 w₂) :
    (act a).wp (contender cfg f requests w₀ r) Q w := by
  rintro w₁ hrely hinv _ w₂ ⟨ch, hch, he⟩
  have hdb : w₂.db = w₁.db := by
    rw [← World.exec_sparesDatabase ha ch w₁]
    exact congrArg World.db (congrArg Prod.snd he).symm
  refine ⟨.inl hdb, ?_⟩
  obtain rfl := congrArg Prod.fst he
  exact h ch w₁ w₂ hch (hF _ _ hrely hw) hinv hdb

/-- The same for an action whose result is known. -/
lemma wp_spares_ok {a : Action} (ha : a.sparesDatabase = true) {F : Database → Prop}
    (hF : Durable f r.passengerId F) (hw : F w.db) {Q : Except AppException a.Res → World → Prop}
    {v : a.Res} (hv : ∀ ch w₁, ch.fault = false → (World.exec a ch w₁).1 = .ok v)
    (h : ∀ w', F w'.db → Q (.ok v) w') :
    (act a).wp (contender cfg f requests w₀ r) Q w := by
  refine wp_spares ha hF hw fun ch w₁ w₂ hch hF₁ _ hdb => ?_
  rw [hv ch w₁ hch]
  exact h w₂ (hdb ▸ hF₁)

/-- What the call that makes a request returns, and what it has left in the tables. -/
def Outcome (f : FlightId) (r : SeatRequest) :
    Except AppException CheckInResponseDto → Database → Prop
  | .ok response, db =>
      ∃ win : Win, win.toSeatRequest = r ∧ win.Stands f db ∧ response = win.response f
  | .error e, db =>
      (∃ detail, e = .seatAlreadyHeld detail) ∧ db.Absent r.passengerId f ∧ db.Taken r.seatId

lemma durable_outcome (res : Except AppException CheckInResponseDto) :
    Durable f r.passengerId (Outcome f r res) := by
  intro db db' h hout
  cases res with
  | ok response =>
      obtain ⟨win, hwin, ⟨hrow, seat, hseat, hst, hheldAt⟩, hresponse⟩ := hout
      exact ⟨win, hwin, ⟨h.checkIns hrow, seat, h.taken _ seat hseat hst, hst, hheldAt⟩, hresponse⟩
  | error e =>
      obtain ⟨hdetail, habsent, seat, hseat, hst⟩ := hout
      exact ⟨hdetail, h.absent habsent, seat, h.taken _ seat hseat hst, hst⟩

namespace Contest

open CheckInService

lemma wp_validateFlightExists (hcontest : Contest f requests w₀.db)
    (hw : w.db.Absent r.passengerId f) :
    (validateFlightExists f).wp (contender cfg f requests w₀ r)
      (fun res w' => res = .ok () ∧ w'.db.Absent r.passengerId f) w := by
  refine Prog.wp_bind (wp_spares rfl (durable_absent f _) hw ?_)
  rintro ch w₁ w₂ hch hw₁ ⟨wins, hwins, -⟩ hdb
  obtain ⟨flight, hflight⟩ := hcontest.flight
  rw [← hwins.flights] at hflight
  simp only [World.exec, World.query, hch, hflight]
  exact ⟨rfl, hdb ▸ hw₁⟩

/-- The seat that is asked for is found. -/
lemma findOne_seat (hcontest : Contest f requests w₀.db) (hr : r ∈ requests)
    (hinv : (contest cfg f requests w₀).inv w) (rank : Seat → ℕ) {q : SeatWhere}
    (hq : q.id = some r.seatId) (hflight : ∀ f' ∈ q.flightId, f' = f) (hst : q.status = none) :
    ∃ seat, w.db.seats.findOne rank q.Matches = some seat ∧
      w.db.seats.get? r.seatId = some seat := by
  obtain ⟨wins, hwins, -⟩ := hinv
  obtain ⟨seat₀, hseat₀, hf, -⟩ := hcontest.seats r hr
  obtain ⟨seat, hseat, hf'⟩ := hwins.seat hseat₀
  have hid : seat.id = r.seatId := Table.key_of_get? hseat
  have hmatches : q.Matches seat := by
    refine ⟨fun i hi => ?_, fun f' hf'' => ?_, fun st hst' => ?_⟩
    · rw [hq] at hi
      exact hid.trans (Option.some_inj.mp hi)
    · rw [hflight f' hf'', hf', hf]
    · rw [hst] at hst'
      cases hst'
  obtain ⟨found, hfound⟩ := Option.ne_none_iff_exists'.mp fun hnone =>
    (Table.findOne_eq_none_iff _ rank q.Matches).mp hnone seat (Table.mem_of_get? hseat) hmatches
  obtain ⟨hmem, hfoundq, -⟩ := Table.findOne_spec hfound
  refine ⟨found, hfound, (Table.get?_eq_some_iff _).mpr ⟨hmem, ?_⟩⟩
  exact hfoundq.1 r.seatId hq

lemma wp_validateSeatBelongsToFlight (hcontest : Contest f requests w₀.db) (hr : r ∈ requests)
    (hw : w.db.Absent r.passengerId f) :
    (validateSeatBelongsToFlight r.seatId f).wp (contender cfg f requests w₀ r)
      (fun res w' => res = .ok () ∧ w'.db.Absent r.passengerId f) w := by
  refine Prog.wp_bind (wp_spares rfl (durable_absent f _) hw ?_)
  intro ch w₁ w₂ hch hw₁ hinv hdb
  obtain ⟨seat, hseat, -⟩ := hcontest.findOne_seat hr hinv (fun s => ch.rank s.id)
    (q := { id := some r.seatId, flightId := some f }) rfl (by simp) rfl
  simp only [World.exec, World.query, hch, hseat]
  exact ⟨rfl, hdb ▸ hw₁⟩

lemma wp_validateNoActiveCheckIn (hw : w.db.Absent r.passengerId f) :
    (validateNoActiveCheckIn r.passengerId f).wp (contender cfg f requests w₀ r)
      (fun res w' => res = .ok () ∧ w'.db.Absent r.passengerId f) w := by
  refine Prog.wp_bind (wp_spares rfl (durable_absent f _) hw ?_)
  intro ch w₁ w₂ hch hw₁ _ hdb
  have hnone : w₁.db.checkIns.findOne (fun c => ch.rank c.id)
      (CheckInWhere.Matches { passengerId := some r.passengerId, flightId := some f }) = none := by
    refine (Table.findOne_eq_none_iff _ _ _).mpr fun c hc hmatches => ?_
    exact hw₁ c hc ⟨hmatches.2.1 _ rfl, hmatches.2.2 _ rfl⟩
  simp only [World.exec, World.query, hch, hnone]
  exact ⟨rfl, hdb ▸ hw₁⟩

/-- The transaction: a win, or the seat is taken. -/
lemma wp_holdSeat (hcontest : Contest f requests w₀.db) (hr : r ∈ requests) (heldAt : Time)
    (hw : w.db.Absent r.passengerId f) :
    (holdSeat r.passengerId f r.seatId heldAt).wp (contender cfg f requests w₀ r)
      (fun res w' => match res with
        | .ok checkIn => ∃ win : Win, win.toSeatRequest = r ∧ win.heldAt = heldAt ∧
            win.Stands f w'.db ∧ checkIn = win.checkIn f
        | .error e => Outcome f r (.error e) w'.db) w := by
  rintro w₁ hrely hinv res w₂ ⟨ch, hch, he⟩
  have habsent : w₁.db.Absent r.passengerId f := Undisturbed.absent hrely hw
  cases res with
  | ok checkIn =>
      rcases World.transaction_cases he with ⟨_, h, -⟩ | ⟨_, db', h, hbody, rfl⟩
      · cases h
      · cases h
        obtain ⟨hcheckIn, hwin⟩ := Tx.holdSeatTransaction_awarded hbody
        exact ⟨.inr ⟨_, rfl, hr, hwin⟩, _, rfl, rfl, hwin.stands, hcheckIn⟩
  | error e =>
      obtain ⟨hbody, rfl⟩ := World.transaction_error hch he
      obtain ⟨wins, hwins, -⟩ := hinv
      obtain ⟨flight, hflight⟩ := hcontest.flight
      obtain ⟨seat₀, hseat₀, -⟩ := hcontest.seats r hr
      obtain ⟨seat, hseat, -⟩ := hwins.seat hseat₀
      obtain ⟨hdetail, htaken⟩ := Tx.holdSeatTransaction_rejected hbody habsent
        (hwins.passengers ▸ hcontest.registered r hr) (by simp [hwins.flights, hflight])
        (by simp [hseat])
      exact ⟨.inl rfl, hdetail, habsent, htaken⟩

/-- Under the lock: the seat is read, and then taken if it was available. -/
lemma wp_holdSeatWithinLock (hcontest : Contest f requests w₀.db) (hr : r ∈ requests)
    (hw : w.db.Absent r.passengerId f) :
    (holdSeatWithinLock r.passengerId f r.seatId).wp (contender cfg f requests w₀ r)
      (fun res w' => Outcome f r res w'.db) w := by
  refine Prog.wp_bind (wp_spares rfl (durable_absent f _) hw ?_)
  intro ch w₁ w₂ hch hw₁ hinv hdb
  obtain ⟨seat, hfound, hseat⟩ := hcontest.findOne_seat hr hinv (fun s => ch.rank s.id)
    (q := { id := some r.seatId }) rfl (by simp) rfl
  simp only [World.exec, World.query, hch, hfound]
  refine Prog.wp_bind (Prog.wp_throwWhen (fun hst => ?_) fun _ => ?_)
  · -- the seat that was read is not available, and never will be
    rw [hdb]
    exact ⟨⟨_, rfl⟩, hw₁, seat, hseat, hst seat rfl⟩
  refine Prog.wp_bind (wp_spares rfl (durable_absent f _) (hdb ▸ hw₁) ?_)
  intro ch w₃ w₄ hch hw₃ _ hdb'
  refine Prog.wp_bind (Prog.wp_mono (fun res w₅ h₅ => ?_)
    (hcontest.wp_holdSeat hr w₃.now (hdb' ▸ hw₃)))
  cases res with
  | error e => exact h₅
  | ok checkIn =>
      obtain ⟨win, rfl, hheldAt, hstands, rfl⟩ := h₅
      have hwon : Outcome f win.toSeatRequest (.ok (win.response f)) w₅.db :=
        ⟨win, rfl, hstands, rfl⟩
      have hdurable := durable_outcome (r := win.toSeatRequest) (f := f) (.ok (win.response f))
      refine Prog.wp_bind (wp_spares_ok rfl hdurable hwon (v := ()) ?_ fun w₆ h₆ => ?_)
      · exact fun ch w hch => by simp [World.exec, World.redis, hch]
      refine Prog.wp_bind (wp_spares_ok rfl hdurable h₆ (v := ()) ?_ fun w₇ h₇ => ?_)
      · exact fun ch w hch => by simp [World.exec, World.redis, hch]
      show Outcome f win.toSeatRequest (.ok _) w₇.db
      rw [← hheldAt]
      exact h₇

/-- A rejection is counted and thrown again. -/
lemma wp_countAndRethrow {detail : String}
    (hw : Outcome f r (.error (.seatAlreadyHeld detail)) w.db) :
    (countAndRethrow f (.seatAlreadyHeld detail)).wp (contender cfg f requests w₀ r)
      (fun res w' => Outcome f r res w'.db) w := by
  refine Prog.wp_bind (wp_spares_ok rfl (durable_outcome _) hw (v := ()) ?_ fun w₁ h₁ => h₁)
  exact fun ch w _ => rfl

/-- **The walk through `startCheckIn`.**  A contender wins the seat it asks for, or finds it
taken and leaves no check-in behind. -/
theorem wp_startCheckIn (hcontest : Contest f requests w₀.db) (hr : r ∈ requests)
    (hw : w.db.Absent r.passengerId f) :
    (startCheckIn r.passengerId ⟨f, r.seatId⟩).wp (contender cfg f requests w₀ r)
      (fun res w' => Outcome f r res w'.db) w := by
  refine Prog.wp_bind (Prog.wp_mono ?_ (hcontest.wp_validateFlightExists hw))
  rintro _ w₁ ⟨rfl, hw₁⟩
  refine Prog.wp_bind (Prog.wp_mono ?_ (hcontest.wp_validateSeatBelongsToFlight hr hw₁))
  rintro _ w₂ ⟨rfl, hw₂⟩
  refine Prog.wp_bind (Prog.wp_mono ?_ (wp_validateNoActiveCheckIn hw₂))
  rintro _ w₃ ⟨rfl, hw₃⟩
  refine Prog.wp_tryCatch (Prog.wp_bind (wp_spares_ok rfl (durable_absent f _) hw₃ (v := ()) ?_ ?_))
  · exact fun ch w hch => by simp [World.exec, hch]
  intro w₄ hw₄
  refine Prog.wp_tryFinally (Prog.wp_mono (fun res w₅ h₅ => ?_)
    (hcontest.wp_holdSeatWithinLock hr hw₄))
  refine wp_spares_ok rfl (durable_outcome res) h₅ (v := ()) ?_ fun w₆ h₆ => ?_
  · exact fun ch w hch => by simp [World.exec, hch]
  cases res with
  | ok response => exact h₆
  | error e =>
      obtain ⟨detail, rfl⟩ := h₆.1
      exact wp_countAndRethrow h₆

end Contest

end Walk

/-! ## Runs -/

/-- The `i`-th call is this one, and it has ended with this outcome. -/
def Ended (c : SkyConfig) (i : ℕ) (call : Call) (res : Except AppException Reply) : Prop :=
  c.threads[i]? = some ⟨call, .done res⟩

/-- What a contender's call has returned, and what it has left in the tables. -/
def Settled (f : FlightId) (call : Call) (res : Except AppException Reply) (w : World) : Prop :=
  ∀ r : SeatRequest, call = r.call f →
    ∃ res', res = res'.map Reply.checkIn ∧ Outcome f r res' w.db

section Runs

variable {cfg : Settings} {f : FlightId} {requests : List SeatRequest} {w : World}
  {ts : List SkyTransition} {c : SkyConfig}

lemma SeatRequest.call_injective (f : FlightId) : Function.Injective (SeatRequest.call f) := by
  rintro ⟨p, s⟩ ⟨p', s'⟩ h
  cases h
  rfl

/-- The wins so far, and the outcomes of the calls that have ended. -/
lemma run_contest (hcontest : Contest f requests w.db)
    (h : (skyHigh cfg).Run (.init w) ts c) (hcalls : c.calls = requests.map (SeatRequest.call f))
    (hfaults : ∀ t ∈ ts, Faultless t) :
    (contest cfg f requests w).Sound (Settled f) c := by
  refine (h.sound_of_apart (P := contest cfg f requests w) (contest_lawful _ _ _ _) ?_
    Call.Competes ?_ ?_ ?_ ?_ ?_ ?_).1
  · rintro call res w₁ w₂ hrely hsettled r rfl
    obtain ⟨res', hres, hout⟩ := hsettled r rfl
    exact ⟨res', hres, durable_outcome res' _ _ hrely hout⟩
  · intro call call' hcompetes p dto p' dto' hcall hcall'
    exact (hcompetes p' dto' p dto hcall' hcall).symm
  · exact fun call call' hcompetes a w₁ r w₂ _ _ hguar => contest_compatible hcompetes hguar
  · exact ⟨[], .nil f w.db, fun _ h => nomatch h⟩
  · exact fun t ht i ch hl _ _ _ _ => hfaults t ht i ch hl
  · intro call hcall w' hrely _
    rw [hcalls] at hcall
    obtain ⟨r, hr, rfl⟩ := List.mem_map.mp hcall
    have habsent : w'.db.Absent r.passengerId f :=
      Undisturbed.absent hrely (hcontest.absent r hr)
    refine Prog.wp_map (Prog.wp_mono ?_ (hcontest.wp_startCheckIn hr habsent))
    intro res w₁ hout r' hr'
    obtain rfl := SeatRequest.call_injective f hr'
    exact ⟨res, rfl, hout⟩
  · rw [hcalls, List.pairwise_map]
    have hdistinct := hcontest.distinct
    rw [List.Nodup, List.pairwise_map] at hdistinct
    refine hdistinct.imp fun hne p dto p' dto' hcall hcall' => ?_
    cases hcall
    cases hcall'
    exact hne

/-- What has become of the `i`-th request. -/
lemma outcome_of_quiescent (hsound : (contest cfg f requests w).Sound (Settled f) c)
    (hcalls : c.calls = requests.map (SeatRequest.call f)) (hquiet : c.quiescent) {i : ℕ}
    {r : SeatRequest} (hi : requests[i]? = some r) :
    ∃ res, Ended c i (r.call f) (res.map Reply.checkIn) ∧
      Outcome f r res c.state.db := by
  have hcall : c.calls[i]? = some (r.call f) := by
    rw [hcalls, List.getElem?_map, hi]
    rfl
  rw [Config.calls, List.getElem?_map, Option.map_eq_some_iff] at hcall
  obtain ⟨⟨call, prog⟩, hth, rfl⟩ := hcall
  have hmem := List.mem_of_getElem? hth
  have hdone := hquiet _ hmem
  have hsettled := hsound.wp _ hmem
  cases prog with
  | act a k => cases hdone
  | done res =>
      obtain ⟨res', rfl, hout⟩ := hsettled r rfl
      exact ⟨res', hth, hout⟩

/-- A win that stands is one of the wins. -/
lemma Win.Stands.exists_mem {db₀ db : Database} {wins : List Win} {win : Win}
    (h : win.Stands f db) (habsent : db₀.Absent win.passengerId f)
    (hwins : Matching f db₀ db wins) : win ∈ wins := by
  obtain ⟨hrow, seat, hseat, -, hheldAt⟩ := h
  rw [hwins.checkIns] at hrow
  rcases List.mem_append.mp hrow with hold | hnew
  · exact absurd ⟨rfl, rfl⟩ (habsent _ hold)
  · obtain ⟨win', hwin', heq⟩ := List.mem_map.mp hnew
    obtain ⟨⟨p, s⟩, i, createdAt, heldAt⟩ := win
    obtain ⟨⟨p', s'⟩, i', createdAt', heldAt'⟩ := win'
    cases heq
    obtain ⟨seat', -, -, hheld⟩ := hwins.won _ hwin'
    obtain rfl := Option.some_inj.mp (hheld.symm.trans hseat)
    cases hheldAt
    exact hwin'

/-- The win of a call that has succeeded, or the refusal of one that has not. -/
lemma win_or_refused (hcontest : Contest f requests w.db)
    (hsound : (contest cfg f requests w).Sound (Settled f) c)
    (hcalls : c.calls = requests.map (SeatRequest.call f)) (hquiet : c.quiescent)
    {wins : List Win} (hwins : Matching f w.db c.state.db wins) {i : ℕ} {r : SeatRequest}
    (hi : requests[i]? = some r) :
    (∃ win ∈ wins, win.toSeatRequest = r ∧
      Ended c i (r.call f) (.ok (.checkIn (win.response f)))) ∨
    ((∀ win ∈ wins, win.passengerId ≠ r.passengerId) ∧ c.state.db.Taken r.seatId ∧
      ∃ detail, Ended c i (r.call f) (.error (.seatAlreadyHeld detail))) := by
  obtain ⟨res, hended, hout⟩ := outcome_of_quiescent hsound hcalls hquiet hi
  cases res with
  | ok response =>
      obtain ⟨win, rfl, hstands, rfl⟩ := hout
      have habsent := hcontest.absent _ (List.mem_of_getElem? hi)
      exact .inl ⟨win, hstands.exists_mem habsent hwins, rfl, hended⟩
  | error e =>
      obtain ⟨⟨detail, rfl⟩, habsent, htaken⟩ := hout
      refine .inr ⟨fun win hwin hp => ?_, htaken, detail, hended⟩
      refine habsent (win.checkIn f) ?_ ⟨hp, rfl⟩
      rw [hwins.checkIns]
      exact List.mem_append_right _ (List.mem_map_of_mem hwin)

/-- **Concurrent holds resolve to a matching.**  When all calls have ended, the tables are the old
ones with one win for every seat that was asked for: the seat is held by the winner, with one
check-in in progress and one audit row.  A call has returned its win, or it was rejected and its
passenger has won nothing; exactly one call for each seat has succeeded. -/
theorem startCheckIn_matching (hcontest : Contest f requests w.db)
    (h : (skyHigh cfg).Run (.init w) ts c) (hcalls : c.calls = requests.map (SeatRequest.call f))
    (hfaults : ∀ t ∈ ts, Faultless t) (hquiet : c.quiescent) :
    ∃ wins, Matching f w.db c.state.db wins ∧
      (∀ s, (∃ win ∈ wins, win.seatId = s) ↔ ∃ r ∈ requests, r.seatId = s) ∧
      (∀ i r, requests[i]? = some r →
        (∃ win ∈ wins, win.toSeatRequest = r ∧
          Ended c i (r.call f) (.ok (.checkIn (win.response f)))) ∨
        ((∀ win ∈ wins, win.passengerId ≠ r.passengerId) ∧
          ∃ detail, Ended c i (r.call f) (.error (.seatAlreadyHeld detail)))) ∧
      ∀ s, (∃ r ∈ requests, r.seatId = s) → ∃! i, ∃ r reply, r.seatId = s ∧
        Ended c i (SeatRequest.call f r) (.ok reply) := by
  have hsound := run_contest hcontest h hcalls hfaults
  obtain ⟨wins, hwins, hrequests⟩ := hsound.inv
  have houtcome := fun (i : ℕ) (r : SeatRequest) (hi : requests[i]? = some r) =>
    win_or_refused hcontest hsound hcalls hquiet hwins hi
  have hseats : ∀ r ∈ requests, ∃ win ∈ wins, win.seatId = r.seatId := by
    intro r hr
    obtain ⟨i, hi⟩ := List.mem_iff_getElem?.mp hr
    rcases houtcome i r hi with ⟨win, hwin, rfl, -⟩ | ⟨-, ⟨seat, hseat, htaken⟩, -⟩
    · exact ⟨win, hwin, rfl⟩
    · -- a seat that is taken now, and was available, has been won
      by_contra hnone
      push Not at hnone
      obtain ⟨seat₀, hseat₀, -, havailable⟩ := hcontest.seats r hr
      rw [hwins.others r.seatId hnone, hseat₀, Option.some_inj] at hseat
      exact htaken (hseat ▸ havailable)
  refine ⟨wins, hwins, fun s => ⟨?_, ?_⟩, fun i r hi => ?_, ?_⟩
  · rintro ⟨win, hwin, rfl⟩
    exact ⟨win.toSeatRequest, hrequests win hwin, rfl⟩
  · rintro ⟨r, hr, rfl⟩
    exact hseats r hr
  · exact (houtcome i r hi).imp_right fun h => ⟨h.1, h.2.2⟩
  · rintro s ⟨r₀, hr₀, rfl⟩
    obtain ⟨win, hwin, hs⟩ := hseats r₀ hr₀
    obtain ⟨i, hi⟩ := List.mem_iff_getElem?.mp (hrequests win hwin)
    refine ⟨i, ?_, ?_⟩
    · rcases houtcome i _ hi with ⟨win', -, -, hended⟩ | ⟨hnone, -⟩
      · exact ⟨win.toSeatRequest, _, hs, hended⟩
      · exact absurd rfl (hnone win hwin)
    · rintro j ⟨r, reply, hrs, hended⟩
      have hj : requests[j]? = some r := by
        have hcall : c.calls[j]? = some (r.call f) := by
          rw [Config.calls, List.getElem?_map, hended]
          rfl
        rw [hcalls, List.getElem?_map, Option.map_eq_some_iff] at hcall
        obtain ⟨r', hj, hr'⟩ := hcall
        rw [hj, SeatRequest.call_injective f hr']
      rcases houtcome j r hj with ⟨win', hwin', rfl, -⟩ | ⟨-, -, detail, hended'⟩
      · obtain rfl : win' = win :=
          List.inj_on_of_nodup_map hwins.distinct hwin' hwin (hrs.trans hs.symm)
        exact (List.getElem?_inj (List.getElem?_eq_some_iff.mp hj).1
          (hcontest.distinct.of_map _)).mp (hj.trans hi.symm)
      · rw [Ended, hended'] at hended
        cases hended

end Runs

/-- Both passengers ask for the seat, and both find it available; the second is faster. -/
def race : List SkyLabel :=
  [.invoke (.startCheckIn 1 ⟨10, 100⟩), .invoke (.startCheckIn 2 ⟨10, 100⟩)] ++
  proceed 0 6 ++ proceed 1 10 ++ proceed 0 3

lemma contest_oneSeatWorld : Contest 10 [⟨1, 100⟩, ⟨2, 100⟩] oneSeatWorld.db where
  flight := ⟨_, rfl⟩
  distinct := by decide
  registered := by decide
  absent := fun _ _ _ h => nomatch h
  seats := by
    have hs : ∀ r ∈ ([⟨1, 100⟩, ⟨2, 100⟩] : List SeatRequest), r.seatId = 100 := by decide
    intro r hr
    rw [hs r hr]
    exact ⟨_, rfl, rfl, rfl⟩

theorem startCheckIn_matching_race : ∃ ts c wins, (skyHigh {}).Run (.init oneSeatWorld) ts c ∧
    c.quiescent ∧ Matching 10 oneSeatWorld.db c.state.db wins ∧ (∃ win ∈ wins, win.seatId = 100) ∧
      ∃! i, ∃ r reply, r.seatId = 100 ∧ Ended c i (SeatRequest.call 10 r) (.ok reply) := by
  have htest : (((skyHigh {}).execute race (.init oneSeatWorld)).any fun out =>
      (out.2.threads.all fun th => !th.prog.running) && out.1.all faultless) = true := by
    decide +kernel
  obtain ⟨⟨ts, c⟩, hout, htest⟩ := (Option.any_eq_true _ _).mp htest
  obtain ⟨hquiet, hfaults⟩ := Bool.and_eq_true_iff.mp htest
  have hrun : (skyHigh {}).Run (.init oneSeatWorld) ts c := System.run_of_execute hout
  have hcalls : c.calls = [⟨1, 100⟩, ⟨2, 100⟩].map (SeatRequest.call 10) :=
    System.calls_of_execute hout
  have hquiet : c.quiescent := fun th hth => by simpa using List.all_eq_true.mp hquiet th hth
  obtain ⟨wins, hwins, hseats, -, hone⟩ := startCheckIn_matching contest_oneSeatWorld hrun hcalls
    (faultless_of_all hfaults) hquiet
  have hasked : ∃ r ∈ ([⟨1, 100⟩, ⟨2, 100⟩] : List SeatRequest), r.seatId = 100 :=
    ⟨⟨1, 100⟩, List.mem_cons_self, rfl⟩
  exact ⟨ts, c, wins, hrun, hquiet, hwins, (hseats 100).mpr hasked, hone 100 hasked⟩

end SkyHighCore
