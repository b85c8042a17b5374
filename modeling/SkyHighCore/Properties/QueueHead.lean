import SkyHighCore.Properties.Alone
import SkyHighCore.Properties.Solitude

/-!
# The head of a waitlist

A handler that runs alone reads the WAITING entry of smallest position and an available seat, and
assigns the one to the other (`Handled`).  The insert of the check-in fails if the passenger of the
entry has one for the flight already; the transaction is rolled back, and the entry stays where it
is.  Hence an eligible entry is served exactly when it is the head: an entry whose passenger has
booked otherwise keeps everybody behind it waiting.
-/

namespace SkyHighCore

open Framework

/-! ## Queues -/

/-- A WAITING entry of flight `f`. -/
def Database.Waits (db : Database) (f : FlightId) (e : Waitlist) : Prop :=
  db.queue e.id = some e ∧ e.flightId = f ∧ e.status = .waiting

/-- The passenger has no check-in on flight `f`. -/
def Bookings.Unbooked (b : Bookings) (p : PassengerId) (f : FlightId) : Prop :=
  ∀ i c, b.checkIn i = some c → ¬ (c.passengerId = p ∧ c.flightId = f)

/-- A WAITING entry whose passenger has no check-in on the flight. -/
def Database.Eligible (db : Database) (f : FlightId) (e : Waitlist) : Prop :=
  db.Waits f e ∧ db.bookings.Unbooked e.passengerId f

/-- An entry of smallest position. -/
def Foremost (P : Waitlist → Prop) (e : Waitlist) : Prop :=
  P e ∧ ∀ e', P e' → e.position ≤ e'.position

/-- An available seat of flight `f`, and the one that is named, if there is one. -/
def Database.Offers (db : Database) (f : FlightId) (s : Option SeatId) (seat : Seat) : Prop :=
  db.bookings.seat seat.id = some seat ∧ seat.flightId = f ∧ seat.status = .available ∧
    ∀ i ∈ s, seat.id = i

/-- The entry has become ASSIGNED, the seat is held by its passenger, and check-in `c` has been
added. -/
structure Assigned (db db' : Database) (e : Waitlist) (seat : Seat) (c : CheckIn) (t : Time) :
    Prop where
  checkIn : db.bookings.Acquirable seat.id seat c
  passenger : c.passengerId = e.passengerId
  queue : db'.queue = db.queue.marked e.id e .assigned
  bookings : db'.bookings = db.bookings.acquired seat.id seat c t

/-- What a handler has done that has run alone. -/
inductive Handled (f : FlightId) (s : Option SeatId) (db db' : Database) : Prop
  | nobody (hnone : ∀ e, ¬ db.Waits f e) (hsame : db' = db)
  | nothing (hnone : ∀ seat, ¬ db.Offers f s seat) (hsame : db' = db)
  | refused {e : Waitlist} (hhead : Foremost (db.Waits f) e)
      (hbooked : ¬ db.bookings.Unbooked e.passengerId f) (hsame : db' = db)
  | assigned {e : Waitlist} {seat : Seat} {c : CheckIn} {t : Time}
      (hhead : Foremost (db.Waits f) e) (heligible : db.Eligible f e) (hseat : db.Offers f s seat)
      (hassigned : Assigned db db' e seat c t)

section Rows

variable {db : Database} {f : FlightId}

lemma Database.waits_iff {e : Waitlist} :
    db.Waits f e ↔ e ∈ db.waitlist.rows ∧ e.flightId = f ∧ e.status = .waiting :=
  and_congr_left' (Table.mem_rows_iff _).symm

lemma Database.unbooked_iff {p : PassengerId} :
    db.bookings.Unbooked p f ↔
      ∀ d ∈ db.checkIns.rows, ¬ (d.passengerId = p ∧ d.flightId = f) := by
  constructor
  · exact fun h d hd => h d.id d ((Table.mem_rows_iff _).mp hd)
  · exact fun h i d hd => h d (Table.mem_of_get? hd)

lemma Database.offers_iff {s : Option SeatId} {seat : Seat} :
    db.Offers f s seat ↔ seat ∈ db.seats.rows ∧ seat.flightId = f ∧ seat.status = .available ∧
      ∀ i ∈ s, seat.id = i :=
  and_congr_left' (Table.mem_rows_iff _).symm

instance (e : Waitlist) : Decidable (db.Waits f e) :=
  decidable_of_iff _ Database.waits_iff.symm

instance (p : PassengerId) : Decidable (db.bookings.Unbooked p f) :=
  decidable_of_iff _ Database.unbooked_iff.symm

instance (e : Waitlist) : Decidable (db.Eligible f e) :=
  inferInstanceAs (Decidable (_ ∧ _))

instance (s : Option SeatId) (seat : Seat) : Decidable (db.Offers f s seat) :=
  decidable_of_iff _ Database.offers_iff.symm

end Rows

/-- Entries are those of registered passengers on existing flights. -/
def Database.Registered (db : Database) : Prop :=
  ∀ i e, db.queue i = some e → e.passengerId ∈ db.passengers ∧ db.flights.get? e.flightId ≠ none

/-! ## Reads and writes without faults -/

section Actions

variable {f : FlightId} {ch : Choice} {w w' : World}

lemma exec_findOneWaitlist_waiting {r : Except AppException (Option Waitlist)}
    (hch : ch.fault = false)
    (h : World.exec (.findOneWaitlist { flightId := some f, status := some .waiting }) ch w =
      (r, w')) :
    w' = w ∧ ((r = .ok none ∧ ∀ e, ¬ w.db.Waits f e) ∨
      ∃ e, r = .ok (some e) ∧ Foremost (w.db.Waits f) e) := by
  have hmatches : ∀ e ∈ w.db.waitlist.rows, WaitlistWhere.Matches
      { flightId := some f, status := some .waiting } e ↔ w.db.Waits f e := by
    intro e he
    simp [WaitlistWhere.Matches, Database.waits_iff, he]
  simp only [World.exec, World.query, hch, Bool.false_eq_true, if_false] at h
  obtain ⟨rfl, rfl⟩ := Prod.mk.inj h
  refine ⟨rfl, ?_⟩
  cases hfound : w.db.waitlist.findOne (fun e => toLex (e.position, ch.rank e.id))
      (WaitlistWhere.Matches { flightId := some f, status := some .waiting }) with
  | none =>
      refine .inl ⟨rfl, fun e he => ?_⟩
      have hmem : e ∈ w.db.waitlist.rows := (Database.waits_iff.mp he).1
      exact (Table.findOne_eq_none_iff _ _ _).mp hfound e hmem ((hmatches e hmem).mpr he)
  | some e =>
      obtain ⟨hmem, he, hmin⟩ := Table.findOne_spec hfound
      refine .inr ⟨e, rfl, (hmatches e hmem).mp he, fun e' he' => ?_⟩
      have hmem' : e' ∈ w.db.waitlist.rows := (Database.waits_iff.mp he').1
      exact (Prod.Lex.toLex_le_toLex'.mp (hmin e' hmem' ((hmatches e' hmem').mpr he'))).1

lemma exec_findOneSeat_available {s : Option SeatId} {r : Except AppException (Option Seat)}
    (hch : ch.fault = false)
    (h : World.exec (.findOneSeat (WaitlistService.availableSeatWhere f s)) ch w = (r, w')) :
    w' = w ∧ ((r = .ok none ∧ ∀ seat, ¬ w.db.Offers f s seat) ∨
      ∃ seat, r = .ok (some seat) ∧ w.db.Offers f s seat) := by
  have hmatches : ∀ seat ∈ w.db.seats.rows,
      (WaitlistService.availableSeatWhere f s).Matches seat ↔ w.db.Offers f s seat := by
    intro seat hseat
    simp [SeatWhere.Matches, WaitlistService.availableSeatWhere, Database.offers_iff, hseat,
      and_comm, and_assoc]
  simp only [World.exec, World.query, hch, Bool.false_eq_true, if_false] at h
  obtain ⟨rfl, rfl⟩ := Prod.mk.inj h
  refine ⟨rfl, ?_⟩
  cases hfound : w.db.seats.findOne (fun seat => ch.rank seat.id)
      (WaitlistService.availableSeatWhere f s).Matches with
  | none =>
      refine .inl ⟨rfl, fun seat hseat => ?_⟩
      have hmem : seat ∈ w.db.seats.rows := (Database.offers_iff.mp hseat).1
      exact (Table.findOne_eq_none_iff _ _ _).mp hfound seat hmem ((hmatches seat hmem).mpr hseat)
  | some seat =>
      obtain ⟨hmem, hseat, -⟩ := Table.findOne_spec hfound
      exact .inr ⟨seat, rfl, (hmatches seat hmem).mp hseat⟩

/-- The compare-and-swap of an assignment misses only a seat that is not available. -/
lemma Tx.assignTransaction_missed {now t : Time} {entry : Waitlist} {seat row : Seat}
    {db db' : Database} (h : assignTransaction now entry seat f t db = .ok (false, db'))
    (hrow : db.seats.get? seat.id = some row) : row.status ≠ .available := by
  simp only [assignTransaction, run_bind, run_updateSeats, run_updateWaitlist, run_ite, run_pure,
    run_logWithTransaction] at h
  split at h
  · rename_i hmiss
    exact fun hst => (Table.count_eq_zero_iff _ _).mp hmiss _ _ hrow ⟨Table.key_of_get? hrow, hst⟩
  · split at h <;> cases h

/-- The transaction of an assignment fails only on its insert. -/
lemma Tx.assignTransaction_error {now t : Time} {entry : Waitlist} {seat : Seat} {db : Database}
    {e : AppException} (h : assignTransaction now entry seat f t db = .error e) :
    (∃ d ∈ db.checkIns.rows, d.passengerId = entry.passengerId ∧ d.flightId = f) ∨
      entry.passengerId ∉ db.passengers ∨ db.flights.get? f = none ∨
      db.seats.get? seat.id = none := by
  simp only [assignTransaction, run_bind, run_updateSeats, run_updateWaitlist, run_ite, run_pure,
    run_logWithTransaction] at h
  split at h
  · cases h
  · split at h
    · cases h
    · rename_i hins
      have hkeys := insertCheckIn_error hins
      rw [Table.get?_updateWhere, Option.map_eq_none_iff] at hkeys
      exact hkeys

/-- **An assignment of an available seat to the entry that has been read** fails if its passenger
has a check-in on the flight, and is committed otherwise. -/
lemma exec_assign {s : Option SeatId} {e : Waitlist} {seat : Seat} {t : Time}
    {r : Except AppException Bool} (hreg : w.db.Registered) (hch : ch.fault = false)
    (hhead : Foremost (w.db.Waits f) e) (hseat : w.db.Offers f s seat)
    (h : World.exec (.assign e seat f t) ch w = (r, w')) :
    ((∃ err, r = .error err) ∧ w' = w ∧ ¬ w.db.bookings.Unbooked e.passengerId f) ∨
      (r = .ok true ∧ w'.now = w.now ∧ w.db.bookings.Unbooked e.passengerId f ∧
        ∃ c, Assigned w.db w'.db e seat c t) := by
  obtain ⟨he, hf, hwaiting⟩ := hhead.1
  have ⟨hrow, hflight, havailable, _⟩ := hseat
  have h : w.transaction ch (Tx.assignTransaction w.now e seat f t) = (r, w') := h
  cases r with
  | error err =>
      obtain ⟨hbody, rfl⟩ := World.transaction_error hch h
      refine .inl ⟨⟨err, rfl⟩, rfl, fun hunbooked => ?_⟩
      obtain ⟨hp, hexists⟩ := hreg e.id e he
      rcases Tx.assignTransaction_error hbody with ⟨d, hd, hbooked⟩ | hnone | hnone | hnone
      · exact Database.unbooked_iff.mp hunbooked d hd hbooked
      · exact hnone hp
      · exact hexists (hf ▸ hnone)
      · cases hrow.symm.trans hnone
  | ok b =>
      rcases World.transaction_cases h with ⟨_, hr, -⟩ | ⟨b', db', hr, hbody, rfl⟩
      · cases hr
      · obtain rfl := Except.ok.inj hr
        rcases Tx.assignTransaction_ok hbody with ⟨rfl, -⟩ | ⟨rfl, ⟨row, hrow', hacq, hb⟩, -, hq⟩
        · exact absurd havailable (Tx.assignTransaction_missed hbody hrow)
        · obtain rfl : row = seat := Option.some_inj.mp (hrow'.symm.trans hrow)
          have hacq := hacq hflight
          refine .inr ⟨rfl, rfl, hacq.unique, _, hacq, rfl, ?_, hb⟩
          rw [Database.queue, hq]
          exact Table.get?_updateWhere_of_key _ he (Table.key_of_get? he) fun _ hr => hr

end Actions

/-! ## A handler that runs alone -/

/-- The seat has been assigned to the entry for the instant `t`, and the key of the new hold has
been set at `τ`. -/
structure World.Seats (w w' : World) (e : Waitlist) (seat : Seat) (c : CheckIn) (t τ : Time) :
    Prop where
  assigned : Assigned w.db w'.db e seat c t
  since : w.now ≤ t
  set : t ≤ τ
  past : τ ≤ w'.now
  key : w'.seatHolds seat.id = some (e.passengerId, τ + seatHoldTtl * 1000)

/-- What a handler leaves behind that has run alone. -/
def World.Serves (f : FlightId) (s : Option SeatId) (w w' : World) : Prop :=
  Handled f s w.db w'.db ∧ (w'.db = w.db ∨ ∃ e seat c t τ, Foremost (w.db.Waits f) e ∧
    w.db.Offers f s seat ∧ w.Seats w' e seat c t τ)

section Walks

open WaitlistService

variable {cfg : Settings} {f : FlightId} {s : Option SeatId} {w₀ w : World}

lemma World.Seats.tick {e : Waitlist} {seat : Seat} {c : CheckIn} {t τ : Time}
    (h : w₀.Seats w e seat c t τ) (ms : ℕ) : w₀.Seats (w.tick ms) e seat c t τ :=
  ⟨h.assigned, h.since, h.set, h.past.trans (Nat.le_add_right _ ms), h.key⟩

lemma World.lasting_serves : (skyHigh cfg).Lasting (w₀.Serves f s) := by
  rintro ms w ⟨hhandled, hsame | ⟨e, seat, c, t, τ, hhead, hseat, hseats⟩⟩
  · exact ⟨hhandled, .inl hsame⟩
  · exact ⟨hhandled, .inr ⟨e, seat, c, t, τ, hhead, hseat, hseats.tick ms⟩⟩

lemma wp_assignSeatToWaitlistPassenger {e : Waitlist} {seat : Seat} (hreg : w₀.db.Registered)
    (hhead : Foremost (w₀.db.Waits f) e) (hseat : w₀.db.Offers f s seat) (hw : w₀.SameData w) :
    (assignSeatToWaitlistPassenger e seat f).wp (unhindered cfg)
      (fun _ w' => w₀.Serves f s w') w := by
  refine unhindered_ok (R := fun t w' => w₀.SameData w' ∧ w₀.now ≤ t ∧ t ≤ w'.now)
    w₀.lasting_sameData hw (fun ch w₁ _ hw₁ => ⟨_, _, rfl, hw₁, hw₁.now, le_rfl⟩)
    fun t w₁ hw₁ => ?_
  have hlast : (skyHigh cfg).Lasting fun w' => w₀.SameData w' ∧ w₀.now ≤ t ∧ t ≤ w'.now :=
    fun ms w' h => ⟨w₀.lasting_sameData ms w' h.1, h.2.1, h.2.2.trans (Nat.le_add_right _ ms)⟩
  refine Prog.wp_bind (System.wp_lone hlast hw₁ fun ch w₂ r w₃ hch hw₂ he => ?_)
  obtain ⟨hsame, ht, hnow⟩ := hw₂
  rw [← hsame.db] at hreg hhead hseat
  rcases exec_assign hreg hch hhead hseat he with ⟨⟨err, rfl⟩, rfl, hbooked⟩ |
    ⟨rfl, hnow', hunbooked, c, hassigned⟩
  · rw [hsame.db] at hhead hbooked
    exact ⟨.refused hhead hbooked hsame.db, .inl hsame.db⟩
  · rw [hsame.db] at hhead hseat hunbooked hassigned
    have hw₃ : Assigned w₀.db w₃.db e seat c t ∧ t ≤ w₃.now := ⟨hassigned, hnow'.symm ▸ hnow⟩
    have hlast' : (skyHigh cfg).Lasting fun w' => Assigned w₀.db w'.db e seat c t ∧ t ≤ w'.now :=
      fun ms w' h => ⟨h.1, h.2.trans (Nat.le_add_right _ ms)⟩
    have hseats : ∀ τ, (skyHigh cfg).Lasting fun w' => w₀.Seats w' e seat c t τ :=
      fun τ ms w' h => h.tick ms
    refine unhindered_ok (R := fun _ w' => ∃ τ, w₀.Seats w' e seat c t τ) hlast' hw₃
      (fun ch w₄ hch hw₄ => ⟨_, _, World.redis_ok hch _ _, w₄.now, ?_⟩) fun _ w₄ hw₄ => ?_
    · exact ⟨hw₄.1, ht, hw₄.2, le_rfl, Function.update_self ..⟩
    obtain ⟨τ, hw₄⟩ := hw₄
    refine unhindered_ok (R := fun _ w' => w₀.Seats w' e seat c t τ) (hseats τ) hw₄
      (fun ch w₅ hch hw₅ => ⟨_, _, World.redis_ok hch _ _, hw₅.assigned, hw₅.since, hw₅.set,
        hw₅.past, hw₅.key⟩) fun _ w₅ hw₅ => ?_
    refine System.wp_lone (hseats τ) hw₅ fun ch w₆ r w₇ _ hw₆ he => ?_
    obtain ⟨rfl, rfl⟩ := Prod.mk.inj he
    exact ⟨.assigned hhead ⟨hhead.1, hunbooked⟩ hseat hw₆.assigned, .inr ⟨e, seat, c, t, τ, hhead,
      hseat, hw₆.assigned, hw₆.since, hw₆.set, hw₆.past, hw₆.key⟩⟩

lemma wp_processWaitlistWithinLock (hreg : w₀.db.Registered) (hw : w₀.SameData w) :
    (processWaitlistWithinLock f s).wp (unhindered cfg) (fun _ w' => w₀.Serves f s w') w := by
  have hlast : (skyHigh cfg).Lasting w₀.SameData := w₀.lasting_sameData
  refine Prog.wp_bind (System.wp_lone hlast hw fun ch w₁ r w₂ hch hw₁ he => ?_)
  obtain ⟨rfl, ⟨rfl, hnone⟩ | ⟨e, rfl, hhead⟩⟩ := exec_findOneWaitlist_waiting hch he
  · rw [hw₁.db] at hnone
    exact ⟨.nobody hnone hw₁.db, .inl hw₁.db⟩
  · refine Prog.wp_bind (System.wp_lone hlast hw₁ fun ch' w₃ r w₄ hch' hw₃ he' => ?_)
    rw [hw₁.db] at hhead
    obtain ⟨rfl, ⟨rfl, hnone⟩ | ⟨seat, rfl, hseat⟩⟩ := exec_findOneSeat_available hch' he'
    · rw [hw₃.db] at hnone
      exact ⟨.nothing hnone hw₃.db, .inl hw₃.db⟩
    · rw [hw₃.db] at hseat
      exact wp_assignSeatToWaitlistPassenger hreg hhead hseat hw₃

/-- **What a handler does that runs alone with its lock granted.** -/
theorem wp_processWaitlist (hreg : w.db.Registered) :
    (processWaitlist f s).wp (unhindered cfg) (fun _ w' => w.Serves f s w') w := by
  refine (Prog.wp_andThen _ _ _ _).mpr
    (System.wp_lone w.lasting_sameData (.refl w) fun ch w₁ r w₂ hch hw₁ he => ?_)
  obtain ⟨rfl, rfl⟩ := Prod.mk.inj ((World.exec_acquireLock hch _).symm.trans he)
  refine Prog.wp_tryFinally (Prog.wp_mono (fun r w₂ hw₂ => ?_)
    (wp_processWaitlistWithinLock hreg hw₁))
  refine System.wp_lone World.lasting_serves hw₂ fun ch w₃ r' w₄ hch hw₃ he => ?_
  obtain ⟨rfl, rfl⟩ := Prod.mk.inj ((World.exec_releaseLock hch _).symm.trans he)
  exact hw₃

end Walks

/-! ## Who is served -/

/-- The eligible entry of smallest position has been given an available seat of the flight. -/
def Served (f : FlightId) (db db' : Database) : Prop :=
  ∃ e seat c t, Foremost (db.Eligible f) e ∧ db.Offers f none seat ∧ Assigned db db' e seat c t

/-- The WAITING entry of smallest position is eligible. -/
def Database.HeadEligible (db : Database) (f : FlightId) : Prop :=
  ∀ e, Foremost (db.Waits f) e → db.bookings.Unbooked e.passengerId f

lemma Foremost.eq {db : Database} {f : FlightId} {e e' : Waitlist} (hdistinct : db.queue.Distinct f)
    (h : Foremost (db.Waits f) e) (h' : Foremost (db.Waits f) e') : e = e' := by
  have hpos : e.position = e'.position := le_antisymm (h.2 e' h'.1) (h'.2 e h.1)
  have hid := hdistinct _ _ e e' h.1.1 h'.1.1 h.1.2.1 h'.1.2.1 hpos
  exact Option.some_inj.mp (h.1.1.symm.trans (hid ▸ h'.1.1))

/-- An assignment changes the queue. -/
lemma Assigned.queue_ne {db db' : Database} {f : FlightId} {e : Waitlist} {seat : Seat}
    {c : CheckIn} {t : Time} (h : Assigned db db' e seat c t) (he : db.Waits f e) :
    db'.queue ≠ db.queue := by
  intro hsame
  have hrow : db'.queue e.id = some { e with status := .assigned } := by
    rw [h.queue]
    exact Function.update_self ..
  rw [hsame, he.1] at hrow
  have hst := congrArg Waitlist.status (Option.some_inj.mp hrow)
  cases he.2.2.symm.trans hst

/-- The eligible entry of smallest position is served exactly if it is the head of the queue. -/
lemma Handled.served_iff {f : FlightId} {db db' : Database} (h : Handled f none db db')
    (hdistinct : db.queue.Distinct f) (hseat : ∃ seat, db.Offers f none seat)
    (heligible : ∃ e, db.Eligible f e) : Served f db db' ↔ db.HeadEligible f := by
  obtain ⟨seat, hseat⟩ := hseat
  obtain ⟨e, he⟩ := heligible
  cases h with
  | nobody hnone _ => exact absurd he.1 (hnone e)
  | nothing hnone _ => exact absurd hseat (hnone seat)
  | refused hhead hbooked hsame =>
      refine iff_of_false ?_ fun h => hbooked (h _ hhead)
      rintro ⟨e', seat', c, t, hfirst, -, hassigned⟩
      exact hassigned.queue_ne hfirst.1.1 (congrArg Database.queue hsame)
  | assigned hhead heligible hseat hassigned =>
      refine iff_of_true ⟨_, _, _, _, ⟨heligible, fun e' he' => hhead.2 e' he'.1⟩, hseat,
        hassigned⟩ fun e' he' => ?_
      rw [← hhead.eq hdistinct he']
      exact heligible.2

/-! ## Runs -/

section Runs

variable {cfg : Settings} {w : World} {ts us : List SkyTransition} {c c₁ c' : SkyConfig}
  {f : FlightId}

/-- A join inserts entries of registered passengers on existing flights only. -/
lemma registered_insert {p : PassengerId} {n : ℕ} {ch : Choice} {w w' : World}
    {r : Except AppException Waitlist} (h : World.exec (.insertWaitlist f p n) ch w = (r, w'))
    (hok : (Action.insertWaitlist f p n).enlisted r = true) :
    p ∈ w.db.passengers ∧ w.db.flights.get? f ≠ none := by
  rcases World.transaction_cases h with ⟨_, rfl, -⟩ | ⟨e, db', rfl, hbody, -⟩
  · cases hok
  · obtain ⟨-, -, hp, hf, -⟩ := Tx.insertWaitlist_ok hbody
    exact ⟨hp, hf⟩

/-- No transition changes the passengers or the flights. -/
lemma Justified.static {t : SkyTransition} (ht : Justified cfg t) :
    t.post.state.db.passengers = t.pre.state.db.passengers ∧
      t.post.state.db.flights = t.pre.state.db.flights := by
  cases ht.effect with
  | quiet _ hquiet => exact ⟨hquiet.2.passengers, hquiet.2.flights⟩
  | commit _ _ _ hlogs => exact ⟨hlogs.passengers, hlogs.flights⟩

lemma run_registered (hw : w.Seeded) (h : (skyHigh cfg).Run (.init w) ts c) :
    c.state.db.Registered := by
  induction h with
  | nil =>
      intro i e he
      simp [Config.init, Database.queue, hw.waitlist] at he
  | @snoc ts c l c' hrun hstep ih =>
      have hjust : Justified cfg ⟨c, l, c'⟩ := run_justified hw (hrun.snoc hstep) _ (by simp)
      obtain ⟨hpassengers, hflights⟩ := hjust.static
      intro i e' he'
      rw [hpassengers, hflights]
      cases step_requeues hw hrun hstep with
      | same _ heq =>
          have hqueue : c'.state.db.queue = c.state.db.queue := congrArg Table.get? heq
          exact ih i e' (hqueue ▸ he')
      | @write a hsome _ hwrite =>
          rcases hwrite.backward he' with ⟨e, he, hf, hp, -⟩ | ⟨-, rfl⟩
          · rw [hf, hp]
            exact ih i e he
          · obtain ⟨k, ch, call, cont, rfl, hk⟩ := next_of_requeued? hsome
            have hok : (Action.insertWaitlist e'.flightId e'.passengerId e'.position).enlisted
                (World.exec (.insertWaitlist e'.flightId e'.passengerId e'.position) ch
                  c.state).1 = true := by
              by_contra hno
              simp [requeued?, hk, hno] at hsome
            exact registered_insert rfl hok

/-- A handler that runs alone and without faults. -/
lemma serves_of_solo (hw : w.Seeded) (h : (skyHigh cfg).Run (.init w) ts c) {s : Option SeatId}
    {r : Except AppException Reply} (hsolo : (skyHigh cfg).Solo c (.processWaitlist f s) us r c')
    (hfaultless : ∀ t ∈ us, Faultless t) : c.state.Serves f s c'.state :=
  hsolo.outcome (fun t ht i ch hl => hfaultless t ht i ch hl) (fun _ => World.lasting_serves)
    (Prog.wp_map (wp_processWaitlist (run_registered hw h)))

/-- **When the waitlist serves an eligible passenger.**  After complete operations, if flight `f`
has an available seat and an eligible entry, a handler that runs alone comes to its end, and it
serves the eligible entry of smallest position exactly if the WAITING entry of smallest position
is eligible. -/
theorem processWaitlist_serves_iff (hw : w.Seeded) (h : (skyHigh cfg).Run (.init w) ts c)
    (hseq : Sequential ts) (hquiet : c.quiescent) (hseat : ∃ seat, c.state.db.Offers f none seat)
    (heligible : ∃ e, c.state.db.Eligible f e)
    (hcall : (skyHigh cfg).step (.invoke (.processWaitlist f none)) c = some c₁) :
    (∃ us c', (skyHigh cfg).Run c₁ us c' ∧ Closed us ∧ (∀ t ∈ us, Faultless t) ∧ c'.quiescent) ∧
      ∀ us c', (skyHigh cfg).Run c₁ us c' → Closed us → (∀ t ∈ us, Faultless t) → c'.quiescent →
        (Served f c.state.db c'.state.db ↔ c.state.db.HeadEligible f) := by
  constructor
  · obtain rfl : _ = c₁ := Option.some_inj.mp hcall
    obtain ⟨us, c', -, hrun, hlabels, -, hend⟩ := System.exists_run_to_end (skyHigh cfg) {}
      ((skyHigh cfg).start (.processWaitlist f none)) _ List.getElem?_concat_length (hquiet.only _)
    refine ⟨us, c', hrun, fun t ht call hl => ?_, fun t ht i ch hl => ?_, hend⟩
    · cases (hlabels t ht).symm.trans hl
    · cases (hlabels t ht).symm.trans hl
      rfl
  · intro us c' hrun hclosed hfaultless hend
    obtain rfl : _ = c₁ := Option.some_inj.mp hcall
    obtain ⟨r, hsolo⟩ := System.Solo.of_run hquiet hrun hclosed hend
    exact (serves_of_solo hw h hsolo hfaultless).1.served_iff (run_distinct hw h hseq f) hseat
      heligible

end Runs

/-- Passenger 1 joins the waitlist. -/
def join : List SkyLabel := [.invoke (.joinWaitlist 1 10)] ++ proceed 0 5

/-- The only passenger on the waitlist is served. -/
theorem processWaitlist_serves_join : ∃ ts c c₁ us c', (skyHigh {}).Run (.init oneSeatWorld) ts c ∧
    (skyHigh {}).step (.invoke (.processWaitlist 10 none)) c = some c₁ ∧
    (skyHigh {}).Run c₁ us c' ∧ c'.quiescent ∧ Served 10 c.state.db c'.state.db := by
  obtain ⟨ts, c, hrun, htest⟩ := exists_run join (fun ts c => ts.all issuedAlone && ended c &&
    decide (∃ seat ∈ c.state.db.seats.rows, c.state.db.Offers 10 none seat) &&
    decide (∃ e ∈ c.state.db.waitlist.rows, c.state.db.Eligible 10 e) &&
    decide (c.state.db.checkIns.rows = [])) (by decide +kernel)
  simp only [Bool.and_eq_true, decide_eq_true_eq] at htest
  obtain ⟨⟨⟨⟨hseq, hended⟩, seat, -, hseat⟩, e, -, he⟩, hcheckIns⟩ := htest
  obtain ⟨⟨us, c', hrun', hclosed, hfaultless, hend⟩, hiff⟩ := processWaitlist_serves_iff
    oneSeatWorld_seeded hrun (sequential_of_issuedAlone hseq) (quiescent_of_ended hended)
    ⟨seat, hseat⟩ ⟨e, he⟩ rfl
  refine ⟨ts, c, _, us, c', hrun, rfl, hrun', hend,
    (hiff us c' hrun' hclosed hfaultless hend).mpr ?_⟩
  intro e' _
  rw [Database.unbooked_iff, hcheckIns]
  simp

/-- Passenger 1 takes the seat, both passengers join the waitlist, and passenger 1 cancels. -/
def joinThenCancel : List SkyLabel :=
  start ++ [.invoke (.joinWaitlist 1 10)] ++ proceed 1 5 ++ [.invoke (.joinWaitlist 2 10)] ++
  proceed 2 5 ++ [.invoke (.cancelCheckIn 1 1)] ++ proceed 3 7

/-- **Passenger 2 is not served**, because the entry of passenger 1, who has a cancelled check-in,
stays at the head of the queue. -/
theorem processWaitlist_starves : ∃ ts c c₁ us c', oneSeatWorld.Seeded ∧
    (skyHigh {}).Run (.init oneSeatWorld) ts c ∧ Sequential ts ∧ (∀ t ∈ ts, Faultless t) ∧
    c.quiescent ∧ (∃ seat, c.state.db.Offers 10 none seat) ∧ (∃ e, c.state.db.Eligible 10 e) ∧
    (skyHigh {}).step (.invoke (.processWaitlist 10 none)) c = some c₁ ∧
    (skyHigh {}).Run c₁ us c' ∧ Closed us ∧ (∀ t ∈ us, Faultless t) ∧ c'.quiescent ∧
    ¬ Served 10 c.state.db c'.state.db := by
  obtain ⟨ts, c, c₁, us, c', hrun, hcall, hrun', htest⟩ :=
    exists_run_call joinThenCancel (.processWaitlist 10 none) (proceed 4 6) (fun ts c us c' =>
      ts.all issuedAlone && ts.all faultless && ended c && us.all faultless && ended c' &&
      decide (us.flatMap (fun t => t.label.issued) = []) &&
      decide (∃ seat ∈ c.state.db.seats.rows, c.state.db.Offers 10 none seat) &&
      decide (∃ e ∈ c.state.db.waitlist.rows, c.state.db.Eligible 10 e) &&
      decide (c'.state.db.waitlist.rows = c.state.db.waitlist.rows)) (by decide +kernel)
  simp only [Bool.and_eq_true, decide_eq_true_eq] at htest
  obtain ⟨⟨⟨⟨⟨⟨⟨⟨hseq, hfaultless⟩, hended⟩, hfaultless'⟩, hended'⟩, hissued⟩, seat, -, hseat⟩,
    e, -, he⟩, hrows⟩ := htest
  refine ⟨ts, c, c₁, us, c', oneSeatWorld_seeded, hrun, sequential_of_issuedAlone hseq,
    faultless_of_all hfaultless, quiescent_of_ended hended, ⟨seat, hseat⟩, ⟨e, he⟩, hcall, hrun',
    closed_of_issued hissued, faultless_of_all hfaultless', quiescent_of_ended hended', ?_⟩
  rintro ⟨e', seat', d, t, hfirst, -, hassigned⟩
  exact hassigned.queue_ne hfirst.1.1 (congrArg Table.get? (Table.ext hrows))

end SkyHighCore
