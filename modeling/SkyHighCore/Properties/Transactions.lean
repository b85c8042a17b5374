import SkyHighCore.Properties.Bookings

/-!
# What a committed transaction has done

One lemma for each transaction of `Construction/Database.lean`: if it commits, which guard it
has passed and what the tables are afterwards.
-/

namespace SkyHighCore

open Framework

namespace Tx

/-! ## Running a transaction body -/

lemma run_bind {α β : Type} (x : Tx α) (f : α → Tx β) (db : Database) :
    (x >>= f) db = match x db with
      | .ok (a, db') => f a db'
      | .error e => .error e := by
  show (StateT.bind x f db) = _
  unfold StateT.bind
  cases x db <;> rfl

lemma run_pure {α : Type} (a : α) (db : Database) : (pure a : Tx α) db = .ok (a, db) := rfl

lemma run_throw {α : Type} (e : AppException) (db : Database) :
    (throw e : Tx α) db = .error e := rfl

lemma run_ite {α : Type} (c : Prop) [Decidable c] (x y : Tx α) (db : Database) :
    (if c then x else y) db = if c then x db else y db := by
  split <;> rfl

lemma run_updateSeats (p : Seat → Prop) [DecidablePred p] (f : Seat → Seat)
    (hf : ∀ r, key (f r) = key r) (db : Database) : updateSeats p f hf db =
      .ok (db.seats.count p, { db with seats := db.seats.updateWhere p f hf }) := rfl

lemma run_updateCheckIns (p : CheckIn → Prop) [DecidablePred p] (f : CheckIn → CheckIn)
    (hf : ∀ r, key (f r) = key r) (db : Database) : updateCheckIns p f hf db =
      .ok (db.checkIns.count p, { db with checkIns := db.checkIns.updateWhere p f hf }) := rfl

lemma run_updateWaitlist (p : Waitlist → Prop) [DecidablePred p] (f : Waitlist → Waitlist)
    (hf : ∀ r, key (f r) = key r) (db : Database) : updateWaitlist p f hf db =
      .ok (db.waitlist.count p, { db with waitlist := db.waitlist.updateWhere p f hf }) := rfl

lemma run_logWithTransaction (dto : AuditLog) (db : Database) :
    logWithTransaction dto db = .ok ((), { db with auditLog := db.auditLog ++ [dto] }) := rfl

/-- An insert into `check_in` that succeeds has passed the constraints of the table. -/
lemma insertCheckIn_ok {now : Time} {p : PassengerId} {f : FlightId} {s : SeatId}
    {db db' : Database} {c : CheckIn} (h : insertCheckIn now p f s db = .ok (c, db')) :
    (∀ d ∈ db.checkIns.rows, ¬ (d.passengerId = p ∧ d.flightId = f)) ∧
      c = newCheckIn now p f s db ∧
      ∃ hfresh, db' = { db with checkIns := db.checkIns.insert c hfresh } := by
  unfold insertCheckIn at h
  split at h
  · cases h
  · split at h
    · cases h
    · rename_i hunique _
      cases h
      exact ⟨fun d hd hpf => hunique ⟨d, hd, hpf⟩, rfl, Table.get?_freshKey _, rfl⟩

/-- An insert that succeeds has found its keys. -/
lemma insertCheckIn_keys {now : Time} {p : PassengerId} {f : FlightId} {s : SeatId}
    {db db' : Database} {c : CheckIn} (h : insertCheckIn now p f s db = .ok (c, db')) :
    p ∈ db.passengers ∧ db.flights.get? f ≠ none := by
  unfold insertCheckIn at h
  split at h
  · cases h
  · split at h
    · cases h
    · rename_i hkeys
      simp only [not_or, not_not] at hkeys
      exact ⟨hkeys.1, hkeys.2.1⟩

/-- An insert that fails has met a row of the passenger, or a key that is not there. -/
lemma insertCheckIn_error {now : Time} {p : PassengerId} {f : FlightId} {s : SeatId}
    {db : Database} {e : AppException} (h : insertCheckIn now p f s db = .error e) :
    (∃ d ∈ db.checkIns.rows, d.passengerId = p ∧ d.flightId = f) ∨ p ∉ db.passengers ∨
      db.flights.get? f = none ∨ db.seats.get? s = none := by
  unfold insertCheckIn at h
  split at h
  · exact .inl ‹_›
  · split at h
    · exact .inr ‹_›
    · cases h

lemma run_forM_some {α : Type} {a : α} {f : α → Tx Unit} (db : Database) :
    (some a).forM f db = f a db := rfl

lemma run_forM_none {α : Type} {f : α → Tx Unit} (db : Database) :
    (none : Option α).forM f db = .ok ((), db) := rfl

lemma numeric_ok {limit x y : ℚ} {db db' : Database} (h : numeric limit x db = .ok (y, db')) :
    y = numericScale2 x ∧ db' = db := by
  unfold numeric at h
  split at h
  · cases h
    exact ⟨rfl, rfl⟩
  · cases h

lemma numeric_fits {limit x y : ℚ} {db db' : Database} (h : numeric limit x db = .ok (y, db')) :
    |numericScale2 x| < limit := by
  unfold numeric at h
  split at h
  · assumption
  · cases h

lemma varchar100_ok {s t : Option String} {db db' : Database}
    (h : varchar100 s db = .ok (t, db')) : t = s ∧ db' = db := by
  unfold varchar100 at h
  split at h
  · cases h
    exact ⟨rfl, rfl⟩
  · cases h

end Tx

/-! ## The trail of the audit log -/

/-- The actions that report a write to a seat or a check-in. -/
def AuditAction.ofBooking : AuditAction → Bool
  | .seatHeld | .seatConfirmed | .seatReleased | .seatCancelled | .waitlistAssigned
  | .checkInCompleted | .checkInCancelled => true
  | .waitlistJoined | .paymentRequested | .paymentConfirmed => false

/-- What the audit rows on seats and check-ins report, in the order in which they were
written. -/
def Database.trail (db : Database) : List (AuditAction × Uuid) :=
  (db.auditLog.filter fun l => l.action.ofBooking).map fun l => (l.action, l.entityId)

/-- What no transaction on seats and check-ins writes, and what it has reported. -/
structure Database.Logs (db db' : Database) (added : List (AuditAction × Uuid)) : Prop where
  passengers : db'.passengers = db.passengers
  flights : db'.flights = db.flights
  trail : db'.trail = db.trail ++ added

namespace Tx

/-! ## Acquiring a seat -/

/-- The compare-and-swap of an acquisition on a seat that is available. -/
lemma seats_acquire {db : Database} {s : SeatId} {seat : Seat} (p : PassengerId) (t : Time)
    (hseat : db.seats.get? s = some seat) (havailable : seat.status = .available) :
    (db.seats.updateWhere (fun r => r.id = s ∧ r.status = .available)
      fun r => { r with status := .held, heldBy := some p, heldAt := some t }).get? =
      Function.update db.seats.get? s (some (seat.heldFor p t)) :=
  Table.get?_updateWhere_of_key _ hseat ⟨Table.key_of_get? hseat, havailable⟩ fun _ hr => hr.1

/-- The compare-and-swap of an acquisition and the insert that follows it. -/
lemma bookings_acquire {db db' : Database} {s : SeatId} {t : Time} {seat : Seat} {c : CheckIn}
    (hfresh : db.checkIns.get? (key c) = none) (hseat : db.seats.get? s = some seat)
    (havailable : seat.status = .available)
    (hseats : db'.seats = db.seats.updateWhere (fun r => r.id = s ∧ r.status = .available)
      fun r => { r with status := .held, heldBy := some c.passengerId, heldAt := some t })
    (hcheckIns : db'.checkIns = db.checkIns.insert c hfresh) :
    db'.bookings = db.bookings.acquired s seat c t := by
  rw [Database.bookings, hseats, hcheckIns, Table.get?_insert_eq,
    seats_acquire c.passengerId t hseat havailable]
  rfl

lemma available_of_count {db : Database} {s : SeatId}
    (h : db.seats.count (fun r => r.id = s ∧ r.status = .available) ≠ 0) :
    ∃ seat, db.seats.get? s = some seat ∧ seat.status = .available := by
  obtain ⟨seat, hseat, -, hst⟩ := Table.exists_of_count_ne_zero _ (fun r hr => hr.1) h
  exact ⟨seat, hseat, hst⟩

/-- The row that is inserted for an available seat, once the unique constraint lets it pass. -/
lemma acquirable {db : Database} {now : Time} {p : PassengerId} {f : FlightId} {s : SeatId}
    {seat : Seat} (hseat : db.seats.get? s = some seat) (havailable : seat.status = .available)
    (hunique : ∀ d ∈ db.checkIns.rows, ¬ (d.passengerId = p ∧ d.flightId = f))
    (hflight : seat.flightId = f) :
    db.bookings.Acquirable s seat (newCheckIn now p f s db) where
  row := hseat
  available := havailable
  fresh := Table.get?_freshKey _
  unique := (Table.forall_rows_iff _).mp hunique
  flight := hflight.symm
  seatId := rfl
  status := rfl
  unpaid := ⟨rfl, rfl, rfl⟩

theorem holdSeatTransaction_ok {now t : Time} {p : PassengerId} {f : FlightId} {s : SeatId}
    {c : CheckIn} {db db' : Database} (h : holdSeatTransaction now p f s t db = .ok (c, db')) :
    c = newCheckIn now p f s db ∧ (∃ seat, db.seats.get? s = some seat ∧
      (seat.flightId = f → db.bookings.Acquirable s seat c) ∧
      db'.bookings = db.bookings.acquired s seat c t) ∧
      db.Logs db' [(.seatHeld, s)] ∧ db'.waitlist = db.waitlist := by
  simp only [holdSeatTransaction, run_bind, run_updateSeats, run_ite, run_throw, run_pure,
    run_logWithTransaction] at h
  split at h
  · cases h
  · rename_i hcas
    obtain ⟨seat, hseat, hav⟩ := available_of_count hcas
    split at h
    · rename_i c' db₂ hins
      cases h
      obtain ⟨hunique, hc, hfresh, rfl⟩ := insertCheckIn_ok hins
      obtain rfl : c = newCheckIn now p f s db := hc
      exact ⟨rfl, ⟨seat, hseat, acquirable hseat hav hunique,
        bookings_acquire hfresh hseat hav rfl rfl⟩,
        ⟨rfl, rfl, by simp [Database.trail, AuditAction.ofBooking]⟩, rfl⟩
    · cases h

theorem assignTransaction_ok {now t : Time} {entry : Waitlist} {seat₀ : Seat} {f : FlightId}
    {b : Bool} {db db' : Database}
    (h : assignTransaction now entry seat₀ f t db = .ok (b, db')) :
    (b = false ∧ db' = db) ∨
    (b = true ∧ (∃ seat, db.seats.get? seat₀.id = some seat ∧
      (seat.flightId = f → db.bookings.Acquirable seat₀.id seat
        (newCheckIn now entry.passengerId f seat₀.id db)) ∧
      db'.bookings = db.bookings.acquired seat₀.id seat
        (newCheckIn now entry.passengerId f seat₀.id db) t) ∧
      db.Logs db' [(.waitlistAssigned, entry.id)] ∧
      db'.waitlist = db.waitlist.updateWhere (fun e => e.id = entry.id)
        fun e => { e with status := .assigned }) := by
  simp only [assignTransaction, run_bind, run_updateSeats, run_updateWaitlist, run_ite, run_pure,
    run_logWithTransaction] at h
  split at h
  · rename_i hcas
    cases h
    exact .inl ⟨rfl, by rw [Table.updateWhere_of_count_eq_zero _ hcas]⟩
  · rename_i hcas
    obtain ⟨seat, hseat, hav⟩ := available_of_count hcas
    split at h
    · rename_i c' db₂ hins
      cases h
      obtain ⟨hunique, hc, hfresh, rfl⟩ := insertCheckIn_ok hins
      obtain rfl : c' = newCheckIn now entry.passengerId f seat₀.id db := hc
      exact .inr ⟨rfl, ⟨seat, hseat, acquirable hseat hav hunique,
        bookings_acquire hfresh hseat hav rfl rfl⟩,
        ⟨rfl, rfl, by simp [Database.trail, AuditAction.ofBooking]⟩, rfl⟩
    · cases h

/-! ## Paying, completing, cancelling -/

/-- An update by id of a row that exists. -/
lemma checkIns_updateWhere {db : Database} {i : CheckInId} {c : CheckIn} {f : CheckIn → CheckIn}
    {hf : ∀ r, key (f r) = key r} (hc : db.checkIns.get? i = some c) :
    (db.checkIns.updateWhere (fun r => r.id = i) f hf).get? =
      Function.update db.checkIns.get? i (some (f c)) :=
  Table.get?_updateWhere_of_key _ hc (Table.key_of_get? hc) fun _ h => h

lemma seats_updateWhere {db : Database} {s : SeatId} {seat : Seat} {f : Seat → Seat}
    {hf : ∀ r, key (f r) = key r} (hseat : db.seats.get? s = some seat) :
    (db.seats.updateWhere (fun r => r.id = s) f hf).get? =
      Function.update db.seats.get? s (some (f seat)) :=
  Table.get?_updateWhere_of_key _ hseat (Table.key_of_get? hseat) fun _ h => h

theorem awaitPaymentUpdate_ok {checkIn c : CheckIn} {weight fee : ℚ} {u : Unit}
    {db db' : Database} (h : awaitPaymentUpdate checkIn weight fee db = .ok (u, db'))
    (hc : db.checkIns.get? checkIn.id = some c) :
    db'.bookings = db.bookings.awaiting checkIn.id c (numericScale2 weight)
        (numericScale2 fee) ∧
      db.Logs db' [] ∧ db'.waitlist = db.waitlist := by
  simp only [awaitPaymentUpdate, run_bind, run_updateCheckIns, run_pure, numeric52,
    numeric102] at h
  split at h
  · rename_i w db₁ hw
    obtain ⟨rfl, rfl⟩ := numeric_ok hw
    split at h
    · rename_i y db₂ hfee
      obtain ⟨rfl, rfl⟩ := numeric_ok hfee
      cases h
      refine ⟨?_, ⟨rfl, rfl, by simp [Database.trail, AuditAction.ofBooking]⟩, rfl⟩
      rw [Database.bookings, checkIns_updateWhere hc]
      rfl
    · cases h
  · cases h

/-- A pause has stored the weight. -/
lemma awaitPaymentUpdate_fits {checkIn : CheckIn} {weight fee : ℚ} {u : Unit} {db db' : Database}
    (h : awaitPaymentUpdate checkIn weight fee db = .ok (u, db')) :
    |numericScale2 weight| < 1000 := by
  simp only [awaitPaymentUpdate, run_bind, numeric52] at h
  split at h
  · rename_i hw
    exact numeric_fits hw
  · cases h

/-- With a weight and a fee that fit their columns, a pause does not fail. -/
lemma awaitPaymentUpdate_commits (checkIn : CheckIn) (db : Database) {weight fee : ℚ}
    (hweight : |numericScale2 weight| < 1000) (hfee : |numericScale2 fee| < 100000000) :
    ∃ db', awaitPaymentUpdate checkIn weight fee db = .ok ((), db') := by
  have hw : ∀ db' : Database, numeric 1000 weight db' = .ok (numericScale2 weight, db') :=
    fun _ => if_pos hweight
  have hf : ∀ db' : Database, numeric 100000000 fee db' = .ok (numericScale2 fee, db') :=
    fun _ => if_pos hfee
  simp only [awaitPaymentUpdate, run_bind, run_updateCheckIns, run_pure, numeric52, numeric102,
    hw, hf]
  exact ⟨_, rfl⟩

/-- With a weight that fits its column, a completion fails only on the length of the transaction
id. -/
lemma completeTransaction_isOk (checkIn : CheckIn) (db : Database) {weight : ℚ}
    {paymentId : Option String} (hweight : |numericScale2 weight| < 1000) :
    (completeTransaction checkIn weight paymentId db).isOk = true ↔
      ∀ t ∈ paymentId, t.length ≤ 100 := by
  have hnumeric : ∀ db' : Database,
      numeric 1000 weight db' = .ok (numericScale2 weight, db') := fun _ => if_pos hweight
  by_cases hid : ∀ t ∈ paymentId, t.length ≤ 100
  · have hvarchar : ∀ db' : Database, varchar100 paymentId db' = .ok (paymentId, db') :=
      fun _ => if_pos hid
    refine iff_of_true ?_ hid
    cases hs : checkIn.seatId with
    | none =>
        simp only [completeTransaction, hs, run_bind, run_forM_none, run_updateCheckIns,
          run_logWithTransaction, numeric52, hnumeric, hvarchar]
        rfl
    | some s =>
        simp only [completeTransaction, hs, run_bind, run_forM_some, run_updateSeats,
          run_updateCheckIns, run_logWithTransaction, numeric52, hnumeric, hvarchar]
        rfl
  · have hvarchar : ∀ db' : Database,
        varchar100 paymentId db' = .error (.queryFailed .stringTooLong) := fun _ => if_neg hid
    refine iff_of_false ?_ hid
    cases hs : checkIn.seatId with
    | none =>
        simp only [completeTransaction, hs, run_bind, run_forM_none, numeric52, hnumeric, hvarchar]
        exact Bool.false_ne_true
    | some s =>
        simp only [completeTransaction, hs, run_bind, run_forM_some, run_updateSeats,
          run_logWithTransaction, numeric52, hnumeric, hvarchar]
        exact Bool.false_ne_true

theorem completeTransaction_ok {checkIn c : CheckIn} {s : SeatId} {seat : Seat} {weight : ℚ}
    {paymentId : Option String} {u : Unit} {db db' : Database}
    (h : completeTransaction checkIn weight paymentId db = .ok (u, db'))
    (hs : checkIn.seatId = some s) (hc : db.checkIns.get? checkIn.id = some c)
    (hseat : db.seats.get? s = some seat) :
    db'.bookings = db.bookings.completed checkIn.id c s seat (numericScale2 weight)
        paymentId ∧
      db.Logs db' [(.seatConfirmed, s), (.checkInCompleted, checkIn.id)] ∧
      db'.waitlist = db.waitlist := by
  simp only [completeTransaction, hs, run_bind, run_forM_some, run_updateSeats,
    run_updateCheckIns, run_logWithTransaction, numeric52] at h
  split at h
  · rename_i w db₁ hw
    obtain ⟨rfl, rfl⟩ := numeric_ok hw
    split at h
    · rename_i pid db₂ hp
      obtain ⟨rfl, rfl⟩ := varchar100_ok hp
      cases h
      refine ⟨?_, ⟨rfl, rfl, by simp [Database.trail, AuditAction.ofBooking]⟩, rfl⟩
      rw [Database.bookings, checkIns_updateWhere hc, seats_updateWhere hseat]
      rfl
    · cases h
  · cases h

theorem cancelTransaction_ok {checkIn c : CheckIn} {i : CheckInId} {p : PassengerId} {s : SeatId}
    {seat : Seat} {u : Unit} {db db' : Database}
    (h : cancelTransaction checkIn i p db = .ok (u, db')) (hs : checkIn.seatId = some s)
    (hc : db.checkIns.get? i = some c) (hseat : db.seats.get? s = some seat) :
    db'.bookings = db.bookings.cancelled i c s seat ∧
      db.Logs db' [(.seatCancelled, s), (.checkInCancelled, i)] ∧
      db'.waitlist = db.waitlist := by
  simp only [cancelTransaction, hs, run_bind, run_forM_some, run_updateSeats,
    run_updateCheckIns, run_logWithTransaction] at h
  cases h
  refine ⟨?_, ⟨rfl, rfl, by simp [Database.trail, AuditAction.ofBooking]⟩, rfl⟩
  rw [Database.bookings, checkIns_updateWhere hc, seats_updateWhere hseat]
  rfl

/-- A cancellation does not check anything that could stop it. -/
lemma cancelTransaction_commits (checkIn : CheckIn) (i : CheckInId) (p : PassengerId)
    (db : Database) : ∃ db', cancelTransaction checkIn i p db = .ok ((), db') := by
  simp only [cancelTransaction, run_bind]
  cases checkIn.seatId with
  | none =>
      simp only [run_forM_none, run_updateCheckIns, run_logWithTransaction]
      exact ⟨_, rfl⟩
  | some s =>
      simp only [run_forM_some, run_bind, run_updateSeats, run_updateCheckIns,
        run_logWithTransaction]
      exact ⟨_, rfl⟩

/-! ## Releasing a seat -/

lemma releaseTransaction_commits (seat : Seat) (db : Database) :
    ∃ affected db', releaseTransaction seat db = .ok (affected, db') := by
  simp only [releaseTransaction, run_bind, run_updateSeats, run_updateCheckIns, run_ite,
    run_pure, run_logWithTransaction]
  split
  · exact ⟨_, _, rfl⟩
  · exact ⟨_, _, rfl⟩

theorem releaseTransaction_ok {seat₀ : Seat} {b : Bool} {db db' : Database}
    (h : releaseTransaction seat₀ db = .ok (b, db')) :
    (b = false ∧ db' = db) ∨
    (b = true ∧ ∃ seat p, db.seats.get? seat₀.id = some seat ∧ seat.status = .held ∧
      seat.heldBy = some p ∧ seat₀.heldBy = some p ∧
      db'.bookings = db.bookings.released seat₀.id seat ∧
      db.Logs db' [(.seatReleased, seat₀.id)] ∧ db'.waitlist = db.waitlist) := by
  simp only [releaseTransaction, run_bind, run_updateSeats, run_updateCheckIns, run_ite,
    run_pure, run_logWithTransaction] at h
  split at h
  · rename_i hcas
    cases h
    exact .inl ⟨rfl, by rw [Table.updateWhere_of_count_eq_zero _ hcas]⟩
  · rename_i hcas
    obtain ⟨seat, hseat, hid, hheld, hsome, hby⟩ :=
      Table.exists_of_count_ne_zero _ (fun r hr => hr.1) hcas
    obtain ⟨p, hp⟩ := Option.isSome_iff_exists.mp hsome
    cases h
    refine .inr ⟨rfl, seat, p, hseat, hheld, hp, hby ▸ hp, ?_, ⟨rfl, rfl, ?_⟩, rfl⟩
    · rw [Database.bookings, Table.get?_updateWhere_of_key _ hseat ⟨hid, hheld, hsome, hby⟩
        fun r hr => hr.1]
      refine congrArg (Bookings.mk _) (funext fun i => ?_)
      rw [Table.get?_updateWhere]
      rfl
    · simp [Database.trail, AuditAction.ofBooking]

end Tx

end SkyHighCore
