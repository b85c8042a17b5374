import SkyHighCore.Properties.Contracts

/-!
# The static part of the database

Passengers, flights and the cabins are written by the seeds only.  `Database.SameStatics` says that
two databases agree in them: the rows of `seat` may differ in the three hold columns, but neither in
number nor in order, identity or place.  The relation is a preorder that every statement of a
transaction keeps, so that every transaction (`Tx.Static`), every action and every run keeps it,
without any assumption on the state.
-/

namespace SkyHighCore

open Framework

/-- The columns of a seat that no statement writes. -/
structure Place where
  id : SeatId
  flightId : FlightId
  row : ℕ
  column : String
  deriving DecidableEq

def Seat.place (seat : Seat) : Place := ⟨seat.id, seat.flightId, seat.row, seat.column⟩

/-- The places of all cabins, in the order of the table. -/
def Database.cabins (db : Database) : List Place := db.seats.rows.map Seat.place

structure Database.SameStatics (db db' : Database) : Prop where
  passengers : db'.passengers = db.passengers
  flights : db'.flights = db.flights
  cabins : db'.cabins = db.cabins

namespace Database.SameStatics

variable {db db' db'' : Database}

lemma refl (db : Database) : db.SameStatics db := ⟨rfl, rfl, rfl⟩

lemma trans (h : db.SameStatics db') (h' : db'.SameStatics db'') : db.SameStatics db'' :=
  ⟨h'.passengers.trans h.passengers, h'.flights.trans h.flights, h'.cabins.trans h.cabins⟩

lemma symm (h : db.SameStatics db') : db'.SameStatics db :=
  ⟨h.passengers.symm, h.flights.symm, h.cabins.symm⟩

/-- A seat is on the same flight in both databases. -/
lemma seat (h : db.SameStatics db') {s : SeatId} {seat : Seat}
    (hseat : db.seats.get? s = some seat) :
    ∃ seat', db'.seats.get? s = some seat' ∧ seat'.place = seat.place := by
  have hmem : seat.place ∈ db'.cabins := by
    rw [h.cabins]
    exact List.mem_map_of_mem (Table.mem_of_get? hseat)
  obtain ⟨seat', hseat', hplace⟩ := List.mem_map.mp hmem
  have hid : seat'.id = seat.id := congrArg Place.id hplace
  refine ⟨seat', ?_, hplace⟩
  rw [Table.get?_eq_some_iff]
  exact ⟨hseat', hid.trans (Table.key_of_get? hseat)⟩

end Database.SameStatics

namespace Tx

variable {α β : Type} {x : Tx α} {f : α → Tx β}

/-- A transaction that commits leaves the static data as they were. -/
def Static (x : Tx α) : Prop := ∀ db a db', x db = .ok (a, db') → db.SameStatics db'

lemma Static.bind (hx : x.Static) (hf : ∀ a, (f a).Static) : Static (x >>= f) := by
  intro db b db'' h
  rw [run_bind] at h
  split at h
  · rename_i a db' hrun
    exact (hx db a db' hrun).trans (hf a db' b db'' h)
  · cases h

lemma Static.pure (a : α) : Static (pure a : Tx α) := by
  intro db b db' h
  cases h
  exact .refl db

lemma Static.throw (e : AppException) : Static (throw e : Tx α) := by
  intro db b db' h
  cases h

lemma Static.ite {c : Prop} [Decidable c] {y : Tx α} (hx : x.Static) (hy : y.Static) :
    Static (if c then x else y) := by
  by_cases hc : c
  · rw [if_pos hc]
    exact hx
  · rw [if_neg hc]
    exact hy

lemma Static.forM {o : Option α} {g : α → Tx Unit} (hg : ∀ a, (g a).Static) :
    Static (o.forM g) := by
  cases o with
  | none => exact .pure ()
  | some a => exact hg a

/-- An update of seats that keeps their places. -/
lemma static_updateSeats {p : Seat → Prop} [DecidablePred p] {g : Seat → Seat}
    {hg : ∀ r, key (g r) = key r} (hplace : ∀ seat, (g seat).place = seat.place) :
    Static (updateSeats p g hg) := by
  intro db n db' h
  cases h
  refine ⟨rfl, rfl, ?_⟩
  show (db.seats.rows.map fun r => if p r then g r else r).map Seat.place = _
  rw [List.map_map]
  refine List.map_congr_left fun seat _ => ?_
  by_cases hp : p seat <;> simp [hp, hplace]

lemma static_updateCheckIns {p : CheckIn → Prop} [DecidablePred p] {g : CheckIn → CheckIn}
    {hg : ∀ r, key (g r) = key r} : Static (updateCheckIns p g hg) := by
  intro db n db' h
  cases h
  exact ⟨rfl, rfl, rfl⟩

lemma static_updateWaitlist {p : Waitlist → Prop} [DecidablePred p] {g : Waitlist → Waitlist}
    {hg : ∀ r, key (g r) = key r} : Static (updateWaitlist p g hg) := by
  intro db n db' h
  cases h
  exact ⟨rfl, rfl, rfl⟩

lemma static_logWithTransaction (dto : AuditLog) : (logWithTransaction dto).Static := by
  intro db u db' h
  cases h
  exact ⟨rfl, rfl, rfl⟩

lemma static_insertCheckIn (now : Time) (p : PassengerId) (f : FlightId) (s : SeatId) :
    (insertCheckIn now p f s).Static := by
  intro db c db' h
  obtain ⟨-, -, -, rfl⟩ := insertCheckIn_ok h
  exact ⟨rfl, rfl, rfl⟩

lemma static_insertWaitlist (now : Time) (f : FlightId) (p : PassengerId) (n : ℕ) :
    (insertWaitlist now f p n).Static := by
  intro db e db' h
  unfold insertWaitlist at h
  split at h
  · cases h
  · split at h
    · cases h
    · cases h
      exact ⟨rfl, rfl, rfl⟩

lemma static_numeric (limit x : ℚ) : (numeric limit x).Static := by
  intro db y db' h
  obtain ⟨-, rfl⟩ := numeric_ok h
  exact .refl db'

lemma static_varchar100 (s : Option String) : (varchar100 s).Static := by
  intro db t db' h
  obtain ⟨-, rfl⟩ := varchar100_ok h
  exact .refl db'

lemma static_holdSeatTransaction (now t : Time) (p : PassengerId) (f : FlightId) (s : SeatId) :
    (holdSeatTransaction now p f s t).Static := by
  refine .bind (static_updateSeats fun _ => rfl) fun affected => .ite (.throw _) ?_
  refine (static_insertCheckIn now p f s).bind fun c => ?_
  exact (static_logWithTransaction _).bind fun _ => .pure c

lemma static_assignTransaction (now t : Time) (entry : Waitlist) (seat : Seat) (f : FlightId) :
    (assignTransaction now entry seat f t).Static := by
  refine .bind (static_updateSeats fun _ => rfl) fun affected => .ite (.pure false) ?_
  refine static_updateWaitlist.bind fun _ => ?_
  refine (static_insertCheckIn now _ f seat.id).bind fun c => ?_
  exact (static_logWithTransaction _).bind fun _ => .pure true

lemma static_awaitPaymentUpdate (checkIn : CheckIn) (weight fee : ℚ) :
    (awaitPaymentUpdate checkIn weight fee).Static := by
  refine (static_numeric _ _).bind fun _ => (static_numeric _ _).bind fun _ => ?_
  exact static_updateCheckIns.bind fun _ => .pure ()

lemma static_completeTransaction (checkIn : CheckIn) (weight : ℚ) (paymentId : Option String) :
    (completeTransaction checkIn weight paymentId).Static := by
  refine .bind (.forM fun s => ?_) fun _ => ?_
  · exact .bind (static_updateSeats fun _ => rfl) fun _ => static_logWithTransaction _
  refine (static_numeric _ _).bind fun _ => (static_varchar100 _).bind fun _ => ?_
  exact static_updateCheckIns.bind fun _ => static_logWithTransaction _

lemma static_cancelTransaction (checkIn : CheckIn) (i : CheckInId) (p : PassengerId) :
    (cancelTransaction checkIn i p).Static := by
  refine .bind (.forM fun s => ?_) fun _ => ?_
  · exact .bind (static_updateSeats fun _ => rfl) fun _ => static_logWithTransaction _
  · exact static_updateCheckIns.bind fun _ => static_logWithTransaction _

lemma static_releaseTransaction (seat : Seat) : (releaseTransaction seat).Static := by
  refine .bind (static_updateSeats fun _ => rfl) fun affected => .ite (.pure false) ?_
  refine static_updateCheckIns.bind fun _ => ?_
  exact (static_logWithTransaction _).bind fun _ => .pure true

lemma static_saveWaitlist (entry : Waitlist) : (saveWaitlist entry).Static :=
  static_updateWaitlist.bind fun _ => .pure ()

end Tx

lemma World.transaction_sameStatics {α : Type} {body : Tx α} (h : body.Static) (w : World)
    (ch : Choice) : w.db.SameStatics (w.transaction ch body).2.db := by
  have hrun : w.transaction ch body = ((w.transaction ch body).1, (w.transaction ch body).2) := rfl
  rcases World.transaction_cases hrun with ⟨e, -, heq⟩ | ⟨a, db', -, hbody, heq⟩
  · rw [heq]
    exact .refl w.db
  · rw [heq]
    exact h w.db a db' hbody

/-- **No action writes to the static data.** -/
theorem exec_sameStatics (a : Action) (ch : Choice) (w : World) :
    w.db.SameStatics (World.exec a ch w).2.db := by
  cases a with
  | holdSeat p f s t =>
      exact World.transaction_sameStatics (Tx.static_holdSeatTransaction _ _ p f s) w ch
  | awaitPayment checkIn weight fee =>
      exact World.transaction_sameStatics (Tx.static_awaitPaymentUpdate checkIn weight fee) w ch
  | complete checkIn weight paymentId =>
      exact World.transaction_sameStatics
        (Tx.static_completeTransaction checkIn weight paymentId) w ch
  | cancel checkIn i p =>
      exact World.transaction_sameStatics (Tx.static_cancelTransaction checkIn i p) w ch
  | release seat => exact World.transaction_sameStatics (Tx.static_releaseTransaction seat) w ch
  | assign entry seat f t =>
      exact World.transaction_sameStatics (Tx.static_assignTransaction _ _ entry seat f) w ch
  | saveWaitlist entry =>
      exact World.transaction_sameStatics (Tx.static_saveWaitlist entry) w ch
  | insertWaitlist f p n =>
      exact World.transaction_sameStatics (Tx.static_insertWaitlist _ f p n) w ch
  | auditLog dto =>
      simp only [World.exec]
      split
      · exact .refl w.db
      · exact ⟨rfl, rfl, rfl⟩
  | _ =>
      rw [World.exec_sparesDatabase rfl]
      exact .refl w.db

/-- Neither does a run. -/
theorem run_sameStatics {cfg : Settings} {c₀ c : SkyConfig} {ts : List SkyTransition}
    (h : (skyHigh cfg).Run c₀ ts c) : c₀.state.db.SameStatics c.state.db := by
  refine h.invariant (fun c => c₀.state.db.SameStatics c.state.db) (.refl _)
    fun l c c' hc hstep => ?_
  rcases (skyHigh cfg).step_cases hstep with ⟨call, rfl, rfl⟩ | ⟨ms, rfl, rfl⟩ |
    ⟨i, ch, call, a, cont, rfl, -, rfl⟩
  · exact hc
  · exact hc
  · exact hc.trans (exec_sameStatics a ch c.state)

end SkyHighCore
