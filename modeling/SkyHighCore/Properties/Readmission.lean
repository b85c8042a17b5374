import SkyHighCore.Properties.Alone
import SkyHighCore.Properties.QueueHead

/-!
# Guards and unique constraints

A passenger may start a check-in on a flight when an earlier one has been cancelled, and join its
waitlist when an earlier entry does not wait any more: so say the guards of the two services.  The
unique constraints of the two tables know nothing of a status.  A row that the guard lets pass makes
the insert fail, so that both calls succeed exactly for a passenger who has no row at all.
-/

namespace SkyHighCore

open Framework

/-- The passenger has no entry on the waitlist of flight `f`, whatever its status. -/
def Queue.Unlisted (q : Queue) (p : PassengerId) (f : FlightId) : Prop :=
  ∀ i e, q i = some e → ¬ (e.flightId = f ∧ e.passengerId = p)

/-- The seat is held by the passenger, and a check-in on it is in progress. -/
structure Bookings.Begun (b : Bookings) (p : PassengerId) (f : FlightId) (s : SeatId) : Prop where
  seat : ∃ seat, b.seat s = some seat ∧ seat.status = .held ∧ seat.heldBy = some p
  checkIn : ∃ i row, b.checkIn i = some row ∧ row.passengerId = p ∧ row.flightId = f ∧
    row.seatId = some s ∧ row.status = .inProgress

/-- The check-in has been started. -/
def Started (p : PassengerId) (f : FlightId) (s : SeatId) (r : Except AppException Reply)
    (w : World) : Prop :=
  (∃ response, r = .ok (.checkIn response)) ∧ w.db.bookings.Begun p f s

/-- The entry waits for the flight, behind all others on the list. -/
structure Queue.Last (q : Queue) (p : PassengerId) (f : FlightId) (e : Waitlist) : Prop where
  row : q e.id = some e
  passenger : e.passengerId = p
  flight : e.flightId = f
  waiting : e.status = .waiting
  behind : ∀ i d, q i = some d → d.flightId = f → i ≠ e.id → d.position < e.position

/-- The passenger has been added to the waitlist. -/
def Enlisted (p : PassengerId) (f : FlightId) (r : Except AppException Reply) (w : World) : Prop :=
  ∃ e, r = .ok (.waitlist e) ∧ w.db.queue.Last p f e

/-! ## The two inserts -/

namespace Tx

variable {db : Database} {now t : Time} {p : PassengerId} {f : FlightId} {s : SeatId} {seat : Seat}

/-- An insert into `check_in` whose keys are there fails on the unique constraint only. -/
lemma insertCheckIn_succeeds (hunbooked : db.bookings.Unbooked p f) (hp : p ∈ db.passengers)
    (hf : db.flights.get? f ≠ none) (hs : db.seats.get? s ≠ none) :
    ∃ c db', insertCheckIn now p f s db = .ok (c, db') := by
  have hunique : ¬ ∃ c ∈ db.checkIns.rows, c.passengerId = p ∧ c.flightId = f := by
    rintro ⟨c, hc, hpf⟩
    exact Database.unbooked_iff.mp hunbooked c hc hpf
  have hkeys : ¬ (p ∉ db.passengers ∨ db.flights.get? f = none ∨ db.seats.get? s = none) := by
    simp [hp, hf, hs]
  exact ⟨_, _, (if_neg hunique).trans (if_neg hkeys)⟩

lemma holdSeatTransaction_succeeds (hseat : db.seats.get? s = some seat)
    (havailable : seat.status = .available) (hunbooked : db.bookings.Unbooked p f)
    (hp : p ∈ db.passengers) (hf : db.flights.get? f ≠ none) :
    ∃ c db', holdSeatTransaction now p f s t db = .ok (c, db') := by
  have hcas : db.seats.count (fun r => r.id = s ∧ r.status = .available) ≠ 0 := fun h0 =>
    (Table.count_eq_zero_iff _ _).mp h0 s seat hseat ⟨Table.key_of_get? hseat, havailable⟩
  have hfound : (db.seats.updateWhere (fun r => r.id = s ∧ r.status = .available)
      fun r => { r with status := .held, heldBy := some p, heldAt := some t }).get? s ≠ none := by
    rw [seats_acquire p t hseat havailable, Function.update_self]
    exact Option.some_ne_none _
  obtain ⟨c, db', hins⟩ : ∃ c db', insertCheckIn now p f s { db with
      seats := db.seats.updateWhere (fun r => r.id = s ∧ r.status = .available)
        fun r => { r with status := .held, heldBy := some p, heldAt := some t } } =
          .ok (c, db') := by
    apply insertCheckIn_succeeds
    · exact hunbooked
    · exact hp
    · exact hf
    · exact hfound
  simp only [holdSeatTransaction, run_bind, run_updateSeats, run_ite, run_throw, run_pure,
    run_logWithTransaction, if_neg hcas, hins]
  exact ⟨_, _, rfl⟩

/-- A hold that commits has found no check-in of the passenger, and begins one. -/
lemma holdSeatTransaction_begins {c : CheckIn} {db' : Database}
    (hseat : db.seats.get? s = some seat) (hflight : seat.flightId = f)
    (h : holdSeatTransaction now p f s t db = .ok (c, db')) :
    db.bookings.Unbooked p f ∧ db'.bookings.Begun p f s := by
  obtain ⟨rfl, ⟨seat', hseat', hacq, hb⟩, -⟩ := holdSeatTransaction_ok h
  obtain rfl : seat = seat' := Option.some_inj.mp (hseat.symm.trans hseat')
  have hacq := hacq hflight
  refine ⟨hacq.unique, ?_⟩
  rw [hb]
  exact ⟨⟨_, Function.update_self .., rfl, rfl⟩,
    ⟨_, _, Function.update_self .., rfl, rfl, rfl, rfl⟩⟩

end Tx

/-! ## Starting a check-in -/

section Start

open CheckInService

variable {cfg : Settings} {p : PassengerId} {f : FlightId} {s : SeatId} {seat : Seat}
  {db : Database} {w : World}

/-- What a start that runs alone comes to: it succeeds for a passenger without a check-in, and
throws for one who has a check-in, be it cancelled. -/
def StartedOrBooked (p : PassengerId) (f : FlightId) (s : SeatId) (db : Database) {α : Type}
    (r : Except AppException α) (w : World) : Prop :=
  match r with
  | .ok _ => db.bookings.Unbooked p f ∧ w.db.bookings.Begun p f s
  | .error _ => ¬ db.bookings.Unbooked p f

lemma wp_holdSeatWithinLock (hseat : db.seats.get? s = some seat) (hflight : seat.flightId = f)
    (havailable : seat.status = .available) (hp : p ∈ db.passengers)
    (hf : db.flights.get? f ≠ none) (hw : w.db = db) :
    (holdSeatWithinLock p f s).wp (unhindered cfg) (StartedOrBooked p f s db) w := by
  refine unhindered_ok (R := fun found w' => found = some seat ∧ w'.db = db) (lasting_db db) hw
    (fun ch w₁ hch hw₁ => ⟨_, _, World.exec_findOneSeat_id hch s, hw₁ ▸ hseat, hw₁⟩) ?_
  rintro _ w₁ ⟨rfl, hw₁⟩
  refine Prog.wp_bind (Prog.wp_throwWhen (fun hno => ?_) fun _ => ?_)
  · exact absurd havailable (hno seat rfl)
  refine unhindered_ok (R := fun _ w' => w'.db = db) (lasting_db db) hw₁
    (fun ch w₂ _ hw₂ => ⟨_, _, rfl, hw₂⟩) fun heldAt w₂ hw₂ => ?_
  by_cases hunbooked : db.bookings.Unbooked p f
  · refine unhindered_ok (R := fun _ w' => w'.db.bookings.Begun p f s) (lasting_db db) hw₂
      (fun ch w₃ hch hw₃ => ?_) fun checkIn w₃ hw₃ => ?_
    · subst hw₃
      obtain ⟨c, db', hbody⟩ := Tx.holdSeatTransaction_succeeds hseat havailable hunbooked hp hf
      exact ⟨c, _, World.transaction_ok hch hbody,
        (Tx.holdSeatTransaction_begins hseat hflight hbody).2⟩
    have hlast : (skyHigh cfg).Lasting fun w : World => w.db.bookings.Begun p f s :=
      fun _ _ h => h
    refine unhindered_ok (R := fun _ w' => w'.db.bookings.Begun p f s) hlast hw₃
      (fun ch w₄ hch hw₄ => ⟨(), _, World.redis_ok hch _ _, hw₄⟩) fun _ w₄ hw₄ => ?_
    refine unhindered_ok (R := fun _ w' => w'.db.bookings.Begun p f s) hlast hw₄
      (fun ch w₅ hch hw₅ => ⟨(), _, World.redis_ok hch _ _, hw₅⟩) fun _ w₅ hw₅ => ?_
    exact ⟨hunbooked, hw₅⟩
  · refine unhindered_error (lasting_db db) hw₂ fun ch w₃ hch hw₃ => ?_
    subst hw₃
    cases hbody : Tx.holdSeatTransaction w₃.now p f s heldAt w₃.db with
    | ok out =>
        obtain ⟨c, db'⟩ := out
        exact absurd (Tx.holdSeatTransaction_begins hseat hflight hbody).1 hunbooked
    | error e =>
        refine ⟨e, w₃, ?_, hunbooked⟩
        simp [World.exec, World.transaction, hch, hbody]

/-- The guard stops nobody who is without a check-in. -/
lemma wp_validateNoActiveCheckIn (hw : w.db = db) :
    (validateNoActiveCheckIn p f).wp (unhindered cfg) (fun r w' => match r with
      | .ok _ => w'.db = db
      | .error _ => ¬ db.bookings.Unbooked p f) w := by
  refine unhindered_ok (R := fun found w' => w'.db = db ∧
    ∀ existing, found = some existing → ¬ db.bookings.Unbooked p f) (lasting_db db) hw
    (fun ch w₁ hch hw₁ => ⟨_, _, World.query_ok hch _, hw₁, fun existing hfound => ?_⟩) ?_
  · obtain ⟨hmem, ⟨-, hp, hf⟩, -⟩ := Table.findOne_spec hfound
    exact fun hunbooked => Database.unbooked_iff.mp hunbooked existing (hw₁ ▸ hmem)
      ⟨hp p rfl, hf f rfl⟩
  · rintro found w₁ ⟨hw₁, hexisting⟩
    cases found with
    | none => exact hw₁
    | some existing =>
        exact Prog.wp_throwWhen (fun _ => hexisting existing rfl) fun _ => hw₁

lemma wp_startCheckIn (hseat : db.seats.get? s = some seat) (hflight : seat.flightId = f)
    (havailable : seat.status = .available) (hp : p ∈ db.passengers)
    (hf : db.flights.get? f ≠ none) (hw : w.db = db) :
    (startCheckIn p ⟨f, s⟩).wp (unhindered cfg) (StartedOrBooked p f s db) w := by
  obtain ⟨flight, hfound⟩ := Option.ne_none_iff_exists'.mp hf
  -- the flight is there
  refine Prog.wp_bind (unhindered_ok (R := fun found w' => found = some flight ∧ w'.db = db)
    (lasting_db db) hw
    (fun ch w₁ hch hw₁ => ⟨_, _, World.query_ok hch _, hw₁ ▸ hfound, hw₁⟩) ?_)
  rintro _ w₁ ⟨rfl, hw₁⟩
  -- the seat is on it
  refine Prog.wp_bind (unhindered_ok (R := fun found w' => found = some seat ∧ w'.db = db)
    (lasting_db db) hw₁ (fun ch w₂ hch hw₂ => ⟨_, _, World.query_ok hch _, ?_, hw₂⟩) ?_)
  · subst hw₂
    rw [Table.findOne_of_key (k := s) _ _ fun r h => h.1 s rfl, hseat]
    have hid : seat.id = s := Table.key_of_get? hseat
    simp [Option.filter, SeatWhere.Matches, hid, hflight]
  rintro _ w₂ ⟨rfl, hw₂⟩
  refine Prog.wp_bind (Prog.wp_mono (fun r w₃ hw₃ => ?_) (wp_validateNoActiveCheckIn hw₂))
  cases r with
  | error e => exact hw₃
  | ok _ =>
      refine Prog.wp_tryCatch (unhindered_ok (R := fun _ w' => w'.db = db) (lasting_db db) hw₃
        (fun ch w₄ hch hw₄ => ⟨(), _, World.exec_acquireLock hch _, hw₄⟩) fun _ w₄ hw₄ => ?_)
      refine Prog.wp_tryFinally (Prog.wp_mono (fun r w₅ hw₅ => ?_)
        (wp_holdSeatWithinLock hseat hflight havailable hp hf hw₄))
      have hlast : (skyHigh cfg).Lasting (StartedOrBooked p f s db r) := fun _ _ h => h
      refine System.wp_lone hlast hw₅ fun ch w₆ r' w₇ hch hw₆ he => ?_
      obtain ⟨rfl, rfl⟩ := Prod.mk.inj ((World.exec_releaseLock hch _).symm.trans he)
      cases r with
      | ok response => exact hw₆
      | error e =>
          have hw₆ : ¬ db.bookings.Unbooked p f := hw₆
          refine Prog.wp_bind (Prog.wp_mono (fun r _ _ => ?_)
            (lone_spares (p := countContention f e) ?_ rfl))
          · cases r <;> exact hw₆
          · unfold countContention
            split
            · exact Prog.all_perform rfl
            · trivial

end Start

/-! ## Joining a waitlist -/

section Join

open WaitlistService

variable {cfg : Settings} {p : PassengerId} {f : FlightId} {db : Database} {w : World}

/-- What a join that runs alone comes to. -/
def EnlistedOrListed (p : PassengerId) (f : FlightId) (db : Database)
    (r : Except AppException Waitlist) (w : World) : Prop :=
  match r with
  | .ok e => db.queue.Unlisted p f ∧ w.db.queue.Last p f e
  | .error _ => ¬ db.queue.Unlisted p f

/-- An insert into `waitlist` whose keys are there fails on the unique constraint only. -/
lemma Tx.insertWaitlist_succeeds {now : Time} {n : ℕ} (hunlisted : db.queue.Unlisted p f)
    (hp : p ∈ db.passengers) (hf : db.flights.get? f ≠ none) :
    ∃ e db', Tx.insertWaitlist now f p n db = .ok (e, db') := by
  have hunique : ¬ ∃ e ∈ db.waitlist.rows, e.flightId = f ∧ e.passengerId = p := by
    rintro ⟨e, he, hfp⟩
    exact hunlisted e.id e ((Table.mem_rows_iff _).mp he) hfp
  have hkeys : ¬ (p ∉ db.passengers ∨ db.flights.get? f = none) := by
    simp [hp, hf]
  exact ⟨_, _, (if_neg hunique).trans (if_neg hkeys)⟩

/-- The entry that a join has inserted with a position after all others is the last. -/
lemma Tx.insertWaitlist_last {now : Time} {n : ℕ} {e : Waitlist} {db' : Database}
    (hn : ∀ m, db.queue.Taken f m → m < n)
    (h : Tx.insertWaitlist now f p n db = .ok (e, db')) : db'.queue.Last p f e := by
  obtain ⟨rfl, -, -, -, hq⟩ := Tx.insertWaitlist_ok h
  refine ⟨?_, rfl, rfl, rfl, fun i d hd hf hi => ?_⟩
  · rw [hq]
    exact Function.update_self ..
  · rw [hq, Function.update_of_ne hi] at hd
    exact hn _ ⟨i, d, hd, hf, rfl⟩

lemma wp_joinWaitlist_alone (hp : p ∈ db.passengers) (hf : db.flights.get? f ≠ none)
    (hw : w.db = db) :
    (joinWaitlist p f).wp (unhindered cfg) (EnlistedOrListed p f db) w := by
  obtain ⟨flight, hfound⟩ := Option.ne_none_iff_exists'.mp hf
  refine unhindered_ok (R := fun found w' => found = some flight ∧ w'.db = db) (lasting_db db) hw
    (fun ch w₁ hch hw₁ => ⟨_, _, World.query_ok hch _, hw₁ ▸ hfound, hw₁⟩) ?_
  rintro _ w₁ ⟨rfl, hw₁⟩
  refine unhindered_ok (R := fun found w' => w'.db = db ∧
    ∀ existing, found = some existing → ¬ db.queue.Unlisted p f) (lasting_db db) hw₁
    (fun ch w₂ hch hw₂ => ⟨_, _, World.query_ok hch _, hw₂, fun existing hfound => ?_⟩) ?_
  · obtain ⟨hmem, ⟨-, hf, hp, -⟩, -⟩ := Table.findOne_spec hfound
    exact fun hunlisted => hunlisted existing.id existing
      ((Table.mem_rows_iff _).mp (hw₂ ▸ hmem)) ⟨hf f rfl, hp p rfl⟩
  rintro existing w₂ ⟨hw₂, hexisting⟩
  refine Prog.wp_bind (Prog.wp_throwWhen (fun hsome => ?_) fun _ => ?_)
  · obtain ⟨entry, rfl⟩ := Option.isSome_iff_exists.mp hsome
    exact hexisting entry rfl
  refine Prog.wp_bind (unhindered_ok (R := fun max w' => w'.db = db ∧
    ∀ m, db.queue.Taken f m → m < max.getD 0 + 1) (lasting_db db) hw₂
    (fun ch w₃ hch hw₃ => ?_) ?_)
  · have he : World.exec (.maxPosition f) ch w₃ = (.ok _, w₃) := World.query_ok hch _
    refine ⟨_, _, he, hw₃, fun m hm => Nat.lt_succ_of_le ?_⟩
    exact (exec_maxPosition he).2.2 m (hw₃ ▸ hm)
  rintro max w₃ ⟨hw₃, hmax⟩
  by_cases hunlisted : db.queue.Unlisted p f
  · refine unhindered_ok (R := fun e w' => w'.db.queue.Last p f e) (lasting_db db) hw₃
      (fun ch w₄ hch hw₄ => ?_) fun e w₄ hw₄ => ?_
    · subst hw₄
      obtain ⟨e, db', hbody⟩ := Tx.insertWaitlist_succeeds hunlisted hp hf
      exact ⟨e, _, World.transaction_ok hch hbody, Tx.insertWaitlist_last hmax hbody⟩
    refine unhindered_ok (R := fun _ w' => w'.db.queue.Last p f e) (fun _ _ h => h) hw₄
      (fun ch w₅ hch hw₅ => ⟨(), _, if_neg (by simp [hch]), hw₅⟩) fun _ w₅ hw₅ => ?_
    exact ⟨hunlisted, hw₅⟩
  · refine unhindered_error (lasting_db db) hw₃ fun ch w₄ hch hw₄ => ?_
    subst hw₄
    cases hbody : Tx.insertWaitlist w₄.now f p (max.getD 0 + 1) w₄.db with
    | ok out =>
        obtain ⟨e, db'⟩ := out
        exact absurd (Tx.insertWaitlist_ok hbody).2.1 hunlisted
    | error e =>
        refine ⟨e, w₄, ?_, hunlisted⟩
        simp [World.exec, World.transaction, hch, hbody]

end Join

/-! ## Who gets in -/

section Complete

variable {cfg : Settings} {p : PassengerId} {f : FlightId} {c : SkyConfig}

lemma completes_startCheckIn {s : SeatId} {seat : Seat} (hquiet : c.quiescent)
    (hp : p ∈ c.state.db.passengers) (hf : c.state.db.flights.get? f ≠ none)
    (hseat : c.state.db.bookings.seat s = some seat) (hflight : seat.flightId = f)
    (havailable : seat.status = .available) :
    Completes cfg c (.startCheckIn p ⟨f, s⟩) fun r w =>
      (Started p f s r w ↔ c.state.db.bookings.Unbooked p f) := by
  refine completes_of_wp hquiet (fun _ _ _ h => h) (Prog.wp_map (Prog.wp_mono ?_
    (wp_startCheckIn hseat hflight havailable hp hf rfl)))
  intro r w h
  cases r with
  | ok response => exact iff_of_true ⟨⟨response, rfl⟩, h.2⟩ h.1
  | error e =>
      refine iff_of_false ?_ h
      rintro ⟨⟨response, hr⟩, -⟩
      cases hr

lemma completes_joinWaitlist (hquiet : c.quiescent) (hp : p ∈ c.state.db.passengers)
    (hf : c.state.db.flights.get? f ≠ none) :
    Completes cfg c (.joinWaitlist p f) fun r w =>
      (Enlisted p f r w ↔ c.state.db.queue.Unlisted p f) := by
  refine completes_of_wp hquiet (fun _ _ _ h => h) (Prog.wp_map (Prog.wp_mono ?_
    (wp_joinWaitlist_alone hp hf rfl)))
  intro r w h
  cases r with
  | ok e => exact iff_of_true ⟨e, rfl, h.2⟩ h.1
  | error e =>
      refine iff_of_false ?_ h
      rintro ⟨e', hr, -⟩
      cases hr

/-- What a call completes with, when that depends on the state it starts from. -/
lemma Completes.iff {call : Call} {Q : Except AppException Reply → World → Prop} {A : Prop}
    (h : Completes cfg c call fun r w => (Q r w ↔ A)) : Completes cfg c call Q ↔ A := by
  constructor
  · intro hQ
    obtain ⟨r, w, hr, hA⟩ := hQ.possible h
    exact hA.mp hr
  · intro hA
    exact ⟨h.1, fun us r c' hsolo hfaultless => (h.2 us r c' hsolo hfaultless).mpr hA⟩

/-- **Whom the two services let in.**  A start of a registered passenger on an available seat
succeeds exactly if the passenger has no check-in on the flight, and a join exactly if there is no
entry of the passenger on its waitlist, whatever the status of the row. -/
theorem admitted_iff (hquiet : c.quiescent) (hp : p ∈ c.state.db.passengers)
    (hf : c.state.db.flights.get? f ≠ none) :
    (∀ s seat, c.state.db.bookings.seat s = some seat → seat.flightId = f →
      seat.status = .available → (Completes cfg c (.startCheckIn p ⟨f, s⟩) (Started p f s) ↔
        c.state.db.bookings.Unbooked p f)) ∧
      (Completes cfg c (.joinWaitlist p f) (Enlisted p f) ↔ c.state.db.queue.Unlisted p f) :=
  ⟨fun _ _ hseat hflight havailable =>
    (completes_startCheckIn hquiet hp hf hseat hflight havailable).iff,
    (completes_joinWaitlist hquiet hp hf).iff⟩

end Complete

/-- Passenger 1 takes the seat and cancels, and joins the waitlist and leaves it. -/
def cancelThenLeave : List SkyLabel :=
  start ++ [.invoke (.cancelCheckIn 1 1)] ++ proceed 1 7 ++ [.invoke (.joinWaitlist 1 10)] ++
  proceed 2 5 ++ [.invoke (.leaveWaitlist 1 1)] ++ proceed 3 2

/-- Where there are rows of passenger 1, passenger 2 is let in, on a position after that of
passenger 1. -/
theorem admitted_cancelThenLeave : ∃ ts c, (skyHigh {}).Run (.init oneSeatWorld) ts c ∧
    c.state.db.checkIns.rows.map CheckIn.passengerId = [1] ∧
    c.state.db.queue.Taken 10 1 ∧
    Completes {} c (.startCheckIn 2 ⟨10, 100⟩) (Started 2 10 100) ∧
    Completes {} c (.joinWaitlist 2 10) (Enlisted 2 10) := by
  obtain ⟨ts, c, hrun, htest⟩ := exists_run cancelThenLeave (fun _ c =>
    ended c && decide (2 ∈ c.state.db.passengers) &&
    decide (c.state.db.flights.get? 10 ≠ none) &&
    decide (c.state.db.checkIns.rows.map CheckIn.passengerId = [1]) &&
    decide (c.state.db.waitlist.rows.map Waitlist.passengerId = [1]) &&
    (c.state.db.seats.get? 100).any (fun seat => seat.flightId = 10 ∧ seat.status = .available) &&
    (c.state.db.waitlist.get? 1).any fun e => e.flightId = 10 ∧ e.position = 1)
    (by decide +kernel)
  simp only [Bool.and_eq_true, decide_eq_true_eq, Option.any_eq_true] at htest
  obtain ⟨⟨⟨⟨⟨⟨hended, hp⟩, hf⟩, hcheckIns⟩, hentries⟩, seat, hseat, hflight, hst⟩,
    e, he, htaken⟩ := htest
  obtain ⟨hstart, hjoin⟩ := @admitted_iff {} 2 10 _ (quiescent_of_ended hended) hp hf
  refine ⟨ts, c, hrun, hcheckIns, ⟨1, e, he, htaken⟩, (hstart 100 seat hseat hflight hst).mpr ?_,
    hjoin.mpr ?_⟩
  · apply Database.unbooked_iff.mpr
    rintro row hrow ⟨hpassenger, -⟩
    have hmem := List.mem_map_of_mem (f := CheckIn.passengerId) hrow
    rw [hcheckIns, hpassenger] at hmem
    exact absurd hmem (by decide)
  · rintro i e' he' ⟨-, hpassenger⟩
    have hmem := List.mem_map_of_mem (f := Waitlist.passengerId) (Table.mem_of_get? he')
    rw [hentries, hpassenger] at hmem
    exact absurd hmem (by decide)

/-- **Neither call lets passenger 1 in again**, although no check-in of passenger 1 is open and no
entry waits. -/
theorem admitted_onlyOnce : ∃ ts c, oneSeatWorld.Seeded ∧
    (skyHigh {}).Run (.init oneSeatWorld) ts c ∧ Sequential ts ∧ c.quiescent ∧
    1 ∈ c.state.db.passengers ∧ c.state.db.flights.get? 10 ≠ none ∧
    (∃ seat, c.state.db.bookings.seat 100 = some seat ∧ seat.flightId = 10 ∧
      seat.status = .available) ∧
    (∀ row ∈ c.state.db.checkIns.rows, row.status = .cancelled) ∧
    (∀ e ∈ c.state.db.waitlist.rows, e.status = .cancelled) ∧
    ¬ Completes {} c (.startCheckIn 1 ⟨10, 100⟩) (Started 1 10 100) ∧
    ¬ Completes {} c (.joinWaitlist 1 10) (Enlisted 1 10) := by
  obtain ⟨ts, c, hrun, htest⟩ := exists_run cancelThenLeave (fun ts c =>
    ts.all issuedAlone && ended c && decide (1 ∈ c.state.db.passengers) &&
    decide (c.state.db.flights.get? 10 ≠ none) &&
    (c.state.db.seats.get? 100).any (fun seat => seat.flightId = 10 ∧ seat.status = .available) &&
    decide (∀ row ∈ c.state.db.checkIns.rows, row.status = .cancelled) &&
    decide (∀ e ∈ c.state.db.waitlist.rows, e.status = .cancelled) &&
    (c.state.db.checkIns.get? 1).any (fun row => row.passengerId = 1 ∧ row.flightId = 10) &&
    (c.state.db.waitlist.get? 1).any fun e => e.flightId = 10 ∧ e.passengerId = 1)
    (by decide +kernel)
  simp only [Bool.and_eq_true, decide_eq_true_eq, Option.any_eq_true] at htest
  obtain ⟨⟨⟨⟨⟨⟨⟨⟨hseq, hended⟩, hp⟩, hf⟩, seat, hseat, hflight, hst⟩, hrows⟩, hentries⟩,
    row, hrow, hpf⟩, e, he, hfp⟩ := htest
  have hquiet := quiescent_of_ended hended
  refine ⟨ts, c, oneSeatWorld_seeded, hrun, sequential_of_issuedAlone hseq, hquiet, hp, hf,
    ⟨seat, hseat, hflight, hst⟩, hrows, hentries, ?_, ?_⟩
  · intro h
    have hunbooked := (completes_startCheckIn hquiet hp hf hseat hflight hst).iff.mp h
    exact hunbooked 1 row hrow hpf
  · intro h
    have hunlisted := (completes_joinWaitlist hquiet hp hf).iff.mp h
    exact hunlisted 1 e he hfp

end SkyHighCore
