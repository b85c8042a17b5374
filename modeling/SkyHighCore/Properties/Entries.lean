import SkyHighCore.Properties.Contracts

/-!
# What one action can do to the waitlist

Three statements write to the table `waitlist`: a join inserts an entry, an assignment marks one
by its id, and `save` writes back the status and the position of a row that the call has read.
`Action.Warrant` says what the call knows of the entry at that moment, and of the other data that
its write rests on: the position is one more than one that is taken, the hold key is that of a
passenger who has booked the seat.  `Requeues` is what the write then does, and `exec_requeues`
the inversion of an action.

Entries are never deleted, and only their statuses change.
-/

namespace SkyHighCore

open Framework

/-! ## Entries -/

/-- The table as a partial map. -/
abbrev Queue := WaitlistId → Option Waitlist

def Database.queue (db : Database) : Queue := db.waitlist.get?

/-- The columns of an entry that no statement changes. -/
def Waitlist.SameEntry (e e' : Waitlist) : Prop :=
  e'.flightId = e.flightId ∧ e'.passengerId = e.passengerId ∧ e'.position = e.position

lemma Waitlist.SameEntry.rfl {e : Waitlist} : e.SameEntry e := ⟨Eq.refl _, Eq.refl _, Eq.refl _⟩

lemma Waitlist.SameEntry.trans {e e' e'' : Waitlist} (h : e.SameEntry e') (h' : e'.SameEntry e'') :
    e.SameEntry e'' :=
  ⟨h'.1.trans h.1, h'.2.1.trans h.2.1, h'.2.2.trans h.2.2⟩

namespace Queue

/-- The row that `snap` was read from is still there. -/
def Has (q : Queue) (snap : Waitlist) : Prop := ∃ e, q snap.id = some e ∧ snap.SameEntry e

/-- Somebody on the waitlist of flight `f` has position `n`. -/
def Taken (q : Queue) (f : FlightId) (n : ℕ) : Prop :=
  ∃ i e, q i = some e ∧ e.flightId = f ∧ e.position = n

/-- Entry `i` gets a new status. -/
def marked (q : Queue) (i : WaitlistId) (e : Waitlist) (st : WaitlistStatus) : Queue :=
  Function.update q i (some { e with status := st })

/-- How the waitlist may change behind the back of a suspended call. -/
def Evolves (q q' : Queue) : Prop :=
  ∀ i e, q i = some e → ∃ e', q' i = some e' ∧ e.SameEntry e'

lemma Evolves.refl (q : Queue) : q.Evolves q := fun _ e he => ⟨e, he, .rfl⟩

lemma Evolves.trans {q q' q'' : Queue} (h : q.Evolves q') (h' : q'.Evolves q'') :
    q.Evolves q'' := by
  intro i e he
  obtain ⟨e', he', hsame⟩ := h i e he
  obtain ⟨e'', he'', hsame'⟩ := h' i e' he'
  exact ⟨e'', he'', hsame.trans hsame'⟩

lemma Evolves.marked {q : Queue} {i : WaitlistId} {e : Waitlist} (he : q i = some e)
    (st : WaitlistStatus) : q.Evolves (q.marked i e st) := by
  intro j d hd
  by_cases hj : j = i
  · subst hj
    obtain rfl : e = d := Option.some_inj.mp (he.symm.trans hd)
    exact ⟨_, Function.update_self .., .rfl⟩
  · exact ⟨d, (Function.update_of_ne hj ..).trans hd, .rfl⟩

lemma Evolves.inserted {q : Queue} {e : Waitlist} (hfresh : q e.id = none) :
    q.Evolves (Function.update q e.id (some e)) := by
  intro j d hd
  have hj : j ≠ e.id := by
    rintro rfl
    rw [hfresh] at hd
    cases hd
  exact ⟨d, (Function.update_of_ne hj ..).trans hd, .rfl⟩

lemma Has.evolves {q q' : Queue} (h : q.Evolves q') {snap : Waitlist} (hs : q.Has snap) :
    q'.Has snap := by
  obtain ⟨e, he, hsame⟩ := hs
  obtain ⟨e', he', hsame'⟩ := h _ e he
  exact ⟨e', he', hsame.trans hsame'⟩

lemma Taken.evolves {q q' : Queue} (h : q.Evolves q') {f : FlightId} {n : ℕ} (hn : q.Taken f n) :
    q'.Taken f n := by
  obtain ⟨i, e, he, hf, hpos⟩ := hn
  obtain ⟨e', he', hsame⟩ := h i e he
  exact ⟨i, e', he', hsame.1.trans hf, hsame.2.2.trans hpos⟩

end Queue

/-- Passenger `p` has booked seat `s` at some time. -/
def Bookings.HasBooked (b : Bookings) (p : PassengerId) (s : SeatId) : Prop :=
  ∃ i c, b.checkIn i = some c ∧ c.passengerId = p ∧ c.seatId = some s

lemma Bookings.HasBooked.evolves {b b' : Bookings} (h : b.Evolves b') {p : PassengerId}
    {s : SeatId} (hs : b.HasBooked p s) : b'.HasBooked p s := by
  obtain ⟨i, c, hc, hp, hcs⟩ := hs
  obtain ⟨c', hc', hsame⟩ := h.checkIn i c hc
  exact ⟨i, c', hc', hsame.1.trans hp, hsame.2.2.trans hcs⟩

/-! ## Warrants -/

/-- What a call knows of the data outside the bookings when it performs an action. -/
def Action.Warrant : Action → World → Prop
  | .assign entry _ flightId _, w =>
      w.db.queue.Has entry ∧ entry.status = .waiting ∧ entry.flightId = flightId
  | .saveWaitlist entry, w =>
      w.db.queue.Has entry ∧ (entry.status = .cancelled ∨ entry.status = .expired)
  | .insertWaitlist flightId _ position, w =>
      0 < position ∧ (position = 1 ∨ w.db.queue.Taken flightId (position - 1))
  | .setSeatHold seatId passengerId ttlSeconds, w =>
      ttlSeconds = seatHoldTtl ∧ w.db.bookings.HasBooked passengerId seatId
  | .auditLog dto, _ => dto.entityType ≠ .seat
  | _, _ => True

/-- The three actions that write to the waitlist. -/
def Action.enlists : Action → Bool
  | .assign .. | .saveWaitlist _ | .insertWaitlist .. => true
  | _ => false

/-- Whether the outcome of an action means that it has written to the waitlist. -/
def Action.enlisted : (a : Action) → Except AppException a.Res → Bool
  | .assign .., .ok assigned => assigned
  | .saveWaitlist _, .ok _ => true
  | .insertWaitlist .., .ok _ => true
  | _, _ => false

/-- The write to the waitlist that an action commits. -/
inductive Requeues (q : Queue) : Action → Queue → Prop
  | assign {snap seat f t e} (he : q snap.id = some e) (hsame : snap.SameEntry e) :
      Requeues q (.assign snap seat f t) (q.marked snap.id e .assigned)
  | save {snap e} (he : q snap.id = some e) (hsame : snap.SameEntry e) :
      Requeues q (.saveWaitlist snap) (q.marked snap.id e snap.status)
  | insert {f p n e} (hfresh : q e.id = none) (hf : e.flightId = f) (hp : e.passengerId = p)
      (hn : e.position = n) (hst : e.status = .waiting)
      (hunique : ∀ i d, q i = some d → ¬ (d.flightId = f ∧ d.passengerId = p)) :
      Requeues q (.insertWaitlist f p n) (Function.update q e.id (some e))

lemma Requeues.evolves {q q' : Queue} {a : Action} (h : Requeues q a q') : q.Evolves q' := by
  cases h with
  | assign he _ | save he _ => exact .marked he _
  | insert hfresh _ _ _ _ _ => exact .inserted hfresh

/-- A passenger has at most one entry on a flight. -/
def Queue.Sole (q : Queue) : Prop :=
  ∀ i j e e', q i = some e → q j = some e' → e.flightId = e'.flightId →
    e.passengerId = e'.passengerId → i = j

lemma Requeues.sole {q q' : Queue} {a : Action} (h : Requeues q a q') (hq : q.Sole) : q'.Sole := by
  have hmarked : ∀ {i : WaitlistId} {d : Waitlist} (st : WaitlistStatus), q i = some d →
      ∀ {j : WaitlistId} {e : Waitlist}, q.marked i d st j = some e →
        ∃ e₀, q j = some e₀ ∧ e₀.flightId = e.flightId ∧ e₀.passengerId = e.passengerId := by
    intro i d st hd j e he
    rcases Bookings.update_eq_some_iff.mp he with ⟨rfl, rfl⟩ | ⟨-, hj⟩
    · exact ⟨d, hd, rfl, rfl⟩
    · exact ⟨e, hj, rfl, rfl⟩
  intro i j e e' he he' hf hp
  cases h with
  | assign hd _ | save hd _ =>
      obtain ⟨e₀, he₀, hf₀, hp₀⟩ := hmarked _ hd he
      obtain ⟨e₀', he₀', hf₀', hp₀'⟩ := hmarked _ hd he'
      exact hq i j e₀ e₀' he₀ he₀' (hf₀.trans (hf.trans hf₀'.symm)) (hp₀.trans (hp.trans hp₀'.symm))
  | insert hfresh hf₁ hp₁ _ _ hunique =>
      rcases Bookings.update_eq_some_iff.mp he with ⟨rfl, rfl⟩ | ⟨-, hi⟩
      · rcases Bookings.update_eq_some_iff.mp he' with ⟨rfl, -⟩ | ⟨-, hj⟩
        · rfl
        · exact absurd ⟨hf.symm.trans hf₁, hp.symm.trans hp₁⟩ (hunique j e' hj)
      · rcases Bookings.update_eq_some_iff.mp he' with ⟨rfl, rfl⟩ | ⟨-, hj⟩
        · exact absurd ⟨hf.trans hf₁, hp.trans hp₁⟩ (hunique i e hi)
        · exact hq i j e e' hi hj hf hp

namespace Tx

lemma saveWaitlist_ok {snap e : Waitlist} {u : Unit} {db db' : Database}
    (h : saveWaitlist snap db = .ok (u, db')) (he : db.queue snap.id = some e)
    (hsame : snap.SameEntry e) : db'.queue = db.queue.marked snap.id e snap.status := by
  cases h
  have he : db.waitlist.get? snap.id = some e := he
  have hget := @Table.get?_updateWhere_of_key Waitlist WaitlistId _ _ db.waitlist
    (fun r => r.id = snap.id) _
    (fun r => { r with status := snap.status, position := snap.position }) (fun _ => rfl)
    snap.id e he (Table.key_of_get? he) fun _ hr => hr
  refine hget.trans (congrArg (Function.update db.waitlist.get? snap.id ∘ some) ?_)
  -- the position that is written back is the one the row has
  rw [← hsame.2.2]

lemma insertWaitlist_ok {now : Time} {f : FlightId} {p : PassengerId} {n : ℕ} {e : Waitlist}
    {db db' : Database} (h : insertWaitlist now f p n db = .ok (e, db')) :
    e = newWaitlist now f p n db ∧ (∀ i d, db.queue i = some d →
      ¬ (d.flightId = f ∧ d.passengerId = p)) ∧ p ∈ db.passengers ∧ db.flights.get? f ≠ none ∧
      db'.queue = Function.update db.queue e.id (some e) := by
  unfold insertWaitlist at h
  split at h
  · cases h
  · rename_i hunique
    split at h
    · cases h
    · rename_i hkeys
      cases h
      rw [not_or, not_not] at hkeys
      refine ⟨rfl, fun i d hd hfp => hunique ⟨d, Table.mem_of_get? hd, hfp⟩, hkeys.1, hkeys.2, ?_⟩
      exact Table.get?_insert_eq _ _ (Table.get?_freshKey _)

end Tx

/-- Every other action leaves the waitlist alone. -/
lemma exec_waitlist_eq {cfg : Settings} {a : Action} {ch : Choice} {w w' : World}
    {r : Except AppException a.Res} (hlinked : w.db.bookings.Linked) (hpre : a.Pre cfg w)
    (hother : a.enlists = false) (h : World.exec a ch w = (r, w')) :
    w'.db.waitlist = w.db.waitlist := by
  cases a with
  | assign | saveWaitlist | insertWaitlist => cases hother
  | holdSeat p f s t =>
      rcases World.transaction_cases h with ⟨e, -, rfl⟩ | ⟨x, db', -, hbody, rfl⟩
      · rfl
      · exact (Tx.holdSeatTransaction_ok hbody).2.2.2
  | release seat =>
      rcases World.transaction_cases h with ⟨e, -, rfl⟩ | ⟨x, db', -, hbody, rfl⟩
      · rfl
      · rcases Tx.releaseTransaction_ok hbody with ⟨-, rfl⟩ | ⟨-, _, _, -, -, -, -, -, -, hq⟩
        · rfl
        · exact hq
  | cancel snap i p =>
      obtain ⟨⟨c, hc, hsame⟩, rfl, -⟩ := hpre
      obtain ⟨s, seat, hcs, hseat, -⟩ := hlinked.seatOf _ c hc
      rcases World.transaction_cases h with ⟨e, -, rfl⟩ | ⟨x, db', -, hbody, rfl⟩
      · rfl
      · exact (Tx.cancelTransaction_ok hbody (hsame.2.2.symm.trans hcs) hc hseat).2.2
  | complete snap weight payment =>
      obtain ⟨⟨c, hc, hsame⟩, -⟩ := hpre
      obtain ⟨s, seat, hcs, hseat, -⟩ := hlinked.seatOf _ c hc
      rcases World.transaction_cases h with ⟨e, -, rfl⟩ | ⟨x, db', -, hbody, rfl⟩
      · rfl
      · exact (Tx.completeTransaction_ok hbody (hsame.2.2.symm.trans hcs) hc hseat).2.2
  | awaitPayment snap weight fee =>
      obtain ⟨⟨c, hc, -⟩, -⟩ := hpre
      rcases World.transaction_cases h with ⟨e, -, rfl⟩ | ⟨x, db', -, hbody, rfl⟩
      · rfl
      · exact (Tx.awaitPaymentUpdate_ok hbody hc).2.2
  | auditLog dto =>
      simp only [World.exec] at h
      split at h <;> cases h <;> rfl
  | _ =>
      have hdb := congrArg World.db (congrArg Prod.snd h)
      exact congrArg Database.waitlist
        (hdb.symm.trans (World.exec_sparesDatabase rfl ch w))

/-- **Inversion of an action.**  A warranted action commits a write to the waitlist, or leaves it as
it is. -/
theorem exec_requeues {cfg : Settings} {a : Action} {ch : Choice} {w w' : World}
    {r : Except AppException a.Res} (hlinked : w.db.bookings.Linked) (hpre : a.Pre cfg w)
    (hwarrant : a.Warrant w) (h : World.exec a ch w = (r, w')) :
    (a.enlisted r = true ∧ Requeues w.db.queue a w'.db.queue) ∨
      (a.enlisted r = false ∧ w'.db.waitlist = w.db.waitlist) := by
  cases a with
  | assign snap seat f t =>
      obtain ⟨⟨e, he, hsame⟩, -⟩ := hwarrant
      rcases World.transaction_cases h with ⟨_, rfl, rfl⟩ | ⟨b, db', rfl, hbody, rfl⟩
      · exact .inr ⟨rfl, rfl⟩
      · rcases Tx.assignTransaction_ok hbody with ⟨rfl, rfl⟩ | ⟨rfl, -, -, hq⟩
        · exact .inr ⟨rfl, rfl⟩
        · have he : w.db.waitlist.get? snap.id = some e := he
          have hqueue : db'.queue = w.db.queue.marked snap.id e .assigned := by
            rw [Database.queue, hq]
            exact Table.get?_updateWhere_of_key _ he (Table.key_of_get? he) fun _ hr => hr
          refine .inl ⟨rfl, ?_⟩
          show Requeues _ _ db'.queue
          rw [hqueue]
          exact .assign he hsame
  | saveWaitlist snap =>
      obtain ⟨⟨e, he, hsame⟩, -⟩ := hwarrant
      have h : w.transaction ch (Tx.saveWaitlist snap) = (r, w') := h
      rcases World.transaction_cases h with ⟨_, rfl, rfl⟩ | ⟨u, db', rfl, hbody, rfl⟩
      · exact .inr ⟨rfl, rfl⟩
      · refine .inl ⟨rfl, ?_⟩
        show Requeues _ _ db'.queue
        rw [Tx.saveWaitlist_ok hbody he hsame]
        exact .save he hsame
  | insertWaitlist f p n =>
      rcases World.transaction_cases h with ⟨_, rfl, rfl⟩ | ⟨e, db', rfl, hbody, rfl⟩
      · exact .inr ⟨rfl, rfl⟩
      · obtain ⟨rfl, hunique, -, -, hq⟩ := Tx.insertWaitlist_ok hbody
        refine .inl ⟨rfl, ?_⟩
        show Requeues _ _ db'.queue
        rw [hq]
        exact .insert (Table.get?_freshKey _) rfl rfl rfl rfl hunique
  | _ => exact .inr ⟨rfl, exec_waitlist_eq hlinked hpre rfl h⟩

end SkyHighCore
