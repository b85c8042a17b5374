import SkyHighCore.Properties.Holds
import SkyHighCore.Properties.HoldKeys
import SkyHighCore.Properties.Matching
import SkyHighCore.Properties.QueueHead

/-!
# Waitlisted passengers and walk-ins

A seat becomes available through a cancellation or through an expiry release, and is acquired by
the handler of a waitlist or by a `startCheckIn`.  The handler is told of the seat by an event and
takes the lock of the waitlist; `startCheckIn` takes the lock of the seat and does not look at the
waitlist.  So whoever's transaction comes first has the seat: a seat that somebody waits for goes
to the waitlist exactly when no `startCheckIn` that may have the seat performs its transaction
before the handler does.
-/

namespace SkyHighCore

open Framework

/-! ## Who frees a seat, and who acquires it -/

/-- The transition makes seat `s` of flight `f` available. -/
def frees (f : FlightId) (s : SeatId) (t : SkyTransition) : Bool :=
  ((t.pre.state.db.seats.get? s).any fun seat => seat.flightId = f ∧ seat.status ≠ .available) &&
    (t.post.state.db.seats.get? s).any (·.status = .available)

/-- The seat that the action frees. -/
def Action.freed? : Action → Option SeatId
  | .cancel checkIn _ _ => checkIn.seatId
  | .release seat => some seat.id
  | _ => none

/-- The calls that free seats. -/
def Call.freesSeats : Call → Bool
  | .cancelCheckIn .. | .handleHoldExpired _ | .releaseSeat _ | .sweepExpiredHolds => true
  | _ => false

/-- The handlers of waitlists. -/
def Call.servesWaitlist : Call → Bool
  | .processWaitlist .. => true
  | _ => false

/-- The transition is one of a `processWaitlist`. -/
def byWaitlist (t : SkyTransition) : Bool :=
  match t.label with
  | .act k _ => (t.pre.threads[k]?).any fun th => th.call.servesWaitlist
  | _ => false

/-- What the transaction of `startCheckIn` asks for: the keys of the check-in are there, the
passenger has no check-in on the flight, and the seat is available. -/
structure Database.Grants (db : Database) (p : PassengerId) (f : FlightId) (s : SeatId) : Prop where
  registered : p ∈ db.passengers
  flight : db.flights.get? f ≠ none
  unbooked : db.bookings.Unbooked p f
  available : ∃ seat, db.bookings.seat s = some seat ∧ seat.status = .available

/-- A `startCheckIn` performs its transaction on seat `s` without a fault, and finds everything it
asks for. -/
def WalksIn (s : SeatId) (t : SkyTransition) : Prop :=
  ∃ k ch i dto p f heldAt cont, t.label = .act k ch ∧ ch.fault = false ∧
    t.pre.threads[k]? = some ⟨.startCheckIn i dto, .act (.holdSeat p f s heldAt) cont⟩ ∧
    t.pre.state.db.Grants p f s

/-- Somebody waits for seat `s`: an entry that was eligible when the seat was freed has been
WAITING since, and nobody has acquired the seat. -/
def Awaited (us : List SkyTransition) (s : SeatId) : Prop :=
  ∃ us₁ t us₂ f e, us = us₁ ++ t :: us₂ ∧ frees f s t = true ∧ t.pre.state.db.Eligible f e ∧
    (∀ t' ∈ t :: us₂, t'.post.state.db.Waits f e) ∧ ∀ t' ∈ us₂, acquires s t' = false

/-! ## Transactions -/

section Transactions

variable {now t : Time} {p : PassengerId} {f : FlightId} {s : SeatId} {c : CheckIn}
  {db db' : Database}

lemma Tx.holdSeatTransaction_granted (h : holdSeatTransaction now p f s t db = .ok (c, db')) :
    db.Grants p f s := by
  obtain ⟨-, hawarded⟩ := holdSeatTransaction_awarded h
  obtain ⟨seat, hseat, havailable, -⟩ := hawarded.seats
  have hkeys : p ∈ db.passengers ∧ db.flights.get? f ≠ none := by
    simp only [holdSeatTransaction, run_bind, run_updateSeats, run_ite, run_throw, run_pure,
      run_logWithTransaction] at h
    split at h
    · cases h
    · split at h
      · rename_i hins
        have hfound := insertCheckIn_keys hins
        exact hfound
      · cases h
  exact ⟨hkeys.1, hkeys.2, Database.unbooked_iff.mpr hawarded.absent, seat, hseat, havailable⟩

/-- **When `startCheckIn` gets its seat.** -/
lemma exec_holdSeat_iff {ch : Choice} {w : World} :
    (∃ c, (World.exec (.holdSeat p f s t) ch w).1 = .ok c) ↔
      ch.fault = false ∧ w.db.Grants p f s := by
  have hexec : w.transaction ch (Tx.holdSeatTransaction w.now p f s t) =
      ((World.exec (.holdSeat p f s t) ch w).1, (World.exec (.holdSeat p f s t) ch w).2) := rfl
  constructor
  · rintro ⟨c, hc⟩
    rw [hc] at hexec
    have hch : ch.fault = false := by
      by_contra hno
      have hfault : ch.fault = true := (Bool.not_eq_false _).mp hno
      simp [World.transaction, hfault] at hexec
    rcases World.transaction_cases hexec with ⟨_, herror, -⟩ | ⟨c', db', -, hbody, -⟩
    · cases herror
    · exact ⟨hch, Tx.holdSeatTransaction_granted hbody⟩
  · rintro ⟨hch, hgrants⟩
    cases hr : (World.exec (.holdSeat p f s t) ch w).1 with
    | ok c => exact ⟨c, rfl⟩
    | error e =>
        rw [hr] at hexec
        obtain ⟨hbody, -⟩ := World.transaction_error hch hexec
        obtain ⟨seat, hseat, havailable⟩ := hgrants.available
        have hs : w.db.seats.get? s ≠ none := fun hnone => by
          cases hseat.symm.trans hnone
        obtain ⟨-, seat', hseat', htaken⟩ := Tx.holdSeatTransaction_rejected hbody
          (Database.unbooked_iff.mp hgrants.unbooked) hgrants.registered hgrants.flight hs
        obtain rfl : seat = seat' := Option.some_inj.mp (hseat.symm.trans hseat')
        exact absurd havailable htaken

end Transactions

/-! ## Transitions -/

section Transitions

variable {cfg : Settings} {w : World} {ts : List SkyTransition} {c : SkyConfig} {t : SkyTransition}

/-- A write makes a seat available by freeing it. -/
lemma Commits.freed {b b' : Bookings} {a : Action} (h : Commits b a b') {s : SeatId}
    {seat seat' : Seat} (hseat : b.seat s = some seat) (hst : seat.status ≠ .available)
    (hseat' : b'.seat s = some seat') (hst' : seat'.status = .available) : a.freed? = some s := by
  have hsame : b.seat s ≠ some seat' := by
    intro h
    obtain rfl : seat = seat' := Option.some_inj.mp (hseat.symm.trans h)
    exact hst hst'
  cases h with
  | holdSeat _ _ _ | assign _ _ _ | complete _ _ _ _ _ =>
      rcases Bookings.update_eq_some_iff.mp hseat' with ⟨-, rfl⟩ | ⟨-, hs⟩
      · cases hst'
      · exact absurd hs hsame
  | release _ _ _ _ =>
      rcases Bookings.update_eq_some_iff.mp hseat' with ⟨rfl, -⟩ | ⟨-, hs⟩
      · rfl
      · exact absurd hs hsame
  | cancel _ hsnap _ hseatId _ =>
      rcases Bookings.update_eq_some_iff.mp hseat' with ⟨rfl, -⟩ | ⟨-, hs⟩
      · exact hsnap.2.2.symm.trans hseatId
      · exact absurd hs hsame
  | awaitPayment _ _ _ => exact absurd hseat' hsame

/-- The next action of a call is one that it uses. -/
lemma run_uses (h : (skyHigh cfg).Run (.init w) ts c) {k : ℕ} {call : Call} {a : Action}
    {cont : Except AppException a.Res → Program Reply}
    (hk : c.threads[k]? = some ⟨call, .act a cont⟩) : call.uses a = true :=
  (h.all (P := fun call a => call.uses a = true) (Call.all_uses cfg) _ (List.mem_of_getElem? hk)).1

/-- **Only cancellations and expiry releases make a seat available.** -/
theorem run_frees (hw : w.Seeded) (h : (skyHigh cfg).Run (.init w) ts c) (ht : t ∈ ts)
    {f : FlightId} {s : SeatId} (hfrees : frees f s t = true) :
    ∃ k ch call q, t.label = .act k ch ∧ t.pre.threads[k]? = some ⟨call, q⟩ ∧
      call.freesSeats = true := by
  obtain ⟨hpre, hpost⟩ := Bool.and_eq_true_iff.mp hfrees
  obtain ⟨seat, hseat, hcond⟩ := (Option.any_eq_true _ _).mp hpre
  obtain ⟨seat', hseat', havailable⟩ := (Option.any_eq_true _ _).mp hpost
  have hst : seat.status ≠ .available := (of_decide_eq_true hcond).2
  have hst' : seat'.status = .available := of_decide_eq_true havailable
  have hseat : t.pre.state.db.bookings.seat s = some seat := hseat
  have hseat' : t.post.state.db.bookings.seat s = some seat' := hseat'
  cases (run_justified hw h t ht).effect with
  | quiet _ hquiet =>
      rw [hquiet.1, hseat] at hseat'
      obtain rfl := Option.some_inj.mp hseat'
      exact absurd hst' hst
  | @commit a hc _ hwrite _ =>
      have hfreed : a.freed? = some s := hwrite.freed hseat hst hseat' hst'
      obtain ⟨us, vs, -, hrun, -, -⟩ := h.mem_split ht
      obtain ⟨k, ch, call, cont, hl, hk⟩ := next_of_committed? hc
      refine ⟨k, ch, call, _, hl, hk, ?_⟩
      have huses : call.uses a = true := run_uses hrun hk
      cases a with
      | cancel | release =>
          cases call with
          | cancelCheckIn | handleHoldExpired | releaseSeat | sweepExpiredHolds => rfl
          | _ => cases huses
      | _ => cases hfreed

/-- A seat is acquired by an action that acquires it. -/
lemma run_acquires (hw : w.Seeded) (h : (skyHigh cfg).Run (.init w) ts c) (ht : t ∈ ts)
    {s : SeatId} (hacquires : acquires s t = true) :
    ∃ a p, committed? t = some a ∧ a.acquired? = some (s, p) := by
  obtain ⟨hpre, hpost⟩ := Bool.and_eq_true_iff.mp hacquires
  obtain ⟨seat, hseat, havailable⟩ := (Option.any_eq_true _ _).mp hpre
  obtain ⟨seat', hseat', hheld⟩ := Database.held_eq_true.mp hpost
  have hne : t.pre.state.db.bookings.seat s ≠ some seat' := by
    intro hsame
    obtain rfl : seat = seat' := Option.some_inj.mp (hseat.symm.trans hsame)
    rw [hheld] at havailable
    cases havailable
  obtain ⟨us, vs, -, hrun, hstep, -⟩ := h.mem_split ht
  obtain ⟨p, hp⟩ := Option.ne_none_iff_exists'.mp
    (((run_linked hw (hrun.snoc hstep)).wellFormed s seat' hseat').held hheld)
  cases (run_justified hw h t ht).effect with
  | quiet _ hquiet =>
      rw [hquiet.1] at hseat'
      exact absurd hseat' hne
  | @commit a hc _ hwrite _ =>
      rcases hwrite.hold hseat' hheld hp with hsame | ⟨hacquired, -⟩
      · exact absurd hsame hne
      · exact ⟨a, p, hc, hacquired⟩

/-- **Whoever acquires a seat is the handler of a waitlist or a walk-in.** -/
lemma run_byWaitlist_or_walksIn (hw : w.Seeded) (h : (skyHigh cfg).Run (.init w) ts c)
    (ht : t ∈ ts) {s : SeatId} (hacquires : acquires s t = true) :
    byWaitlist t = true ∨ WalksIn s t := by
  obtain ⟨a, p, hc, hacquired⟩ := run_acquires hw h ht hacquires
  obtain ⟨us, vs, -, hrun, -, -⟩ := h.mem_split ht
  obtain ⟨k, ch, call, cont, hl, hk⟩ := next_of_committed? hc
  have huses : call.uses a = true := run_uses hrun hk
  have hok : a.committed (World.exec a ch t.pre.state).1 = true := by
    by_contra hno
    simp [committed?, hl, hk, hno] at hc
  cases a with
  | assign entry seat f heldAt =>
      cases call with
      | processWaitlist f' s' => exact .inl (by simp [byWaitlist, hl, hk, Call.servesWaitlist])
      | _ => cases huses
  | holdSeat p' f s' heldAt =>
      obtain ⟨rfl, rfl⟩ := Prod.mk.inj (Option.some_inj.mp hacquired)
      cases call with
      | startCheckIn i dto =>
          have hgranted : ∃ d, (World.exec (.holdSeat p' f s' heldAt) ch t.pre.state).1 =
              .ok d := by
            cases hr : (World.exec (.holdSeat p' f s' heldAt) ch t.pre.state).1 with
            | ok d => exact ⟨d, rfl⟩
            | error e =>
                rw [hr] at hok
                cases hok
          obtain ⟨hch, hgrants⟩ := exec_holdSeat_iff.mp hgranted
          exact .inr ⟨k, ch, i, dto, p', f, heldAt, cont, hl, hch, hk, hgrants⟩
      | _ => cases huses
  | _ => cases hacquired

/-- A walk-in acquires its seat, and is no handler of a waitlist. -/
lemma run_walksIn (hw : w.Seeded) (h : (skyHigh cfg).Run (.init w) ts c) (ht : t ∈ ts)
    {s : SeatId} (hwalks : WalksIn s t) : acquires s t = true ∧ byWaitlist t = false := by
  obtain ⟨k, ch, i, dto, p, f, heldAt, cont, hl, hch, hk, hgrants⟩ := hwalks
  constructor
  · obtain ⟨d, hd⟩ : ∃ d, (World.exec (.holdSeat p f s heldAt) ch t.pre.state).1 = .ok d :=
      exec_holdSeat_iff.mpr ⟨hch, hgrants⟩
    have hc : committed? t = some (.holdSeat p f s heldAt) := by
      simp [committed?, hl, hk, hd, Action.committed]
    obtain ⟨seat, hseat, havailable⟩ := hgrants.available
    cases (run_justified hw h t ht).effect with
    | quiet hnone _ => cases hnone.symm.trans hc
    | @commit a hc' _ hwrite _ =>
        obtain rfl := Option.some_inj.mp (hc.symm.trans hc')
        have hpost : t.post.state.db.held s = true := by
          rw [Database.held_eq_true]
          generalize t.post.state.db.bookings = b' at hwrite
          cases hwrite with
          | @holdSeat _ _ _ _ seat' d _ _ _ =>
              exact ⟨seat'.heldFor d.passengerId heldAt, Function.update_self .., rfl⟩
        have hseat : t.pre.state.db.seats.get? s = some seat := hseat
        simp [acquires, hseat, havailable, hpost]
  · simp [byWaitlist, hl, hk, Call.servesWaitlist]

/-- **When waitlisted passengers come before walk-ins.**  Every seat that is freed while somebody
waits for it is acquired next by a `processWaitlist`, as long as somebody waits, exactly if no
`startCheckIn` that finds the seat and what else it asks for performs its transaction in the
meantime. -/
theorem waitlist_first_iff (hw : w.Seeded) (h : (skyHigh cfg).Run (.init w) ts c) :
    (∀ us t vs s, ts = us ++ t :: vs → Awaited us s → acquires s t = true →
      byWaitlist t = true) ↔
      ∀ us t vs s, ts = us ++ t :: vs → Awaited us s → ¬ WalksIn s t := by
  constructor
  · rintro hfirst us t vs s rfl hawaited hwalks
    have ht : t ∈ us ++ t :: vs := by simp
    obtain ⟨hacquires, hnot⟩ := run_walksIn hw h ht hwalks
    have hby := hfirst us t vs s rfl hawaited hacquires
    rw [hnot] at hby
    cases hby
  · rintro hnone us t vs s rfl hawaited hacquires
    have ht : t ∈ us ++ t :: vs := by simp
    rcases run_byWaitlist_or_walksIn hw h ht hacquires with hby | hwalks
    · exact hby
    · exact absurd hwalks (hnone us t vs s rfl hawaited)

end Transitions

/-- `oneSeatWorld` with a third passenger. -/
def threePassengers : World :=
  { oneSeatWorld with db := { oneSeatWorld.db with passengers := [1, 2, 3] } }

lemma threePassengers_seeded : threePassengers.Seeded := { oneSeatWorld_seeded with }

/-- Passenger 1 takes the seat, passenger 2 joins the waitlist, passenger 1 cancels, and the handler
of the event and a `startCheckIn` of passenger 3 are issued. -/
def cancelThenCompete : List SkyLabel :=
  start ++ [.invoke (.joinWaitlist 2 10)] ++ proceed 1 5 ++ [.invoke (.cancelCheckIn 1 1)] ++
  proceed 2 7 ++ [.invoke (.processWaitlist 10 none), .invoke (.startCheckIn 3 ⟨10, 100⟩)]

/-- If the handler is first, passenger 2 has the seat. -/
theorem waitlist_first_handler : ∃ ts c, (skyHigh {}).Run (.init threePassengers) ts c ∧
    ts.countP (acquires 100) = 2 ∧
    ((∀ us t vs s, ts = us ++ t :: vs → Awaited us s → acquires s t = true → byWaitlist t = true) ↔
      ∀ us t vs s, ts = us ++ t :: vs → Awaited us s → ¬ WalksIn s t) := by
  obtain ⟨ts, c, hrun, htest⟩ := exists_run_from threePassengers (cancelThenCompete ++ proceed 3 9)
    (fun ts _ => ts.countP (acquires 100) = 2) (by decide +kernel)
  exact ⟨ts, c, hrun, of_decide_eq_true htest, waitlist_first_iff threePassengers_seeded hrun⟩

/-- **If the walk-in is first, passenger 3 has the seat** that passenger 2 waits for. -/
theorem waitlist_first_walkIn : ∃ ts c, threePassengers.Seeded ∧
    (skyHigh {}).Run (.init threePassengers) ts c ∧ (∀ t ∈ ts, Faultless t) ∧
    ¬ ∀ us t vs s, ts = us ++ t :: vs → Awaited us s → acquires s t = true →
      byWaitlist t = true := by
  obtain ⟨ts, c, hrun, htest⟩ := exists_run_from threePassengers (cancelThenCompete ++ proceed 4 10)
    (fun ts _ => ts.all faultless && (ts[33]?).any fun t => acquires 100 t && !byWaitlist t &&
      ((ts.take 33)[21]?).any fun t₀ => frees 10 100 t₀ &&
        decide (∃ e ∈ t₀.pre.state.db.waitlist.rows, t₀.pre.state.db.Eligible 10 e ∧
          ∀ t' ∈ t₀ :: (ts.take 33).drop 22, t'.post.state.db.Waits 10 e) &&
        ((ts.take 33).drop 22).all fun t' => !acquires 100 t') (by decide +kernel)
  simp only [Bool.and_eq_true, Option.any_eq_true, List.all_eq_true, Bool.not_eq_true',
    decide_eq_true_eq] at htest
  obtain ⟨hfaultless, t, ht, ⟨hacquires, hnot⟩, t₀, ht₀, ⟨hfrees, e, -, he, hwaits⟩, hnone⟩ := htest
  refine ⟨ts, c, threePassengers_seeded, hrun, faultless_of_all (List.all_eq_true.mpr hfaultless),
    fun hfirst => ?_⟩
  have hby := hfirst _ t _ 100 (split_of_getElem? ht)
    ⟨_, t₀, _, 10, e, split_of_getElem? ht₀, hfrees, he, hwaits, hnone⟩ hacquires
  rw [hnot] at hby
  cases hby

end SkyHighCore
