import SkyHighCore.Properties.Expiries
import SkyHighCore.Properties.HoldKeys
import SkyHighCore.Properties.QueueHead

/-!
# A hold that has run out is handed over

A release frees the seat, expires the entry that the hold may have come from, and emits an event;
the handler of the event assigns the seat to the head of the waitlist.  The two calls are put
together here, for the states that complete operations reach: the entry of the former holder is
EXPIRED exactly if the hold came from it, the head of the waitlist is ASSIGNED, and nothing else is
different.
-/

namespace SkyHighCore

open Framework

/-! ## What the two calls leave behind -/

/-- The seat has been given to the passenger of entry `e` at `t`, with check-in `d`, which is the
only one that is new, and with a hold key set at `τ`. -/
structure World.Hands (w w₁ w₂ : World) (seat : Seat) (e : Waitlist) (d : CheckIn) (t τ : Time) :
    Prop where
  entry : w₂.db.queue e.id = some { e with status := .assigned }
  since : w₁.now ≤ t
  set : t ≤ τ
  past : τ ≤ w₂.now
  row : w₂.db.bookings.seat seat.id = some (seat.heldFor e.passengerId t)
  key : w₂.seatHolds seat.id = some (e.passengerId, τ + seatHoldTtl * 1000)
  fresh : w.db.bookings.checkIn d.id = none
  checkIn : d.passengerId = e.passengerId ∧ d.flightId = seat.flightId ∧ d.seatId = some seat.id ∧
    d.status = .inProgress
  checkIns : w₂.db.bookings.checkIn = Function.update
    (fun i => (w.db.bookings.checkIn i).map (CheckIn.releasedFrom seat.id)) d.id (some d)

/-- The seat has been released from passenger `q`, and offered to the waitlist of its flight.  An
entry of `q` is one that the hold came from if `came` says so. -/
structure World.HandsOver (w w₁ w₂ : World) (seat : Seat) (q : PassengerId)
    (came : WaitlistId → Prop) : Prop where
  event : w₁.events = w.events ++ [.waitlistProcess seat.flightId (some seat.id)]
  own : ∀ i e, w.db.queue i = some e → e.flightId = seat.flightId → e.passengerId = q →
    ∃ e', w₂.db.queue i = some e' ∧ (e'.status = .expired ↔ came i) ∧
      (came i → e' = { e with status := .expired }) ∧ (¬ came i → e' = e)
  head : (∃ e, w.db.Waits seat.flightId e) → ∃ e, Foremost (w.db.Waits seat.flightId) e ∧
    (∀ e', Foremost (w.db.Waits seat.flightId) e' → e' = e) ∧ ∃ d t τ, w.Hands w₁ w₂ seat e d t τ
  nobody : (∀ e, ¬ w.db.Waits seat.flightId e) →
    w₂.db.bookings.seat seat.id = some seat.freed ∧ ∀ i, w₂.db.bookings.checkIn i =
      (w.db.bookings.checkIn i).map (CheckIn.releasedFrom seat.id)
  seats : ∀ s, s ≠ seat.id → w₂.db.bookings.seat s = w.db.bookings.seat s
  entries : ∀ i e, w.db.queue i = some e → ¬ (e.flightId = seat.flightId ∧ e.passengerId = q) →
    ¬ Foremost (w.db.Waits seat.flightId) e → w₂.db.queue i = some e
  added : ∀ i, w.db.queue i = none → w₂.db.queue i = none

/-! ## The release -/

namespace Queue.Expires

variable {q q' : Queue} {f : FlightId} {p : PassengerId} {i : WaitlistId} {e : Waitlist}

lemma of_assigned (h : q.Expires f p q') (hsole : q.Sole) (he : q i = some e)
    (hf : e.flightId = f) (hp : e.passengerId = p) (hst : e.status = .assigned) :
    q' i = some { e with status := .expired } := by
  rcases h with ⟨d, hd, hdf, hdp, -, rfl⟩ | ⟨hnone, -⟩
  · obtain rfl : d.id = i := hsole d.id i d e hd he (hdf.trans hf.symm) (hdp.trans hp.symm)
    obtain rfl : d = e := Option.some_inj.mp (hd.symm.trans he)
    exact Function.update_self ..
  · exact absurd ⟨hf, hp, hst⟩ (hnone i e he)

lemma of_not (h : q.Expires f p q') (he : q i = some e)
    (hnot : ¬ (e.flightId = f ∧ e.passengerId = p ∧ e.status = .assigned)) : q' i = some e := by
  rcases h with ⟨d, hd, hdf, hdp, hst, rfl⟩ | ⟨-, rfl⟩
  · have hne : i ≠ d.id := by
      rintro rfl
      obtain rfl : d = e := Option.some_inj.mp (hd.symm.trans he)
      exact hnot ⟨hdf, hdp, hst⟩
    exact (Function.update_of_ne hne ..).trans he
  · exact he

lemma of_none (h : q.Expires f p q') (hi : q i = none) : q' i = none := by
  rcases h with ⟨d, hd, -, -, -, rfl⟩ | ⟨-, rfl⟩
  · have hne : i ≠ d.id := by
      rintro rfl
      cases hi.symm.trans hd
    exact (Function.update_of_ne hne ..).trans hi
  · exact hi

lemma waiting_iff (h : q.Expires f p q') (hst : e.status = .waiting) :
    q' i = some e ↔ q i = some e := by
  constructor
  · intro he
    cases hd : q i with
    | none => cases (h.of_none hd).symm.trans he
    | some d =>
        rcases h with ⟨d', hd', -, -, -, rfl⟩ | ⟨-, rfl⟩
        · rcases Bookings.update_eq_some_iff.mp he with ⟨-, rfl⟩ | ⟨-, he⟩
          · cases hst
          · exact hd.symm.trans he
        · exact hd.symm.trans he
  · intro he
    refine h.of_not he ?_
    rintro ⟨-, -, hassigned⟩
    cases hst.symm.trans hassigned

end Queue.Expires

section States

variable {w w₁ w₂ : World} {seat : Seat} {f : FlightId} {q : PassengerId} {s : SeatId}
  {came : WaitlistId → Prop}

lemma World.Released.waits_iff (h : w.Released w₁ seat) (hq : seat.heldBy = some q) (e : Waitlist) :
    w₁.db.Waits f e ↔ w.db.Waits f e := by
  have hqueue := h.queue q hq
  constructor
  · exact fun ⟨he, hf, hst⟩ => ⟨(hqueue.waiting_iff hst).mp he, hf, hst⟩
  · exact fun ⟨he, hf, hst⟩ => ⟨(hqueue.waiting_iff hst).mpr he, hf, hst⟩

lemma World.Released.waits_eq (h : w.Released w₁ seat) (hq : seat.heldBy = some q) :
    w₁.db.Waits f = w.db.Waits f :=
  funext fun e => propext (h.waits_iff hq e)

lemma Bookings.Unbooked.released {b : Bookings} {p : PassengerId} (h : b.Unbooked p f) :
    (b.released s seat).Unbooked p f := by
  rintro i c' hc' ⟨hp, hf⟩
  obtain ⟨c, hc, rfl⟩ := Option.map_eq_some_iff.mp hc'
  have hsame := c.sameBooking_releasedFrom s
  exact h i c hc ⟨hsame.1.symm.trans hp, hsame.2.1.symm.trans hf⟩

/-! ## The handler -/

/-- A handler that is offered a seat leaves it if nobody waits, and otherwise gives it to the head
of the waitlist, if that is eligible. -/
lemma World.Serves.gives (h : w.Serves f (some s) w₁) (hid : seat.id = s)
    (hseat : w.db.Offers f (some s) seat) (heligible : w.db.HeadEligible f) :
    ((∀ e, ¬ w.db.Waits f e) ∧ w₁.db = w.db) ∨
      ∃ e c t τ, Foremost (w.db.Waits f) e ∧ w.Seats w₁ e seat c t τ := by
  obtain ⟨hhandled, hsame | ⟨e, seat', c, t, τ, hhead, hoffer, hseats⟩⟩ := h
  · cases hhandled with
    | nobody hnone _ => exact .inl ⟨hnone, hsame⟩
    | nothing hnone _ => exact absurd hseat (hnone seat)
    | refused hhead hbooked _ => exact absurd (heligible _ hhead) hbooked
    | assigned hhead _ _ hassigned =>
        exact absurd (congrArg Database.queue hsame) (hassigned.queue_ne hhead.1)
  · have hid' : seat'.id = seat.id := (hoffer.2.2.2 s rfl).trans hid.symm
    have hrow := hoffer.1
    rw [hid'] at hrow
    obtain rfl : seat = seat' := Option.some_inj.mp (hseat.1.symm.trans hrow)
    exact .inr ⟨e, c, t, τ, hhead, hseats⟩

/-- An entry that has been assigned the seat which is released has been given it. -/
lemma World.Seats.hands {e : Waitlist} {c : CheckIn} {t τ : Time}
    (h : w₁.Seats w₂ e seat.freed c t τ) (hreleased : w.Released w₁ seat) :
    w.Hands w₁ w₂ seat e c t τ := by
  have hacq := h.assigned.checkIn
  have hfresh := hacq.fresh
  have hbookings := h.assigned.bookings
  rw [hreleased.bookings] at hfresh hbookings
  refine ⟨?_, h.since, h.set, h.past, ?_, h.key, ?_, ?_, congrArg Bookings.checkIn hbookings⟩
  · rw [h.assigned.queue]
    exact Function.update_self ..
  · rw [hbookings, ← h.assigned.passenger]
    exact Function.update_self ..
  · exact Option.map_eq_none_iff.mp hfresh
  · exact ⟨h.assigned.passenger, hacq.flight, hacq.seatId, hacq.status⟩

/-- **A release and the handler of its event.**  Let `came` hold of the ASSIGNED entry of the
holder, and let no entry of the holder be EXPIRED. -/
lemma World.Released.handsOver (hreleased : w.Released w₁ seat)
    (hlinked : w.db.bookings.Linked) (hsole : w.db.queue.Sole)
    (hdistinct : w.db.queue.Distinct seat.flightId)
    (hseat : w.db.bookings.seat seat.id = some seat) (hq : seat.heldBy = some q)
    (heligible : ∀ e, w.db.Waits seat.flightId e →
      w.db.bookings.Unbooked e.passengerId seat.flightId)
    (hcame : ∀ i e, w.db.queue i = some e → e.flightId = seat.flightId → e.passengerId = q →
      (came i ↔ e.status = .assigned) ∧ e.status ≠ .expired)
    (hserves : w₁.Serves seat.flightId (some seat.id) w₂) : w.HandsOver w₁ w₂ seat q came := by
  have hwaits := hreleased.waits_eq (f := seat.flightId) hq
  have hexpires := hreleased.queue q hq
  have hoffer : w₁.db.Offers seat.flightId (some seat.id) seat.freed := by
    refine ⟨?_, rfl, rfl, ?_⟩
    · rw [hreleased.bookings]
      exact Function.update_self ..
    · rintro _ ⟨⟩
      rfl
  have hhead : w₁.db.HeadEligible seat.flightId := by
    intro e he
    rw [hwaits] at he
    rw [hreleased.bookings]
    exact (heligible e he.1).released
  have hid : seat.freed.id = seat.id := rfl
  have hgives := hserves.gives hid hoffer hhead
  rw [hwaits] at hgives
  -- what the handler leaves as it is
  have hqueue : ∀ i, (∀ e, Foremost (w.db.Waits seat.flightId) e → i ≠ e.id) →
      w₂.db.queue i = w₁.db.queue i := by
    intro i hi
    rcases hgives with ⟨-, hsame⟩ | ⟨e, c, t, τ, hfirst, hseats⟩
    · rw [hsame]
    · rw [hseats.assigned.queue]
      exact Function.update_of_ne (hi e hfirst) ..
  have hwaiting : ∀ i e, w.db.queue i = some e → ¬ Foremost (w.db.Waits seat.flightId) e →
      w₂.db.queue i = w₁.db.queue i := by
    intro i e he hnot
    refine hqueue i fun e' he' => ?_
    rintro rfl
    exact hnot (Option.some_inj.mp (he.symm.trans he'.1.1) ▸ he')
  constructor
  case event => exact hreleased.events
  case own =>
    intro i e he hf hp
    obtain ⟨hiff, hunexpired⟩ := hcame i e he hf hp
    -- the holder has booked the seat, and does not wait
    have hnot : ¬ Foremost (w.db.Waits seat.flightId) e := by
      intro hfirst
      obtain ⟨j, d, hd, hdp, hdf, -⟩ := hlinked.holder seat.id seat q hseat hq
      exact heligible e hfirst.1 j d hd ⟨hdp.trans hp.symm, hdf⟩
    rw [hwaiting i e he hnot]
    by_cases hst : e.status = .assigned
    · refine ⟨_, hexpires.of_assigned hsole he hf hp hst, ?_, fun _ => rfl, fun hno => ?_⟩
      · exact iff_of_true rfl (hiff.mpr hst)
      · exact absurd (hiff.mpr hst) hno
    · have hno : ¬ came i := fun hyes => hst (hiff.mp hyes)
      refine ⟨e, hexpires.of_not he fun h => hst h.2.2, ?_, fun hyes => absurd hyes hno,
        fun _ => rfl⟩
      exact iff_of_false hunexpired hno
  case head =>
    rintro ⟨e₀, he₀⟩
    rcases hgives with ⟨hnone, -⟩ | ⟨e, c, t, τ, hfirst, hseats⟩
    · exact absurd he₀ (hnone e₀)
    · exact ⟨e, hfirst, fun e' he' => he'.eq hdistinct hfirst, c, t, τ, hseats.hands hreleased⟩
  case nobody =>
    intro hnone
    rcases hgives with ⟨-, hsame⟩ | ⟨e, -, -, -, hfirst, -⟩
    · rw [hsame, hreleased.bookings]
      exact ⟨Function.update_self .., fun _ => rfl⟩
    · exact absurd hfirst.1 (hnone e)
  case seats =>
    intro s hs
    have hfreed : w₁.db.bookings.seat s = w.db.bookings.seat s := by
      rw [hreleased.bookings]
      exact Function.update_of_ne hs ..
    rcases hgives with ⟨-, hsame⟩ | ⟨e, c, t, τ, -, hseats⟩
    · rw [hsame, hfreed]
    · rw [hseats.assigned.bookings, ← hfreed]
      exact Function.update_of_ne hs ..
  case entries =>
    intro i e he hother hnot
    rw [hwaiting i e he hnot]
    exact hexpires.of_not he fun h => hother ⟨h.1, h.2.1⟩
  case added =>
    intro i hi
    rw [hqueue i, hexpires.of_none hi]
    rintro e hfirst rfl
    cases hi.symm.trans hfirst.1.1

end States

/-! ## Runs -/

section Runs

variable {cfg : Settings} {w : World} {ts us vs : List SkyTransition} {c c₁ c₂ : SkyConfig}

/-- Whoever holds a seat has the entry from which the hold has come ASSIGNED, and no EXPIRED entry
on the flight. -/
lemma run_assignedIn_iff (hw : w.Seeded) (h : (skyHigh cfg).Run (.init w) ts c)
    (hseq : Sequential ts) {seat : Seat} {q : PassengerId}
    (hseat : c.state.db.bookings.seat seat.id = some seat) (hq : seat.heldBy = some q)
    {i : WaitlistId} {e : Waitlist} (he : c.state.db.queue i = some e)
    (hf : e.flightId = seat.flightId) (hp : e.passengerId = q) :
    (AssignedIn ts i seat.id ↔ e.status = .assigned) ∧ e.status ≠ .expired := by
  have hlinked := run_linked hw h
  have hall := run_assignments hw h hseq
  have hholds : c.state.db.bookings.Booked q seat.id seat.flightId := by
    obtain ⟨j, d, hd, hdp, hdf, hds⟩ := hlinked.holder seat.id seat q hseat hq
    exact ⟨j, d, hd, hdp, hdf, hds⟩
  have hunexpired : e.status ≠ .expired := by
    intro hst
    obtain ⟨t, ht, seat', hc, hf', hq'⟩ := run_expired hw h he hst
    obtain ⟨-, hbooked, hfreed⟩ := run_released hw h ht hc hq'
    rw [hf', hf, hp] at hbooked
    rw [hbooked.eq hlinked hholds] at hfreed
    exact hfreed seat hseat (hp ▸ hq)
  refine ⟨⟨fun hin => ?_, fun hst => ?_⟩, hunexpired⟩
  · obtain ⟨e', he', hserved, -⟩ := hall.served i seat.id hin
    obtain rfl : e = e' := Option.some_inj.mp (he.symm.trans he')
    exact hserved.resolve_right hunexpired
  · obtain ⟨s, hin⟩ := hall.origin i e he (.inl hst)
    obtain ⟨e', he', -, hbooked⟩ := hall.served i s hin
    obtain rfl : e = e' := Option.some_inj.mp (he.symm.trans he')
    rw [hf, hp] at hbooked
    rwa [hbooked.eq hlinked hholds] at hin

/-- **Expired holds are handed over in queue order.**  After complete operations, let nobody who
waits for flight `f` have a check-in on it.  A release of a seat of `f` that returns true, and the
handler of its event that runs alone and without faults, hand the seat over (`World.HandsOver`); the
entry of the former holder is the one that the hold came from exactly if it has been assigned this
seat.  Moreover, if every call that has released a seat has returned, an entry is EXPIRED exactly if
it has been assigned a seat and the hold of its passenger on that seat has been released. -/
theorem expired_hold_handover (hw : w.Seeded) (h : (skyHigh cfg).Run (.init w) ts c)
    (hseq : Sequential ts) (hquiet : c.quiescent) :
    (∀ f s q seat us c₁ vs r c₂, c.state.db.bookings.seat s = some seat → seat.flightId = f →
      seat.heldBy = some q →
      (∀ e, c.state.db.Waits f e → c.state.db.bookings.Unbooked e.passengerId f) →
      (skyHigh cfg).Solo c (.releaseSeat s) us (.ok (.released true)) c₁ →
      (skyHigh cfg).Solo c₁ (.processWaitlist f (some s)) vs r c₂ → (∀ t ∈ vs, Faultless t) →
      c.state.HandsOver c₁.state c₂.state seat q fun i => AssignedIn ts i s) ∧
    (ReleasesReturned ts c → ∀ i e, c.state.db.queue i = some e →
      (e.status = .expired ↔ ∃ s, AssignedIn ts i s ∧ ReleasedIn ts s e.passengerId)) := by
  constructor
  · rintro f s q seat us c₁ vs r c₂ hseat rfl hq heligible hrelease hhandler hfaultless
    have hlinked := run_linked hw h
    obtain rfl : seat.id = s := Table.key_of_get? hseat
    obtain ⟨-, -, -, -, seat', hseat', hreleased⟩ := released_of_solo hlinked hrelease
    obtain rfl : seat = seat' := Option.some_inj.mp (hseat.symm.trans hseat')
    obtain ⟨ts', hrun, -⟩ := hrelease.after h
    exact hreleased.handsOver hlinked (run_sole hw h) (run_distinct hw h hseq _) hseat hq heligible
      (fun i e he hf hp => run_assignedIn_iff hw h hseq hseat hq he hf hp)
      (serves_of_solo hw hrun hhandler hfaultless)
  · exact fun hreturned i e he => run_expired_iff hw h hseq hquiet hreturned he

end Runs

/-- Passenger 1 joins the waitlist and is assigned the seat, passenger 2 joins, and the hold runs
out. -/
def assignThenWait : List SkyLabel :=
  join ++ [.invoke (.processWaitlist 10 none)] ++ proceed 1 9 ++ [.invoke (.joinWaitlist 2 10)] ++
  proceed 2 5 ++ [.tick (120 * 1000)]

/-- The seat is released, and the handler of the event assigns it to passenger 2. -/
def releaseThenAssign : List SkyLabel :=
  assignThenWait ++ [.invoke (.releaseSeat 100)] ++ proceed 3 9 ++
  [.invoke (.processWaitlist 10 (some 100))] ++ proceed 4 9

/-- A test for `ReleasesReturned`. -/
def returnsIfReleased (c : SkyConfig) (t : SkyTransition) : Bool :=
  match t.label, committed? t with
  | .act k _, some (.release _) => (outcome? c k).any Except.isOk
  | _, _ => true

lemma releasesReturned_of_test {ts : List SkyTransition} {c : SkyConfig}
    (h : ts.all (returnsIfReleased c) = true) : ReleasesReturned ts c := by
  intro t ht k ch seat hl hc
  have htest := List.all_eq_true.mp h t ht
  simp only [returnsIfReleased, hl, hc] at htest
  obtain ⟨r, hr, hok⟩ := (Option.any_eq_true _ _).mp htest
  cases r with
  | error e => cases hok
  | ok v => exact ⟨v, hr⟩

/-- The seat goes from passenger 1 to passenger 2, and the entry of passenger 1 is EXPIRED: it has
been assigned the seat, and the hold has been released. -/
theorem expired_hold_handover_assignThenWait : ∃ ts c us c₁ vs r c₂ seat ts' c',
    (skyHigh {}).Run (.init oneSeatWorld) ts c ∧
    (skyHigh {}).Solo c (.releaseSeat 100) us (.ok (.released true)) c₁ ∧
    (skyHigh {}).Solo c₁ (.processWaitlist 10 (some 100)) vs r c₂ ∧
    c.state.HandsOver c₁.state c₂.state seat 1 (fun i => AssignedIn ts i 100) ∧
    AssignedIn ts 1 100 ∧ (∃ e, c.state.db.Waits 10 e) ∧
    (skyHigh {}).Run (.init oneSeatWorld) ts' c' ∧ ReleasesReturned ts' c' ∧
    (∃ e, c'.state.db.queue 1 = some e ∧ e.status = .expired ∧
      ∃ s, AssignedIn ts' 1 s ∧ ReleasedIn ts' s e.passengerId) ∧
    ∃ e, c'.state.db.queue 2 = some e ∧
      ¬ ∃ s, AssignedIn ts' 2 s ∧ ReleasedIn ts' s e.passengerId := by
  let seat : Seat := ⟨100, 10, 1, "A", .held, some 1, some 0⟩
  obtain ⟨ts, c, us, r₁, c₁, hrun, hrelease, htest⟩ := exists_solo_from oneSeatWorld assignThenWait
    (.releaseSeat 100) (proceed 3 9) (fun ts c _ r _ => ts.all issuedAlone && ended c &&
      decide (c.state.db.bookings.seat 100 = some seat) &&
      decide (∀ e ∈ c.state.db.waitlist.rows, c.state.db.Waits 10 e →
        c.state.db.bookings.Unbooked e.passengerId 10) &&
      decide (∃ e ∈ c.state.db.waitlist.rows, c.state.db.Waits 10 e) &&
      (c.state.db.waitlist.get? 1).any (fun e : Waitlist => decide (e.flightId = 10 ∧
        e.passengerId = 1 ∧ e.status = .assigned)) &&
      decide (released? r = some true)) (by decide +kernel)
  simp only [Bool.and_eq_true, decide_eq_true_eq] at htest
  obtain ⟨⟨⟨⟨⟨⟨hseq, hended⟩, hseat⟩, heligible⟩, e₂, -, hwaits⟩, hentry⟩, hreleased⟩ := htest
  have hseq := sequential_of_issuedAlone hseq
  obtain rfl := released?_eq_some hreleased
  obtain ⟨e₁, he₁, hassigned⟩ := (Option.any_eq_true _ _).mp hentry
  obtain ⟨hf₁, hp₁, hst₁⟩ := of_decide_eq_true hassigned
  obtain ⟨vs, r, c₂, hhandler, hlabels⟩ := System.exists_solo (skyHigh {}) {}
    (.processWaitlist 10 (some 100)) hrelease.quiescent
  have hfaultless : ∀ t ∈ vs, Faultless t := by
    intro t ht i ch hl
    cases (hlabels t ht).symm.trans hl
    rfl
  obtain ⟨hhands, -⟩ := expired_hold_handover oneSeatWorld_seeded hrun hseq
    (quiescent_of_ended hended)
  -- the same calls as one run
  obtain ⟨ts', c', hrun', htest'⟩ := exists_run releaseThenAssign (fun ts c =>
    ts.all issuedAlone && ended c && ts.all (returnsIfReleased c) &&
      (c.state.db.waitlist.get? 1).any (fun e : Waitlist => decide (e.status = .expired)) &&
      (c.state.db.waitlist.get? 2).any fun e : Waitlist => decide (e.status = .assigned))
    (by decide +kernel)
  simp only [Bool.and_eq_true, Option.any_eq_true, decide_eq_true_eq] at htest'
  obtain ⟨⟨⟨⟨hseq', hended'⟩, hreturned⟩, e₁', he₁', hexpired⟩, e₂', he₂', hassigned'⟩ := htest'
  have hreturned := releasesReturned_of_test hreturned
  obtain ⟨-, hiff⟩ := expired_hold_handover oneSeatWorld_seeded hrun'
    (sequential_of_issuedAlone hseq') (quiescent_of_ended hended')
  refine ⟨ts, c, us, c₁, vs, r, c₂, seat, ts', c', hrun, hrelease, hhandler, ?_, ?_, ⟨e₂, hwaits⟩,
    hrun', hreturned, ⟨e₁', he₁', hexpired, (hiff hreturned 1 e₁' he₁').mp hexpired⟩, e₂', he₂', ?_⟩
  · exact hhands 10 100 1 seat us c₁ vs r c₂ hseat rfl rfl
      (fun e he => heligible e (Database.waits_iff.mp he).1 he) hrelease hhandler hfaultless
  · have hrow : c.state.db.bookings.seat seat.id = some seat := hseat
    exact (run_assignedIn_iff oneSeatWorld_seeded hrun hseq hrow rfl he₁ hf₁ hp₁).1.mpr hst₁
  · rw [← hiff hreturned 2 e₂' he₂', hassigned']
    decide

end SkyHighCore
