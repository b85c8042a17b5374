import SkyHighCore.Properties.Alone
import SkyHighCore.Properties.Entries

/-!
# What a release does

`releaseSeat` looks at the seat and at the clock, and releases the seat if it has been held for 120
seconds.  `wp_releaseSeat_alone` says what has happened when such a call has run alone and without
faults: the seat is free, its holder's check-in is cancelled, one row has been added, the entry that
the hold may have come from is EXPIRED, and one event has been emitted; or nothing has happened.
-/

namespace SkyHighCore

open Framework

/-- Seat `s` is held, and has been for 120 seconds at `t`. -/
def Bookings.Stale (b : Bookings) (t : Time) (s : SeatId) : Prop :=
  ∃ seat h, b.seat s = some seat ∧ seat.status = .held ∧ seat.heldAt = some h ∧ h + 120 * 1000 ≤ t

/-- The ASSIGNED entry of `p` on flight `f` becomes EXPIRED, if there is one. -/
def Queue.Expires (q : Queue) (f : FlightId) (p : PassengerId) (q' : Queue) : Prop :=
  (∃ e, q e.id = some e ∧ e.flightId = f ∧ e.passengerId = p ∧ e.status = .assigned ∧
    q' = q.marked e.id e .expired) ∨
  ((∀ i e, q i = some e → ¬ (e.flightId = f ∧ e.passengerId = p ∧ e.status = .assigned)) ∧ q' = q)

/-- Passenger `p` has no ASSIGNED entry on flight `f`. -/
def Queue.Unassigned (q : Queue) (f : FlightId) (p : PassengerId) : Prop :=
  ∀ i e, q i = some e → e.flightId = f → e.passengerId = p → e.status ≠ .assigned

/-- The row that a release adds. -/
def releaseRow (seat : Seat) : AuditLog where
  entityType := .seat
  entityId := seat.id
  action := .seatReleased
  fromState := some (.seat .held)
  toState := .seat .available
  actorId := seat.heldBy.getD Tx.systemActorId
  metadata := [("reason", .text "hold_expired"), ("flightId", .uuid seat.flightId)]

/-- The seat has been released. -/
structure World.Released (w w' : World) (seat : Seat) : Prop where
  bookings : w'.db.bookings = w.db.bookings.released seat.id seat
  auditLog : w'.db.auditLog = w.db.auditLog ++ [releaseRow seat]
  queue : ∀ p, seat.heldBy = some p → w.db.queue.Expires seat.flightId p w'.db.queue
  events : w'.events = w.events ++ [.waitlistProcess seat.flightId (some seat.id)]

/-- What follows a release has been done, up to the events `added`. -/
structure World.Expired (w w' : World) (f : FlightId) (p : PassengerId) (added : List AppEvent) :
    Prop where
  queue : w.db.queue.Expires f p w'.db.queue
  bookings : w'.db.bookings = w.db.bookings
  auditLog : w'.db.auditLog = w.db.auditLog
  events : w'.events = w.events ++ added
  now : w.now ≤ w'.now

/-- What a release comes to that looks at the clock at `t`. -/
def World.Decides (w : World) (s : SeatId) (t : Time) (r : Except AppException Bool) (w' : World) :
    Prop :=
  (w.db.bookings.Stale t s ∧ r = .ok true ∧
    ∃ seat, w.db.bookings.seat s = some seat ∧ w.Released w' seat) ∨
  (¬ w.db.bookings.Stale t s ∧ r = .ok false ∧ w'.db = w.db ∧ w'.events = w.events)

/-! ## The statements -/

lemma Tx.releaseTransaction_hits {seat : Seat} {p : PassengerId} {db : Database}
    (hseat : db.seats.get? seat.id = some seat) (hheld : seat.status = .held)
    (hp : seat.heldBy = some p) : ∃ db', releaseTransaction seat db = .ok (true, db') ∧
      db'.bookings = db.bookings.released seat.id seat ∧
      db'.auditLog = db.auditLog ++ [releaseRow seat] ∧ db'.queue = db.queue := by
  have hhit : seat.id = seat.id ∧ seat.status = .held ∧ seat.heldBy.isSome = true ∧
      seat.heldBy = seat.heldBy := ⟨rfl, hheld, by simp [hp], rfl⟩
  have hcount : db.seats.count (fun r => r.id = seat.id ∧ r.status = .held ∧
      r.heldBy.isSome = true ∧ r.heldBy = seat.heldBy) ≠ 0 := by
    intro hzero
    exact (Table.count_eq_zero_iff _ _).mp hzero seat.id seat hseat hhit
  simp only [releaseTransaction, run_bind, run_updateSeats, run_updateCheckIns, run_ite,
    run_pure, run_logWithTransaction]
  rw [if_neg hcount]
  refine ⟨_, rfl, ?_, rfl, rfl⟩
  rw [Database.bookings, Table.get?_updateWhere_of_key _ hseat hhit fun r hr => hr.1]
  refine congrArg (Bookings.mk _) (funext fun i => ?_)
  rw [Table.get?_updateWhere]
  rfl

/-! ## The walk -/

section Walks

open HoldExpiryService

variable {cfg : Settings} {P : Choice → Prop} {s : SeatId} {w : World}

lemma wp_markWaitlistEntryExpired {f : FlightId} {p : PassengerId} :
    (markWaitlistEntryExpired f (some p)).wp ((skyHigh cfg).lone P)
      (Barring P fun _ w' => w.Expired w' f p []) w := by
  have hlast : (skyHigh cfg).Lasting w.SameData := w.lasting_sameData
  have hread : (findOneWaitlist { flightId := some f, passengerId := some p,
                                  status := some .assigned }).wp ((skyHigh cfg).lone P)
      (Barring P fun found w' => w.SameData w' ∧
        (∀ e, found = some e → w.db.queue e.id = some e ∧ e.flightId = f ∧ e.passengerId = p ∧
          e.status = .assigned) ∧
        (found = none → ∀ i e, w.db.queue i = some e →
          ¬ (e.flightId = f ∧ e.passengerId = p ∧ e.status = .assigned))) w := by
    refine barring_act hlast (.refl w) fun ch w₁ hch hw₁ =>
      ⟨_, _, World.query_ok (hch rfl) _, hw₁, fun e hfound => ?_, fun hfound i e he => ?_⟩
    · obtain ⟨hmem, ⟨-, hf, hp, hst⟩, -⟩ := Table.findOne_spec hfound
      rw [hw₁.db] at hmem
      exact ⟨(Table.mem_rows_iff _).mp hmem, hf f rfl, hp p rfl, hst _ rfl⟩
    · rintro ⟨hf, hp, hst⟩
      have hnone := (Table.findOne_eq_none_iff _ _ _).mp hfound e (hw₁.db ▸ Table.mem_of_get? he)
      exact hnone (by simp [WaitlistWhere.Matches, hf, hp, hst])
  refine barring_bind hread fun found w₁ ⟨hw₁, hsome, hnone⟩ => ?_
  cases found with
  | none =>
      refine ⟨.inr ⟨hnone rfl, congrArg _ hw₁.db⟩, congrArg _ hw₁.db, congrArg _ hw₁.db, ?_,
        hw₁.now⟩
      rw [hw₁.events, List.append_nil]
  | some e =>
      obtain ⟨he, hf, hp, hst⟩ := hsome e rfl
      refine barring_act hlast hw₁ fun ch w₂ hch hw₂ => ?_
      obtain ⟨db', hbody⟩ : ∃ db', Tx.saveWaitlist { e with status := .expired } w₂.db =
          .ok ((), db') := ⟨_, rfl⟩
      have he₂ : w₂.db.queue e.id = some e := by rwa [hw₂.db]
      have hqueue := Tx.saveWaitlist_ok hbody he₂ .rfl
      have hbookings : w₂.db.bookings = w.db.bookings := congrArg _ hw₂.db
      have hlog : w₂.db.auditLog = w.db.auditLog := congrArg _ hw₂.db
      rw [hw₂.db] at hqueue
      refine ⟨(), { w₂ with db := db' }, World.transaction_ok (hch rfl) hbody, ?_⟩
      cases hbody
      refine ⟨.inl ⟨e, he, hf, hp, hst, hqueue⟩, hbookings, hlog, ?_, hw₂.now⟩
      rw [List.append_nil]
      exact hw₂.events

/-- What follows a committed release. -/
lemma wp_afterRelease {seat : Seat} {p : PassengerId} (hp : seat.heldBy = some p) :
    (afterRelease seat).wp ((skyHigh cfg).lone P) (Barring P fun v w' => v = true ∧
      w.Expired w' seat.flightId p [.waitlistProcess seat.flightId (some seat.id)]) w := by
  have hlast : ∀ added, (skyHigh cfg).Lasting fun w' => w.Expired w' seat.flightId p added :=
    fun added e w' h =>
      ⟨h.queue, h.bookings, h.auditLog, h.events, h.now.trans (Nat.le_add_right _ e)⟩
  unfold afterRelease
  rw [hp]
  refine barring_bind wp_markWaitlistEntryExpired fun _ w₁ hw₁ => ?_
  have hcache : (SeatService.invalidateCache seat.flightId).wp ((skyHigh cfg).lone P)
      (Barring P fun _ w' => w.Expired w' seat.flightId p []) w₁ :=
    barring_act (hlast []) hw₁ fun ch w₂ hch hw₂ => ⟨_, _, World.redis_ok (hch rfl) _ _,
      hw₂.queue, hw₂.bookings, hw₂.auditLog, hw₂.events, hw₂.now⟩
  refine barring_bind hcache fun _ w₂ hw₂ => ?_
  have hemit : (emit (.waitlistProcess seat.flightId (some seat.id))).wp ((skyHigh cfg).lone P)
      (Barring P fun _ w' => w.Expired w' seat.flightId p
        [.waitlistProcess seat.flightId (some seat.id)]) w₂ := by
    refine barring_act (hlast []) hw₂ fun ch w₃ _ hw₃ =>
      ⟨_, _, rfl, hw₃.queue, hw₃.bookings, hw₃.auditLog, ?_, hw₃.now⟩
    rw [hw₃.events, List.append_nil]
  exact barring_bind hemit fun _ w₃ hw₃ => ⟨rfl, hw₃⟩

lemma World.Decides.not_stale {t : Time} {w' : World} (hw' : w.SameData w')
    (h : ¬ w.db.bookings.Stale t s) : w.Decides s t (.ok false) w' :=
  .inr ⟨h, rfl, hw'.db, hw'.events⟩

/-- A hold is stale exactly if the check of its expiry passes. -/
lemma stale_iff_holdExpiry {b : Bookings} {seat : Seat} {h : Time}
    (hseat : b.seat seat.id = some seat) (hheld : seat.status = .held)
    (hat : seat.heldAt = some h) (t : Time) : b.Stale t seat.id ↔ ¬ holdExpiry seat > t := by
  have hexpiry : holdExpiry seat = h + 120 * 1000 := by rw [holdExpiry_eq hat, seatHoldTtl]
  rw [not_lt, hexpiry]
  constructor
  · rintro ⟨seat', h', hseat', -, hat', hle⟩
    obtain rfl : seat = seat' := Option.some_inj.mp (hseat.symm.trans hseat')
    obtain rfl : h = h' := Option.some_inj.mp (hat.symm.trans hat')
    exact hle
  · exact fun hle => ⟨seat, h, hseat, hheld, hat, hle⟩

lemma wp_releaseSeatWithinLock {w₀ : World}
    (hwf : ∀ seat, w₀.db.bookings.seat s = some seat → seat.WellFormed) (hw : w₀.SameData w) :
    (releaseSeatWithinLock s).wp ((skyHigh cfg).lone P)
      (Barring P fun v w' => ∃ t, w₀.now ≤ t ∧ t ≤ w'.now ∧ w₀.Decides s t (.ok v) w') w := by
  have hlast : (skyHigh cfg).Lasting w₀.SameData := w₀.lasting_sameData
  have hread : (findOneSeat { id := some s }).wp ((skyHigh cfg).lone P)
      (Barring P fun found w' => found = w₀.db.bookings.seat s ∧ w₀.SameData w') w :=
    barring_act hlast hw fun ch w₁ hch hw₁ =>
      ⟨_, _, World.exec_findOneSeat_id (hch rfl) s, by rw [hw₁.db]; rfl, hw₁⟩
  refine barring_bind hread fun found w₁ ⟨hfound, hw₁⟩ => ?_
  subst hfound
  cases hseat : w₀.db.bookings.seat s with
  | none =>
      refine ⟨w₁.now, hw₁.now, le_rfl, .not_stale hw₁ ?_⟩
      rintro ⟨seat, h, hseat', -⟩
      cases hseat.symm.trans hseat'
  | some seat =>
      obtain rfl : seat.id = s := Table.key_of_get? hseat
      show Prog.wp _ (if seat.status ≠ .held then _ else _) _ w₁
      split
      · rename_i hst
        refine ⟨w₁.now, hw₁.now, le_rfl, .not_stale hw₁ ?_⟩
        rintro ⟨seat', h, hseat', hheld, -⟩
        obtain rfl : seat = seat' := Option.some_inj.mp (hseat.symm.trans hseat')
        exact hst hheld
      rename_i hst
      have hheld : seat.status = .held := not_not.mp hst
      obtain ⟨p, hp⟩ := Option.ne_none_iff_exists'.mp ((hwf seat hseat).held hheld)
      obtain ⟨h, hat⟩ : ∃ h, seat.heldAt = some h := by
        refine Option.ne_none_iff_exists'.mp fun hnone => ?_
        exact (hwf seat hseat).held hheld ((hwf seat hseat).paired.mpr hnone)
      have hstale := stale_iff_holdExpiry hseat hheld hat
      have hclock : dateNow.wp ((skyHigh cfg).lone P)
          (Barring P fun t w' => w₀.SameData w' ∧ w₀.now ≤ t ∧ t ≤ w'.now) w₁ :=
        barring_act hlast hw₁ fun ch w₂ _ hw₂ => ⟨_, _, rfl, hw₂, hw₂.now, le_rfl⟩
      refine barring_bind hclock fun t w₂ ⟨hw₂, ht, htle⟩ => ?_
      show Prog.wp _ (if holdExpiry seat > t then _ else _) _ w₂
      split
      · rename_i hgt
        exact ⟨t, ht, htle, .not_stale hw₂ fun h => (hstale t).mp h hgt⟩
      rename_i hgt
      have hlast' : (skyHigh cfg).Lasting fun w' => w₀.SameData w' ∧ t ≤ w'.now :=
        fun e w' h => ⟨hlast e w' h.1, h.2.trans (Nat.le_add_right _ e)⟩
      have hrelease : (release seat).wp ((skyHigh cfg).lone P) (Barring P fun affected w' =>
          affected = true ∧ w'.db.bookings = w₀.db.bookings.released seat.id seat ∧
          w'.db.auditLog = w₀.db.auditLog ++ [releaseRow seat] ∧ w'.db.queue = w₀.db.queue ∧
          w'.events = w₀.events ∧ t ≤ w'.now) w₂ := by
        refine barring_act hlast' ⟨hw₂, htle⟩ fun ch w₃ hch hw₃ => ?_
        obtain ⟨db', hbody, hb, hlog, hq⟩ := Tx.releaseTransaction_hits hseat hheld hp
        rw [← hw₃.1.db] at hbody
        exact ⟨true, _, World.transaction_ok (hch rfl) hbody, rfl, hb, hlog, hq, hw₃.1.events,
          hw₃.2⟩
      refine barring_bind hrelease fun affected w₃ ⟨haffected, hb, hlog, hq, hevents, hnow⟩ => ?_
      subst haffected
      refine Prog.wp_mono (fun r w₄ hw₄ => ?_) (wp_afterRelease hp)
      cases r with
      | error e => exact hw₄
      | ok v =>
          obtain ⟨rfl, hw₄⟩ := hw₄
          refine ⟨t, ht, hnow.trans hw₄.now, .inl ⟨(hstale t).mpr hgt, rfl, seat, hseat, ?_⟩⟩
          refine ⟨hw₄.bookings.trans hb, hw₄.auditLog.trans hlog, fun p' hp' => ?_, ?_⟩
          · obtain rfl : p = p' := Option.some_inj.mp (hp.symm.trans hp')
            rw [← hq]
            exact hw₄.queue
          · rw [hw₄.events, hevents]

/-- A release that returns has decided by whether the seat is stale, or its lock has been
refused. -/
def World.Attempts (P : Choice → Prop) (w : World) (s : SeatId) (v : Bool) (w' : World) : Prop :=
  (∃ t, w.now ≤ t ∧ t ≤ w'.now ∧ w.Decides s t (.ok v) w') ∨
    (Faulty P ∧ v = false ∧ w.SameData w')

lemma World.lasting_attempts {v : Bool} : (skyHigh cfg).Lasting (w.Attempts P s v) := by
  rintro e w' (⟨t, ht, htle, hdecides⟩ | ⟨hfaulty, hv, hsame⟩)
  · refine .inl ⟨t, ht, htle.trans (Nat.le_add_right _ e), ?_⟩
    rcases hdecides with ⟨hstale, hr, seat, hseat, hreleased⟩ | hnot
    · exact .inl ⟨hstale, hr, seat, hseat, ⟨hreleased.bookings, hreleased.auditLog, hreleased.queue,
        hreleased.events⟩⟩
    · exact .inr hnot
  · exact .inr ⟨hfaulty, hv, w.lasting_sameData e w' hsame⟩

/-- **A release that runs alone.** -/
theorem wp_releaseSeat (hwf : ∀ seat, w.db.bookings.seat s = some seat → seat.WellFormed) :
    (releaseSeat s).wp ((skyHigh cfg).lone P) (Barring P (w.Attempts P s)) w := by
  have hlock : (acquireLock (.seatLock s)).wp ((skyHigh cfg).lone P)
      (fun r w' => (r = .ok () ∨ Faulty P) ∧ w.SameData w') w := by
    refine System.wp_lone w.lasting_sameData (.refl w) fun ch w₁ r w₂ hch hw₁ he => ?_
    by_cases hfault : ch.fault = true
    · obtain ⟨e, herr⟩ := World.exec_fault (a := .acquireLock (.seatLock s)) rfl hfault w₁
      obtain ⟨rfl, rfl⟩ := Prod.mk.inj (herr.symm.trans he)
      exact ⟨.inr ⟨ch, hch, hfault⟩, hw₁⟩
    · have hok := World.exec_acquireLock (w := w₁) (Bool.eq_false_iff.mpr hfault) (.seatLock s)
      obtain ⟨rfl, rfl⟩ := Prod.mk.inj (hok.symm.trans he)
      exact ⟨.inl rfl, hw₁⟩
  refine (Prog.wp_andThen _ _ _ _).mpr (Prog.wp_mono (fun r w₁ ⟨hr, hw₁⟩ => ?_) hlock)
  cases r with
  | error e =>
      refine .inr ⟨hr.resolve_left ?_, rfl, hw₁⟩
      exact nofun
  | ok _ =>
      refine Prog.wp_tryFinally (Prog.wp_mono (fun r w₂ hw₂ => ?_)
        (wp_releaseSeatWithinLock hwf hw₁))
      have hunlock : ∀ {F : World → Prop}, (skyHigh cfg).Lasting F → F w₂ →
          (releaseLock (.seatLock s)).wp ((skyHigh cfg).lone P) (Barring P fun _ => F) w₂ :=
        fun hF hw => barring_act hF hw fun ch w₃ hch hw₃ =>
          ⟨_, _, World.exec_releaseLock (hch rfl) _, hw₃⟩
      cases r with
      | error e =>
          refine Prog.wp_mono (fun r' w₃ _ => ?_)
            (hunlock (F := fun _ => True) (fun _ _ h => h) trivial)
          cases r' <;> exact hw₂
      | ok v =>
          have hattempts : w.Attempts P s v w₂ := .inl hw₂
          refine Prog.wp_mono (fun r' w₃ hw₃ => ?_) (hunlock World.lasting_attempts hattempts)
          cases r' <;> exact hw₃

/-- **A release that runs alone and without faults.** -/
theorem wp_releaseSeat_alone
    (hwf : ∀ seat, w.db.bookings.seat s = some seat → seat.WellFormed) :
    (releaseSeat s).wp (unhindered cfg)
      (fun r w' => ∃ t, w.now ≤ t ∧ t ≤ w'.now ∧ w.Decides s t r w') w := by
  refine Prog.wp_mono (fun r w' hw' => ?_) (wp_releaseSeat hwf)
  obtain ⟨v, rfl, hdecides | ⟨⟨ch, hno, hyes⟩, -⟩⟩ := Barring.ok_of_unhindered hw'
  · exact hdecides
  · cases hno.symm.trans hyes

end Walks

/-- A release that has returned true has found a stale hold and released it, whatever has failed. -/
lemma released_of_solo {cfg : Settings} {c c' : SkyConfig} {s : SeatId} {us : List SkyTransition}
    (hlinked : c.state.db.bookings.Linked)
    (hsolo : (skyHigh cfg).Solo c (.releaseSeat s) us (.ok (.released true)) c') :
    ∃ t, c.state.now ≤ t ∧ t ≤ c'.state.now ∧ c.state.db.bookings.Stale t s ∧
      ∃ seat, c.state.db.bookings.seat s = some seat ∧ c.state.Released c'.state seat := by
  have hwp : ((Call.releaseSeat s).program cfg).wp ((skyHigh cfg).lone fun _ => True)
      (fun r w' => ∀ v, r = .ok (.released v) → c.state.Attempts (fun _ => True) s v w')
      c.state := by
    refine Prog.wp_map (Prog.wp_mono (fun r w' hpost => ?_)
      (wp_releaseSeat (hlinked.wellFormed s)))
    cases r with
    | error e => exact fun _ h => nomatch h
    | ok released =>
        rintro _ ⟨⟩
        exact hpost
  have hlast : ∀ r : Except AppException Reply, (skyHigh cfg).Lasting fun w' =>
      ∀ v, r = .ok (.released v) → c.state.Attempts (fun _ => True) s v w' :=
    fun r e w' h v hr => World.lasting_attempts e w' (h v hr)
  rcases hsolo.outcome (fun _ _ _ _ _ => trivial) hlast hwp true rfl with
    ⟨t, ht, htle, ⟨hstale, -, hseat⟩ | ⟨-, hno, -⟩⟩ | ⟨-, hno, -⟩
  · exact ⟨t, ht, htle, hstale, hseat⟩
  · cases hno
  · cases hno

/-! ## What calls that release leave behind -/

namespace Queue.Expires

variable {q q' : Queue} {f f' : FlightId} {p p' : PassengerId}

lemma unassigned (h : q.Expires f p q') (hsole : q.Sole) : q'.Unassigned f p := by
  rcases h with ⟨e, he, hf, hp, -, rfl⟩ | ⟨hnone, rfl⟩
  · intro i d hd hdf hdp hst
    rcases Bookings.update_eq_some_iff.mp hd with ⟨-, rfl⟩ | ⟨hne, hd⟩
    · cases hst
    · exact hne (hsole i e.id d e hd he (hdf.trans hf.symm) (hdp.trans hp.symm))
  · exact fun i d hd hdf hdp hst => hnone i d hd ⟨hdf, hdp, hst⟩

lemma keeps (h : q.Expires f p q') (hq : q.Unassigned f' p') : q'.Unassigned f' p' := by
  rcases h with ⟨e, -, -, -, -, rfl⟩ | ⟨-, rfl⟩
  · intro i d hd hdf hdp hst
    rcases Bookings.update_eq_some_iff.mp hd with ⟨-, rfl⟩ | ⟨-, hd⟩
    · cases hst
    · exact hq i d hd hdf hdp hst
  · exact hq

lemma sole (h : q.Expires f p q') (hsole : q.Sole) : q'.Sole := by
  rcases h with ⟨e, he, -, -, -, rfl⟩ | ⟨-, rfl⟩
  · exact Requeues.sole (a := .saveWaitlist { e with status := .expired }) (.save he .rfl) hsole
  · exact hsole

end Queue.Expires

/-- Releases have run alone.  No check-in is new, and whoever has lost a seat has no ASSIGNED entry
on its flight. -/
structure World.Clears (w w' : World) : Prop where
  checkIn : ∀ i c', w'.db.bookings.checkIn i = some c' →
    ∃ c, w.db.bookings.checkIn i = some c ∧ c.SameBooking c'
  seat : ∀ s seat p, w.db.bookings.seat s = some seat → seat.heldBy = some p →
    w'.db.bookings.seat s = some seat ∨ w'.db.queue.Unassigned seat.flightId p
  queue : ∀ f p, w.db.queue.Unassigned f p → w'.db.queue.Unassigned f p
  sole : w'.db.queue.Sole
  wellFormed : ∀ s seat, w'.db.bookings.seat s = some seat → seat.WellFormed

namespace World

variable {w w' w'' : World} {s : SeatId}

lemma Clears.of_eq (hsole : w.db.queue.Sole)
    (hwf : ∀ s seat, w.db.bookings.seat s = some seat → seat.WellFormed) (h : w'.db = w.db) :
    w.Clears w' := by
  refine ⟨fun i c hc => ?_, fun s seat p hseat _ => .inl ?_, fun f p hq => ?_, ?_, ?_⟩
  · rw [h] at hc
    exact ⟨c, hc, .rfl⟩
  all_goals rwa [h]

lemma Clears.trans (h : w.Clears w') (h' : w'.Clears w'') : w.Clears w'' where
  checkIn i c'' hc'' := by
    obtain ⟨c', hc', hsame'⟩ := h'.checkIn i c'' hc''
    obtain ⟨c, hc, hsame⟩ := h.checkIn i c' hc'
    exact ⟨c, hc, hsame.trans hsame'⟩
  seat s seat p hseat hp := by
    rcases h.seat s seat p hseat hp with hseat' | hq
    · exact h'.seat s seat p hseat' hp
    · exact .inr (h'.queue _ _ hq)
  queue f p hq := h'.queue f p (h.queue f p hq)
  sole := h'.sole
  wellFormed := h'.wellFormed

lemma Released.clears {seat : Seat} {p : PassengerId} (h : w.Released w' seat)
    (hseat : w.db.bookings.seat seat.id = some seat) (hp : seat.heldBy = some p)
    (hsole : w.db.queue.Sole)
    (hwf : ∀ s seat, w.db.bookings.seat s = some seat → seat.WellFormed) : w.Clears w' where
  checkIn i c' hc' := by
    rw [h.bookings] at hc'
    obtain ⟨c, hc, rfl⟩ := Option.map_eq_some_iff.mp hc'
    exact ⟨c, hc, c.sameBooking_releasedFrom seat.id⟩
  seat s row p' hrow hp' := by
    by_cases hs : s = seat.id
    · subst hs
      obtain rfl : seat = row := Option.some_inj.mp (hseat.symm.trans hrow)
      exact .inr ((h.queue p' hp').unassigned hsole)
    · rw [h.bookings]
      exact .inl ((Function.update_of_ne hs ..).trans hrow)
  queue f p' hq := (h.queue p hp).keeps hq
  sole := (h.queue p hp).sole hsole
  wellFormed s row hrow := by
    rw [h.bookings] at hrow
    rcases Bookings.update_eq_some_iff.mp hrow with ⟨-, rfl⟩ | ⟨-, hrow⟩
    · exact Bookings.wellFormed_freed seat
    · exact hwf s row hrow

lemma Attempts.clears {P : Choice → Prop} {v : Bool} (h : w.Attempts P s v w')
    (hsole : w.db.queue.Sole)
    (hwf : ∀ s seat, w.db.bookings.seat s = some seat → seat.WellFormed) : w.Clears w' := by
  rcases h with ⟨t, -, -, ⟨⟨row, _, hrow, hheld, -⟩, -, seat, hseat, hreleased⟩ | ⟨-, -, hdb, -⟩⟩ |
    ⟨-, -, hsame⟩
  · obtain rfl : seat.id = s := Table.key_of_get? hseat
    obtain rfl : seat = row := Option.some_inj.mp (hseat.symm.trans hrow)
    obtain ⟨p, hp⟩ := Option.ne_none_iff_exists'.mp ((hwf _ seat hseat).held hheld)
    exact hreleased.clears hseat hp hsole hwf
  · exact .of_eq hsole hwf hdb
  · exact .of_eq hsole hwf hsame.db

end World

section Walks

open HoldExpiryService

variable {cfg : Settings} {P : Choice → Prop} {w₀ w : World}

lemma wp_releaseSeat_clears (s : SeatId) (hw : w₀.Clears w) :
    (releaseSeat s).wp ((skyHigh cfg).lone P) (Barring P fun _ w' => w₀.Clears w') w := by
  refine Prog.wp_mono (fun r w' hr => ?_) (wp_releaseSeat (hw.wellFormed s))
  cases r with
  | ok v => exact hw.trans (World.Attempts.clears hr hw.sole hw.wellFormed)
  | error e => exact hr

lemma wp_sweepExpiredHolds_clears (hw : w₀.Clears w) :
    sweepExpiredHolds.wp ((skyHigh cfg).lone P) (Barring P fun _ w' => w₀.Clears w') w := by
  have hlast : (skyHigh cfg).Lasting w₀.Clears := fun _ _ h =>
    ⟨h.checkIn, h.seat, h.queue, h.sole, h.wellFormed⟩
  have hclock : dateNow.wp ((skyHigh cfg).lone P) (Barring P fun _ w' => w₀.Clears w') w :=
    barring_act hlast hw fun ch w₁ _ hw₁ => ⟨_, _, rfl, hw₁⟩
  refine barring_bind hclock fun t w₁ hw₁ => ?_
  have hfind : (findStaleSeats ((t : ℤ) - seatHoldTtl * 1000)).wp ((skyHigh cfg).lone P)
      (Barring P fun _ w' => w₀.Clears w') w₁ :=
    barring_act hlast hw₁ fun ch w₂ hch hw₂ => ⟨_, _, World.query_ok (hch rfl) _, hw₂⟩
  refine barring_bind hfind fun seats w₂ hw₂ => barring_forEach (fun seat _ w₃ hw₃ => ?_) hw₂
  exact barring_bind (wp_releaseSeat_clears seat.id hw₃) fun _ w₄ hw₄ => hw₄

end Walks

/-- **A call that may release a seat, and that returns after it has run alone**, clears what it
releases, whatever has failed. -/
theorem clears_of_solo {cfg : Settings} {c c' : SkyConfig} {call : Call} {seat : Seat} {v : Reply}
    {us : List SkyTransition} (hlinked : c.state.db.bookings.Linked)
    (hsole : c.state.db.queue.Sole) (hcall : call.uses (.release seat) = true)
    (hsolo : (skyHigh cfg).Solo c call us (.ok v) c') : c.state.Clears c'.state := by
  have hlast : ∀ r, (skyHigh cfg).Lasting
      (Barring (fun _ => True) (fun (_ : Reply) w' => c.state.Clears w') r) := by
    rintro (e | v) ms w h
    · exact h
    · exact ⟨h.checkIn, h.seat, h.queue, h.sole, h.wellFormed⟩
  have hmap : ∀ {α : Type} {p : Program α} {f : α → Reply},
      p.wp ((skyHigh cfg).lone fun _ => True)
        (Barring (fun _ => True) fun _ w' => c.state.Clears w') c.state →
      (f <$> p).wp ((skyHigh cfg).lone fun _ => True)
        (Barring (fun _ => True) fun _ w' => c.state.Clears w') c.state := by
    intro α p f hp
    refine Prog.wp_map (Prog.wp_mono (fun r w' hr => ?_) hp)
    cases r <;> exact hr
  have hrefl : c.state.Clears c.state := .of_eq hsole hlinked.wellFormed rfl
  refine hsolo.outcome (fun _ _ _ _ _ => trivial) hlast ?_
  cases call with
  | handleHoldExpired s =>
      exact hmap (barring_bind (wp_releaseSeat_clears s hrefl) fun _ _ hw => hw)
  | releaseSeat s => exact hmap (wp_releaseSeat_clears s hrefl)
  | sweepExpiredHolds => exact hmap (wp_sweepExpiredHolds_clears hrefl)
  | _ => cases hcall

end SkyHighCore
