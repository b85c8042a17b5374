import SkyHighCore.Framework.Replay
import SkyHighCore.Properties.AuditRows

/-!
# The history of a seat

Whether the audit rows of a seat can be replayed: whether they form a chain from AVAILABLE to the
status the seat has.  Four transactions write a row on the seat they change.  That of a hold or a
release is guarded by the status that its row names; that of a completion or a cancellation takes
the seat to be as the check-in has it.  An assignment writes a row on the waitlist entry only.
-/

namespace SkyHighCore

open Framework

/-- The audit rows of seat `s`, in insertion order. -/
def Database.seatRows (db : Database) (s : SeatId) : List Change :=
  db.changes.filter fun x => x.entityType = .seat ∧ x.entityId = s

/-- The audit rows of seat `s` form a chain from AVAILABLE to the status of the seat. -/
def Database.ReplaysSeat (db : Database) (s : SeatId) : Prop :=
  ∀ seat, db.bookings.seat s = some seat → Replay.Replays Change.fromState Change.toState
    (.seat .available) (db.seatRows s) (.seat seat.status)

/-- The audit rows of seat `s` can never be replayed again. -/
def Database.LosesSeat (db : Database) (s : SeatId) : Prop :=
  ∃ seat, db.bookings.seat s = some seat ∧ Replay.Broken Change.fromState Change.toState
    (.seat .available) (db.seatRows s) (.seat seat.status)

/-- What the transaction does to seat `s` is what it logs: an assignment logs nothing, the others
find the seat in the status that their row names. -/
def Action.LogsSeat (b : Bookings) (s : SeatId) : Action → Prop
  | .assign _ seat _ _ => seat.id ≠ s
  | a => a.FindsSeat b s

/-- If the transition commits a write, it logs what it does to the seats. -/
def LogsSeat (s : SeatId) (t : SkyTransition) : Prop :=
  ∀ a, committed? t = some a → a.LogsSeat t.pre.state.db.bookings s

/-- A move of the audit rows and the status of a seat. -/
abbrev SeatMove (faithful : Prop) (rows : List Change) (st : SeatStatus) (rows' : List Change)
    (st' : SeatStatus) : Prop :=
  Replay.Move Change.fromState Change.toState (.seat .available) faithful rows (.seat st) rows'
    (.seat st')

/-! ## One write -/

section Writes

variable {b b' : Bookings} {a : Action} {s : SeatId}

/-- The rows on seat `s` among the changes that an action reports. -/
def Action.seatChanges (a : Action) (s : SeatId) : List Change :=
  a.changes.filter fun x => x.entityType = .seat ∧ x.entityId = s

lemma Action.seatChanges_holdSeat (p : PassengerId) (f : FlightId) (s₀ : SeatId) (t : Time) :
    (Action.holdSeat p f s₀ t).seatChanges s =
      if s₀ = s then [⟨.seat, s₀, some (.seat .available), .seat .held⟩] else [] := by
  by_cases hs : s₀ = s <;> simp [seatChanges, changes, hs]

lemma Action.seatChanges_release (seat₀ : Seat) : (Action.release seat₀).seatChanges s =
      if seat₀.id = s then [⟨.seat, seat₀.id, some (.seat .held), .seat .available⟩] else [] := by
  by_cases hs : seat₀.id = s <;> simp [seatChanges, changes, hs]

lemma Action.seatChanges_complete {c : CheckIn} {s₀ : SeatId} (hc : c.seatId = some s₀) (weight : ℚ)
    (paymentId : Option String) : (Action.complete c weight paymentId).seatChanges s =
      if s₀ = s then [⟨.seat, s₀, some (.seat .held), .seat .confirmed⟩] else [] := by
  by_cases hs : s₀ = s <;> simp [seatChanges, changes, hc, hs]

lemma Action.seatChanges_cancel {c : CheckIn} {s₀ : SeatId} (hc : c.seatId = some s₀)
    (i : CheckInId) (p : PassengerId) : (Action.cancel c i p).seatChanges s =
      if s₀ = s then [⟨.seat, s₀, some (.seat c.seatStatus), .seat .available⟩] else [] := by
  by_cases hs : s₀ = s <;> simp [seatChanges, changes, hc, hs]

/-- A row on seat `s₀`, with the status that the seat gets. -/
lemma seatMove_logged {faithful : Prop} {s₀ : SeatId} {seat seat' seat₁ : Seat}
    (rows : List Change) (old : SeatStatus) (hseat : b.seat s₀ = some seat)
    (hstart : old = .available → seat.status = .available)
    (hiff : s₀ = s → (faithful ↔ old = seat.status)) (helse : s₀ ≠ s → faithful)
    (hseat₁ : Function.update b.seat s₀ (some seat') s = some seat₁) :
    ∃ seat₀, b.seat s = some seat₀ ∧ SeatMove faithful rows seat₀.status
      (rows ++ if s₀ = s then [⟨.seat, s₀, some (.seat old), .seat seat'.status⟩] else [])
      seat₁.status := by
  rcases Bookings.update_eq_some_iff.mp hseat₁ with ⟨rfl, rfl⟩ | ⟨hne, hs⟩
  · refine ⟨seat, hseat, ?_⟩
    rw [if_pos rfl]
    refine .logged rfl rfl (fun h => ?_) ((hiff rfl).trans ⟨fun h => h ▸ rfl, fun h => ?_⟩)
    · exact congrArg AuditState.seat (hstart (by simpa using h))
    · simpa using h
  · refine ⟨seat₁, hs, ?_⟩
    rw [if_neg (Ne.symm hne)]
    exact .still (List.append_nil _) rfl (helse (Ne.symm hne))

/-- **What a committed write does to a seat and to its audit rows.** -/
lemma Commits.seatMove (h : Commits b a b') (rows : List Change) {seat₁ : Seat}
    (hseat₁ : b'.seat s = some seat₁) : ∃ seat, b.seat s = some seat ∧
      SeatMove (a.LogsSeat b s) rows seat.status (rows ++ a.seatChanges s) seat₁.status := by
  cases h with
  | @holdSeat _ _ s₀ _ seat _ h _ _ =>
      rw [Action.seatChanges_holdSeat]
      exact seatMove_logged rows .available h.row (fun _ => h.available)
        (fun _ => iff_of_true trivial h.available.symm) (fun _ => trivial) hseat₁
  | @assign _ _ _ seat seat₀ _ h _ _ =>
      rcases Bookings.update_eq_some_iff.mp hseat₁ with ⟨rfl, rfl⟩ | ⟨hne, hs⟩
      · -- the seat is taken, and no row says so
        refine ⟨seat, h.row, .silent (List.append_nil _) (congrArg _ h.available) ?_ ?_⟩
        · exact fun hsame => nomatch hsame
        · exact fun hne => hne rfl
      · exact ⟨seat₁, hs, .still (List.append_nil _) rfl (Ne.symm hne)⟩
  | @release seat₀ seat _ hseat hheld _ _ =>
      rw [Action.seatChanges_release]
      exact seatMove_logged rows .held hseat nofun (fun _ => iff_of_true trivial hheld.symm)
        (fun _ => trivial) hseat₁
  | @cancel snap _ c s₀ seat _ hsame _ hseatId hseat =>
      have hsnap : snap.seatId = some s₀ := hsame.2.2.symm.trans hseatId
      rw [Action.seatChanges_cancel hsnap]
      refine seatMove_logged rows snap.seatStatus hseat (fun h => ?_) (fun hs => ?_)
        (fun hs hsnap' => ?_) hseat₁
      · unfold CheckIn.seatStatus at h
        split at h <;> cases h
      · subst hs
        refine ⟨fun h => (h hsnap seat hseat).symm, fun h _ seat' hseat' => ?_⟩
        rw [← Option.some_inj.mp (hseat.symm.trans hseat'), h]
      · exact absurd (Option.some_inj.mp (hsnap.symm.trans hsnap')) hs
  | @complete snap _ _ c s₀ seat _ hsame _ hseatId hseat =>
      have hsnap : snap.seatId = some s₀ := hsame.2.2.symm.trans hseatId
      rw [Action.seatChanges_complete hsnap]
      refine seatMove_logged rows .held hseat nofun (fun hs => ?_) (fun hs hsnap' => ?_) hseat₁
      · subst hs
        refine ⟨fun h => (h hsnap seat hseat).symm, fun h _ seat' hseat' => ?_⟩
        rw [← Option.some_inj.mp (hseat.symm.trans hseat'), h]
      · exact absurd (Option.some_inj.mp (hsnap.symm.trans hsnap')) hs
  | awaitPayment _ _ _ => exact ⟨seat₁, hseat₁, .still (List.append_nil _) rfl trivial⟩

/-- A write that is not logged is one to a seat that is there. -/
lemma Commits.exists_seat (h : Commits b a b') (hnot : ¬ a.LogsSeat b s) :
    ∃ seat, b.seat s = some seat := by
  by_contra hnone
  refine hnot ?_
  cases h with
  | assign h _ _ => exact fun hs => hnone ⟨_, hs ▸ h.row⟩
  | cancel _ _ _ _ _ | complete _ _ _ _ _ => exact fun _ seat hseat => absurd ⟨seat, hseat⟩ hnone
  | _ => trivial

end Writes

/-! ## Runs -/

variable {cfg : Settings} {w : World} {ts : List SkyTransition} {c : SkyConfig}

/-- What a transition of a run does to a seat and to its audit rows. -/
lemma step_seatMove (hw : w.Seeded) (h : (skyHigh cfg).Run (.init w) ts c) {l : SkyLabel}
    {c' : SkyConfig} (hstep : (skyHigh cfg).step l c = some c') {s : SeatId} {seat' : Seat}
    (hseat' : c'.state.db.bookings.seat s = some seat') :
    ∃ seat, c.state.db.bookings.seat s = some seat ∧ SeatMove (LogsSeat s ⟨c, l, c'⟩)
      (c.state.db.seatRows s) seat.status (c'.state.db.seatRows s) seat'.status := by
  have hjust : Justified cfg ⟨c, l, c'⟩ := run_justified hw (h.snoc hstep) _ (by simp)
  rcases step_changes hw h hstep with ⟨a, hc, hrows⟩ | ⟨hnone, hrows⟩
  · cases hjust.effect with
    | quiet hnone _ => cases hnone.symm.trans hc
    | @commit a' hc' _ hwrite _ =>
        obtain rfl : a' = a := Option.some_inj.mp (hc'.symm.trans hc)
        obtain ⟨seat, hseat, hmove⟩ := hwrite.seatMove (c.state.db.seatRows s) hseat'
        have hlogs : LogsSeat s ⟨c, l, c'⟩ ↔ a'.LogsSeat c.state.db.bookings s :=
          ⟨fun h => h _ hc, fun h a ha => Option.some_inj.mp (hc.symm.trans ha) ▸ h⟩
        have heq : c'.state.db.seatRows s = c.state.db.seatRows s ++ a'.seatChanges s := by
          rw [Database.seatRows, hrows, List.filter_append]
          rfl
        refine ⟨seat, hseat, ?_⟩
        rw [hlogs, heq]
        exact hmove
  · cases hjust.effect with
    | commit hc _ _ _ => cases hnone.symm.trans hc
    | quiet _ hquiet =>
        have hsame : c'.state.db.seatRows s = c.state.db.seatRows s := by
          rcases hrows with heq | ⟨x, hx, heq⟩
          · rw [Database.seatRows, heq]
            rfl
          · rw [Database.seatRows, heq, List.filter_append]
            simp [Database.seatRows, hx]
        refine ⟨seat', hquiet.1 ▸ hseat', .still hsame rfl fun a ha => ?_⟩
        cases hnone.symm.trans ha

/-- A seat is never deleted, and one that a transition does not log is there. -/
lemma Justified.exists_seat {t : SkyTransition} (ht : Justified cfg t) {s : SeatId}
    (h : ¬ LogsSeat s t ∨ ∃ seat, t.pre.state.db.bookings.seat s = some seat) :
    ∃ seat, t.post.state.db.bookings.seat s = some seat := by
  have hpre : ∃ seat, t.pre.state.db.bookings.seat s = some seat := by
    rcases h with hnot | hseat
    · simp only [LogsSeat, not_forall] at hnot
      obtain ⟨a, hc, hnot⟩ := hnot
      cases ht.effect with
      | quiet hnone _ => cases hnone.symm.trans hc
      | commit hc' _ hwrite _ =>
          obtain rfl := Option.some_inj.mp (hc'.symm.trans hc)
          exact hwrite.exists_seat hnot
    · exact hseat
  obtain ⟨seat, hseat⟩ := hpre
  obtain ⟨seat', hseat', -⟩ := ht.progress.bookings.seat s seat hseat
  exact ⟨seat', hseat'⟩

/-- After a run, the rows of a seat can be replayed if every write to it has been logged, and can
never be replayed if one has not. -/
lemma run_seatRows (hw : w.Seeded) (h : (skyHigh cfg).Run (.init w) ts c) (s : SeatId) :
    ((∀ t ∈ ts, LogsSeat s t) ∧ c.state.db.ReplaysSeat s) ∨
      ((∃ t ∈ ts, ¬ LogsSeat s t) ∧ c.state.db.LosesSeat s) := by
  induction h with
  | nil =>
      refine .inl ⟨fun _ ht => (nomatch ht), fun seat hseat => ?_⟩
      have hrows : (Config.init w : SkyConfig).state.db.seatRows s = [] := by
        simp [Config.init, Database.seatRows, Database.changes, hw.auditLog]
      rw [hrows, hw.seat_available hseat]
      exact Replay.replays_nil
  | @snoc ts c l c' hrun hstep ih =>
      have hjust : Justified cfg ⟨c, l, c'⟩ := run_justified hw (hrun.snoc hstep) _ (by simp)
      have hmove := fun seat' (hseat' : c'.state.db.bookings.seat s = some seat') =>
        step_seatMove hw hrun hstep hseat'
      rcases ih with ⟨hold, hreplays⟩ | ⟨⟨t, ht, hnot⟩, seat₀, hseat₀, hbroken⟩
      · by_cases hlast : LogsSeat s ⟨c, l, c'⟩
        · refine .inl ⟨List.forall_mem_append.mpr ⟨hold, List.forall_mem_singleton.mpr hlast⟩, ?_⟩
          intro seat' hseat'
          obtain ⟨seat, hseat, hmove⟩ := hmove seat' hseat'
          exact (hreplays seat hseat).move hmove hlast
        · obtain ⟨seat', hseat'⟩ := hjust.exists_seat (.inl hlast)
          obtain ⟨seat, hseat, hmove⟩ := hmove seat' hseat'
          exact .inr ⟨⟨_, List.mem_append_right _ List.mem_cons_self, hlast⟩, seat', hseat',
            (hreplays seat hseat).broken hmove hlast⟩
      · obtain ⟨seat', hseat'⟩ := hjust.exists_seat (.inr ⟨seat₀, hseat₀⟩)
        obtain ⟨seat, hseat, hmove⟩ := hmove seat' hseat'
        obtain rfl : seat = seat₀ := Option.some_inj.mp (hseat.symm.trans hseat₀)
        exact .inr ⟨⟨t, List.mem_append_left _ ht, hnot⟩, seat', hseat', hbroken.move hmove⟩

/-- **The audit log replays every seat** exactly when no assignment is committed, every completion
finds its seat held, and every cancellation finds its seat as the check-in it has read says. -/
theorem seatLog_replays_iff (hw : w.Seeded) (h : (skyHigh cfg).Run (.init w) ts c) :
    (∀ s, c.state.db.ReplaysSeat s) ↔ ∀ s, ∀ t ∈ ts, LogsSeat s t := by
  refine forall_congr' fun s => ?_
  rcases run_seatRows hw h s with ⟨hlogs, hreplays⟩ | ⟨⟨t, ht, hnot⟩, seat, hseat, hbroken⟩
  · exact iff_of_true hreplays hlogs
  · exact iff_of_false (fun h => hbroken.not_replays (h seat hseat)) fun hlogs => hnot (hlogs t ht)

/-- The rows of a seat that has been confirmed. -/
theorem seatLog_startThenConfirm : ∃ ts c, (skyHigh {}).Run (.init oneSeatWorld) ts c ∧
    (c.state.db.seatRows 100).length = 2 ∧
    ((∀ s, c.state.db.ReplaysSeat s) ↔ ∀ s, ∀ t ∈ ts, LogsSeat s t) := by
  obtain ⟨ts, c, hrun, htest⟩ := exists_run startThenConfirm
    (fun _ c => (c.state.db.seatRows 100).length = 2) (by decide +kernel)
  exact ⟨ts, c, hrun, of_decide_eq_true htest, seatLog_replays_iff oneSeatWorld_seeded hrun⟩

/-- Passenger 1 joins the waitlist, and its only handler serves the queue. -/
def joinThenProcess : List SkyLabel :=
  [.invoke (.joinWaitlist 1 10)] ++ proceed 0 5 ++ [.invoke (.processWaitlist 10 none)] ++
  proceed 1 9

/-- **The assignment of a seat leaves no row on it**, although every call has run alone and has
ended. -/
theorem seatLog_joinThenProcess : ∃ ts c, (skyHigh {}).Run (.init oneSeatWorld) ts c ∧
    Sequential ts ∧ (∀ t ∈ ts, Faultless t) ∧ c.quiescent ∧ ¬ ∀ s, c.state.db.ReplaysSeat s := by
  obtain ⟨ts, c, hrun, htest⟩ := exists_run joinThenProcess (fun ts c => ts.all issuedAlone &&
    ts.all faultless && ended c && decide (c.state.db.seatRows 100 = []) &&
    (c.state.db.seats.get? 100).any fun seat => seat.status = .held) (by decide +kernel)
  simp only [Bool.and_eq_true, Option.any_eq_true, decide_eq_true_eq] at htest
  obtain ⟨⟨⟨⟨hseq, hfaultless⟩, hended⟩, hrows⟩, seat, hseat, hheld⟩ := htest
  refine ⟨ts, c, hrun, sequential_of_issuedAlone hseq, faultless_of_all hfaultless,
    quiescent_of_ended hended, fun h => ?_⟩
  have hlast := (h 100 seat hseat).last
  rw [hrows, hheld] at hlast
  cases hlast

end SkyHighCore
