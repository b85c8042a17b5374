import SkyHighCore.Properties.Runs

/-!
# Holds of seats

Two facts about holds that need no condition on the run.

A release frees a hold that is at least 120 seconds old, although the instant it has read may be
that of an earlier hold: the passenger who owned the seat then had a check-in on the flight, and
the unique constraint keeps a passenger with a check-in from ever acquiring a seat of the flight
again (`Bookings.Evolves.hold`).  A hold is released at most once, whatever the number of expiry
events and sweeps that compete for it.

A passenger has at most one seat of a flight, although the application's own check is a read
before the write: the transaction that takes a seat inserts a check-in.
-/

namespace SkyHighCore

open Framework

variable {cfg : Settings} {w : World} {ts : List SkyTransition} {c : SkyConfig}

/-! ## One seat per passenger and flight -/

/-- No passenger holds two seats of one flight, and a check-in's seat is on its flight. -/
structure Bookings.OneSeat (b : Bookings) : Prop where
  holder : ∀ s s' seat seat' p, b.seat s = some seat → b.seat s' = some seat' →
    seat.flightId = seat'.flightId → seat.heldBy = some p → seat'.heldBy = some p → s = s'
  onFlight : ∀ i c s, b.checkIn i = some c → c.seatId = some s →
    ∃ seat, b.seat s = some seat ∧ seat.flightId = c.flightId

lemma Bookings.Linked.oneSeat {b : Bookings} (hb : b.Linked) : b.OneSeat where
  holder s s' seat seat' p hseat hseat' hf hp hp' := by
    obtain ⟨i, c, hc, hcp, hcf, hcs⟩ := hb.holder s seat p hseat hp
    obtain ⟨i', c', hc', hcp', hcf', hcs'⟩ := hb.holder s' seat' p hseat' hp'
    obtain rfl := hb.unique i c i' c' hc hc' (hcp.trans hcp'.symm)
      (hcf.trans (hf.trans hcf'.symm))
    obtain rfl := Option.some_inj.mp (hc.symm.trans hc')
    exact Option.some_inj.mp (hcs.symm.trans hcs')
  onFlight i c s hc hcs := by
    obtain ⟨s', seat, hcs', hseat, hf⟩ := hb.seatOf i c hc
    obtain rfl := Option.some_inj.mp (hcs.symm.trans hcs')
    exact ⟨seat, hseat, hf⟩

/-- **One seat per passenger per flight**, in every reachable state. -/
theorem run_oneSeat (hw : w.Seeded) (h : (skyHigh cfg).Run (.init w) ts c) :
    c.state.db.bookings.OneSeat :=
  (run_linked hw h).oneSeat

/-- Passenger 1 starts on two seats at once: both calls find no check-in before either inserts
one. -/
def startBoth : List SkyLabel :=
  [.invoke (.startCheckIn 1 ⟨10, 100⟩), .invoke (.startCheckIn 1 ⟨10, 101⟩)] ++ proceed 0 6 ++
  proceed 1 6 ++ proceed 0 4 ++ proceed 1 2

theorem oneSeat_startBoth : ∃ ts c, (skyHigh {}).Run (.init twoSeatWorld) ts c ∧ c.quiescent ∧
    c.state.db.seats.rows.map Seat.heldBy = [some 1, none] ∧ c.state.db.bookings.OneSeat := by
  obtain ⟨ts, c, hrun, htest⟩ := exists_run_from twoSeatWorld startBoth
    (fun _ c => ended c && decide (c.state.db.seats.rows.map Seat.heldBy = [some 1, none]))
    (by decide +kernel)
  rw [Bool.and_eq_true, decide_eq_true_eq] at htest
  obtain ⟨hended, hheld⟩ := htest
  exact ⟨ts, c, hrun, quiescent_of_ended hended, hheld, run_oneSeat twoSeatWorld_seeded hrun⟩

/-! ## Acquisitions and releases -/

/-- Seat `s` is held. -/
def Database.held (db : Database) (s : SeatId) : Bool :=
  (db.seats.get? s).any (·.status = .held)

/-- The transition takes seat `s` from AVAILABLE to HELD. -/
def acquires (s : SeatId) (t : SkyTransition) : Bool :=
  (t.pre.state.db.seats.get? s).any (·.status = .available) && t.post.state.db.held s

/-- The transition commits a release of seat `s` that affects its row. -/
def releases (s : SeatId) (t : SkyTransition) : Bool :=
  match committed? t with
  | some (.release seat) => seat.id = s
  | _ => false

/-- The number of `SEAT_RELEASED` audit rows of seat `s`. -/
def Database.releasedRows (db : Database) (s : SeatId) : ℕ :=
  db.auditLog.countP fun l => l.action = .seatReleased ∧ l.entityId = s

lemma Database.held_eq_true {db : Database} {s : SeatId} :
    db.held s = true ↔ ∃ seat, db.bookings.seat s = some seat ∧ seat.status = .held := by
  simp [held, bookings, Option.any_eq_true]

/-- A write makes a seat held only by acquiring it. -/
lemma Commits.held {b b' : Bookings} {a : Action} (h : Commits b a b') {s : SeatId} {seat' : Seat}
    (hseat' : b'.seat s = some seat') (hheld : seat'.status = .held) :
    ∃ seat, b.seat s = some seat ∧ (seat.status = .held ∨ seat.status = .available) := by
  cases h with
  | holdSeat h _ _ | assign h _ _ =>
      rcases Bookings.update_eq_some_iff.mp hseat' with ⟨rfl, -⟩ | ⟨-, hs⟩
      · exact ⟨_, h.row, .inr h.available⟩
      · exact ⟨seat', hs, .inl hheld⟩
  | release _ _ _ _ | cancel _ _ _ _ _ | complete _ _ _ _ _ =>
      rcases Bookings.update_eq_some_iff.mp hseat' with ⟨-, rfl⟩ | ⟨-, hs⟩
      · cases hheld
      · exact ⟨seat', hs, .inl hheld⟩
  | awaitPayment _ _ _ => exact ⟨seat', hseat', .inl hheld⟩

/-- A seat that is held after a transition was held before, or is acquired by it. -/
lemma Justified.held {t : SkyTransition} (ht : Justified cfg t) {s : SeatId}
    (hpost : t.post.state.db.held s = true) :
    t.pre.state.db.held s = true ∨ acquires s t = true := by
  obtain ⟨seat', hseat', hheld⟩ := Database.held_eq_true.mp hpost
  cases ht.effect with
  | quiet _ hquiet =>
      rw [hquiet.1] at hseat'
      exact .inl (Database.held_eq_true.mpr ⟨seat', hseat', hheld⟩)
  | commit _ _ hwrite _ =>
      obtain ⟨seat, hseat, hst | hst⟩ := hwrite.held hseat' hheld
      · exact .inl (Database.held_eq_true.mpr ⟨seat, hseat, hst⟩)
      · have hseat : t.pre.state.db.seats.get? s = some seat := hseat
        exact .inr (by simp [acquires, hseat, hst, hpost])

/-- A release takes a seat from HELD to AVAILABLE. -/
lemma Justified.release {t : SkyTransition} (ht : Justified cfg t) {s : SeatId}
    (hrel : releases s t = true) :
    t.pre.state.db.held s = true ∧ t.post.state.db.held s = false := by
  cases ht.effect with
  | quiet hnone _ => simp [releases, hnone] at hrel
  | @commit a hc _ hwrite _ =>
      simp only [releases, hc] at hrel
      split at hrel
      · rename_i seat₀ ha
        cases ha
        obtain rfl : seat₀.id = s := by simpa using hrel
        generalize hb' : t.post.state.db.bookings = b' at hwrite
        cases hwrite with
        | @release _ seat p hseat hheld _ _ =>
            refine ⟨Database.held_eq_true.mpr ⟨seat, hseat, hheld⟩, ?_⟩
            rw [← Bool.not_eq_true, Database.held_eq_true, hb']
            rintro ⟨seat', hseat', hheld'⟩
            obtain rfl : seat.freed = seat' := by simpa [Bookings.released] using hseat'
            cases hheld'
      · cases hrel

lemma Database.releasedRows_eq (db : Database) (s : SeatId) :
    db.releasedRows s = db.trail.count (.seatReleased, s) := by
  rw [releasedRows, trail, List.count, List.countP_map, List.countP_filter]
  refine List.countP_congr fun l _ => ?_
  simp only [Function.comp_apply, Bool.and_eq_true, beq_iff_eq, Prod.mk.injEq, decide_eq_true_eq,
    iff_self_and, and_imp]
  rintro hl -
  rw [hl]
  rfl

/-- The release rows grow by one with each release. -/
lemma Justified.releasedRows {t : SkyTransition} (ht : Justified cfg t) (s : SeatId) :
    t.post.state.db.releasedRows s =
      t.pre.state.db.releasedRows s + (releases s t).toNat := by
  simp only [Database.releasedRows_eq, releases]
  cases ht.effect with
  | quiet hnone hquiet => simp [hquiet.2.trail, hnone]
  | @commit a hc _ hwrite hlogs =>
      rw [hlogs.trail, List.count_append, hc]
      congr 1
      generalize t.post.state.db.bookings = b' at hwrite
      cases hwrite with
      | @release seat₀ =>
          by_cases hs : seat₀.id = s <;> simp [Action.trail, hs]
      | holdSeat | assign | awaitPayment | cancel | complete =>
          simp [Action.trail, List.count_eq_zero]

/-! ## Runs -/

/-- Without an acquisition, a seat that is not held stays so. -/
lemma not_held_of_no_acquisition {us : List SkyTransition} {c₀ : SkyConfig} {s : SeatId}
    (h : (skyHigh cfg).Run c₀ us c) (hjust : ∀ t ∈ us, Justified cfg t)
    (hnone : ∀ t ∈ us, acquires s t = false) (h₀ : c₀.state.db.held s = false) :
    c.state.db.held s = false := by
  refine h.invariant_of (fun c => c.state.db.held s = false)
    (fun t => Justified cfg t ∧ acquires s t = false)
    (fun t ht => ⟨hjust t ht, hnone t ht⟩) h₀ ?_
  rintro l c c' hc - ⟨ht, hacq⟩
  rw [← Bool.not_eq_true]
  intro hheld
  rcases ht.held hheld with hpre | hacq'
  · simp [hc] at hpre
  · simp [hacq] at hacq'

/-- Releases and the current hold are paid for by acquisitions. -/
lemma releasedRows_add_held_le (hw : w.Seeded) (h : (skyHigh cfg).Run (.init w) ts c)
    (s : SeatId) :
    c.state.db.releasedRows s + (c.state.db.held s).toNat ≤ ts.countP (acquires s) := by
  induction h with
  | nil =>
      have hheld : w.db.held s = false := by
        rw [← Bool.not_eq_true, Database.held_eq_true]
        rintro ⟨seat, hseat, hst⟩
        rw [hw.seat_available hseat] at hst
        cases hst
      simp [Config.init, Database.releasedRows, hw.auditLog, hheld]
  | @snoc ts c l c' hrun hstep ih =>
      have ht : Justified cfg ⟨c, l, c'⟩ := run_justified hw (.snoc hrun hstep) _ (by simp)
      have hrows := ht.releasedRows s
      have hheld := ht.held (s := s)
      have hrel := ht.release (s := s)
      rw [List.countP_append, List.countP_singleton]
      simp only at hrows hheld hrel
      rw [hrows]
      generalize releases s ⟨c, l, c'⟩ = r at hrel hrows ⊢
      generalize acquires s ⟨c, l, c'⟩ = a at hheld ⊢
      generalize c.state.db.held s = pre at hheld hrel ih
      generalize c'.state.db.held s = post at hheld hrel ⊢
      cases r <;> cases a <;> cases pre <;> cases post <;> simp at hheld hrel ih ⊢ <;> omega

/-- **Expiry is never early and at most once.**  A release that affects a row frees a hold at least
120 seconds old; between two releases of a seat it has been acquired anew; and the audit log
reports no more releases of a seat than it has been acquired. -/
theorem expiry_once_never_early (hw : w.Seeded) (h : (skyHigh cfg).Run (.init w) ts c) :
    (∀ t ∈ ts, ∀ seat₀, committed? t = some (.release seat₀) →
      ∃ seat heldAt, t.pre.state.db.bookings.seat seat₀.id = some seat ∧ seat.status = .held ∧
        seat.heldAt = some heldAt ∧ heldAt + 120 * 1000 ≤ t.pre.state.now ∧
        t.post.state.db.bookings.seat seat₀.id = some seat.freed) ∧
    (∀ s us t₁ vs t₂ ws, ts = us ++ t₁ :: vs ++ t₂ :: ws → releases s t₁ = true →
      releases s t₂ = true → ∃ t ∈ vs, acquires s t = true) ∧
    ∀ s, c.state.db.releasedRows s ≤ ts.countP (acquires s) := by
  have hjust := run_justified hw h
  refine ⟨fun t ht seat₀ hc => ?_, ?_, fun s => ?_⟩
  · cases (hjust t ht).effect with
    | quiet hnone _ => simp [hnone] at hc
    | commit hc' hpre hwrite _ =>
        obtain rfl := Option.some_inj.mp (hc'.symm.trans hc)
        obtain ⟨p, heldAt, hhold, hdue⟩ := hpre
        obtain ⟨seat', hseat', -, hsame⟩ := hhold.row
        generalize t.post.state.db.bookings = b' at hwrite
        cases hwrite with
        | @release _ seat q hseat hheld howner hsnap =>
            obtain rfl := Option.some_inj.mp (hseat'.symm.trans hseat)
            obtain rfl := Option.some_inj.mp (hhold.heldBy.symm.trans hsnap)
            exact ⟨seat', heldAt, hseat, hheld, hsame howner, hdue,
              by simp [Bookings.released]⟩
  · rintro s us t₁ vs t₂ ws rfl hrel₁ hrel₂
    by_contra hnone
    simp only [not_exists, not_and, Bool.not_eq_true] at hnone
    rw [List.append_assoc, List.cons_append] at h
    obtain ⟨-, -, hrest⟩ := h.at_transition
    have hvs := hrest.at_transition.1
    have hpost := ((hjust t₁ (by simp)).release hrel₁).2
    have hpre := ((hjust t₂ (by simp)).release hrel₂).1
    have := not_held_of_no_acquisition hvs (fun t ht => hjust t (by simp [ht])) hnone hpost
    simp [hpre] at this
  · exact (Nat.le_add_right _ _).trans (releasedRows_add_held_le hw h s)

/-- Passenger 1 takes the seat and lets the hold run out. -/
def startThenExpire : List SkyLabel :=
  start ++ [.tick 120000, .invoke (.handleHoldExpired 100), .invoke .sweepExpiredHolds] ++
  proceed 2 4 ++ proceed 1 4 ++ proceed 2 3

/-- Of the event and the sweep that compete for the hold, one releases it. -/
theorem expiry_startThenExpire : ∃ ts c, (skyHigh {}).Run (.init oneSeatWorld) ts c ∧
    c.state.db.releasedRows 100 = 1 ∧ 1 ≤ ts.countP (acquires 100) := by
  obtain ⟨ts, c, hrun, htest⟩ := exists_run startThenExpire
    (fun _ c => c.state.db.releasedRows 100 = 1) (by decide +kernel)
  have hrows : c.state.db.releasedRows 100 = 1 := by simpa using htest
  exact ⟨ts, c, hrun, hrows,
    hrows ▸ (expiry_once_never_early oneSeatWorld_seeded hrun).2.2 100⟩

end SkyHighCore
