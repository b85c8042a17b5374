import SkyHighCore.Construction.World
import Mathlib.Logic.Function.Basic

/-!
# The booking machine

What the tables `seat` and `check_in` are for, with everything else stripped away: a partial
map of seats and a partial map of check-ins, and the five ways in which the services write to
them.  `Bookings.Step` states each write with the guard the source checks and no other, so that
a completion, for one, may hit a seat in any state.

`Linked` is what survives every write unconditionally: a check-in names a seat of its flight, a
passenger has at most one check-in on a flight, a seat somebody holds has a check-in of that
passenger behind it, and the two hold columns are set and cleared together.  `Evolves` is what
one call may rely on while others write: rows keep their identity, and a passenger who already
has a check-in on a flight never comes to hold a seat of it again.
-/

namespace SkyHighCore

/-- The two tables as partial maps. -/
structure Bookings where
  seat : SeatId → Option Seat
  checkIn : CheckInId → Option CheckIn

/-- The maps of a database. -/
def Database.bookings (db : Database) : Bookings := ⟨db.seats.get?, db.checkIns.get?⟩

/-- A seat without its hold. -/
def Seat.freed (seat : Seat) : Seat :=
  { seat with status := .available, heldBy := none, heldAt := none }

/-- A seat held by `p` since `t`. -/
def Seat.heldFor (seat : Seat) (p : PassengerId) (t : Time) : Seat :=
  { seat with status := .held, heldBy := some p, heldAt := some t }

/-- A seat whose status a completion has overwritten. -/
def Seat.taken (seat : Seat) : Seat := { seat with status := .confirmed }

/-- What the columns of a seat say of each other. -/
structure Seat.WellFormed (seat : Seat) : Prop where
  held : seat.status = .held → seat.heldBy ≠ none
  available : seat.status = .available → seat.heldBy = none
  paired : seat.heldBy = none ↔ seat.heldAt = none
  operational : seat.status ≠ .cancelled

/-- The effect of a release of seat `s` on a check-in. -/
def CheckIn.releasedFrom (s : SeatId) (c : CheckIn) : CheckIn :=
  if c.seatId = some s ∧ c.status = .inProgress then { c with status := .cancelled } else c

/-- The columns of a check-in that no statement ever writes again. -/
def CheckIn.SameBooking (c c' : CheckIn) : Prop :=
  c'.passengerId = c.passengerId ∧ c'.flightId = c.flightId ∧ c'.seatId = c.seatId

lemma CheckIn.SameBooking.rfl {c : CheckIn} : c.SameBooking c := ⟨Eq.refl _, Eq.refl _, Eq.refl _⟩

lemma CheckIn.SameBooking.trans {c c' c'' : CheckIn} (h : c.SameBooking c')
    (h' : c'.SameBooking c'') : c.SameBooking c'' :=
  ⟨h'.1.trans h.1, h'.2.1.trans h.2.1, h'.2.2.trans h.2.2⟩

lemma CheckIn.sameBooking_releasedFrom (s : SeatId) (c : CheckIn) :
    c.SameBooking (c.releasedFrom s) := by
  unfold CheckIn.releasedFrom
  split
  · exact .rfl
  · exact .rfl

namespace Bookings

/-! ## The five writes -/

/-- Seat `s` is given to the passenger of check-in `c`, which is inserted. -/
def acquired (b : Bookings) (s : SeatId) (seat : Seat) (c : CheckIn) (t : Time) : Bookings where
  seat := Function.update b.seat s (some (seat.heldFor c.passengerId t))
  checkIn := Function.update b.checkIn c.id (some c)

/-- Seat `s` is freed and its check-ins in progress are cancelled. -/
def released (b : Bookings) (s : SeatId) (seat : Seat) : Bookings where
  seat := Function.update b.seat s (some seat.freed)
  checkIn i := (b.checkIn i).map (CheckIn.releasedFrom s)

/-- Seat `s` is freed and check-in `i` is cancelled. -/
def cancelled (b : Bookings) (i : CheckInId) (c : CheckIn) (s : SeatId) (seat : Seat) :
    Bookings where
  seat := Function.update b.seat s (some seat.freed)
  checkIn := Function.update b.checkIn i (some { c with status := .cancelled })

/-- Seat `s` is taken and check-in `i` is completed. -/
def completed (b : Bookings) (i : CheckInId) (c : CheckIn) (s : SeatId) (seat : Seat) (weight : ℚ)
    (payment : Option String) : Bookings where
  seat := Function.update b.seat s (some seat.taken)
  checkIn := Function.update b.checkIn i (some { c with
    status := .completed, baggageWeight := some weight, paymentId := payment })

/-- Check-in `i` is paused until its fee is paid. -/
def awaiting (b : Bookings) (i : CheckInId) (c : CheckIn) (weight fee : ℚ) : Bookings where
  seat := b.seat
  checkIn := Function.update b.checkIn i (some { c with
    status := .awaitingPayment, baggageWeight := some weight, excessFee := some fee })

/-- The state in which `c` may be inserted as the check-in behind a new hold of `s`. -/
structure Acquirable (b : Bookings) (s : SeatId) (seat : Seat) (c : CheckIn) : Prop where
  row : b.seat s = some seat
  available : seat.status = .available
  fresh : b.checkIn c.id = none
  unique : ∀ i d, b.checkIn i = some d →
    ¬ (d.passengerId = c.passengerId ∧ d.flightId = c.flightId)
  flight : c.flightId = seat.flightId
  seatId : c.seatId = some s
  status : c.status = .inProgress
  unpaid : c.baggageWeight = none ∧ c.excessFee = none ∧ c.paymentId = none

/-- The writes with the guards that the source checks. -/
inductive Step (b : Bookings) : Bookings → Prop
  /-- `holdSeatWithinLock` and `assignSeatToWaitlistPassenger`: compare-and-swap on the status,
  with the insert of a check-in. -/
  | acquire {s seat c t} (h : b.Acquirable s seat c) : Step b (b.acquired s seat c t)
  /-- `releaseSeatWithinLock`: compare-and-swap on status and owner. -/
  | release {s seat p} (hseat : b.seat s = some seat) (hheld : seat.status = .held)
      (howner : seat.heldBy = some p) : Step b (b.released s seat)
  /-- `cancelCheckIn`. -/
  | cancel {i c s seat} (hcheckIn : b.checkIn i = some c) (hseatId : c.seatId = some s)
      (hseat : b.seat s = some seat) : Step b (b.cancelled i c s seat)
  /-- `completeCheckIn`. -/
  | complete {i c s seat weight payment} (hcheckIn : b.checkIn i = some c)
      (hseatId : c.seatId = some s) (hseat : b.seat s = some seat) :
      Step b (b.completed i c s seat weight payment)
  /-- `handleExcessBaggage`. -/
  | awaitPayment {i c weight fee} (hcheckIn : b.checkIn i = some c) :
      Step b (b.awaiting i c weight fee)

/-! ## Identity of rows -/

/-- How the tables may change behind the back of a suspended call. -/
structure Evolves (b b' : Bookings) : Prop where
  seat : ∀ s seat, b.seat s = some seat →
    ∃ seat', b'.seat s = some seat' ∧ seat'.flightId = seat.flightId
  checkIn : ∀ i c, b.checkIn i = some c → ∃ c', b'.checkIn i = some c' ∧ c.SameBooking c'
  /-- A hold of somebody who had a check-in before is a hold from before. -/
  hold : ∀ s seat' p, b'.seat s = some seat' → seat'.heldBy = some p →
    (∃ i c, b.checkIn i = some c ∧ c.passengerId = p ∧ c.flightId = seat'.flightId) →
    ∃ seat, b.seat s = some seat ∧ seat.heldBy = some p ∧ seat.heldAt = seat'.heldAt

lemma Evolves.refl (b : Bookings) : b.Evolves b where
  seat _ seat h := ⟨seat, h, rfl⟩
  checkIn _ c h := ⟨c, h, .rfl⟩
  hold _ seat _ h hp _ := ⟨seat, h, hp, rfl⟩

lemma Evolves.trans {b b' b'' : Bookings} (h : b.Evolves b') (h' : b'.Evolves b'') :
    b.Evolves b'' where
  seat s seat hs := by
    obtain ⟨seat', hs', hf⟩ := h.seat s seat hs
    obtain ⟨seat'', hs'', hf'⟩ := h'.seat s seat' hs'
    exact ⟨seat'', hs'', hf'.trans hf⟩
  checkIn i c hc := by
    obtain ⟨c', hc', he⟩ := h.checkIn i c hc
    obtain ⟨c'', hc'', he'⟩ := h'.checkIn i c' hc'
    exact ⟨c'', hc'', he.trans he'⟩
  hold := by
    rintro s seat'' p hs'' hp ⟨i, c, hc, hcp, hcf⟩
    obtain ⟨c', hc', he⟩ := h.checkIn i c hc
    obtain ⟨seat', hs', hp', ht'⟩ :=
      h'.hold s seat'' p hs'' hp ⟨i, c', hc', he.1.trans hcp, he.2.1.trans hcf⟩
    have hf : seat''.flightId = seat'.flightId := by
      obtain ⟨_, hs, hf⟩ := h'.seat s seat' hs'
      rw [hs''] at hs
      cases hs
      exact hf
    obtain ⟨seat, hs, hp'', ht⟩ := h.hold s seat' p hs' hp' ⟨i, c, hc, hcp, hcf.trans hf⟩
    exact ⟨seat, hs, hp'', ht.trans ht'⟩

/-! ## The links between the tables -/

/-- The invariant that every write keeps. -/
structure Linked (b : Bookings) : Prop where
  seatOf : ∀ i c, b.checkIn i = some c →
    ∃ s seat, c.seatId = some s ∧ b.seat s = some seat ∧ seat.flightId = c.flightId
  unique : ∀ i c i' c', b.checkIn i = some c → b.checkIn i' = some c' →
    c.passengerId = c'.passengerId → c.flightId = c'.flightId → i = i'
  holder : ∀ s seat p, b.seat s = some seat → seat.heldBy = some p →
    ∃ i c, b.checkIn i = some c ∧ c.passengerId = p ∧ c.flightId = seat.flightId ∧
      c.seatId = some s
  wellFormed : ∀ s seat, b.seat s = some seat → seat.WellFormed

/-! ## Every write keeps them

A write to a seat and a write to check-ins commute, so each step is a composition of the two
lemmas of its kind. -/

lemma update_eq_some_iff {κ ρ : Type} [DecidableEq κ] {f : κ → Option ρ} {k k' : κ} {r r' : ρ} :
    Function.update f k (some r) k' = some r' ↔ (k' = k ∧ r = r') ∨ (k' ≠ k ∧ f k' = some r') := by
  by_cases h : k' = k
  · subst h
    simp
  · simp [h]

/-- The statuses and payment columns of check-ins change, their bookings do not. -/
def Relabels (f g : CheckInId → Option CheckIn) : Prop :=
  ∀ i, Option.Rel CheckIn.SameBooking (f i) (g i)

lemma Relabels.of_update {f : CheckInId → Option CheckIn} {i : CheckInId} {c c' : CheckIn}
    (hc : f i = some c) (h : c.SameBooking c') : Relabels f (Function.update f i (some c')) := by
  intro j
  by_cases hj : j = i
  · subst hj
    rw [hc, Function.update_self]
    exact .some h
  · rw [Function.update_of_ne hj]
    cases f j with
    | none => exact .none
    | some d => exact .some .rfl

lemma Relabels.released (f : CheckInId → Option CheckIn) (s : SeatId) :
    Relabels f fun i => (f i).map (CheckIn.releasedFrom s) := by
  intro i
  cases h : f i with
  | none => simp [h]
  | some c => simpa [h] using Option.Rel.some (c.sameBooking_releasedFrom s)

lemma Relabels.forward {f g : CheckInId → Option CheckIn} (h : Relabels f g) {i : CheckInId}
    {c : CheckIn} (hc : f i = some c) : ∃ c', g i = some c' ∧ c.SameBooking c' := by
  have hi := h i
  rw [hc] at hi
  generalize g i = o at hi
  cases hi with
  | some hcc => exact ⟨_, rfl, hcc⟩

lemma Relabels.backward {f g : CheckInId → Option CheckIn} (h : Relabels f g) {i : CheckInId}
    {c' : CheckIn} (hc : g i = some c') : ∃ c, f i = some c ∧ c.SameBooking c' := by
  have hi := h i
  rw [hc] at hi
  generalize f i = o at hi
  cases hi with
  | some hcc => exact ⟨_, rfl, hcc⟩

/-- The new columns of a seat keep its holder or drop it. -/
def KeepsHolder (seat seat' : Seat) : Prop :=
  seat'.flightId = seat.flightId ∧
    (seat'.heldBy = none ∨ (seat'.heldBy = seat.heldBy ∧ seat'.heldAt = seat.heldAt))

lemma Evolves.of_seat {b : Bookings} {s : SeatId} {seat seat' : Seat}
    (hseat : b.seat s = some seat) (h : KeepsHolder seat seat') :
    b.Evolves ⟨Function.update b.seat s (some seat'), b.checkIn⟩ where
  seat s₁ seat₁ h₁ := by
    by_cases hs : s₁ = s
    · subst hs
      rw [hseat] at h₁
      cases h₁
      exact ⟨seat', by simp, h.1⟩
    · exact ⟨seat₁, by simpa [hs] using h₁, rfl⟩
  checkIn i c hc := ⟨c, hc, .rfl⟩
  hold := by
    rintro s₁ seat₁ p h₁ hp -
    rcases update_eq_some_iff.mp h₁ with ⟨rfl, rfl⟩ | ⟨-, h₁⟩
    · rcases h.2 with hnone | ⟨hby, hat⟩
      · rw [hnone] at hp
        cases hp
      · exact ⟨seat, hseat, hby ▸ hp, hat.symm⟩
    · exact ⟨seat₁, h₁, hp, rfl⟩

lemma Evolves.of_relabels {b : Bookings} {g : CheckInId → Option CheckIn}
    (h : Relabels b.checkIn g) : b.Evolves ⟨b.seat, g⟩ where
  seat _ seat hs := ⟨seat, hs, rfl⟩
  checkIn _ _ hc := h.forward hc
  hold _ seat _ hs hp _ := ⟨seat, hs, hp, rfl⟩

lemma Linked.of_seat {b : Bookings} (hb : b.Linked) {s : SeatId} {seat seat' : Seat}
    (hseat : b.seat s = some seat) (h : KeepsHolder seat seat') (hwf : seat'.WellFormed) :
    (⟨Function.update b.seat s (some seat'), b.checkIn⟩ : Bookings).Linked where
  seatOf i c hc := by
    obtain ⟨s₁, seat₁, hcs, h₁, hf⟩ := hb.seatOf i c hc
    obtain ⟨seat₂, h₂, hf₂⟩ := (Evolves.of_seat hseat h).seat s₁ seat₁ h₁
    exact ⟨s₁, seat₂, hcs, h₂, hf₂.trans hf⟩
  unique := hb.unique
  holder s₁ seat₁ p h₁ hp := by
    rcases update_eq_some_iff.mp h₁ with ⟨rfl, rfl⟩ | ⟨-, h₁⟩
    · rcases h.2 with hnone | ⟨hby, -⟩
      · rw [hnone] at hp
        cases hp
      · obtain ⟨i, c, hc, hcp, hcf, hcs⟩ := hb.holder _ seat p hseat (hby ▸ hp)
        exact ⟨i, c, hc, hcp, hcf.trans h.1.symm, hcs⟩
    · exact hb.holder s₁ seat₁ p h₁ hp
  wellFormed s₁ seat₁ h₁ := by
    rcases update_eq_some_iff.mp h₁ with ⟨rfl, rfl⟩ | ⟨-, h₁⟩
    · exact hwf
    · exact hb.wellFormed s₁ seat₁ h₁

lemma Linked.of_relabels {b : Bookings} (hb : b.Linked) {g : CheckInId → Option CheckIn}
    (h : Relabels b.checkIn g) : (⟨b.seat, g⟩ : Bookings).Linked where
  seatOf i c' hc' := by
    obtain ⟨c, hc, -, hf, hs⟩ := h.backward hc'
    rw [hf, hs]
    exact hb.seatOf i c hc
  unique i c i' c' hc hc' hp hf := by
    obtain ⟨d, hd, hdp, hdf, -⟩ := h.backward hc
    obtain ⟨d', hd', hdp', hdf', -⟩ := h.backward hc'
    exact hb.unique i d i' d' hd hd' (hdp.symm.trans (hp.trans hdp'))
      (hdf.symm.trans (hf.trans hdf'))
  holder s seat p hs hp := by
    obtain ⟨i, c, hc, hcp, hcf, hcs⟩ := hb.holder s seat p hs hp
    obtain ⟨c', hc', he⟩ := h.forward hc
    exact ⟨i, c', hc', he.1.trans hcp, he.2.1.trans hcf, he.2.2.trans hcs⟩
  wellFormed := hb.wellFormed

lemma keepsHolder_freed (seat : Seat) : KeepsHolder seat seat.freed := ⟨rfl, .inl rfl⟩

lemma keepsHolder_taken (seat : Seat) : KeepsHolder seat seat.taken :=
  ⟨rfl, .inr ⟨rfl, rfl⟩⟩

lemma wellFormed_freed (seat : Seat) : seat.freed.WellFormed := by
  constructor <;> simp [Seat.freed]

lemma wellFormed_taken {seat : Seat} (h : seat.WellFormed) : seat.taken.WellFormed := by
  constructor <;> simp [Seat.taken, h.paired]

lemma wellFormed_heldFor (seat : Seat) (p : PassengerId) (t : Time) :
    (seat.heldFor p t).WellFormed := by
  constructor <;> simp [Seat.heldFor]

lemma Evolves.acquired {b : Bookings} {s : SeatId} {seat : Seat} {c : CheckIn} {t : Time}
    (h : b.Acquirable s seat c) : b.Evolves (b.acquired s seat c t) where
  seat s₁ seat₁ h₁ := by
    by_cases hs : s₁ = s
    · subst hs
      rw [h.row] at h₁
      cases h₁
      exact ⟨_, Function.update_self .., rfl⟩
    · exact ⟨seat₁, by simpa [Bookings.acquired, hs] using h₁, rfl⟩
  checkIn i d hd := by
    have hi : i ≠ c.id := by
      rintro rfl
      rw [h.fresh] at hd
      cases hd
    exact ⟨d, by simpa [Bookings.acquired, hi] using hd, .rfl⟩
  hold := by
    rintro s₁ seat₁ p h₁ hp ⟨i, d, hd, hdp, hdf⟩
    rcases update_eq_some_iff.mp h₁ with ⟨rfl, rfl⟩ | ⟨-, h₁⟩
    · -- the passenger of a new hold has no check-in on the flight yet
      obtain rfl : c.passengerId = p := by simpa [Seat.heldFor] using hp
      exact absurd ⟨hdp, hdf.trans h.flight.symm⟩ (h.unique i d hd)
    · exact ⟨seat₁, h₁, hp, rfl⟩

/-- Every write leaves the identity of the rows alone. -/
theorem Step.evolves {b b' : Bookings} (h : b.Step b') : b.Evolves b' := by
  cases h with
  | acquire h => exact .acquired h
  | release hseat _ _ =>
      exact (Evolves.of_seat hseat (keepsHolder_freed _)).trans (.of_relabels (.released _ _))
  | cancel hcheckIn _ hseat =>
      exact (Evolves.of_seat hseat (keepsHolder_freed _)).trans
        (.of_relabels (.of_update hcheckIn .rfl))
  | complete hcheckIn _ hseat =>
      exact (Evolves.of_seat hseat (keepsHolder_taken _)).trans
        (.of_relabels (.of_update hcheckIn .rfl))
  | awaitPayment hcheckIn => exact .of_relabels (.of_update hcheckIn .rfl)

lemma Linked.acquired {b : Bookings} (hb : b.Linked) {s : SeatId} {seat : Seat} {c : CheckIn}
    {t : Time} (h : b.Acquirable s seat c) : (b.acquired s seat c t).Linked where
  seatOf i d hd := by
    rcases update_eq_some_iff.mp hd with ⟨rfl, rfl⟩ | ⟨-, hd⟩
    · exact ⟨s, _, h.seatId, Function.update_self .., h.flight.symm⟩
    · obtain ⟨s₁, seat₁, hds, h₁, hf⟩ := hb.seatOf i d hd
      obtain ⟨seat₂, h₂, hf₂⟩ := (Evolves.acquired h (t := t)).seat s₁ seat₁ h₁
      exact ⟨s₁, seat₂, hds, h₂, hf₂.trans hf⟩
  unique i d i' d' hd hd' hp hf := by
    rcases update_eq_some_iff.mp hd with ⟨rfl, rfl⟩ | ⟨-, hd⟩ <;>
      rcases update_eq_some_iff.mp hd' with ⟨rfl, rfl⟩ | ⟨-, hd'⟩
    · rfl
    · exact absurd ⟨hp.symm, hf.symm⟩ (h.unique i' d' hd')
    · exact absurd ⟨hp, hf⟩ (h.unique i d hd)
    · exact hb.unique i d i' d' hd hd' hp hf
  holder s₁ seat₁ p h₁ hp := by
    rcases update_eq_some_iff.mp h₁ with ⟨rfl, rfl⟩ | ⟨-, h₁⟩
    · exact ⟨c.id, c, Function.update_self .., by simpa [Seat.heldFor] using hp, h.flight,
        h.seatId⟩
    · obtain ⟨i, d, hd, hrest⟩ := hb.holder s₁ seat₁ p h₁ hp
      have hi : i ≠ c.id := by
        rintro rfl
        rw [h.fresh] at hd
        cases hd
      exact ⟨i, d, by simpa [Bookings.acquired, hi] using hd, hrest⟩
  wellFormed s₁ seat₁ h₁ := by
    rcases update_eq_some_iff.mp h₁ with ⟨rfl, rfl⟩ | ⟨-, h₁⟩
    · exact wellFormed_heldFor _ _ _
    · exact hb.wellFormed s₁ seat₁ h₁

/-- Every write keeps the links. -/
theorem Step.linked {b b' : Bookings} (h : b.Step b') (hb : b.Linked) : b'.Linked := by
  cases h with
  | acquire h => exact hb.acquired h
  | release hseat _ _ =>
      exact (hb.of_seat hseat (keepsHolder_freed _) (wellFormed_freed _)).of_relabels
        (.released _ _)
  | cancel hcheckIn _ hseat =>
      exact (hb.of_seat hseat (keepsHolder_freed _) (wellFormed_freed _)).of_relabels
        (.of_update hcheckIn .rfl)
  | complete hcheckIn _ hseat =>
      exact (hb.of_seat hseat (keepsHolder_taken _)
        (wellFormed_taken (hb.wellFormed _ _ hseat))).of_relabels (.of_update hcheckIn .rfl)
  | awaitPayment hcheckIn => exact hb.of_relabels (.of_update hcheckIn .rfl)

end Bookings

end SkyHighCore
