import SkyHighCore.Properties.Runs

/-!
# Agreement of seats and check-ins

`Bookings.SeatsAgree` is the absence of double bookings: at most one check-in that is not
cancelled refers to a seat, and the status and the holder of the seat are those of that
check-in.  The links of `Bookings.Linked` do not imply it, and not every write keeps it:
`Action.Regular` is the condition on the tables under which a committed write does
(`Commits.seatsAgree_iff`).  The writes that can break it are those whose `WHERE` clause has only
an id, and the release of a hold, which cancels check-ins in progress and leaves those that await
their payment.

The first half is about the booking machine, the second about runs of the services.
-/

namespace SkyHighCore

open Framework

namespace Bookings

/-! ## Agreement -/

/-- Check-in `i` refers to seat `s` and is not cancelled. -/
def Active (b : Bookings) (s : SeatId) (i : CheckInId) (c : CheckIn) : Prop :=
  b.checkIn i = some c ∧ c.seatId = some s ∧ c.status ≠ .cancelled

/-- A seat agrees with the check-ins that are active on it. -/
structure Agrees (seat : Seat) (active : CheckInId → CheckIn → Prop) : Prop where
  unique : ∀ i c i' c', active i c → active i' c' → i = i'
  held : seat.status = .held →
    ∃ i c, active i c ∧ c.status.isOpen = true ∧ seat.heldBy = some c.passengerId
  confirmed : seat.status = .confirmed →
    ∃ i c, active i c ∧ c.status = .completed ∧ seat.heldBy = some c.passengerId
  available : seat.status = .available → ∀ i c, ¬ active i c

/-- **Seats and check-ins agree**: no seat is booked twice. -/
def SeatsAgree (b : Bookings) : Prop :=
  ∀ s seat, b.seat s = some seat → Agrees seat (b.Active s)

lemma Agrees.congr {seat : Seat} {A A' : CheckInId → CheckIn → Prop} (h : Agrees seat A)
    (hA : ∀ i c, A' i c ↔ A i c) : Agrees seat A' := by
  obtain rfl : A' = A := funext₂ fun i c => propext (hA i c)
  exact h

lemma Active.eq {b : Bookings} {s s' : SeatId} {i : CheckInId} {c c' : CheckIn}
    (h : b.Active s i c) (h' : b.Active s' i c') : c = c' :=
  Option.some_inj.mp (h.1.symm.trans h'.1)

/-- A seat with an active check-in is held or confirmed for it. -/
lemma Agrees.of_active {b : Bookings} {s : SeatId} {seat : Seat} (h : Agrees seat (b.Active s))
    (hwf : seat.WellFormed) {i : CheckInId} {c : CheckIn} (hc : b.Active s i c) :
    seat.heldBy = some c.passengerId ∧ ((seat.status = .held ∧ c.status.isOpen = true) ∨
      (seat.status = .confirmed ∧ c.status = .completed)) := by
  cases hst : seat.status with
  | available => exact absurd hc (h.available hst i c)
  | cancelled => exact absurd hst hwf.operational
  | held =>
      obtain ⟨j, d, hd, hopen, hby⟩ := h.held hst
      obtain rfl := h.unique i c j d hc hd
      obtain rfl := hc.eq hd
      exact ⟨hby, .inl ⟨rfl, hopen⟩⟩
  | confirmed =>
      obtain ⟨j, d, hd, hdone, hby⟩ := h.confirmed hst
      obtain rfl := h.unique i c j d hc hd
      obtain rfl := hc.eq hd
      exact ⟨hby, .inr ⟨rfl, hdone⟩⟩

/-- A seat with a holder has an active check-in of the holder. -/
lemma SeatsAgree.of_heldBy {b : Bookings} (hb : b.SeatsAgree) (hlinked : b.Linked) {s : SeatId}
    {seat : Seat} {p : PassengerId} (hseat : b.seat s = some seat) (hp : seat.heldBy = some p) :
    ∃ i c, b.Active s i c ∧ c.passengerId = p ∧ c.flightId = seat.flightId := by
  have hagrees := hb s seat hseat
  have hwf := hlinked.wellFormed s seat hseat
  have active : ∃ i c, b.Active s i c ∧ seat.heldBy = some c.passengerId := by
    cases hst : seat.status with
    | available => rw [hwf.available hst] at hp; cases hp
    | cancelled => exact absurd hst hwf.operational
    | held =>
        obtain ⟨i, c, hc, -, hby⟩ := hagrees.held hst
        exact ⟨i, c, hc, hby⟩
    | confirmed =>
        obtain ⟨i, c, hc, -, hby⟩ := hagrees.confirmed hst
        exact ⟨i, c, hc, hby⟩
  obtain ⟨i, c, hc, hby⟩ := active
  obtain ⟨s', seat', hcs, hseat', hf⟩ := hlinked.seatOf i c hc.1
  obtain rfl : s = s' := Option.some_inj.mp (hc.2.1.symm.trans hcs)
  obtain rfl : seat = seat' := Option.some_inj.mp (hseat.symm.trans hseat')
  exact ⟨i, c, hc, Option.some_inj.mp (hby.symm.trans hp), hf.symm⟩

/-- A cancelled check-in is not the one behind a hold of its passenger. -/
lemma SeatsAgree.heldBy_ne {b : Bookings} (hb : b.SeatsAgree) (hlinked : b.Linked) {s : SeatId}
    {seat : Seat} {i : CheckInId} {c : CheckIn} (hseat : b.seat s = some seat)
    (hc : b.checkIn i = some c) (hcs : c.seatId = some s) (hcancelled : c.status = .cancelled) :
    seat.heldBy ≠ some c.passengerId := by
  intro hp
  obtain ⟨j, d, hd, hdp, hdf⟩ := hb.of_heldBy hlinked hseat hp
  obtain ⟨s', seat', hcs', hseat', hf⟩ := hlinked.seatOf i c hc
  obtain rfl : s = s' := Option.some_inj.mp (hcs.symm.trans hcs')
  obtain rfl : seat = seat' := Option.some_inj.mp (hseat.symm.trans hseat')
  obtain rfl := hlinked.unique j d i c hd.1 hc hdp (hdf.trans hf)
  obtain rfl : d = c := Option.some_inj.mp (hd.1.symm.trans hc)
  exact hd.2.2 hcancelled

/-! ## Which check-ins are active after a write -/

lemma active_acquired {b : Bookings} {s : SeatId} {seat : Seat} {c : CheckIn} {t : Time}
    (h : b.Acquirable s seat c) (s₁ : SeatId) (i : CheckInId) (d : CheckIn) :
    (b.acquired s seat c t).Active s₁ i d ↔ (s₁ = s ∧ i = c.id ∧ d = c) ∨ b.Active s₁ i d := by
  have hne : ∀ e, b.checkIn i = some e → i ≠ c.id := by
    rintro e he rfl
    rw [h.fresh] at he
    cases he
  simp only [Active, acquired, update_eq_some_iff]
  constructor
  · rintro ⟨⟨rfl, rfl⟩ | ⟨-, hd⟩, hs, hst⟩
    · exact .inl ⟨Option.some_inj.mp (hs.symm.trans h.seatId), rfl, rfl⟩
    · exact .inr ⟨hd, hs, hst⟩
  · rintro (⟨rfl, rfl, rfl⟩ | ⟨hd, hs, hst⟩)
    · exact ⟨.inl ⟨rfl, rfl⟩, h.seatId, by simp [h.status]⟩
    · exact ⟨.inr ⟨hne d hd, hd⟩, hs, hst⟩

lemma active_released {b : Bookings} {s : SeatId} {seat : Seat} (s₁ : SeatId) (i : CheckInId)
    (d : CheckIn) : (b.released s seat).Active s₁ i d ↔
      b.Active s₁ i d ∧ ¬ (s₁ = s ∧ d.status = .inProgress) := by
  simp only [Active, released, Option.map_eq_some_iff, CheckIn.releasedFrom]
  constructor
  · rintro ⟨⟨e, he, rfl⟩, hs, hst⟩
    split at hs <;> rename_i hcond
    · simp [hcond] at hst
    · rw [if_neg hcond] at hst ⊢
      refine ⟨⟨he, hs, hst⟩, ?_⟩
      rintro ⟨rfl, hprogress⟩
      exact hcond ⟨hs, hprogress⟩
  · rintro ⟨⟨hd, hs, hst⟩, hcond⟩
    refine ⟨⟨d, hd, if_neg ?_⟩, hs, hst⟩
    rintro ⟨hs', hprogress⟩
    exact hcond ⟨Option.some_inj.mp (hs.symm.trans hs'), hprogress⟩

lemma active_cancelled {b : Bookings} {i : CheckInId} {c : CheckIn} {s : SeatId} {seat : Seat}
    (s₁ : SeatId) (j : CheckInId) (d : CheckIn) :
    (b.cancelled i c s seat).Active s₁ j d ↔ b.Active s₁ j d ∧ j ≠ i := by
  simp only [Active, cancelled, update_eq_some_iff]
  constructor
  · rintro ⟨⟨rfl, rfl⟩ | ⟨hj, hd⟩, hs, hst⟩
    · exact absurd rfl hst
    · exact ⟨⟨hd, hs, hst⟩, hj⟩
  · rintro ⟨⟨hd, hs, hst⟩, hj⟩
    exact ⟨.inr ⟨hj, hd⟩, hs, hst⟩

/-- A write that relabels check-in `i` as `c'`, which is not cancelled. -/
lemma active_update {b : Bookings} {seats : SeatId → Option Seat} {i : CheckInId} {c c' : CheckIn}
    (hsame : c.SameBooking c') (hst' : c'.status ≠ .cancelled) (s₁ : SeatId) (j : CheckInId)
    (d : CheckIn) : (⟨seats, Function.update b.checkIn i (some c')⟩ : Bookings).Active s₁ j d ↔
      (j = i ∧ d = c' ∧ c.seatId = some s₁) ∨ (j ≠ i ∧ b.Active s₁ j d) := by
  simp only [Active, update_eq_some_iff]
  constructor
  · rintro ⟨⟨rfl, rfl⟩ | ⟨hj, hd⟩, hs, hst⟩
    · exact .inl ⟨rfl, rfl, hsame.2.2.symm.trans hs⟩
    · exact .inr ⟨hj, hd, hs, hst⟩
  · rintro (⟨rfl, rfl, hs⟩ | ⟨hj, hd, hs, hst⟩)
    · exact ⟨.inl ⟨rfl, rfl⟩, hsame.2.2.trans hs, hst'⟩
    · exact ⟨.inr ⟨hj, hd⟩, hs, hst⟩

/-! ## Which writes keep the agreement -/

/-- A write to one seat leaves the others in agreement. -/
lemma SeatsAgree.update_iff {b b' : Bookings} (hb : b.SeatsAgree) {s : SeatId} {seat' : Seat}
    (hseat : b'.seat = Function.update b.seat s (some seat'))
    (hother : ∀ s₁ ≠ s, ∀ i c, b'.Active s₁ i c ↔ b.Active s₁ i c) :
    b'.SeatsAgree ↔ Agrees seat' (b'.Active s) := by
  constructor
  · intro h
    exact h s seat' (by rw [hseat, Function.update_self])
  · intro h s₁ seat₁ h₁
    rw [hseat] at h₁
    rcases update_eq_some_iff.mp h₁ with ⟨rfl, rfl⟩ | ⟨hs, h₁⟩
    · exact h
    · exact (hb s₁ seat₁ h₁).congr (hother s₁ hs)

lemma agrees_freed {seat : Seat} {A : CheckInId → CheckIn → Prop} :
    Agrees seat.freed A ↔ ∀ i c, ¬ A i c := by
  constructor
  · exact fun h => h.available rfl
  · intro h
    exact ⟨fun i c _ _ hc => absurd hc (h i c), nofun, nofun, fun _ => h⟩

lemma SeatsAgree.acquired {b : Bookings} (hb : b.SeatsAgree) {s : SeatId} {seat : Seat}
    {c : CheckIn} {t : Time} (h : b.Acquirable s seat c) :
    (b.acquired s seat c t).SeatsAgree := by
  have hnone := (hb s seat h.row).available h.available
  have hactive : ∀ i d, (b.acquired s seat c t).Active s i d ↔ i = c.id ∧ d = c := by
    intro i d
    simp [active_acquired h, hnone]
  refine (hb.update_iff rfl fun s₁ hs i d => by simp [active_acquired h, hs]).mpr
    (Agrees.congr (A := fun i d => i = c.id ∧ d = c) ⟨?_, ?_, nofun, nofun⟩ hactive)
  · rintro i d i' d' ⟨rfl, -⟩ ⟨rfl, -⟩
    rfl
  · exact fun _ => ⟨c.id, c, ⟨rfl, rfl⟩, by simp [h.status, CheckInStatus.isOpen], rfl⟩

/-- A release keeps the agreement unless a check-in of the seat awaits its payment. -/
lemma SeatsAgree.released_iff {b : Bookings} (hb : b.SeatsAgree) (hlinked : b.Linked) {s : SeatId}
    {seat : Seat} (hseat : b.seat s = some seat) (hheld : seat.status = .held) :
    (b.released s seat).SeatsAgree ↔
      ∀ i c, b.checkIn i = some c → c.seatId = some s → c.status ≠ .awaitingPayment := by
  rw [hb.update_iff rfl fun s₁ hs i d => by simp [active_released, hs], agrees_freed]
  refine forall₂_congr fun i c => ?_
  rw [active_released]
  constructor
  · rintro h hc hs hst
    exact h ⟨⟨hc, hs, by simp [hst]⟩, by simp [hst]⟩
  · rintro h ⟨hc, hprogress⟩
    obtain ⟨-, ⟨-, hopen⟩ | ⟨hconfirmed, -⟩⟩ :=
      (hb s seat hseat).of_active (hlinked.wellFormed s seat hseat) hc
    · have hawaits := h hc.1 hc.2.1
      cases hst : c.status <;> simp [hst, CheckInStatus.isOpen] at hopen hawaits hprogress
    · simp [hheld] at hconfirmed

/-- A cancellation keeps the agreement unless it repeats one after the seat has found another
passenger. -/
lemma SeatsAgree.cancelled_iff {b : Bookings} (hb : b.SeatsAgree) (hlinked : b.Linked)
    {i : CheckInId} {c : CheckIn} {s : SeatId} {seat : Seat} (hc : b.checkIn i = some c)
    (hcs : c.seatId = some s) (hseat : b.seat s = some seat) :
    (b.cancelled i c s seat).SeatsAgree ↔
      (c.status = .cancelled → seat.status = .available) := by
  have hother : ∀ s₁ ≠ s, ∀ j d, (b.cancelled i c s seat).Active s₁ j d ↔ b.Active s₁ j d := by
    intro s₁ hs j d
    rw [active_cancelled, and_iff_left_iff_imp]
    rintro hd rfl
    obtain rfl : d = c := Option.some_inj.mp (hd.1.symm.trans hc)
    exact hs (Option.some_inj.mp (hd.2.1.symm.trans hcs))
  rw [hb.update_iff rfl hother, agrees_freed]
  constructor
  · intro h hcancelled
    by_contra hst
    obtain ⟨p, hp⟩ : ∃ p, seat.heldBy = some p := by
      have hwf := hlinked.wellFormed s seat hseat
      cases hst' : seat.status with
      | available => exact absurd hst' hst
      | cancelled => exact absurd hst' hwf.operational
      | held => exact Option.ne_none_iff_exists'.mp (hwf.held hst')
      | confirmed =>
          obtain ⟨_, d, _, _, hby⟩ := (hb s seat hseat).confirmed hst'
          exact ⟨_, hby⟩
    obtain ⟨j, d, hd, -⟩ := hb.of_heldBy hlinked hseat hp
    refine h j d (active_cancelled s j d |>.mpr ⟨hd, ?_⟩)
    rintro rfl
    obtain rfl : d = c := Option.some_inj.mp (hd.1.symm.trans hc)
    exact hd.2.2 hcancelled
  · intro h j d hd
    obtain ⟨hd, hj⟩ := (active_cancelled s j d).mp hd
    by_cases hcancelled : c.status = .cancelled
    · exact (hb s seat hseat).available (h hcancelled) j d hd
    · exact hj ((hb s seat hseat).unique j d i c hd ⟨hc, hcs, hcancelled⟩)

/-- A completion keeps the agreement unless the check-in has been cancelled. -/
lemma SeatsAgree.completed_iff {b : Bookings} (hb : b.SeatsAgree) (hlinked : b.Linked)
    {i : CheckInId} {c : CheckIn} {s : SeatId} {seat : Seat} {weight : ℚ}
    {payment : Option String} (hc : b.checkIn i = some c) (hcs : c.seatId = some s)
    (hseat : b.seat s = some seat) :
    (b.completed i c s seat weight payment).SeatsAgree ↔ c.status ≠ .cancelled := by
  have hactive : ∀ s₁ j d, (b.completed i c s seat weight payment).Active s₁ j d ↔ _ :=
    active_update .rfl nofun
  have hother : ∀ s₁ ≠ s, ∀ j d,
      (b.completed i c s seat weight payment).Active s₁ j d ↔ b.Active s₁ j d := by
    intro s₁ hs j d
    have hcs₁ : c.seatId ≠ some s₁ := fun h => hs (Option.some_inj.mp (h.symm.trans hcs))
    rw [hactive]
    simp only [hcs₁, and_false, false_or, and_iff_right_iff_imp]
    rintro hd rfl
    obtain rfl : d = c := Option.some_inj.mp (hd.1.symm.trans hc)
    exact hcs₁ hd.2.1
  rw [hb.update_iff rfl hother]
  constructor
  · intro h hcancelled
    obtain ⟨j, d, hd, hdone, hby⟩ := h.confirmed rfl
    obtain rfl := h.unique i _ j d ((hactive s i _).mpr (.inl ⟨rfl, rfl, hcs⟩)) hd
    obtain rfl := ((hactive s i _).mpr (.inl ⟨rfl, rfl, hcs⟩)).eq hd
    exact hb.heldBy_ne hlinked hseat hc hcs hcancelled hby
  · intro hst
    have hcactive : b.Active s i c := ⟨hc, hcs, hst⟩
    have hby := ((hb s seat hseat).of_active (hlinked.wellFormed s seat hseat) hcactive).1
    refine Agrees.congr (A := fun j d => j = i ∧ d = { c with
      status := .completed, baggageWeight := some weight, paymentId := payment }) ?_ fun j d => ?_
    · refine ⟨?_, nofun, fun _ => ⟨i, _, ⟨rfl, rfl⟩, rfl, hby⟩, nofun⟩
      rintro j d j' d' ⟨rfl, -⟩ ⟨rfl, -⟩
      rfl
    · rw [hactive]
      simp only [hcs, and_true, or_iff_left_iff_imp]
      rintro ⟨hj, hd⟩
      exact absurd ((hb s seat hseat).unique j d i c hd hcactive) hj

/-- A pause keeps the agreement unless the check-in has been closed. -/
lemma SeatsAgree.awaiting_iff {b : Bookings} (hb : b.SeatsAgree) (hlinked : b.Linked)
    {i : CheckInId} {c : CheckIn} {weight fee : ℚ} (hc : b.checkIn i = some c) :
    (b.awaiting i c weight fee).SeatsAgree ↔ c.status.isOpen = true := by
  obtain ⟨s, seat, hcs, hseat, -⟩ := hlinked.seatOf i c hc
  have hactive : ∀ s₁ j d, (b.awaiting i c weight fee).Active s₁ j d ↔ _ :=
    active_update .rfl nofun
  have hother : ∀ s₁ ≠ s, ∀ j d, (b.awaiting i c weight fee).Active s₁ j d ↔ b.Active s₁ j d := by
    intro s₁ hs j d
    have hcs₁ : c.seatId ≠ some s₁ := fun h => hs (Option.some_inj.mp (h.symm.trans hcs))
    rw [hactive]
    simp only [hcs₁, and_false, false_or, and_iff_right_iff_imp]
    rintro hd rfl
    obtain rfl : d = c := Option.some_inj.mp (hd.1.symm.trans hc)
    exact hcs₁ hd.2.1
  have hseats : (b.awaiting i c weight fee).seat = Function.update b.seat s (some seat) := by
    rw [← hseat, Function.update_eq_self]
    rfl
  have hwf := hlinked.wellFormed s seat hseat
  rw [hb.update_iff hseats hother]
  constructor
  · intro h
    have hpaused := (hactive s i _).mpr (.inl ⟨rfl, rfl, hcs⟩)
    obtain ⟨hby, ⟨hheld, -⟩ | ⟨-, hdone⟩⟩ := h.of_active hwf hpaused
    · cases hst : c.status with
      | inProgress | awaitingPayment => rfl
      | cancelled =>
          have hby : seat.heldBy = some c.passengerId := hby
          exact absurd hby (hb.heldBy_ne hlinked hseat hc hcs hst)
      | completed =>
          have hcactive : b.Active s i c := ⟨hc, hcs, by simp [hst]⟩
          obtain ⟨-, ⟨-, hopen⟩ | ⟨hconfirmed, -⟩⟩ := (hb s seat hseat).of_active hwf hcactive
          · simp [hst, CheckInStatus.isOpen] at hopen
          · simp [hheld] at hconfirmed
    · cases hdone
  · intro hopen
    have hcactive : b.Active s i c := by
      refine ⟨hc, hcs, fun hst => ?_⟩
      simp [hst, CheckInStatus.isOpen] at hopen
    obtain ⟨hby, ⟨hheld, -⟩ | ⟨-, hdone⟩⟩ := (hb s seat hseat).of_active hwf hcactive
    · refine Agrees.congr (A := fun j d => j = i ∧ d = { c with
        status := .awaitingPayment, baggageWeight := some weight, excessFee := some fee })
        ?_ fun j d => ?_
      · refine ⟨?_, fun _ => ⟨i, _, ⟨rfl, rfl⟩, rfl, hby⟩, ?_, ?_⟩
        · rintro j d j' d' ⟨rfl, -⟩ ⟨rfl, -⟩
          rfl
        · simp [hheld]
        · simp [hheld]
      · rw [hactive]
        simp only [hcs, and_true, or_iff_left_iff_imp]
        rintro ⟨hj, hd⟩
        exact absurd ((hb s seat hseat).unique j d i c hd hcactive) hj
    · simp [hdone, CheckInStatus.isOpen] at hopen

end Bookings

/-! ## Regular writes -/

/-- The condition on the tables under which the write of an action keeps the agreement. -/
def Action.Regular (b : Bookings) : Action → Prop
  | .complete checkIn _ _ => ∀ c, b.checkIn checkIn.id = some c → c.status ≠ .cancelled
  | .awaitPayment checkIn _ _ =>
      ∀ c, b.checkIn checkIn.id = some c → c.status.isOpen = true
  | .cancel _ checkInId _ => ∀ c s seat, b.checkIn checkInId = some c → c.seatId = some s →
      b.seat s = some seat → c.status = .cancelled → seat.status = .available
  | .release seat => ∀ i c, b.checkIn i = some c → c.seatId = some seat.id →
      c.status ≠ .awaitingPayment
  | _ => True

/-- **A committed write keeps the agreement exactly when it is regular.** -/
theorem Commits.seatsAgree_iff {b b' : Bookings} {a : Action} (h : Commits b a b')
    (hb : b.SeatsAgree) (hlinked : b.Linked) : b'.SeatsAgree ↔ a.Regular b := by
  cases h with
  | holdSeat h _ _ => exact iff_of_true (hb.acquired h) trivial
  | assign h _ _ => exact iff_of_true (hb.acquired h) trivial
  | release hseat hheld _ _ => exact hb.released_iff hlinked hseat hheld
  | @cancel snap p c s seat hc _ _ hcs hseat =>
      rw [hb.cancelled_iff hlinked hc hcs hseat]
      refine ⟨fun h c' s' seat' hc' hcs' hseat' => ?_, fun h => h c s seat hc hcs hseat⟩
      obtain rfl := Option.some_inj.mp (hc.symm.trans hc')
      obtain rfl := Option.some_inj.mp (hcs.symm.trans hcs')
      obtain rfl := Option.some_inj.mp (hseat.symm.trans hseat')
      exact h
  | @complete snap weight payment c s seat hc _ _ hcs hseat =>
      rw [hb.completed_iff hlinked hc hcs hseat]
      exact ⟨fun h c' hc' => Option.some_inj.mp (hc.symm.trans hc') ▸ h, fun h => h c hc⟩
  | @awaitPayment snap weight fee c hc _ _ =>
      rw [hb.awaiting_iff hlinked hc]
      exact ⟨fun h c' hc' => Option.some_inj.mp (hc.symm.trans hc') ▸ h, fun h => h c hc⟩

/-- If the transition commits a write, the write is regular. -/
def RegularAt (t : SkyTransition) : Prop :=
  ∀ a, committed? t = some a → a.Regular t.pre.state.db.bookings

/-! ## Runs -/

section Runs

variable {cfg : Settings} {w : World} {ts : List SkyTransition} {c : SkyConfig}

lemma World.Seeded.seatsAgree (hw : w.Seeded) : w.db.bookings.SeatsAgree := by
  intro s seat hseat
  have hst := hw.seat_available hseat
  have hnone : ∀ i c, ¬ w.db.bookings.Active s i c := fun i c hc => by
    have := hc.1
    rw [hw.checkIn_eq_none] at this
    cases this
  exact ⟨fun i c _ _ hc => absurd hc (hnone i c), by simp [hst], by simp [hst], fun _ => hnone⟩

/-- A justified transition keeps the agreement exactly when it is regular. -/
lemma Justified.seatsAgree_iff {t : SkyTransition} (ht : Justified cfg t)
    (hpre : t.pre.state.db.bookings.SeatsAgree) :
    t.post.state.db.bookings.SeatsAgree ↔ RegularAt t := by
  cases ht.effect with
  | quiet hnone hquiet =>
      rw [hquiet.1]
      refine iff_of_true hpre fun a ha => ?_
      rw [hnone] at ha
      cases ha
  | commit hc _ hwrite _ =>
      rw [hwrite.seatsAgree_iff hpre ht.linked]
      refine ⟨fun h a ha => ?_, fun h => h _ hc⟩
      obtain rfl := Option.some_inj.mp (hc.symm.trans ha)
      exact h

/-- Regular transitions lead from seeded tables to tables in agreement. -/
lemma seatsAgree_of_regular (hw : w.Seeded) (h : (skyHigh cfg).Run (.init w) ts c)
    (hreg : ∀ t ∈ ts, RegularAt t) : c.state.db.bookings.SeatsAgree := by
  refine run_keeps (fun w => w.db.bookings.SeatsAgree) RegularAt hw h hreg hw.seatsAgree ?_ ?_
  · rintro w w' - heq hagree
    rw [heq]
    exact hagree
  · rintro t a ht - - - hreg hagree
    exact (ht.seatsAgree_iff hagree).mpr hreg

/-- **No double booking.**  Seats and check-ins agree in every state of a run exactly when every
write that the run commits is regular in the state it starts from. -/
theorem seatsAgree_throughout_iff (hw : w.Seeded) (h : (skyHigh cfg).Run (.init w) ts c) :
    (w.db.bookings.SeatsAgree ∧ ∀ t ∈ ts, t.post.state.db.bookings.SeatsAgree) ↔
      ∀ t ∈ ts, RegularAt t := by
  constructor
  · rintro ⟨-, hagree⟩ t ht
    have hjust := run_justified hw h t ht
    refine (hjust.seatsAgree_iff ?_).mp (hagree t ht)
    obtain ⟨us, vs, rfl, hpre, -, -⟩ := h.mem_split ht
    generalize t.pre = c₁ at hpre
    cases hpre with
    | nil => exact hw.seatsAgree
    | @snoc us c₀ l _ _ _ => exact hagree ⟨c₀, l, c₁⟩ (by simp)
  · intro hreg
    refine ⟨hw.seatsAgree, fun t ht => ?_⟩
    obtain ⟨us, vs, rfl, hpre, hstep, -⟩ := h.mem_split ht
    refine seatsAgree_of_regular hw (.snoc hpre hstep) fun t' ht' => hreg t' ?_
    simp only [List.mem_append, List.mem_cons, List.not_mem_nil, or_false] at ht' ⊢
    exact ht'.imp_right .inl

/-! ## Confirming one's own hold -/

/-- The seat of the check-in is held by its passenger. -/
def Bookings.OwnHold (b : Bookings) (checkIn : CheckIn) : Prop :=
  ∃ s seat, checkIn.seatId = some s ∧ b.seat s = some seat ∧ seat.status = .held ∧
    seat.heldBy = some checkIn.passengerId

/-- The row of the check-in is in progress or awaits its payment. -/
def Bookings.StillOpen (b : Bookings) (checkIn : CheckIn) : Prop :=
  ∃ c, b.checkIn checkIn.id = some c ∧ c.status.isOpen = true

/-- Where seats and check-ins agree, a seat is held by the passenger of a check-in exactly when
the check-in is open. -/
lemma Bookings.SeatsAgree.ownHold_iff {b : Bookings} (hb : b.SeatsAgree) (hlinked : b.Linked)
    {checkIn : CheckIn} (hhas : b.Has checkIn) : b.OwnHold checkIn ↔ b.StillOpen checkIn := by
  obtain ⟨d, hd, hsame⟩ := hhas
  obtain ⟨s, seat, hds, hseat, hflight⟩ := hlinked.seatOf _ d hd
  have hagrees := hb s seat hseat
  constructor
  · rintro ⟨s', seat', hs', hseat', hheld, hby⟩
    obtain rfl : s = s' := Option.some_inj.mp (hds.symm.trans (hsame.2.2.trans hs'))
    obtain rfl := Option.some_inj.mp (hseat.symm.trans hseat')
    obtain ⟨j, e, he, hopen, hby'⟩ := hagrees.held hheld
    obtain ⟨i, c, hc, hcp, hcf⟩ := hb.of_heldBy hlinked hseat hby
    obtain rfl := hagrees.unique j e i c he hc
    obtain rfl := he.eq hc
    obtain rfl := hlinked.unique j e _ d he.1 hd (hcp.trans hsame.1.symm) (hcf.trans hflight)
    exact ⟨e, he.1, hopen⟩
  · rintro ⟨c, hc, hopen⟩
    obtain rfl := Option.some_inj.mp (hd.symm.trans hc)
    have hactive : b.Active s checkIn.id d := by
      refine ⟨hd, hds, fun hst => ?_⟩
      simp [hst, CheckInStatus.isOpen] at hopen
    obtain ⟨hby, ⟨hheld, -⟩ | ⟨-, hdone⟩⟩ :=
      hagrees.of_active (hlinked.wellFormed s seat hseat) hactive
    · exact ⟨s, seat, hsame.2.2.symm.trans hds, hseat, hheld, hby.trans (by rw [hsame.1])⟩
    · simp [hdone, CheckInStatus.isOpen] at hopen

/-- **Confirm only on one's own hold.**  After regular writes only, a completion that commits finds
the seat held by the passenger exactly when it finds the check-in still open. -/
theorem completion_ownHold_iff {us vs : List SkyTransition} {t : SkyTransition} {checkIn : CheckIn}
    {weight : ℚ} {paymentId : Option String} (hw : w.Seeded)
    (h : (skyHigh cfg).Run (.init w) (us ++ t :: vs) c) (hreg : ∀ t' ∈ us, RegularAt t')
    (hcommit : committed? t = some (.complete checkIn weight paymentId)) :
    t.pre.state.db.bookings.OwnHold checkIn ↔ t.pre.state.db.bookings.StillOpen checkIn := by
  have hjust := run_justified hw h t (by simp)
  have hpre : t.pre.state.db.bookings.SeatsAgree :=
    seatsAgree_of_regular hw h.at_transition.1 hreg
  cases hjust.effect with
  | quiet hnone _ => simp [hnone] at hcommit
  | commit hc hpre' _ _ =>
      obtain rfl := Option.some_inj.mp (hc.symm.trans hcommit)
      exact hpre.ownHold_iff hjust.linked hpre'.1

end Runs

/-! ## Runs of one seat -/

theorem seatsAgree_startThenConfirm : ∃ ts c,
    (skyHigh {}).Run (.init oneSeatWorld) ts c ∧ ts.length = 20 ∧
      ((oneSeatWorld.db.bookings.SeatsAgree ∧ ∀ t ∈ ts, t.post.state.db.bookings.SeatsAgree) ↔
        ∀ t ∈ ts, RegularAt t) := by
  obtain ⟨ts, c, hrun, htest⟩ := exists_run startThenConfirm (fun ts _ => ts.length = 20)
    (by decide +kernel)
  exact ⟨ts, c, hrun, by simpa using htest, seatsAgree_throughout_iff oneSeatWorld_seeded hrun⟩

theorem completion_startThenConfirm : ∃ us t vs c checkIn weight paymentId,
    (skyHigh {}).Run (.init oneSeatWorld) (us ++ t :: vs) c ∧
      committed? t = some (.complete checkIn weight paymentId) ∧
      (t.pre.state.db.bookings.OwnHold checkIn ↔ t.pre.state.db.bookings.StillOpen checkIn) := by
  obtain ⟨ts, c, hrun, htest⟩ := exists_run startThenConfirm
    (fun ts _ => ((ts.take 16).all fun t => match committed? t with
        | none | some (.holdSeat ..) => true
        | _ => false) &&
      (ts.drop 16).head?.any fun t => (completion? t).isSome)
    (by decide +kernel)
  obtain ⟨hreg, htest⟩ := Bool.and_eq_true_iff.mp htest
  obtain ⟨t, hhead, htest⟩ := (Option.any_eq_true _ _).mp htest
  obtain ⟨checkIn, hcompletion⟩ := Option.isSome_iff_exists.mp htest
  obtain ⟨weight, paymentId, hcommit⟩ := completion?_eq_some_iff.mp hcompletion
  obtain ⟨vs, hdrop⟩ := List.head?_eq_some_iff.mp hhead
  have hts : ts = ts.take 16 ++ t :: vs := by rw [← hdrop, List.take_append_drop]
  rw [hts] at hrun
  refine ⟨_, t, vs, c, checkIn, weight, paymentId, hrun, hcommit,
    completion_ownHold_iff oneSeatWorld_seeded hrun (fun t' ht' a ha => ?_) hcommit⟩
  have h := List.all_eq_true.mp hreg t' ht'
  rw [ha] at h
  cases a <;> trivial

/-- Passenger 1 starts and cancels, passenger 2 starts, passenger 1 cancels again. -/
def repeatedCancellation : List SkyLabel :=
  start ++ [.invoke (.cancelCheckIn 1 1)] ++ proceed 1 7 ++
  [.invoke (.startCheckIn 2 ⟨10, 100⟩)] ++ proceed 2 10 ++
  [.invoke (.cancelCheckIn 1 1)] ++ proceed 3 4

/-- The seat of a check-in in progress ends up available. -/
theorem seatsAgree_repeatedCancellation : ∃ ts c,
    oneSeatWorld.Seeded ∧ (skyHigh {}).Run (.init oneSeatWorld) ts c ∧
      ¬ c.state.db.bookings.SeatsAgree := by
  obtain ⟨ts, c, hrun, htest⟩ := exists_run repeatedCancellation
    (fun _ c => (c.state.db.seats.get? 100).any (·.status = .available) &&
      (c.state.db.checkIns.get? 2).any fun d => d.seatId = some 100 ∧ d.status = .inProgress)
    (by decide +kernel)
  refine ⟨ts, c, oneSeatWorld_seeded, hrun, fun hagree => ?_⟩
  simp only [Bool.and_eq_true, Option.any_eq_true, decide_eq_true_eq] at htest
  obtain ⟨⟨seat, hseat, hst⟩, d, hd, hds, hdst⟩ := htest
  exact (hagree 100 seat hseat).available hst 2 d ⟨hd, hds, by simp [hdst]⟩

/-- Passenger 1 confirms; the hold runs out after it has been checked. -/
def expiryDuringConfirmation : List SkyLabel :=
  start ++ [.invoke (.confirmCheckIn 1 1 omittedWeight)] ++ proceed 1 2 ++
  [.tick 120000, .invoke (.handleHoldExpired 100)] ++ proceed 2 4 ++ proceed 1 3

/-- The completion finds the seat available. -/
theorem completion_expiryDuringConfirmation : ∃ ts c, oneSeatWorld.Seeded ∧
    (skyHigh {}).Run (.init oneSeatWorld) ts c ∧ ∃ t ∈ ts, ∃ checkIn weight paymentId,
      committed? t = some (.complete checkIn weight paymentId) ∧
        ¬ t.pre.state.db.bookings.OwnHold checkIn := by
  obtain ⟨ts, c, hrun, htest⟩ := exists_run expiryDuringConfirmation
    (fun ts _ => ts.any fun t => (completion? t).any fun checkIn =>
      checkIn.seatId = some 100 && (t.pre.state.db.seats.get? 100).any (·.status = .available))
    (by decide +kernel)
  simp only [List.any_eq_true, Option.any_eq_true, Bool.and_eq_true, decide_eq_true_eq] at htest
  obtain ⟨t, ht, checkIn, hcompletion, hs, seat, hseat, hst⟩ := htest
  obtain ⟨weight, paymentId, hcommit⟩ := completion?_eq_some_iff.mp hcompletion
  refine ⟨ts, c, oneSeatWorld_seeded, hrun, t, ht, checkIn, weight, paymentId, hcommit, ?_⟩
  rintro ⟨s', seat', hs', hseat', hheld, -⟩
  obtain rfl := Option.some_inj.mp (hs.symm.trans hs')
  obtain rfl := Option.some_inj.mp (hseat.symm.trans hseat')
  simp [hst] at hheld

end SkyHighCore
