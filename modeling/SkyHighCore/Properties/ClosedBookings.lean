import SkyHighCore.Properties.Releases
import SkyHighCore.Properties.Warrants

/-!
# Releases and the bookings on the seat

A release frees the seat and cancels the check-ins on it that are IN_PROGRESS, in one transaction.
A check-in that waits for its payment is not among them: it survives its hold.  Hence a release
closes the bookings on the seat exactly when none of them waits for a payment or is completed; what
it has closed stays closed, whatever is issued afterwards.
-/

namespace SkyHighCore

open Framework

/-- Every check-in that refers to seat `s` is cancelled. -/
def Bookings.ClosedOn (b : Bookings) (s : SeatId) : Prop :=
  ∀ i c, b.checkIn i = some c → c.seatId = some s → c.status = .cancelled

/-- Every check-in that refers to seat `s` is in progress or cancelled. -/
def Bookings.Unpaused (b : Bookings) (s : SeatId) : Prop :=
  ∀ i c, b.checkIn i = some c → c.seatId = some s → c.status = .inProgress ∨ c.status = .cancelled

lemma CheckIn.status_releasedFrom {s : SeatId} {c : CheckIn} (hs : c.seatId = some s) :
    (c.releasedFrom s).status = .cancelled ↔ c.status = .inProgress ∨ c.status = .cancelled := by
  unfold CheckIn.releasedFrom
  by_cases hst : c.status = .inProgress
  · simp [hs, hst]
  · simp [hst]

/-- A release closes what is not paused. -/
lemma Bookings.closedOn_released_iff {b : Bookings} {s : SeatId} {seat : Seat} :
    (b.released s seat).ClosedOn s ↔ b.Unpaused s := by
  constructor
  · intro h i c hc hs
    have hc' : (b.released s seat).checkIn i = some (c.releasedFrom s) :=
      congrArg (Option.map _) hc
    have hs' : (c.releasedFrom s).seatId = some s := (c.sameBooking_releasedFrom s).2.2.trans hs
    exact (CheckIn.status_releasedFrom hs).mp (h i _ hc' hs')
  · intro h i c' hc' hs'
    obtain ⟨c, hc, rfl⟩ := Option.map_eq_some_iff.mp hc'
    have hs : c.seatId = some s := (c.sameBooking_releasedFrom s).2.2.symm.trans hs'
    exact (CheckIn.status_releasedFrom hs).mpr (h i c hc hs)

/-! ## What is closed stays closed -/

/-- Check-in `i` is cancelled. -/
def Bookings.IsCancelled (b : Bookings) (i : CheckInId) : Prop :=
  ∃ c, b.checkIn i = some c ∧ c.status = .cancelled

/-- The actions that give check-in `i` another status than CANCELLED. -/
def Action.reopens (i : CheckInId) : Action → Prop
  | .awaitPayment checkIn _ _ | .complete checkIn _ _ => checkIn.id = i
  | _ => False

lemma Action.not_reopens_of_bills {a : Action} (h : a.bills = false) (i : CheckInId) :
    ¬ a.reopens i := by
  cases a with
  | awaitPayment | complete => cases h
  | _ => exact id

lemma Commits.isCancelled {b b' : Bookings} {a : Action} (h : Commits b a b') {i : CheckInId}
    (ha : ¬ a.reopens i) (hb : b.IsCancelled i) : b'.IsCancelled i := by
  obtain ⟨c, hc, hst⟩ := hb
  cases h with
  | holdSeat h _ _ | assign h _ _ =>
      refine ⟨c, (Function.update_of_ne ?_ _ _).trans hc, hst⟩
      rintro rfl
      cases hc.symm.trans h.fresh
  | release _ _ _ _ =>
      refine ⟨_, congrArg (Option.map _) hc, ?_⟩
      unfold CheckIn.releasedFrom
      split
      · rfl
      · exact hst
  | cancel _ _ _ _ _ =>
      rename_i snap _ _ _ _ _ _ _ _ _
      by_cases hi : i = snap.id
      · subst hi
        exact ⟨_, Function.update_self .., rfl⟩
      · exact ⟨c, (Function.update_of_ne hi _ _).trans hc, hst⟩
  | complete _ _ _ _ _ | awaitPayment _ _ _ =>
      exact ⟨c, (Function.update_of_ne (Ne.symm ha) _ _).trans hc, hst⟩

/-- Every call, while check-in `i` is cancelled. -/
def closing (cfg : Settings) (i : CheckInId) : Protocol (skyHigh cfg) where
  admits a _ w := a.Pre cfg w
  inv w := w.db.bookings.Linked ∧ w.db.bookings.IsCancelled i
  rely _ _ _ := True
  guar _ a _ _ _ := ¬ a.reopens i

lemma closing_lawful (cfg : Settings) (i : CheckInId) : (closing cfg i).Lawful where
  rely_refl _ _ _ := trivial
  rely_trans _ _ _ _ _ _ := trivial
  inv_step := by
    rintro call a w r w' ⟨hlinked, hi⟩ ⟨ch, hpre, he⟩ ha
    refine ⟨exec_linked hlinked hpre he, ?_⟩
    rcases exec_commits hlinked hpre he with ⟨-, hcommits, -⟩ | ⟨-, hquiet⟩
    · exact hcommits.isCancelled ha hi
    · rw [hquiet.1]
      exact hi
  inv_tick _ _ h := h
  rely_tick _ _ _ _ := trivial

section Confirmations

open CheckInService

variable {cfg : Settings} {i : CheckInId}

lemma closing_tolerant (call : Call) : Tolerant ((closing cfg i).contract call) where
  exec := fun ⟨ch, _, he⟩ => ⟨ch, _, congrArg Prod.fst he⟩
  harmless := fun ha _ _ =>
    ⟨Action.not_reopens_of_bills (Action.bills_of_harmless ha) i, trivial⟩

/-- A confirmation does not get hold of a cancelled check-in. -/
def closingOutline (cfg : Settings) (i j : CheckInId) (p : PassengerId)
    (dto : UpdateCheckInRequestDto) :
    ConfirmOutline cfg ((closing cfg i).contract (.confirmCheckIn j p dto)) j p
      (declaredWeight dto) where
  before _ := True
  found c _ := c.id ≠ i
  paused c _ := c.id ≠ i
  paid c _ _ := c.id ≠ i
  after _ := True
  kept_before _ _ _ h := h
  kept_found _ _ _ _ h := h
  kept_paused _ _ _ _ h := h
  kept_paid _ _ _ _ _ h := h
  kept_after _ _ _ h := h
  read := by
    rintro c w w' ⟨-, d, hd, hst⟩ - ⟨ch, -, he⟩ hopen rfl
    obtain ⟨rfl, hc, -⟩ := exec_findOneCheckIn he
    obtain rfl : c = d := Option.some_inj.mp (hc.symm.trans hd)
    rw [hst] at hopen
    cases hopen
  complete := fun _ hc _ _ => ⟨hc, trivial⟩
  pause := by
    rintro c w r w' - hc - -
    refine ⟨hc, ?_⟩
    cases r with
    | error e => trivial
    | ok _ => exact hc
  pay := by
    rintro c w r w' - hc -
    refine ⟨id, ?_⟩
    cases r with
    | error e => exact hc
    | ok response =>
        dsimp only
        split <;> exact hc
  settle := fun _ hc _ _ => ⟨hc, trivial⟩
  after_of_before _ := trivial
  after_of_found _ := trivial
  after_of_paused _ := trivial

/-- **No call that is issued while a check-in is cancelled reopens it.** -/
theorem closing_program (call : Call) (w : World) :
    (call.program cfg).Meets ((closing cfg i).contract call) w := by
  rcases Call.unbilled_or_confirms cfg call with hcall | ⟨j, p, dto, rfl⟩
  · exact .of_guar (fun a _ _ _ ha _ _ => Action.not_reopens_of_bills ha i) hcall
  · exact .map ((closingOutline cfg i j p dto).wp_confirmCheckIn (closing_tolerant _) rfl trivial)

end Confirmations

/-! ## Releases -/

variable {cfg : Settings} {w : World} {ts us : List SkyTransition} {c c' : SkyConfig} {s : SeatId}

/-- A cancelled check-in stays cancelled in every run that starts when no call is in flight. -/
lemma run_isCancelled (hw : w.Seeded) (h : (skyHigh cfg).Run (.init w) ts c) (hquiet : c.quiescent)
    (hrun : (skyHigh cfg).Run c us c') {i : CheckInId} (hi : c.state.db.bookings.IsCancelled i) :
    c'.state.db.bookings.IsCancelled i := by
  have hadm : ∀ t ∈ us, (closing cfg i).Admitted t :=
    fun t ht => run_admitted hw (h.append hrun) t (List.mem_append_right _ ht)
  exact (hrun.sound_of_quiescent (closing_lawful cfg i) (fun call w _ => closing_program call w)
    (fun _ _ _ _ _ _ _ _ _ => trivial) hquiet ⟨run_linked hw h, hi⟩ hadm).1.2

/-- **When a release closes the bookings on its seat.**  A release that runs alone, whatever fails
after its transaction, leaves every check-in on the seat cancelled exactly if each of them was in
progress or cancelled; and then they stay cancelled in every run. -/
theorem releaseSeat_closes_iff (hw : w.Seeded) (h : (skyHigh cfg).Run (.init w) ts c)
    (hsolo : (skyHigh cfg).Solo c (.releaseSeat s) us (.ok (.released true)) c') :
    (c'.state.db.bookings.ClosedOn s ↔ c.state.db.bookings.Unpaused s) ∧
      (c.state.db.bookings.Unpaused s → ∀ vs d, (skyHigh cfg).Run c' vs d →
        ∀ i row, c.state.db.bookings.checkIn i = some row → row.seatId = some s →
          d.state.db.bookings.IsCancelled i) := by
  obtain ⟨-, -, -, -, seat, hseat, hreleased⟩ := released_of_solo (run_linked hw h) hsolo
  have hid : seat.id = s := Table.key_of_get? hseat
  have hb : c'.state.db.bookings = c.state.db.bookings.released s seat := by
    rw [← hid]
    exact hreleased.bookings
  have hiff : c'.state.db.bookings.ClosedOn s ↔ c.state.db.bookings.Unpaused s := by
    rw [hb]
    exact Bookings.closedOn_released_iff
  refine ⟨hiff, fun hunpaused vs d hrun i row hrow hs => ?_⟩
  obtain ⟨ts', hrun', -⟩ := hsolo.after h
  refine run_isCancelled hw hrun' hsolo.quiescent hrun ?_
  have hrow' : c'.state.db.bookings.checkIn i = some (row.releasedFrom s) := by
    rw [hb]
    exact congrArg (Option.map _) hrow
  exact ⟨_, hrow', (CheckIn.status_releasedFrom hs).mpr (hunpaused i row hrow hs)⟩

/-- Passenger 1 takes the seat and lets the hold run out. -/
def startThenWait : List SkyLabel := start ++ [.tick 120000]

theorem releaseSeat_closes_startThenWait : ∃ ts c us c',
    (skyHigh {}).Run (.init oneSeatWorld) ts c ∧
    (skyHigh {}).Solo c (.releaseSeat 100) us (.ok (.released true)) c' ∧
    (c.state.db.checkIns.get? 1).any (·.status = .inProgress) = true ∧
    c'.state.db.bookings.ClosedOn 100 := by
  obtain ⟨ts, c, us, r, c', hrun, hsolo, htest⟩ := exists_solo_from oneSeatWorld startThenWait
    (.releaseSeat 100) (proceed 1 8) (fun _ c _ r _ => released? r = some true &&
      (c.state.db.checkIns.get? 1).any (·.status = .inProgress) &&
      c.state.db.checkIns.rows.all fun row => decide (row.status = .inProgress)) (by decide +kernel)
  simp only [Bool.and_eq_true, decide_eq_true_eq, List.all_eq_true] at htest
  obtain ⟨⟨hr, hrow⟩, hall⟩ := htest
  obtain rfl := released?_eq_some hr
  refine ⟨ts, c, us, c', hrun, hsolo, hrow, ?_⟩
  refine (releaseSeat_closes_iff oneSeatWorld_seeded hrun hsolo).1.mpr fun i row hi _ => ?_
  exact .inl (hall row (Table.mem_of_get? hi))

/-- Passenger 1 declares 30 kg, and no request for the fee is answered. -/
def startThenOwe : List SkyLabel :=
  start ++ [.invoke (.confirmCheckIn 1 1 (declaring 30))] ++ proceed 1 13

/-- **The check-in of passenger 1 outlives its hold.** -/
theorem releaseSeat_leavesPaused : ∃ ts c us c', oneSeatWorld.Seeded ∧
    (skyHigh {}).Run (.init oneSeatWorld) ts c ∧ Sequential ts ∧
    (∃ seat t, c.state.db.bookings.seat 100 = some seat ∧ seat.status = .held ∧
      seat.heldBy = some 1 ∧ seat.heldAt = some t ∧ t + 120 * 1000 ≤ c.state.now) ∧
    (∃ row, c.state.db.bookings.checkIn 1 = some row ∧ row.passengerId = 1 ∧
      row.seatId = some 100 ∧ row.status = .awaitingPayment) ∧
    (skyHigh {}).Solo c (.releaseSeat 100) us (.ok (.released true)) c' ∧
    (∀ t ∈ us, Faultless t) ∧ ¬ c'.state.db.bookings.ClosedOn 100 := by
  obtain ⟨ts, c, us, r, c', hrun, hsolo, htest⟩ := exists_solo_from oneSeatWorld
    (startThenOwe ++ [.tick 120000]) (.releaseSeat 100) (proceed 2 8) (fun ts c us r c' =>
      ts.all issuedAlone && us.all faultless && released? r = some true &&
      decide (c.state.db.seats.get? 100 = some ⟨100, 10, 1, "A", .held, some 1, some 0⟩) &&
      decide (120000 ≤ c.state.now) &&
      (c.state.db.checkIns.get? 1).any (fun row => row.passengerId = 1 ∧ row.seatId = some 100 ∧
        row.status = .awaitingPayment) &&
      (c'.state.db.checkIns.get? 1).any fun row =>
        row.seatId = some 100 ∧ row.status = .awaitingPayment) (by decide +kernel)
  simp only [Bool.and_eq_true, decide_eq_true_eq, Option.any_eq_true] at htest
  obtain ⟨⟨⟨⟨⟨⟨hseq, hfaultless⟩, hr⟩, hseat⟩, hnow⟩, row, hrow, hp, hs, hst⟩, row', hrow', hs',
    hst'⟩ := htest
  obtain rfl := released?_eq_some hr
  refine ⟨ts, c, us, c', oneSeatWorld_seeded, hrun, sequential_of_issuedAlone hseq,
    ⟨_, 0, hseat, rfl, rfl, rfl, (Nat.zero_add _).trans_le hnow⟩, ⟨row, hrow, hp, hs, hst⟩, hsolo,
    faultless_of_all hfaultless, fun hclosed => ?_⟩
  cases hst'.symm.trans (hclosed 1 row' hrow' hs')

end SkyHighCore
