import SkyHighCore.Framework.Traces
import SkyHighCore.Properties.Runs

/-!
# A release that throws

The sweep makes one round for every stale seat its query returns, and a round is a call of
`releaseSeat`.  A refused lock is caught there and the seat left to a later event, but what fails
after the lock has been granted, a query, the transaction, the cached map or the release of the
lock, makes `releaseSeat` throw, and nothing in the loop of the sweep catches that.  So a
release that throws ends the sweep (`sweep_rounds`).
-/

namespace SkyHighCore

open Framework

/-- The body of the loop of `sweepExpiredHolds`. -/
def sweepRound (seat : Seat) : Program Unit := do
  let _ ← HoldExpiryService.releaseSeat seat.id
  return ()

/-- A round of the sweep. -/
abbrev SweepRound := Prog.Round Action Action.Res AppException Seat

/-- What a release that does not throw has done about its seat: it has released it, or the lock has
been refused, or another call was quicker. -/
inductive Tended (s : SeatId) (tr : List (Event Action Action.Res AppException)) : Prop
  | released {seat} (hrow : ⟨.findOneSeat { id := some s }, .ok (some seat)⟩ ∈ tr)
      (hrelease : ⟨.release seat, .ok true⟩ ∈ tr)
  | refused {e} (hlock : ⟨.acquireLock (.seatLock s), .error e⟩ ∈ tr)
  | gone {found} (hrow : ⟨.findOneSeat { id := some s }, .ok found⟩ ∈ tr)
      (hgone : ∀ seat ∈ found, seat.status ≠ .held)
  | fresh {seat now} (hrow : ⟨.findOneSeat { id := some s }, .ok (some seat)⟩ ∈ tr)
      (hnow : ⟨.dateNow, .ok now⟩ ∈ tr) (hfresh : now < HoldExpiryService.holdExpiry seat)
  | overtaken {seat} (hrow : ⟨.findOneSeat { id := some s }, .ok (some seat)⟩ ∈ tr)
      (hrelease : ⟨.release seat, .ok false⟩ ∈ tr)

variable {tr : List (Event Action Action.Res AppException)}

lemma Tended.mono {s : SeatId} {tr' : List (Event Action Action.Res AppException)}
    (h : Tended s tr) (hsub : tr ⊆ tr') : Tended s tr' := by
  cases h with
  | released hrow hrelease => exact .released (hsub hrow) (hsub hrelease)
  | refused hlock => exact .refused (hsub hlock)
  | gone hrow hgone => exact .gone (hsub hrow) hgone
  | fresh hrow hnow hfresh => exact .fresh (hsub hrow) (hsub hnow) hfresh
  | overtaken hrow hrelease => exact .overtaken (hsub hrow) (hsub hrelease)

lemma tended_of_releaseSeatWithinLock {s : SeatId} {b : Bool}
    (h : (HoldExpiryService.releaseSeatWithinLock s).Yields tr (.ok b)) : Tended s tr := by
  rcases Prog.yields_perform_bind.mp h with ⟨found, tr₁, rfl, hrest⟩ | ⟨e, -, hfalse⟩
  swap
  · cases hfalse
  have hfound : ⟨.findOneSeat { id := some s }, .ok found⟩ ∈
      ⟨.findOneSeat { id := some s }, .ok found⟩ :: tr₁ := List.mem_cons_self
  cases found with
  | none => exact .gone hfound (by simp)
  | some seat =>
      by_cases hheld : seat.status ≠ .held
      · exact .gone hfound (by simpa using hheld)
      simp only [if_neg hheld] at hrest
      rcases Prog.yields_perform_bind.mp hrest with ⟨now, tr₂, rfl, hlater⟩ | ⟨e, -, hfalse⟩
      swap
      · cases hfalse
      by_cases hfresh : HoldExpiryService.holdExpiry seat > now
      · exact .fresh hfound (List.mem_cons_of_mem _ List.mem_cons_self) hfresh
      simp only [if_neg hfresh] at hlater
      rcases Prog.yields_perform_bind.mp hlater with ⟨released, tr₃, rfl, -⟩ | ⟨e, -, hfalse⟩
      swap
      · cases hfalse
      have hrelease : ⟨.release seat, .ok released⟩ ∈
          ⟨.findOneSeat { id := some s }, .ok (some seat)⟩ :: ⟨.dateNow, .ok now⟩ ::
            ⟨.release seat, .ok released⟩ :: tr₃ := by simp
      cases released with
      | true => exact .released hfound hrelease
      | false => exact .overtaken hfound hrelease

lemma tended_of_releaseSeat {s : SeatId} {b : Bool}
    (h : (HoldExpiryService.releaseSeat s).Yields tr (.ok b)) : Tended s tr := by
  obtain ⟨e | _, tr₁, rfl, h⟩ := h
  · exact .refused List.mem_cons_self
  · obtain ⟨tr₂, tr₃, o, rfl, hlocked, hend⟩ := Prog.yields_tryFinally.mp h
    rcases hend with ⟨-, rfl⟩ | ⟨e, -, hfalse⟩
    · apply (tended_of_releaseSeatWithinLock hlocked).mono
      intro e he
      simp [he]
    · cases hfalse

/-- A round begins with the lock of its seat. -/
lemma lock_mem_of_sweepRound {seat : Seat} {r : Except AppException Unit}
    (h : (sweepRound seat).Yields tr r) : ∃ o, ⟨.acquireLock (.seatLock seat.id), o⟩ ∈ tr := by
  obtain ⟨o, tr', rfl, -⟩ := h
  exact ⟨o, List.mem_cons_self⟩

lemma tended_of_sweepRound {seat : Seat} (h : (sweepRound seat).Yields tr (.ok ())) :
    Tended seat.id tr := by
  rcases Prog.yields_bind.mp h with ⟨tr₁, tr₂, b, rfl, hrelease, -⟩ | ⟨e, -, hfalse⟩
  · exact (tended_of_releaseSeat hrelease).mono (List.subset_append_left _ _)
  · cases hfalse

/-- The action reads no other seat than `s`. -/
def Action.ReadsOnly (s : SeatId) : Action → Prop
  | .findOneSeat q => q.id = some s
  | _ => True

/-- A release throws only when one of its commands fails, and it reads no other seat. -/
lemma relays_releaseSeat (s : SeatId) :
    (HoldExpiryService.releaseSeat s).Relays (Action.ReadsOnly s) := by
  have hperform : ∀ {a : Action}, a.ReadsOnly s → (act a).Relays (Action.ReadsOnly s) :=
    fun ha => Prog.relays_perform ha
  have hafter : ∀ seat, (HoldExpiryService.afterRelease seat).Relays (Action.ReadsOnly s) := by
    intro seat
    refine Prog.Relays.bind ?_ fun _ => ?_
    · unfold HoldExpiryService.markWaitlistEntryExpired
      split
      · exact Prog.relays_pure _
      · refine Prog.Relays.bind (hperform trivial) fun entry => ?_
        cases entry with
        | none => exact Prog.relays_pure _
        | some entry => exact hperform trivial
    · refine Prog.Relays.bind (hperform trivial) fun _ => ?_
      exact Prog.Relays.bind (hperform trivial) fun _ => Prog.relays_pure _
  apply Prog.Relays.andThen
  intro r
  cases r with
  | error e => exact Prog.relays_pure _
  | ok _ =>
      refine Prog.Relays.tryFinally (Prog.Relays.bind (hperform rfl) fun found => ?_)
        (hperform trivial)
      cases found with
      | none => exact Prog.relays_pure _
      | some seat =>
          show Prog.Relays _ (if _ then _ else _)
          split
          · exact Prog.relays_pure _
          · refine Prog.Relays.bind (hperform trivial) fun now => ?_
            show Prog.Relays _ (if _ then _ else _)
            split
            · exact Prog.relays_pure _
            · refine Prog.Relays.bind (hperform trivial) fun updateResult => ?_
              show Prog.Relays _ (if _ then _ else _)
              split
              · exact hafter seat
              · exact Prog.relays_pure _

/-- The command that makes a round throw. -/
lemma relays_sweepRound (seat : Seat) : (sweepRound seat).Relays (Action.ReadsOnly seat.id) :=
  (relays_releaseSeat seat.id).bind fun _ => Prog.relays_pure _

/-! ## The rounds of a sweep -/

/-- A sweep whose query has returned `L` goes through `L`. -/
lemma loops_of_sweep {r : Except AppException Unit}
    (h : HoldExpiryService.sweepExpiredHolds.Yields tr r) {cutoff : ℤ} {L : List Seat}
    (hL : tr[1]? = some ⟨.findStaleSeats cutoff, .ok L⟩) : ∃ rounds : List SweepRound,
      Prog.Loops sweepRound L rounds r ∧ tr.drop 2 = rounds.flatMap Prog.Round.trace := by
  rcases Prog.yields_perform_bind.mp h with ⟨now, tr₁, rfl, hrest⟩ | ⟨e, rfl, -⟩
  · rcases Prog.yields_perform_bind.mp hrest with ⟨L', tr₂, rfl, hloop⟩ | ⟨e, rfl, -⟩
    · obtain rfl : L' = L := by simp at hL; exact hL.2
      obtain ⟨rounds, hloops, rfl⟩ := Prog.yields_forEach.mp hloop
      exact ⟨rounds, hloops, rfl⟩
    · simp at hL
  · simp at hL

/-- What a sweep owes the stale seats `L`, when the release of those in `F` throws: a round for
each, and the rounds of the others do their work. -/
structure SweepsAll (L : List Seat) (F : Seat → Prop) (rounds : List SweepRound) : Prop where
  attempted : rounds.map Prog.Round.element = L
  released : ∀ round ∈ rounds, ¬ F round.element → Tended round.element.id round.trace

variable {cfg : Settings} {w : World} {ts : List SkyTransition} {c : SkyConfig} {k : ℕ}
  {r : Except AppException Reply}

lemma exists_rounds (h : (skyHigh cfg).Run (.init w) ts c)
    (hk : c.threads[k]? = some ⟨.sweepExpiredHolds, .done r⟩) {cutoff : ℤ} {L : List Seat}
    (hL : ((skyHigh cfg).trace k ts)[1]? = some ⟨.findStaleSeats cutoff, .ok L⟩) :
    ∃ (rounds : List SweepRound) (r' : Except AppException Unit),
      Prog.Loops sweepRound L rounds r' ∧
      ((skyHigh cfg).trace k ts).drop 2 = rounds.flatMap Prog.Round.trace := by
  obtain ⟨r', hyields, -⟩ := Prog.yields_map.mp (h.yields hk)
  obtain ⟨rounds, hloops, htrace⟩ := loops_of_sweep hyields hL
  exact ⟨rounds, r', hloops, htrace⟩

/-- **A bad seat stops the sweep, unless it is the last one.**  In every run, a sweep whose query
has returned `L` goes through rounds, one for each seat from the front of `L` on, each of them a
call of `releaseSeat` for its seat.  Whatever the set `F` of the seats whose release throws, there
is a round for every seat of `L`, and every seat whose release does not throw has been dealt with,
if and only if no seat of `L` but the last one is in `F`. -/
theorem sweep_rounds (h : (skyHigh cfg).Run (.init w) ts c)
    (hk : c.threads[k]? = some ⟨.sweepExpiredHolds, .done r⟩) {cutoff : ℤ} {L : List Seat}
    (hL : ((skyHigh cfg).trace k ts)[1]? = some ⟨.findStaleSeats cutoff, .ok L⟩) :
    ∃ rounds : List SweepRound,
      ((skyHigh cfg).trace k ts).drop 2 = rounds.flatMap Prog.Round.trace ∧
      rounds.map Prog.Round.element <+: L ∧
      (∀ round ∈ rounds, (sweepRound round.element).Yields round.trace round.outcome) ∧
      ∀ F : Seat → Prop, (∀ round ∈ rounds, round.outcome ≠ .ok () ↔ F round.element) →
        (SweepsAll L F rounds ↔ ∀ seat ∈ L.dropLast, ¬ F seat) := by
  obtain ⟨rounds, r', hloops, htrace⟩ := exists_rounds h hk hL
  refine ⟨rounds, htrace, hloops.elements_prefix, fun round => hloops.yields, fun F hF => ?_⟩
  rw [← hloops.elements_eq_iff hF]
  constructor
  · intro hall
    exact hall.attempted
  · intro hattempted
    refine ⟨hattempted, fun round hround hnot => ?_⟩
    have hok : round.outcome = .ok () := by
      by_contra hthrows
      exact hnot ((hF round hround).mp hthrows)
    have hyields := hloops.yields hround
    rw [hok] at hyields
    exact tended_of_sweepRound hyields

/-! ## Two stale seats -/

/-- Passengers 1 and 2 hold a seat each, both holds run out, and the sweep comes. -/
def sweepTwoSeats : List SkyLabel :=
  start ++ [.invoke (.startCheckIn 2 ⟨10, 101⟩)] ++ proceed 1 10 ++
  [.tick 120000, .invoke .sweepExpiredHolds]

/-- The read of seat 100 under its lock fails. -/
def sweepBadSeat : List SkyLabel :=
  sweepTwoSeats ++ proceed 2 3 ++ [.act 2 { fault := true }] ++ proceed 2 1

/-- Seat 100 is released, and the read of seat 101 under its lock fails. -/
def sweepBadLast : List SkyLabel :=
  sweepTwoSeats ++ proceed 2 11 ++ [.act 2 { fault := true }] ++ proceed 2 1

/-- The sweep has ended. -/
def sweepEnded (c : SkyConfig) : Bool :=
  match c.threads[(2 : ℕ)]? with
  | some ⟨.sweepExpiredHolds, .done _⟩ => true
  | _ => false

/-- The query of the sweep has returned both seats. -/
def foundBoth (tr : List (Event Action Action.Res AppException)) : Bool :=
  match tr[(1 : ℕ)]? with
  | some ⟨.findStaleSeats _, .ok L⟩ => decide (L.map Seat.id = [100, 101])
  | _ => false

/-- A test of the events of a sweep over both seats. -/
lemma exists_sweep (schedule : List SkyLabel)
    (test : Event Action Action.Res AppException → Bool)
    (h : (((skyHigh {}).execute schedule (.init twoSeatWorld)).any fun out => sweepEnded out.2 &&
      foundBoth ((skyHigh {}).trace 2 out.1) && ((skyHigh {}).trace 2 out.1).all test) = true) :
    ∃ (ts : List SkyTransition) (c : SkyConfig) (r : Except AppException Reply) (cutoff : ℤ)
      (seat₁ seat₂ : Seat), (skyHigh {}).Run (.init twoSeatWorld) ts c ∧
      c.threads[2]? = some ⟨.sweepExpiredHolds, .done r⟩ ∧
      ((skyHigh {}).trace 2 ts)[1]? = some ⟨.findStaleSeats cutoff, .ok [seat₁, seat₂]⟩ ∧
      seat₁.id = 100 ∧ seat₂.id = 101 ∧ ∀ e ∈ (skyHigh {}).trace 2 ts, test e = true := by
  obtain ⟨ts, c, hrun, htest⟩ := exists_run_from twoSeatWorld schedule
    (fun ts c => sweepEnded c && foundBoth ((skyHigh {}).trace 2 ts) &&
      ((skyHigh {}).trace 2 ts).all test) h
  simp only [Bool.and_eq_true, List.all_eq_true] at htest
  obtain ⟨⟨hended, hfound⟩, hall⟩ := htest
  unfold sweepEnded at hended
  split at hended
  · rename_i r hk
    unfold foundBoth at hfound
    split at hfound
    · rename_i cutoff L hL
      obtain ⟨seat₁, rest, rfl, hid₁, hrest⟩ := List.map_eq_cons_iff.mp (of_decide_eq_true hfound)
      obtain ⟨seat₂, rest, rfl, hid₂, hnil⟩ := List.map_eq_cons_iff.mp hrest
      obtain rfl := List.map_eq_nil_iff.mp hnil
      exact ⟨ts, c, r, cutoff, seat₁, seat₂, hrun, hk, hL, hid₁, hid₂, hall⟩
    · cases hfound
  · cases hended

/-- Nothing fails but the read of seat 101. -/
def failsForLast (e : Event Action Action.Res AppException) : Bool :=
  match e with
  | ⟨.findOneSeat q, o⟩ => o.isOk == decide (q.id ≠ some 101)
  | ⟨_, o⟩ => o.isOk

/-- A round in which nothing fails but the read of seat 101 throws exactly for that seat. -/
lemma throws_iff_of_failsForLast {seat : Seat} {r : Except AppException Unit}
    (h : (sweepRound seat).Yields tr r) (hall : ∀ e ∈ tr, failsForLast e = true) :
    r ≠ .ok () ↔ seat.id = 101 := by
  constructor
  · intro hthrows
    cases r with
    | ok v => exact absurd rfl hthrows
    | error e =>
        obtain ⟨a, e', hreads, hmem⟩ := relays_sweepRound seat tr e h
        have hfails := hall _ hmem
        cases a with
        | findOneSeat q =>
            have hid : q.id = some 101 := by
              simpa [failsForLast, Except.isOk, Except.toBool] using hfails
            exact Option.some_inj.mp (hreads.symm.trans hid)
        | _ => cases hfails
  · rintro hid rfl
    have htended := tended_of_sweepRound h
    rw [hid] at htended
    have hunread : ∀ found, ⟨.findOneSeat { id := some 101 }, .ok found⟩ ∉ tr := by
      intro found hmem
      cases hall _ hmem
    cases htended with
    | refused hlock => cases hall _ hlock
    | released hrow | gone hrow | fresh hrow | overtaken hrow => exact hunread _ hrow

/-- Where the release of the last seat alone throws, the sweep does all of its work. -/
theorem sweep_rounds_sweepBadLast : ∃ (ts : List SkyTransition) (L : List Seat)
    (rounds : List SweepRound), L.map Seat.id = [100, 101] ∧
      ((skyHigh {}).trace 2 ts).drop 2 = rounds.flatMap Prog.Round.trace ∧
      (∀ round ∈ rounds, round.outcome ≠ .ok () ↔ round.element.id = 101) ∧
      SweepsAll L (fun seat => seat.id = 101) rounds := by
  obtain ⟨ts, c, r, cutoff, seat₁, seat₂, hrun, hk, hL, hid₁, hid₂, htest⟩ :=
    exists_sweep sweepBadLast failsForLast (by decide +kernel)
  obtain ⟨rounds, htrace, -, hyields, hiff⟩ := sweep_rounds hrun hk hL
  have hF : ∀ round ∈ rounds, round.outcome ≠ .ok () ↔ round.element.id = 101 := by
    intro round hround
    have hevent : ∀ e ∈ round.trace, failsForLast e = true := by
      intro e he
      apply htest e
      apply (List.drop_sublist 2 _).mem
      rw [htrace]
      exact List.mem_flatMap.mpr ⟨round, hround, he⟩
    exact throws_iff_of_failsForLast (hyields round hround) hevent
  refine ⟨ts, _, rounds, by simp [hid₁, hid₂], htrace, hF, (hiff _ hF).mpr ?_⟩
  intro seat hseat
  obtain rfl : seat = seat₁ := by simpa using hseat
  simp [hid₁]

/-- The event is a request for the lock of seat `s`. -/
def asksLock (s : SeatId) (e : Event Action Action.Res AppException) : Bool :=
  match e.1 with
  | .acquireLock (.seatLock s') => s' = s
  | _ => false

/-- The sweep makes no round for seat 101, though the release of seat 100 alone throws. -/
theorem not_forall_sweepsAll : ¬ ∀ (w : World) (ts : List SkyTransition) (c : SkyConfig)
    (r : Except AppException Reply) (r' : Except AppException Unit) (cutoff : ℤ) (L : List Seat)
    (rounds : List SweepRound) (F : Seat → Prop), w.Seeded → (skyHigh {}).Run (.init w) ts c →
    c.threads[2]? = some ⟨.sweepExpiredHolds, .done r⟩ →
    ((skyHigh {}).trace 2 ts)[1]? = some ⟨.findStaleSeats cutoff, .ok L⟩ →
    ((skyHigh {}).trace 2 ts).drop 2 = rounds.flatMap Prog.Round.trace →
    Prog.Loops sweepRound L rounds r' →
    (∀ round ∈ rounds, round.outcome ≠ .ok () ↔ F round.element) → SweepsAll L F rounds := by
  intro hall
  obtain ⟨ts, c, r, cutoff, seat₁, seat₂, hrun, hk, hL, hid₁, hid₂, htest⟩ :=
    exists_sweep sweepBadSeat (fun e => !asksLock 101 e) (by decide +kernel)
  obtain ⟨rounds, r', hloops, htrace⟩ := exists_rounds hrun hk hL
  have hnone : seat₂ ∉ rounds.map Prog.Round.element := by
    intro hmem
    obtain ⟨round, hround, rfl⟩ := List.mem_map.mp hmem
    obtain ⟨o, ho⟩ := lock_mem_of_sweepRound (hloops.yields hround)
    rw [hid₂] at ho
    have hmem : ⟨.acquireLock (.seatLock 101), o⟩ ∈ (skyHigh {}).trace 2 ts := by
      apply (List.drop_sublist 2 _).mem
      rw [htrace]
      exact List.mem_flatMap.mpr ⟨round, hround, ho⟩
    cases htest _ hmem
  have hF : ∀ round ∈ rounds, round.outcome ≠ .ok () ↔ round.element.id = 100 := by
    cases hloops with
    | next _ hrest =>
        cases hrest with
        | next _ _ => exact absurd (by simp) hnone
        | threw _ => exact absurd (by simp) hnone
    | threw _ => simp [hid₁]
  have hattempted := (hall _ ts c r r' cutoff _ rounds (fun seat => seat.id = 100)
    twoSeatWorld_seeded hrun hk hL htrace hloops hF).attempted
  rw [hattempted] at hnone
  exact hnone (by simp)

end SkyHighCore
