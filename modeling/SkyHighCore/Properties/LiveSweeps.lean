import SkyHighCore.Properties.Grounds
import SkyHighCore.Properties.SweepRounds
import SkyHighCore.Properties.Sweeps

/-!
# A sweep among other calls

What a sweep does when nothing runs beside it is in `Sweeps`.  Here other calls act between any two
of its actions: they release its seats before it, cancel, complete, or let the next passenger in,
and the sweep works with rows that may be outdated.  If none of its own actions fails, it still ends
every hold that had run out when its query was made (`sweep_ends_found`): a round that has not
released the seat has seen that somebody else was quicker, and a passenger who has lost a seat does
not hold it again.
-/

namespace SkyHighCore

open Framework System

variable {cfg : Settings} {w : World} {ts us : List SkyTransition} {c c' : SkyConfig} {k : ℕ}
  {t : Time} {s : SeatId} {p : PassengerId}

/-- The environment never fails an action of the `k`-th call. -/
def FaultlessCall (k : ℕ) (ts : List SkyTransition) : Prop :=
  ∀ x ∈ ts, ∀ ch, x.label = .act k ch → ch.fault = false

/-! ## It comes to its end -/

/-- Of the actions of a sweep, none can be refused by the rows. -/
lemma Call.Writes.not_refused {tr : SkyRecord} {a : Action} {e : AppException}
    (hwrites : Call.sweepExpiredHolds.Writes tr a) : ¬ a.RefusedBy w e := by
  intro hrefused
  cases a with
  | holdSeat | assign | insertWaitlist | awaitPayment | complete => cases hwrites
  | _ => exact hrefused.elim

/-- A sweep none of whose actions fails does not throw. -/
lemma not_throws_of_faultless (h : (skyHigh cfg).Run (.init w) ts c)
    (hfaultless : FaultlessCall k ts) (e : AppException) :
    c.threads[k]? ≠ some ⟨.sweepExpiredHolds, .done (.error e)⟩ := by
  intro hk
  have hends : Call.sweepExpiredHolds.Ends e ((skyHigh cfg).trace k ts) :=
    (h.kept (fun _ ch w => ⟨ch, w, rfl⟩) (recorded_program cfg)).2 e hk
  rcases hends.1 with ⟨a, ha, hmem⟩ | hthrows
  · obtain ⟨us, x, vs, ch, cont, rfl, hpre, -, hl, hth, -, herror⟩ := h.step_of_event hk hmem
    have hch := hfaultless x (by simp) ch hl
    have hthrown : World.exec a ch x.pre.state =
        (.error e, (World.exec a ch x.pre.state).2) := Prod.ext herror rfl
    have hexec := exec_error (by rintro request rfl; cases ha) (by rintro p rfl; cases ha) hthrown
    rcases hexec.2 with ⟨hfault, -⟩ | hrefused
    · rw [hch] at hfault
      cases hfault
    · exact (run_writes hpre hth).not_refused hrefused
  · exact hthrows

/-! ## What it has done about a seat -/

lemma tended_of_loops {L : List Seat} {rounds : List SweepRound}
    (h : Prog.Loops sweepRound L rounds (.ok ())) :
    ∀ seat ∈ L, Tended seat.id (rounds.flatMap Prog.Round.trace) := by
  generalize hr : (.ok () : Except AppException Unit) = r at h
  induction h with
  | nil => simp
  | next hround _ ih =>
      intro seat hseat
      rw [List.flatMap_cons]
      rcases List.mem_cons.mp hseat with rfl | hseat
      · exact (tended_of_sweepRound hround).mono (List.subset_append_left _ _)
      · exact (ih hr seat hseat).mono (List.subset_append_right _ _)
  | threw => cases hr

/-- The trace of a sweep that has ended: the clock, the query, and a round for each row. -/
lemma trace_of_sweep {v : Reply} (h : (skyHigh cfg).Run (.init w) ts c)
    (hk : c.threads[k]? = some ⟨.sweepExpiredHolds, .done (.ok v)⟩) :
    v = .void ∧ ∃ (t : Time) (L : List Seat) (tr : SkyRecord),
      (skyHigh cfg).trace k ts = ⟨.dateNow, .ok t⟩ ::
        ⟨.findStaleSeats ((t : ℤ) - seatHoldTtl * 1000), .ok L⟩ :: tr ∧
      ∀ seat ∈ L, Tended seat.id tr := by
  obtain ⟨o, hyields, heq⟩ := Prog.yields_map.mp (h.yields hk)
  cases o with
  | error e => cases heq
  | ok u =>
      obtain rfl : v = .void := Except.ok.inj heq
      rcases Prog.yields_perform_bind.mp hyields with ⟨t, tr₁, htr, hrest⟩ | ⟨e, -, hfalse⟩
      swap
      · cases hfalse
      rcases Prog.yields_perform_bind.mp hrest with ⟨L, tr₂, rfl, hloop⟩ | ⟨e, -, hfalse⟩
      swap
      · cases hfalse
      refine ⟨rfl, t, L, tr₂, htr, ?_⟩
      obtain ⟨rounds, hloops, rfl⟩ := Prog.yields_forEach.mp hloop
      exact tended_of_loops hloops

/-- A hold that has run out, is seen as it is by every action of the call and is there after each
of them, has not been dealt with. -/
lemma not_tended {tr : SkyRecord} {seat : Seat} {held : Time} (hheld : seat.status = .held)
    (hp : seat.heldBy = some p) (hat : seat.heldAt = some held) (hle : held + 120 * 1000 ≤ t)
    (hseen : ∀ event ∈ tr, ∃ (ch : Choice) (w : World), ch.fault = false ∧ t ≤ w.now ∧
      w.db.bookings.seat s = some seat ∧ (World.exec event.1 ch w).1 = event.2 ∧
      (World.exec event.1 ch w).2.db.bookings.seat s = some seat) : ¬ Tended s tr := by
  have hread : ∀ row, ⟨.findOneSeat { id := some s }, .ok (some row)⟩ ∈ tr → row = seat := by
    intro row hmem
    obtain ⟨ch, w, -, -, hseat, hout, -⟩ := hseen _ hmem
    obtain ⟨hrow, hmatches, -⟩ := read_seat hout
    obtain rfl : row.id = s := hmatches s rfl
    exact Option.some_inj.mp (hrow.symm.trans hseat)
  -- a release of the row that is there would free it
  have hrelease : ∀ {r}, (⟨.release seat, r⟩ : Event Action Action.Res AppException) ∉ tr := by
    intro r hmem
    obtain ⟨ch, w, hch, -, hseat, -, hpost⟩ := hseen _ hmem
    obtain rfl : seat.id = s := Table.key_of_get? hseat
    obtain ⟨db', hbody, hfreed, -⟩ := Tx.releaseTransaction_hits hseat hheld hp
    have hexec : World.exec (.release seat) ch w = (.ok true, { w with db := db' }) :=
      World.transaction_ok hch hbody
    rw [hexec, hfreed] at hpost
    have hsame : Function.update w.db.bookings.seat seat.id (some seat.freed) seat.id = some seat :=
      hpost
    rw [Function.update_self] at hsame
    rw [← Option.some_inj.mp hsame] at hheld
    cases hheld
  intro htended
  cases htended with
  | released hrow hmem =>
      obtain rfl := hread _ hrow
      exact hrelease hmem
  | overtaken hrow hmem =>
      obtain rfl := hread _ hrow
      exact hrelease hmem
  | refused hlock =>
      obtain ⟨ch, w, hch, -, -, hout, -⟩ := hseen _ hlock
      rw [World.exec_acquireLock hch] at hout
      cases hout
  | gone hrow hgone =>
      obtain ⟨ch, w, hch, -, hseat, hout, -⟩ := hseen _ hrow
      rw [World.exec_findOneSeat_id hch] at hout
      have hfound := Except.ok.inj hout
      have hrow : w.db.seats.get? s = some seat := hseat
      rw [hrow] at hfound
      exact hgone seat hfound.symm hheld
  | fresh hrow hnow hfresh =>
      obtain ⟨ch, w, -, htime, -, hout, -⟩ := hseen _ hnow
      obtain rfl := Except.ok.inj hout
      have hexpiry : HoldExpiryService.holdExpiry seat = held + 120 * 1000 := by
        unfold HoldExpiryService.holdExpiry
        rw [hat]
        rfl
      rw [hread _ hrow, hexpiry] at hfresh
      exact hfresh.not_ge (hle.trans htime)

/-! ## The run -/

/-- A hold that is there at the end has been the same at every moment since its passenger has had
the seat. -/
lemma run_sameHold (hw : w.Seeded) (h : (skyHigh cfg).Run (.init w) ts c)
    {vs : List SkyTransition} {d : SkyConfig} (hus : (skyHigh cfg).Run c us d)
    (hvs : (skyHigh cfg).Run d vs c') {row seat : Seat}
    (hrow : c.state.db.bookings.seat s = some row) (hp : row.heldBy = some p)
    (hseat : c'.state.db.bookings.seat s = some seat) (hheld : seat.status = .held)
    (hp' : seat.heldBy = some p) : d.state.db.bookings.seat s = some seat := by
  obtain ⟨i, e, he, hep, -, hes⟩ := (run_linked hw h).holder s row p hrow hp
  have hbooked : d.state.db.bookings.HasBooked p s :=
    Bookings.HasBooked.evolves (run_progress hw h hus).bookings ⟨i, e, he, hep, hes⟩
  exact run_heldBefore hw (h.append hus) hvs hbooked hseat hheld hp'

/-- What a call has read off the clock is past. -/
lemma run_clock (hw : w.Seeded) (h : (skyHigh cfg).Run (.init w) ts c) {call : Call}
    {q : Program Reply} (hk : c.threads[k]? = some ⟨call, q⟩)
    (hmem : ⟨.dateNow, .ok t⟩ ∈ (skyHigh cfg).trace k ts) : t ≤ c.state.now := by
  obtain ⟨us, x, vs, ch, cont, -, hpre, hpost, -, -, hstep, hout⟩ := h.step_of_event hk hmem
  obtain rfl : x.pre.state.now = t := Except.ok.inj hout
  exact (run_progress hw hpre ((Run.single hstep).append hpost)).now

/-- **A sweep ends the holds that it has found**, whatever runs beside it.  In every run, a sweep
none of whose own actions fails does not throw.  Let `t` be what it has read off the clock.  When it
has ended, no passenger holds a seat any more by a hold that had run out at `t` and was there when
the sweep made its query. -/
theorem sweep_ends_found (hw : w.Seeded) (h : (skyHigh cfg).Run (.init w) ts c)
    {r : Except AppException Reply} (hk : c.threads[k]? = some ⟨.sweepExpiredHolds, .done r⟩)
    (hfaultless : FaultlessCall k ts) :
    r = .ok .void ∧ ∃ us x vs t, ts = us ++ x :: vs ∧
      (skyHigh cfg).trace k us = [⟨.dateNow, .ok t⟩] ∧
      executed? x = some (k, .findStaleSeats ((t : ℤ) - seatHoldTtl * 1000)) ∧
      ∀ s p row, x.pre.state.db.bookings.seat s = some row → row.heldBy = some p →
        x.pre.state.db.bookings.Stale t s →
        ∀ seat, c.state.db.bookings.seat s = some seat → seat.status = .held →
          seat.heldBy ≠ some p := by
  obtain ⟨v, rfl⟩ : ∃ v, r = .ok v := by
    cases r with
    | ok v => exact ⟨v, rfl⟩
    | error e => exact absurd hk (not_throws_of_faultless h hfaultless e)
  obtain ⟨rfl, t, L, tr, htrace, htended⟩ := trace_of_sweep h hk
  refine ⟨rfl, ?_⟩
  obtain ⟨ts₁, ts₂, rfl, htr₁, htr₂⟩ := List.filterMap_eq_append_iff.mp
    (show (skyHigh cfg).trace k ts = [⟨.dateNow, .ok t⟩] ++
      ⟨.findStaleSeats ((t : ℤ) - seatHoldTtl * 1000), .ok L⟩ :: tr from htrace)
  obtain ⟨us, x, vs, rfl, hus, hx, hvs⟩ := List.filterMap_eq_cons_iff.mp htr₂
  rw [← List.append_assoc] at h hfaultless ⊢
  obtain ⟨hpre, hstep, hpost⟩ := h.at_transition
  have hbefore : (skyHigh cfg).trace k (ts₁ ++ us) = [⟨.dateNow, .ok t⟩] := by
    rw [trace_append, show (skyHigh cfg).trace k ts₁ = _ from htr₁,
      show (skyHigh cfg).trace k us = [] from List.filterMap_eq_nil_iff.mpr hus]
    rfl
  obtain ⟨ch, call, a, cont, hl, hth, heq⟩ := event?_eq_some_iff.mp hx
  obtain ⟨rfl, hout⟩ := Sigma.mk.inj_iff.mp heq
  have hch := hfaultless x (by simp) ch hl
  obtain ⟨L', hexec, hselects⟩ := World.exec_findStaleSeats (t := t) (w := x.pre.state) hch
  obtain rfl : L = L' := by
    have hout' := (eq_of_heq hout).trans (congrArg Prod.fst hexec)
    exact Except.ok.inj hout'
  refine ⟨_, x, vs, t, rfl, hbefore, ?_, ?_⟩
  · simp [executed?, hl, hth, hch]
  intro s p row hrow hp hstale seat hseat hheld hp'
  obtain ⟨row', hmem, rfl⟩ := List.mem_map.mp ((hselects.mem_iff s).mpr hstale)
  have hrun := (Run.single hstep).append hpost
  have hsame : ∀ {us' vs' d}, (skyHigh cfg).Run x.pre us' d → (skyHigh cfg).Run d vs' c →
      d.state.db.bookings.seat row'.id = some seat := fun hus' hvs' =>
    run_sameHold hw hpre hus' hvs' hrow hp hseat hheld hp'
  obtain ⟨seat', held, hseat', -, hat, hle⟩ := hstale
  obtain rfl : seat' = seat := Option.some_inj.mp (hseat'.symm.trans (hsame .nil hrun))
  refine not_tended hheld hp' hat hle (fun event hevent => ?_) (htended row' hmem)
  obtain ⟨us', y, vs', ch', cont', rfl, hpre', hpost', hl', hth', hstep', hout'⟩ :=
    hpost.step_of_event hk (hvs ▸ hevent)
  have hpre'' := (Run.single hstep).append hpre'
  have hstate : y.post.state = (World.exec event.1 ch' y.pre.state).2 := by
    rw [hl', System.step, hth'] at hstep'
    rw [← Option.some_inj.mp hstep']
    rfl
  refine ⟨ch', y.pre.state, hfaultless y (by simp) ch' hl', ?_,
    hsame hpre'' ((Run.single hstep').append hpost'), hout', ?_⟩
  · have hclock := run_clock hw hpre hth (by rw [hbefore]; exact List.mem_cons_self)
    exact hclock.trans (run_progress hw hpre hpre'').now
  · rw [← hstate]
    exact hsame (hpre''.append (Run.single hstep')) hpost'

/-- The hold of passenger 1 runs out and a sweep finds it, but the passenger is first to cancel. -/
def cancelMeanwhile : List SkyLabel :=
  start ++ [.tick 120000, .invoke .sweepExpiredHolds] ++ proceed 1 2 ++
  [.invoke (.cancelCheckIn 1 1)] ++ proceed 2 7 ++ proceed 1 3

/-- The sweep has found seat 100, and has ended after a round in which it has not released it. -/
def leftAlone (ts : List SkyTransition) (c : SkyConfig) : Bool :=
  (match c.threads[(1 : ℕ)]? with
    | some ⟨.sweepExpiredHolds, .done (.ok .void)⟩ => true
    | _ => false) &&
  ((skyHigh {}).trace 1 ts).any (fun event => match event with
    | ⟨.findStaleSeats _, .ok L⟩ => decide (L.map Seat.id = [100])
    | _ => false) &&
  ((skyHigh {}).trace 1 ts).all fun event => match event with
    | ⟨.release _, _⟩ => false
    | _ => true

theorem sweep_ends_found_cancelMeanwhile : ∃ ts c us x vs, ∃ t : Time,
    (skyHigh {}).Run (.init oneSeatWorld) ts c ∧ leftAlone ts c = true ∧ ts = us ++ x :: vs ∧
      executed? x = some (1, .findStaleSeats ((t : ℤ) - seatHoldTtl * 1000)) ∧
      ∀ s p row, x.pre.state.db.bookings.seat s = some row → row.heldBy = some p →
        x.pre.state.db.bookings.Stale t s →
        ∀ seat, c.state.db.bookings.seat s = some seat → seat.status = .held →
          seat.heldBy ≠ some p := by
  obtain ⟨ts, c, hrun, htest⟩ := exists_run cancelMeanwhile
    (fun ts c => ts.all faultless && leftAlone ts c) (by decide +kernel)
  obtain ⟨hfaultless, hleft⟩ := (Bool.and_eq_true _ _).mp htest
  have hk : c.threads[1]? = some ⟨.sweepExpiredHolds, .done (.ok .void)⟩ := by
    simp only [leftAlone, Bool.and_eq_true] at hleft
    have hended := hleft.1.1
    split at hended
    · assumption
    · cases hended
  obtain ⟨-, us, x, vs, t, hts, -, hquery, hends⟩ := sweep_ends_found oneSeatWorld_seeded hrun hk
    fun x hx ch hl => faultless_of_all hfaultless x hx 1 ch hl
  exact ⟨ts, c, us, x, vs, t, hrun, hleft, hts, hquery, hends⟩

end SkyHighCore
