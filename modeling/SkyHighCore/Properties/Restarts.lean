import SkyHighCore.Framework.Restarts
import SkyHighCore.Properties.Holds
import SkyHighCore.Properties.Responses
import SkyHighCore.Properties.Sweeps

/-!
# Crashes, and the sweep that mends what they leave

An instance that goes down loses the calls it was serving, wherever they were, and the contention
counter it kept; Postgres, Redis and the Payment Service know nothing of it.  What is left behind
can be a hold without its key, a freed seat that nobody is told of, a charge that is not booked.
But it is never a state that the calls could not be in by being slow (`crash_recovery`), so the
links between the tables survive, and the first sweep that runs by itself afterwards ends every hold
that has run out, those without a key included.

A sweep need not run by itself for that: `sweep_ends_found` is about one that other calls
interleave with as they like.
-/

namespace SkyHighCore

open Framework System

/-! ## What a crash may change -/

namespace World

lemma SameStore.trans {w₁ w₂ w₃ : World} (h : w₁.SameStore w₂) (h' : w₂.SameStore w₃) :
    w₁.SameStore w₃ where
  db := h'.db.trans h.db
  seatHolds := h'.seatHolds.trans h.seatHolds
  seatMapCache := h'.seatMapCache.trans h.seatMapCache
  now := h'.now.trans h.now
  payments := h'.payments.trans h.payments
  events := h'.events.trans h.events

/-- The world with other counters. -/
def counting (w : World) (n : FlightId → ℕ) : World := { w with seatContentionTotal := n }

lemma SameStore.eq_counting {w w' : World} (h : w.SameStore w') :
    w' = w.counting w'.seatContentionTotal := by
  obtain ⟨hdb, hholds, hcache, hnow, hpayments, hevents⟩ := h
  cases w'
  cases hdb
  cases hholds
  cases hcache
  cases hnow
  cases hpayments
  cases hevents
  rfl

lemma sameStore_counting (w : World) (n : FlightId → ℕ) : w.SameStore (w.counting n) :=
  ⟨rfl, rfl, rfl, rfl, rfl, rfl⟩

/-- The outcome is the same, and so is the state, the counters apart. -/
def SameOutcome {α : Type} (x x' : Except AppException α × World) : Prop :=
  x'.1 = x.1 ∧ x.2.SameStore x'.2

variable {α : Type} (w : World) (n : FlightId → ℕ) (ch : Choice)

lemma query_counting (x : α) : SameOutcome (w.query ch x) ((w.counting n).query ch x) := by
  unfold query
  split <;> exact ⟨rfl, sameStore_counting _ n⟩

lemma transaction_counting (body : Tx α) :
    SameOutcome (w.transaction ch body) ((w.counting n).transaction ch body) := by
  have hdb : (w.counting n).db = w.db := rfl
  unfold transaction
  rw [hdb]
  split
  · exact ⟨rfl, sameStore_counting _ n⟩
  · cases body w.db with
    | ok out => exact ⟨rfl, sameStore_counting _ n⟩
    | error e => exact ⟨rfl, sameStore_counting _ n⟩

lemma redis_counting (x : α) {w₁ w₂ : World} (h : w₁.SameStore w₂) :
    SameOutcome (w.redis ch x w₁) ((w.counting n).redis ch x w₂) := by
  unfold redis
  split
  · exact ⟨rfl, sameStore_counting _ n⟩
  · exact ⟨rfl, h⟩

/-- No action reads the counters. -/
lemma exec_counting (a : Action) :
    SameOutcome (World.exec a ch w) (World.exec a ch (w.counting n)) := by
  cases a with
  | findOneFlight | findOneSeat | findOneCheckIn | findOneWaitlist | findStaleSeats
  | findFlightSeats | maxPosition => exact query_counting w n ch _
  | holdSeat | awaitPayment | complete | cancel | release | assign | saveWaitlist
  | insertWaitlist => exact transaction_counting w n ch _
  | setSeatHold | existsSeatHold | delSeatHold | getSeatMapCache | setSeatMapCache
  | delSeatMapCache => exact redis_counting w n ch _ ⟨rfl, rfl, rfl, rfl, rfl, rfl⟩
  | auditLog | acquireLock | releaseLock | getWeight =>
      simp only [World.exec]
      split <;> exact ⟨rfl, rfl, rfl, rfl, rfl, rfl, rfl⟩
  | postPayment | dateNow | delay | emit | incSeatContention =>
      exact ⟨rfl, rfl, rfl, rfl, rfl, rfl, rfl⟩

end World

variable {cfg : Settings} {w : World} {ts us : List SkyTransition} {c c' : SkyConfig} {t : Time}
  {s : SeatId} {p : PassengerId}

lemma unread_sameStore (cfg : Settings) : (skyHigh cfg).Unread World.SameStore where
  refl := .refl
  trans _ _ _ := .trans
  exec a ch w w' h := by
    rw [h.eq_counting]
    exact World.exec_counting w _ ch a
  tick e w w' h := by
    rw [h.eq_counting]
    exact World.sameStore_counting (w.tick e) _

/-! ## Histories -/

lemma Action.Pre.sameStore {a : Action} {w' : World} (h : w.SameStore w') (ha : a.Pre cfg w) :
    a.Pre cfg w' := by
  rw [h.eq_counting]
  cases a <;> exact ha

lemma history_linked (hw : w.Seeded) (h : (skyHigh cfg).History World.SameStore (.init w) ts c) :
    c.state.db.bookings.Linked := by
  obtain ⟨ts', d, hrun, hsame, -, -⟩ := h.mirror (unread_sameStore cfg)
  rw [hsame.db]
  exact run_linked hw hrun

/-- The actions of a history meet their preconditions. -/
lemma history_admitted (hw : w.Seeded)
    (h : (skyHigh cfg).History World.SameStore (.init w) ts c) :
    ∀ x ∈ ts, (sweeping cfg t).Admitted x := by
  obtain ⟨ts', d, hrun, -, -, hmirrors⟩ := h.mirror (unread_sameStore cfg)
  intro x hx i ch hl th a hth ha
  obtain ⟨x', hx', hmirror⟩ := exists_of_forall₂ hmirrors hx
  obtain ⟨j, hl', hth'⟩ := hmirror.performed i ch th hl hth
  have hpre : a.Pre cfg x'.pre.state := run_admitted hw hrun x' hx' j ch hl' th a hth' ha
  exact hpre.sameStore hmirror.pre

/-- Nothing gets stale for an instant at which no call was in flight and nothing was stale. -/
lemma history_not_stale (hw : w.Seeded)
    (h : (skyHigh cfg).History World.SameStore (.init w) ts c) (hquiet : c.quiescent)
    (ht : t ≤ c.state.now) (hfresh : ∀ s, ¬ c.state.db.bookings.Stale t s)
    (hlater : (skyHigh cfg).History World.SameStore c us c') (s : SeatId) :
    ¬ c'.state.db.bookings.Stale t s := by
  obtain ⟨us', d, hrun, hsame, -, -⟩ := hlater.mirror (unread_sameStore cfg)
  have hadm : ∀ x ∈ us', (sweeping cfg t).Admitted x :=
    fun x hx => history_admitted hw (h.append (.of_run hrun)) x (List.mem_append_right _ hx)
  rw [hsame.db]
  exact (hrun.sound_of_quiescent (sweeping_lawful cfg t) (fun call w _ => sweeping_program call w)
    (fun _ _ _ _ _ _ _ _ _ => trivial) hquiet ⟨history_linked hw h, ht, hfresh⟩ hadm).1.2.2 s

/-- What the sweep does when it is issued in a quiet pool and nothing fails. -/
lemma completes_sweep (hlinked : c.state.db.bookings.Linked) (hquiet : c.quiescent) :
    Completes cfg c .sweepExpiredHolds fun r w' => r = .ok .void ∧
      ∃ t L, c.state.now ≤ t ∧ t ≤ w'.now ∧ c.state.db.bookings.Selects t L ∧
        c.state.Swept w' L := by
  apply completes_of_wp hquiet
  · rintro r e w' ⟨hr, t, L, ht, htle, hL, hswept⟩
    exact ⟨hr, t, L, ht, htle.trans (Nat.le_add_right _ e), hL,
      ⟨hswept.freed, hswept.others, hswept.auditLog, hswept.events⟩⟩
  · apply Prog.wp_map
    apply Prog.wp_mono _ (wp_sweepExpiredHolds_alone hlinked.wellFormed)
    rintro r w' ⟨rfl, hpost⟩
    exact ⟨rfl, hpost⟩

/-- **Crashes add no state, and the next sweep mends what they leave.**  Let instances go down any
number of times, at any moments, with any of their calls.  What happens is what happens in a run
without crashes in which the lost calls wait forever, transition by transition; so no passenger
holds two seats of a flight, and the columns of the holds are well formed.  When no call is in
flight, as after a crash of everything, a sweep can be run to its end.  If nothing fails in it, it
frees every seat whose hold has run out by the instant at which it looks at the clock, and only
these, and writes one row and emits one event for each; and whatever is issued and whatever is lost
afterwards, no seat is ever held again by a hold that had run out at that instant. -/
theorem crash_recovery (hw : w.Seeded)
    (h : (skyHigh cfg).History World.SameStore (.init w) ts c) :
    (∃ ts' d, (skyHigh cfg).Run (.init w) ts' d ∧ d.state.SameStore c.state ∧
      List.Forall₂ (Mirrors World.SameStore) ts ts') ∧
    c.state.db.bookings.OneSeat ∧
    (∀ s seat, c.state.db.seats.get? s = some seat → seat.HoldColumns) ∧
    (c.quiescent →
      (∃ us r c', (skyHigh cfg).Solo c .sweepExpiredHolds us r c' ∧ ∀ x ∈ us, Faultless x) ∧
      ∀ us r c', (skyHigh cfg).Solo c .sweepExpiredHolds us r c' → (∀ x ∈ us, Faultless x) →
        r = .ok .void ∧ ∃ t L, c.state.now ≤ t ∧ c.state.db.bookings.Selects t L ∧
          c.state.Swept c'.state L ∧
          ∀ vs d, (skyHigh cfg).History World.SameStore c' vs d →
            ∀ s, ¬ d.state.db.bookings.Stale t s) := by
  have hlinked := history_linked hw h
  refine ⟨?_, hlinked.oneSeat, fun s seat hseat => (hlinked.wellFormed s seat hseat).holdColumns,
    fun hquiet => ?_⟩
  · obtain ⟨ts', d, hrun, hsame, -, hmirrors⟩ := h.mirror (unread_sameStore cfg)
    exact ⟨ts', d, hrun, hsame, hmirrors⟩
  · have hsweep : Completes cfg c .sweepExpiredHolds _ := completes_sweep hlinked hquiet
    refine ⟨hsweep.1, fun us r c' hsolo hfaultless => ?_⟩
    obtain ⟨hr, t, L, ht, htle, hL, hswept⟩ := hsweep.2 us r c' hsolo hfaultless
    refine ⟨hr, t, L, ht, hL, hswept, fun vs d hlater s => ?_⟩
    have hissued : (skyHigh cfg).step (.invoke .sweepExpiredHolds) c = some
        { c with threads := c.threads ++ [⟨.sweepExpiredHolds,
          Call.program cfg .sweepExpiredHolds⟩] } := rfl
    have hswept' := (h.snoc hissued).append (.of_run hsolo.run)
    exact history_not_stale hw hswept' hsolo.quiescent htle (hL.not_stale hswept) hlater s

/-- The process goes down when it has committed the hold of seat 100 and not yet set its key. -/
def startInterrupted : List SkyLabel :=
  [.invoke (.startCheckIn 1 ⟨10, 100⟩)] ++ proceed 0 7 ++ [.tick 120000]

theorem crash_recovery_startInterrupted : ∃ ts c us r c',
    (skyHigh {}).History World.SameStore (.init oneSeatWorld) ts c ∧
    c.threads = [] ∧ c.state.db.bookings.Stale 120000 100 ∧ c.state.seatHolds 100 = none ∧
    (skyHigh {}).Solo c .sweepExpiredHolds us r c' ∧
    ∀ vs d, (skyHigh {}).History World.SameStore c' vs d →
      ¬ d.state.db.bookings.Stale 120000 100 := by
  obtain ⟨ts, d, hrun, htest⟩ := exists_run startInterrupted (fun _ d =>
    decide (d.state.db.seats.get? 100 = some ⟨100, 10, 1, "A", .held, some 1, some 0⟩) &&
    decide (d.state.now = 120000) && decide (d.state.seatHolds 100 = none)) (by decide +kernel)
  simp only [Bool.and_eq_true, decide_eq_true_eq] at htest
  obtain ⟨⟨hseat, hnow⟩, hkey⟩ := htest
  have hcrash : (skyHigh {}).History World.SameStore (.init oneSeatWorld) ts ⟨d.state, []⟩ :=
    (History.of_run hrun).crash (.refl _) (List.nil_sublist _)
  have hstale : d.state.db.bookings.Stale 120000 100 := ⟨_, 0, hseat, rfl, rfl, le_rfl⟩
  obtain ⟨-, -, -, hrecovers⟩ := crash_recovery oneSeatWorld_seeded hcrash
  obtain ⟨⟨us, r, c', hsolo, hfaultless⟩, hsweeps⟩ := hrecovers fun _ h => absurd h List.not_mem_nil
  obtain ⟨-, t, L, ht, -, -, hlater⟩ := hsweeps us r c' hsolo hfaultless
  have hpast : 120000 ≤ t := hnow ▸ ht
  exact ⟨ts, ⟨d.state, []⟩, us, r, c', hcrash, rfl, hstale, hkey, hsolo,
    fun vs e hhistory hagain => hlater vs e hhistory 100 (hagain.mono hpast)⟩

end SkyHighCore
