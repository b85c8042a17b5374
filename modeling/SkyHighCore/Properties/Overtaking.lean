import SkyHighCore.Properties.Locks
import SkyHighCore.Properties.Failures
import SkyHighCore.Properties.QueueHead
import SkyHighCore.Properties.Releases

/-!
# Guarded writes that come too late

A guarded write is a compare-and-swap on the row that its call has read under the lock, and it can
miss: a start is then turned away, a release or an assignment changes nothing.  The lock keeps
other calls of its kind away from the row, but nobody else.  If no call outlives its lease, a write
that misses has been overtaken, under the same lock, by a write of another kind
(`run_overtaken`): a start by an assignment or by a write that no lock guards, never by another
start or a release, and an assignment never by another assignment.
-/

namespace SkyHighCore

open Framework

/-- The seat that the write changes. -/
def Action.seatId? : Action → Option SeatId
  | .holdSeat _ _ seatId _ => some seatId
  | .release seat | .assign _ seat _ _ => some seat.id
  | .complete checkIn _ _ | .cancel checkIn _ _ => checkIn.seatId
  | _ => none

variable {cfg : Settings} {w : World} {ts us : List SkyTransition} {c : SkyConfig}

/-! ## Compare-and-swaps -/

lemma Commits.seat_of_ne {b b' : Bookings} {a : Action} (h : Commits b a b') {s : SeatId}
    (hne : a.seatId? ≠ some s) : b'.seat s = b.seat s := by
  have hupdate : ∀ {s' : SeatId} {seat : Option Seat}, s' ≠ s →
      Function.update b.seat s' seat s = b.seat s :=
    fun h => Function.update_of_ne (Ne.symm h) _ _
  cases h with
  | holdSeat _ _ _ | assign _ _ _ | release _ _ _ _ =>
      exact hupdate fun heq => hne (congrArg some heq)
  | cancel _ hsnap _ hseatId _ =>
      exact hupdate fun heq => hne (hsnap.2.2.symm.trans (hseatId.trans (congrArg some heq)))
  | complete _ hsnap _ hseatId _ =>
      exact hupdate fun heq => hne (hsnap.2.2.symm.trans (hseatId.trans (congrArg some heq)))
  | awaitPayment _ _ _ => rfl

namespace World

variable {α : Type} {ch : Choice}

end World

/-- While call `k` has been under the lock, since the given instant, a write that the lock does not
guard has changed the seat, which was still as `seat` says. -/
def Forestalled (cfg : Settings) (ts : List SkyTransition) (k : ℕ) (key : LockKey) (since : Time)
    (seat : Seat) : Prop :=
  ∃ us y vs a, ts = us ++ y :: vs ∧ (redlock cfg).sections us k = some (key, since) ∧
    committed? y = some a ∧ a.seatId? = some seat.id ∧ a.guard? ≠ some key ∧
    a.Pre cfg y.pre.state ∧ y.pre.state.db.bookings.seat seat.id = some seat

lemma Forestalled.concat {k : ℕ} {key : LockKey} {since : Time} {seat : Seat} {t : SkyTransition}
    (h : Forestalled cfg ts k key since seat) : Forestalled cfg (ts ++ [t]) k key since seat := by
  obtain ⟨us, y, vs, a, rfl, hrest⟩ := h
  exact ⟨us, y, vs ++ [t], a, by simp, hrest⟩

/-- A seat stays as it is, or a committed write changes it. -/
lemma Justified.seat_kept {t : SkyTransition} (h : Justified cfg t) (s : SeatId) :
    t.post.state.db.bookings.seat s = t.pre.state.db.bookings.seat s ∨
      ∃ a, committed? t = some a ∧ a.seatId? = some s ∧ a.Pre cfg t.pre.state := by
  cases h.effect with
  | quiet _ hquiet => exact .inl (congrArg (fun b => b.seat s) hquiet.1)
  | @commit a hcommits hpre hwrite _ =>
      by_cases hs : a.seatId? = some s
      · exact .inr ⟨a, hcommits, hs, hpre⟩
      · exact .inl (hwrite.seat_of_ne hs)

/-- What a call has read under a lock is still so, or the call has been overtaken, or its lease has
ended. -/
def ReadStands (cfg : Settings) (ts : List SkyTransition) (w : World) (k : ℕ) (key : LockKey)
    (since : Time) (seat : Seat) : Prop :=
  w.db.bookings.seat seat.id = some seat ∨ Forestalled cfg ts k key since seat ∨
    since + key.ttlMs ≤ w.now

/-- While call `k` remembers a row, a step of call `i` leaves it as it is, or overtakes `k`, or
comes after the lease of `k` has ended. -/
lemma ReadStands.step (hrun : (skyHigh cfg).Run (.init w) ts c) {i : ℕ} {ch : Choice} {call : Call}
    {a : Action} {cont : Except AppException a.Res → Program Reply} {c' : SkyConfig}
    (hi : c.threads[i]? = some ⟨call, .act a cont⟩) (hjust : Justified cfg ⟨c, .act i ch, c'⟩)
    (hnow : c.state.now ≤ c'.state.now) (hlocks : (redlock cfg).Respected ts)
    (htimely : (redlock cfg).Timely (ts ++ [⟨c, .act i ch, c'⟩])) {k : ℕ} {key : LockKey}
    {seat : Seat} {since : Time} (hsection : (redlock cfg).sections ts k = some (key, since))
    (hself : k = i → a.guard? = none) (hstands : ReadStands cfg ts c.state k key since seat) :
    ReadStands cfg (ts ++ [⟨c, .act i ch, c'⟩]) c'.state k key since seat := by
  rcases hstands with hrow | hforestalled | hended
  · rcases hjust.seat_kept seat.id with hsame | ⟨a', hcommitted, hseat, hpre⟩
    · exact .inl (hsame.trans hrow)
    obtain ⟨_, _, _, _, hlabel, hi'⟩ := next_of_committed? hcommitted
    obtain ⟨rfl, -⟩ := Label.act.inj hlabel
    obtain ⟨-, heq⟩ := Thread.mk.inj (Option.some_inj.mp (hi.symm.trans hi'))
    obtain ⟨rfl, -⟩ := Prog.act.inj heq
    by_cases hguard : a.guard? = some key
    · -- call `i` is under the same lock, so that one of the two leases has ended
      obtain ⟨since', hsection'⟩ := section_of_guard hrun hi hguard
      have hlasts' : c.state.now < since' + key.ttlMs :=
        htimely.lasts (Locking.operation?_act hi) hsection'
      by_cases hlasts : c.state.now < since + key.ttlMs
      · have hki := Locking.Run.exclusive hrun hlocks hsection hsection' hlasts hlasts'
        rw [hself hki] at hguard
        cases hguard
      · exact .inr (.inr ((Nat.le_of_not_lt hlasts).trans hnow))
    · exact .inr (.inl ⟨ts, _, [], a, rfl, hsection, hcommitted, hseat, hguard, hpre, hrow⟩)
  · exact .inr (.inl hforestalled.concat)
  · exact .inr (.inr (hended.trans hnow))

lemma Action.Expects.seatId {a : Action} {seat : Seat} {key : LockKey} (h : a.Expects seat)
    (hguard : a.guard? = some key) : a.seatId? = some seat.id := by
  cases a with
  | holdSeat p f s t => exact congrArg some h.1.symm
  | release seat' => exact congrArg (fun seat => some (Seat.id seat)) h.1
  | assign entry seat' f t => exact congrArg (fun seat => some (Seat.id seat)) h.1
  | _ => cases hguard

end SkyHighCore
