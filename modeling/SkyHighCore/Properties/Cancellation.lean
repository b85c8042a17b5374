import SkyHighCore.Framework.Monitor
import SkyHighCore.Properties.Runs

/-!
# Whom a cancellation touches

A check-in keeps its seat id for ever, while the seat changes hands.  The cancelling transaction
frees the seat by that id, whoever has it by then, and the hold key goes with it.

`cancelMonitor` is what the call does in the order in which it does it: it commits at most one
cancellation, and deletes a hold key after that only, that of the check-in's seat.  `Aftermath`
ties the states of the monitor to the world, and `cancel_sparesOthers_iff` says when everybody
else's seat, key, check-in and waitlist entry survive a call that is executed alone.
-/

namespace SkyHighCore

open Framework

/-! ## The frame -/

/-- What passenger `p` leaves alone: seats that others have, with their hold keys, and the
check-ins and waitlist entries of others. -/
structure World.SparesOthers (p : PassengerId) (w w' : World) : Prop where
  seat : ∀ s seat, w.db.bookings.seat s = some seat →
    (seat.status = .held ∨ seat.status = .confirmed) → seat.heldBy ≠ some p →
      w'.db.bookings.seat s = some seat ∧ w'.seatHolds s = w.seatHolds s
  checkIn : ∀ i c, w.db.bookings.checkIn i = some c → c.passengerId ≠ p →
    w'.db.bookings.checkIn i = some c
  waitlist : ∀ i e, w.db.waitlist.get? i = some e → e.passengerId ≠ p →
    w'.db.waitlist.get? i = some e

/-- The seat of `p`'s check-in `i` is held by or confirmed for somebody else. -/
def Bookings.LostSeat (b : Bookings) (i : CheckInId) (p : PassengerId) : Prop :=
  ∃ c s seat, b.checkIn i = some c ∧ c.passengerId = p ∧ c.seatId = some s ∧
    b.seat s = some seat ∧ (seat.status = .held ∨ seat.status = .confirmed) ∧
    seat.heldBy ≠ some p

/-! ## The order of the actions -/

/-- The check-in that the action has cancelled, if its transaction has committed. -/
def Action.cancelled? : (a : Action) → Except AppException a.Res → Option CheckIn
  | .cancel checkIn _ _, .ok _ => some checkIn
  | _, _ => none

/-- The order in which `cancelCheckIn i p` acts; its state is the check-in it has cancelled. -/
def cancelMonitor (i : CheckInId) (p : PassengerId) :
    Monitor Action Action.Res AppException (Option CheckIn) where
  start := none
  allows done a := match a with
    | .cancel _ checkInId passengerId => done = none ∧ checkInId = i ∧ passengerId = p
    | .delSeatHold s => ∃ checkIn ∈ done, checkIn.seatId = some s
    | a => a.passive = true
  next done a r := (a.cancelled? r).or done
  final _ := True

namespace CheckInService

variable {cfg : Settings} {i : CheckInId} {p : PassengerId} {done : Option CheckIn}

/-- A program is what `cancelMonitor` allows from `done` on. -/
abbrev CancelObeys (cfg : Settings) (i : CheckInId) (p : PassengerId) (done : Option CheckIn)
    {α : Type} (q : Program α) : Prop :=
  (cancelMonitor i p).Obeys (skyHigh cfg) done q

lemma passive_neutral {a : Action} (ha : a.passive = true) :
    (cancelMonitor i p).Neutral done a := by
  refine ⟨?_, fun r => ?_⟩
  · cases a with
    | cancel | delSeatHold => cases ha
    | _ => exact ha
  · cases a with
    | cancel => cases ha
    | _ => rfl

lemma bind_passive {a : Action} (ha : a.passive = true) {β : Type} {k : a.Res → Program β}
    (hk : ∀ v, CancelObeys cfg i p done (k v)) : CancelObeys cfg i p done (act a >>= k) :=
  .bind_neutral trivial (Prog.all_perform (passive_neutral ha)) hk

lemma obeys_dropHold {checkIn : CheckIn} {β : Type} {k : Unit → Program β}
    (hk : ∀ u, CancelObeys cfg i p (some checkIn) (k u)) :
    CancelObeys cfg i p (some checkIn) (dropHold checkIn >>= k) := by
  unfold dropHold
  cases hs : checkIn.seatId with
  | none => exact hk ()
  | some s =>
      rintro _ rfl - r _ ⟨-, rfl⟩
      have hallowed : ∃ c ∈ some checkIn, c.seatId = some s := ⟨checkIn, rfl, hs⟩
      refine ⟨hallowed, ?_⟩
      cases r with
      | error e => trivial
      | ok _ => exact bind_passive rfl hk

/-- The call acts in that order. -/
theorem obeys_cancelCheckIn : CancelObeys cfg i p none (cancelCheckIn i p) := by
  refine .bind_neutral trivial ?_ fun checkIn => ?_
  · refine Prog.all_bind (Prog.all_perform (passive_neutral rfl)) fun found => ?_
    cases found <;> trivial
  refine bind_passive rfl fun flight => ?_
  refine .bind_neutral trivial Prog.all_throwWhen fun _ => ?_
  refine bind_passive rfl fun cancelledAt => ?_
  refine .bind_perform ⟨rfl, rfl, rfl⟩ (fun _ => trivial) fun _ => ?_
  refine obeys_dropHold fun _ => ?_
  exact bind_passive rfl fun _ => trivial

end CheckInService

/-! ## What has happened so far -/

/-- The cancelling transaction on a check-in that exists. -/
lemma exec_cancel {cfg : Settings} {snap : CheckIn} {i : CheckInId} {p : PassengerId} {ch : Choice}
    {w w' : World} {u : Unit} (hlinked : w.db.bookings.Linked)
    (hpre : (Action.cancel snap i p).Pre cfg w)
    (h : World.exec (.cancel snap i p) ch w = (.ok u, w')) :
    ∃ c s seat, w.db.bookings.checkIn i = some c ∧ c.passengerId = p ∧ c.seatId = some s ∧
      snap.seatId = some s ∧ w.db.bookings.seat s = some seat ∧
      w'.db.bookings = w.db.bookings.cancelled i c s seat ∧ w'.db.waitlist = w.db.waitlist ∧
      w'.seatHolds = w.seatHolds := by
  obtain ⟨⟨c, hc, hsame⟩, rfl, rfl⟩ := hpre
  obtain ⟨s, seat, hcs, hseat, -⟩ := hlinked.seatOf _ c hc
  have hs : snap.seatId = some s := hsame.2.2.symm.trans hcs
  rcases World.transaction_cases h with ⟨e, he, -⟩ | ⟨_, db', -, hbody, rfl⟩
  · cases he
  · obtain ⟨hb, -, hwaitlist⟩ := Tx.cancelTransaction_ok hbody hs hc hseat
    exact ⟨c, s, seat, hc, hsame.1, hcs, hs, hseat, hb, hwaitlist, rfl⟩

/-- What `cancelCheckIn i p` has done to the world it was issued in. -/
def Aftermath (i : CheckInId) (p : PassengerId) (w₀ : World) : Option CheckIn → World → Prop
  | none, w => w.db.bookings = w₀.db.bookings ∧ w.db.waitlist = w₀.db.waitlist ∧
      w.seatHolds = w₀.seatHolds
  | some checkIn, w => ∃ c s seat, w₀.db.bookings.checkIn i = some c ∧ c.passengerId = p ∧
      c.seatId = some s ∧ checkIn.seatId = some s ∧ w₀.db.bookings.seat s = some seat ∧
      w.db.bookings = w₀.db.bookings.cancelled i c s seat ∧ w.db.waitlist = w₀.db.waitlist ∧
      ∀ s' ≠ s, w.seatHolds s' = w₀.seatHolds s'

namespace Aftermath

variable {cfg : Settings} {i : CheckInId} {p : PassengerId} {w₀ w w' : World}
  {done : Option CheckIn}

lemma congr (h : Aftermath i p w₀ done w) (hdb : w'.db = w.db)
    (hholds : w'.seatHolds = w.seatHolds) : Aftermath i p w₀ done w' := by
  cases done with
  | none =>
      rw [Aftermath, hdb, hholds]
      exact h
  | some checkIn =>
      rw [Aftermath, hdb, hholds]
      exact h

/-- One action of the call. -/
lemma exec {a : Action} {ch : Choice} {r : Except AppException a.Res}
    (hlinked : w.db.bookings.Linked) (hpre : a.Pre cfg w)
    (hallows : (cancelMonitor i p).allows done a) (h : Aftermath i p w₀ done w)
    (he : World.exec a ch w = (r, w')) :
    Aftermath i p w₀ ((cancelMonitor i p).next done a r) w' := by
  cases a with
  | cancel snap i' p' =>
      obtain ⟨rfl, rfl, rfl⟩ := hallows
      cases r with
      | error e =>
          rcases World.transaction_cases he with ⟨_, -, rfl⟩ | ⟨_, _, hr, -⟩
          · exact h
          · cases hr
      | ok u =>
          obtain ⟨c, s, seat, hc, hcp, hcs, hs, hseat, hb, hwaitlist, hholds⟩ :=
            exec_cancel hlinked hpre he
          obtain ⟨hb₀, hwaitlist₀, hholds₀⟩ := h
          rw [hb₀] at hc hseat hb
          exact ⟨c, s, seat, hc, hcp, hcs, hs, hseat, hb, hwaitlist.trans hwaitlist₀,
            fun s' _ => by rw [hholds, hholds₀]⟩
  | delSeatHold s =>
      obtain ⟨checkIn, hdone, hs⟩ := hallows
      obtain rfl : done = some checkIn := hdone
      obtain ⟨c, s', seat, hc, hcp, hcs, hs', hseat, hb, hwaitlist, hholds⟩ := h
      obtain rfl : s = s' := Option.some_inj.mp (hs.symm.trans hs')
      have hdb : w'.db = w.db := World.redis_db he rfl
      refine ⟨c, s, seat, hc, hcp, hcs, hs', hseat, hdb ▸ hb, hdb ▸ hwaitlist, fun s₁ hne => ?_⟩
      have hother : w'.seatHolds s₁ = w.seatHolds s₁ := by
        simp only [World.exec, World.redis] at he
        split at he <;> cases he
        · rfl
        · exact Function.update_of_ne hne _ _
      rw [hother, hholds s₁ hne]
  | _ =>
      obtain rfl : _ = w' := congrArg Prod.snd he
      exact h.congr (World.exec_sparesDatabase (Action.sparesDatabase_of_passive hallows) ch w)
        (World.exec_passive hallows ch w)

/-- Before the transaction everybody is spared. -/
lemma sparesOthers_of_none (h : Aftermath i p w₀ none w) : w₀.SparesOthers p w where
  seat s _ hseat _ _ := ⟨h.1 ▸ hseat, congrFun h.2.2 s⟩
  checkIn _ _ hc _ := h.1 ▸ hc
  waitlist _ _ he _ := h.2.1 ▸ he

/-- After it, everybody is spared unless the seat was somebody else's. -/
lemma sparesOthers_iff_of_some {checkIn : CheckIn} (h : Aftermath i p w₀ (some checkIn) w) :
    w₀.SparesOthers p w ↔ ¬ w₀.db.bookings.LostSeat i p := by
  obtain ⟨c, s, seat, hc, hcp, hcs, -, hseat, hb, hwaitlist, hholds⟩ := h
  constructor
  · rintro hspares ⟨c', s', seat', hc', -, hcs', hseat', hst, hby⟩
    obtain rfl : c = c' := Option.some_inj.mp (hc.symm.trans hc')
    obtain rfl : s = s' := Option.some_inj.mp (hcs.symm.trans hcs')
    obtain rfl : seat = seat' := Option.some_inj.mp (hseat.symm.trans hseat')
    have hkept := (hspares.seat s seat hseat hst hby).1
    rw [hb] at hkept
    obtain hfreed : seat.freed = seat := by simpa [Bookings.cancelled] using hkept
    rw [← hfreed] at hst
    simp [Seat.freed] at hst
  · intro hlost
    refine ⟨fun s₁ seat₁ hseat₁ hst hby => ?_, fun j d hd hne => ?_, fun j e he _ => ?_⟩
    · have hs₁ : s₁ ≠ s := by
        rintro rfl
        obtain rfl : seat = seat₁ := Option.some_inj.mp (hseat.symm.trans hseat₁)
        exact hlost ⟨c, s₁, seat, hc, hcp, hcs, hseat, hst, hby⟩
      rw [hb]
      exact ⟨(Function.update_of_ne hs₁ _ _).trans hseat₁, hholds s₁ hs₁⟩
    · have hj : j ≠ i := by
        rintro rfl
        obtain rfl : c = d := Option.some_inj.mp (hc.symm.trans hd)
        exact hne hcp
      rw [hb]
      exact (Function.update_of_ne hj _ _).trans hd
    · rw [hwaitlist]
      exact he

end Aftermath

/-! ## Runs -/

/-- The transition is an action of the `k`-th call, or time passes. -/
def ofCall (k : ℕ) (t : SkyTransition) : Bool :=
  match t.label with
  | .invoke _ => false
  | .act j _ => j = k
  | .tick _ => true

/-- The transition commits a cancellation of check-in `i`. -/
def cancels (i : CheckInId) (t : SkyTransition) : Bool :=
  match committed? t with
  | some (.cancel _ checkInId _) => checkInId = i
  | _ => false

section Runs

variable {cfg : Settings} {w : World} {us vs : List SkyTransition} {c c₁ c' : SkyConfig}
  {i : CheckInId} {p : PassengerId} {k : ℕ}

lemma cancels_eq {call : Call} {a : Action} {cont : Except AppException a.Res → Program Reply}
    {ch : Choice} {done : Option CheckIn} (hk : c.threads[k]? = some ⟨call, .act a cont⟩)
    (hallows : (cancelMonitor i p).allows done a) :
    cancels i ⟨c, .act k ch, c'⟩ = (a.cancelled? (World.exec a ch c.state).1).isSome := by
  simp only [cancels, committed?, hk]
  cases a with
  | cancel snap i' p' =>
      obtain ⟨-, rfl, -⟩ := hallows
      cases (World.exec (.cancel snap i' p') ch c.state).1 with
      | ok u => simp [Action.committed, Action.cancelled?]
      | error e => simp [Action.committed, Action.cancelled?]
  | _ =>
      generalize Action.committed _ _ = b
      cases b <;> rfl

/-- The monitor's state tells whether the call has cancelled, and what it has done. -/
lemma aftermath_of_run {ts : List SkyTransition} {call : Call} {q : Program Reply} (hw : w.Seeded)
    (h₁ : (skyHigh cfg).Run (.init w) ts c₁) (hk : c₁.threads[k]? = some ⟨call, q⟩)
    (hobeys : (cancelMonitor i p).Obeys (skyHigh cfg) none q)
    (h : (skyHigh cfg).Run c₁ vs c') (halone : ∀ t ∈ vs, ofCall k t = true) :
    ∃ done q', c'.threads[k]? = some ⟨call, q'⟩ ∧
      (cancelMonitor i p).Obeys (skyHigh cfg) done q' ∧ Aftermath i p c₁.state done c'.state ∧
      (done = none ↔ ∀ t ∈ vs, cancels i t = false) := by
  induction h with
  | nil => exact ⟨none, q, hk, hobeys, ⟨rfl, rfl, rfl⟩, by simp⟩
  | @snoc vs c l c' hrun hstep ih =>
      obtain ⟨done, q', hq', hobeys', hafter, hdone⟩ := ih fun t ht => halone t (by simp [ht])
      have hlast : ofCall k ⟨c, l, c'⟩ = true := halone _ (by simp)
      have hsplit : (∀ t ∈ vs ++ [⟨c, l, c'⟩], cancels i t = false) ↔
          (∀ t ∈ vs, cancels i t = false) ∧ cancels i ⟨c, l, c'⟩ = false := by
        simp [or_imp, forall_and]
      rcases (skyHigh cfg).step_cases hstep with ⟨_, rfl, -⟩ | ⟨ms, rfl, rfl⟩ |
        ⟨j, ch, call', a, cont, rfl, ha, rfl⟩
      · cases hlast
      · refine ⟨done, q', hq', hobeys', hafter.congr rfl rfl, ?_⟩
        rw [hsplit, hdone]
        exact (and_iff_left rfl).symm
      · obtain rfl : j = k := by simpa [ofCall] using hlast
        obtain ⟨rfl, rfl⟩ : call = call' ∧ q' = .act a cont := by
          simpa using Option.some_inj.mp (hq'.symm.trans ha)
        have hreach := h₁.append hrun
        obtain ⟨hallows, hobeys''⟩ := hobeys'.act ch c.state
        have hlt : j < c.threads.length := (List.getElem?_eq_some_iff.mp ha).1
        refine ⟨_, _, List.getElem?_set_self hlt, hobeys'',
          hafter.exec (run_linked hw hreach) (run_pre hw hreach ha) hallows (Prod.mk.eta).symm, ?_⟩
        rw [hsplit, cancels_eq ha hallows, ← hdone, Option.isSome_eq_false_iff,
          Option.isNone_iff_eq_none, and_comm]
        exact Option.or_eq_none_iff

/-- **Whom a cancellation touches.**  While a cancellation by `p` is executed alone, everybody
else's seats, hold keys, check-ins and waitlist entries stay as they are, exactly when its
transaction does not commit or the seat of the check-in was not somebody else's at the call. -/
theorem cancel_sparesOthers_iff (hw : w.Seeded) (h : (skyHigh cfg).Run (.init w) us c)
    (hcall : (skyHigh cfg).step (.invoke (.cancelCheckIn i p)) c = some c₁)
    (hrun : (skyHigh cfg).Run c₁ vs c') (halone : ∀ t ∈ vs, ofCall c.threads.length t = true) :
    c.state.SparesOthers p c'.state ↔
      (∀ t ∈ vs, cancels i t = false) ∨ ¬ c.state.db.bookings.LostSeat i p := by
  obtain rfl : _ = c₁ := Option.some_inj.mp hcall
  have hobeys : (cancelMonitor i p).Obeys (skyHigh cfg) none
      ((Call.cancelCheckIn i p).program cfg) :=
    Prog.wp_map (Prog.wp_mono (fun _ _ _ => trivial) CheckInService.obeys_cancelCheckIn)
  have hnew : (c.threads ++ [⟨.cancelCheckIn i p, (skyHigh cfg).start (.cancelCheckIn i p)⟩])[
      c.threads.length]? = some ⟨.cancelCheckIn i p, (Call.cancelCheckIn i p).program cfg⟩ := by
    rw [List.getElem?_concat_length]
    rfl
  obtain ⟨done, q, -, -, hafter, hdone⟩ :=
    aftermath_of_run hw (h.snoc hcall) hnew hobeys hrun halone
  cases done with
  | none => exact iff_of_true hafter.sparesOthers_of_none (.inl (hdone.mp rfl))
  | some checkIn =>
      have hcancels : ¬ ∀ t ∈ vs, cancels i t = false := fun hnone => by
        cases hdone.mpr hnone
      rw [hafter.sparesOthers_iff_of_some]
      exact ⟨.inr, fun hor => hor.resolve_left hcancels⟩

end Runs

/-! ## Runs of one seat -/

theorem cancel_ownSeat : ∃ us c c₁ vs c', (skyHigh {}).Run (.init oneSeatWorld) us c ∧
    (skyHigh {}).step (.invoke (.cancelCheckIn 1 1)) c = some c₁ ∧
    (skyHigh {}).Run c₁ vs c' ∧ vs.any (cancels 1) = true ∧
      (c.state.SparesOthers 1 c'.state ↔
        (∀ t ∈ vs, cancels 1 t = false) ∨ ¬ c.state.db.bookings.LostSeat 1 1) := by
  obtain ⟨us, c, c₁, vs, c', hrun, hcall, hvs, htest⟩ :=
    exists_run_call start (.cancelCheckIn 1 1) (proceed 1 7)
      (fun _ c vs _ => vs.all (ofCall c.threads.length) && vs.any (cancels 1)) (by decide +kernel)
  obtain ⟨halone, hcancels⟩ := Bool.and_eq_true_iff.mp htest
  exact ⟨us, c, c₁, vs, c', hrun, hcall, hvs, hcancels,
    cancel_sparesOthers_iff oneSeatWorld_seeded hrun hcall hvs (List.all_eq_true.mp halone)⟩

/-- Passenger 1 starts and cancels, passenger 2 takes the seat. -/
def reassigned : List SkyLabel :=
  start ++ [.invoke (.cancelCheckIn 1 1)] ++ proceed 1 7 ++
  [.invoke (.startCheckIn 2 ⟨10, 100⟩)] ++ proceed 2 10

/-- A repeated cancellation frees the seat of passenger 2. -/
theorem cancel_reassignedSeat : ∃ us c c₁ vs c', oneSeatWorld.Seeded ∧
    (skyHigh {}).Run (.init oneSeatWorld) us c ∧
    (skyHigh {}).step (.invoke (.cancelCheckIn 1 1)) c = some c₁ ∧
    (skyHigh {}).Run c₁ vs c' ∧ (∀ t ∈ vs, ofCall c.threads.length t = true) ∧
      ¬ c.state.SparesOthers 1 c'.state := by
  obtain ⟨us, c, c₁, vs, c', hrun, hcall, hvs, htest⟩ :=
    exists_run_call reassigned (.cancelCheckIn 1 1) (proceed 3 7)
      (fun _ c vs c' => vs.all (ofCall c.threads.length) &&
        ((c.state.db.seats.get? 100).any fun seat => seat.status = .held ∧ seat.heldBy = some 2) &&
        (c'.state.db.seats.get? 100).any fun seat => seat.status = .available) (by decide +kernel)
  simp only [Bool.and_eq_true, Option.any_eq_true, decide_eq_true_eq] at htest
  obtain ⟨⟨halone, seat, hseat, hheld, hby⟩, seat', hseat', havailable⟩ := htest
  refine ⟨us, c, c₁, vs, c', oneSeatWorld_seeded, hrun, hcall, hvs, List.all_eq_true.mp halone,
    fun hspares => ?_⟩
  obtain ⟨hkept, -⟩ := hspares.seat 100 seat hseat (.inl hheld) (by simp [hby])
  obtain rfl : seat = seat' := Option.some_inj.mp (hkept.symm.trans hseat')
  simp [hheld] at havailable

end SkyHighCore
