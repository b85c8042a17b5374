import SkyHighCore.Framework.Monitor
import SkyHighCore.Properties.Warrants
import SkyHighCore.Properties.Alphabet

/-!
# Hold keys

The key `hold:{seatId}` is set and deleted outside the transactions that acquire and close a hold.
A call that has acquired a seat sets the key to the passenger it has acquired the seat for
(`holdMonitor`), and the key outlives the hold by the time that has passed between the two.  Hence
the key of a hold that is younger than 120 seconds is there, once it has been set, exactly as long
as no other call deletes or overwrites it; and a confirmation whose passenger is in that window is
not turned away.
-/

namespace SkyHighCore

open Framework

/-! ## Acquisitions and keys -/

/-- The seat that the action acquires, and the passenger it acquires it for. -/
def Action.acquired? : Action → Option (SeatId × PassengerId)
  | .holdSeat passengerId _ seatId _ => some (seatId, passengerId)
  | .assign entry seat _ _ => some (seat.id, entry.passengerId)
  | _ => none

/-- The call whose transaction acquires seat `s` for `p` in the transition. -/
def acquirer? (s : SeatId) (p : PassengerId) (t : SkyTransition) : Option ℕ :=
  match t.label with
  | .act k _ => if (committed? t).any fun a => a.acquired? = some (s, p) then some k else none
  | _ => none

/-- The call that executes `SET hold:{s}` in the transition. -/
def setter? (s : SeatId) (t : SkyTransition) : Option ℕ :=
  match executed? t with
  | some (k, .setSeatHold s' _ _) => if s' = s then some k else none
  | _ => none

/-- The call that has acquired seat `s` for `p` has executed its `SET hold:{s}`. -/
def KeySet (ts : List SkyTransition) (s : SeatId) (p : PassengerId) : Prop :=
  ∃ (i j k : ℕ) (t₁ t₂ : SkyTransition), i < j ∧ ts[i]? = some t₁ ∧ ts[j]? = some t₂ ∧
    acquirer? s p t₁ = some k ∧ setter? s t₂ = some k

/-- Seat `s` is held by `p`, and less than 120 seconds have passed since. -/
def World.InWindow (w : World) (s : SeatId) (p : PassengerId) : Prop :=
  ∃ seat heldAt, w.db.bookings.seat s = some seat ∧ seat.status = .held ∧ seat.heldBy = some p ∧
    seat.heldAt = some heldAt ∧ w.now < heldAt + 120 * 1000

/-- Neither check of `validateHoldNotExpired` turns the check-in of `p` on seat `s` away. -/
def World.Admits (w : World) (s : SeatId) (p : PassengerId) : Prop :=
  ∀ i c, w.db.bookings.checkIn i = some c → c.passengerId = p → c.seatId = some s →
    c.status.isOpen = true ∧
      ∀ ch, ch.fault = false → (World.exec (.existsSeatHold s) ch w).1 = .ok true

lemma acquirer?_eq_some {s : SeatId} {p : PassengerId} {t : SkyTransition} {k : ℕ}
    (h : acquirer? s p t = some k) :
    ∃ ch a, t.label = .act k ch ∧ committed? t = some a ∧ a.acquired? = some (s, p) := by
  unfold acquirer? at h
  split at h
  · rename_i k' ch hl
    split at h
    · rename_i hany
      obtain ⟨a, ha, heq⟩ := (Option.any_eq_true _ _).mp hany
      obtain rfl := Option.some_inj.mp h
      exact ⟨ch, a, hl, ha, of_decide_eq_true heq⟩
    · cases h
  · cases h

lemma acquirer?_act {s : SeatId} {p : PassengerId} {c c' : SkyConfig} {k : ℕ} {ch : Choice}
    {call : Call} {a : Action} {cont : Except AppException a.Res → Program Reply}
    (hk : c.threads[k]? = some ⟨call, .act a cont⟩) {k' : ℕ}
    (h : acquirer? s p ⟨c, .act k ch, c'⟩ = some k') :
    k' = k ∧ a.committed (World.exec a ch c.state).1 = true ∧ a.acquired? = some (s, p) := by
  obtain ⟨ch', a', hl, hcommits, hacq⟩ := acquirer?_eq_some h
  cases hl
  simp only [committed?, hk] at hcommits
  split at hcommits
  · obtain rfl := Option.some_inj.mp hcommits
    exact ⟨rfl, ‹_›, hacq⟩
  · cases hcommits

lemma KeySet.snoc {ts : List SkyTransition} {s : SeatId} {p : PassengerId} (h : KeySet ts s p)
    (t : SkyTransition) : KeySet (ts ++ [t]) s p := by
  obtain ⟨i, j, k, t₁, t₂, hij, hi, hj, hacq, hset⟩ := h
  have hmore : ∀ {n : ℕ} {t' : SkyTransition}, ts[n]? = some t' → (ts ++ [t])[n]? = some t' :=
    fun hn => (List.getElem?_append_left (List.getElem?_eq_some_iff.mp hn).1).trans hn
  exact ⟨i, j, k, t₁, t₂, hij, hmore hi, hmore hj, hacq, hset⟩

/-- The hold that a call has acquired: it acquires one at most, and sets no other key than that of
this hold. -/
def holdMonitor : Monitor Action Action.Res AppException (Option (SeatId × PassengerId)) where
  start := none
  allows hold a := (a.acquired? ≠ none → hold = none) ∧
    ∀ s p ttl, a = .setSeatHold s p ttl → hold = some (s, p)
  next hold a r := if a.committed r then a.acquired?.or hold else hold
  final _ := True

/-- The actions that neither acquire a seat nor set a key. -/
def Action.keyless : Action → Bool
  | .holdSeat .. | .assign .. | .setSeatHold .. => false
  | _ => true

/-- A call that has acquired a hold keeps it. -/
lemma holdMonitor_next_some {hold : SeatId × PassengerId} {a : Action}
    (h : holdMonitor.allows (some hold) a) (r : Except AppException a.Res) :
    holdMonitor.next (some hold) a r = some hold := by
  have hnone : a.acquired? = none := by
    by_contra hsome
    cases h.1 hsome
  simp only [holdMonitor, hnone, Option.none_or, ite_self]

lemma holdMonitor_neutral {a : Action} (h : a.keyless = true)
    (hold : Option (SeatId × PassengerId)) : holdMonitor.Neutral hold a := by
  have hnone : a.acquired? = none := by
    cases a with
    | holdSeat | assign | setSeatHold => cases h
    | _ => rfl
  refine ⟨⟨fun hsome => absurd hnone hsome, ?_⟩, fun r => ?_⟩
  · rintro s p ttl rfl
    cases h
  · simp only [holdMonitor, hnone, Option.none_or, ite_self]

section Walks

variable (cfg : Settings)

/-- The call obeys the monitor from the hold it has acquired on. -/
abbrev ObeysHold {α : Type} (p : Program α) (hold : Option (SeatId × PassengerId)) : Prop :=
  p.Meets (holdMonitor.contract (skyHigh cfg)) hold

/-- A program that neither acquires a seat nor sets a key. -/
abbrev Keyless {α : Type} (p : Program α) : Prop := p.All fun a => a.keyless = true

variable {cfg} {hold : Option (SeatId × PassengerId)}

lemma keyless_act {a : Action} (h : a.keyless = true) : Keyless (act a) := Prog.all_perform h

lemma Idle.keyless {α : Type} {p : Program α} (hp : Idle p) : Keyless p := by
  refine hp.mono fun a ha => ?_
  cases a with
  | holdSeat | assign | setSeatHold => cases ha
  | _ => rfl

lemma keyless_tolerated :
    (holdMonitor.contract (skyHigh cfg)).Tolerates fun a => a.keyless = true := by
  rintro a hold r hold' ha - ⟨-, rfl⟩
  obtain ⟨hallows, hnext⟩ := holdMonitor_neutral ha hold
  exact ⟨hallows, (hnext r).symm⟩

lemma obeysHold_keyless {α : Type} {p : Program α} (hp : Keyless p) : ObeysHold cfg p hold :=
  .of_all keyless_tolerated hp

/-- A program that neither acquires a seat nor sets a key, before another program. -/
lemma bind_keyless {α β : Type} {p : Program α} {k : α → Program β} (hp : Keyless p)
    (hk : ∀ v, ObeysHold cfg (k v) hold) : ObeysHold cfg (p >>= k) hold :=
  .bind_all keyless_tolerated (F := fun hold' => hold' = hold) (fun _ _ h hs => h ▸ hs) hp rfl
    fun v _ h => h.symm ▸ hk v

/-- The key of the hold that has been acquired is set. -/
lemma obeysHold_setSeatHold {α : Type} {s : SeatId} {p : PassengerId} {k : Unit → Program α}
    (hk : Keyless (k ())) : ObeysHold cfg (setSeatHold s p >>= k) (some (s, p)) := by
  refine .bind_perform (F := fun hold => hold = some (s, p)) (R := fun _ _ => True)
    (fun _ _ h hs => h ▸ hs) rfl ?_ fun _ _ _ => obeysHold_keyless hk
  rintro _ r hold' rfl - -
  refine ⟨⟨fun h => absurd rfl h, ?_⟩, fun _ _ => trivial⟩
  rintro _ _ _ ⟨⟩
  rfl

lemma obeysHold_startCheckIn (p : PassengerId) (dto : StartCheckInRequestDto) :
    ObeysHold cfg (CheckInService.startCheckIn p dto) none := by
  refine bind_keyless (CheckInService.idle_validateFlightExists _).keyless fun _ => ?_
  refine bind_keyless (CheckInService.idle_validateSeatBelongsToFlight _ _).keyless fun _ => ?_
  refine bind_keyless (CheckInService.idle_validateNoActiveCheckIn _ _).keyless fun _ => ?_
  refine .tryCatch ?_ fun e _ => obeysHold_keyless (CheckInService.idle_countAndRethrow _ e).keyless
  refine bind_keyless (keyless_act rfl) fun _ => ?_
  refine .tryFinally ?_ fun _ => obeysHold_keyless (keyless_act rfl)
  refine bind_keyless (keyless_act rfl) fun seat => ?_
  refine bind_keyless Prog.all_throwWhen fun _ => ?_
  refine bind_keyless (keyless_act rfl) fun heldAt => ?_
  refine .bind_perform (F := fun hold => hold = none)
    (R := fun _ hold => hold = some (dto.seatId, p)) (fun _ _ h hs => h ▸ hs) rfl ?_ ?_
  · rintro _ r hold' rfl - ⟨-, rfl⟩
    refine ⟨⟨fun _ => rfl, fun _ _ _ h => nomatch h⟩, ?_⟩
    rintro checkIn rfl
    rfl
  · rintro checkIn _ rfl
    exact obeysHold_setSeatHold (Prog.all_bind (keyless_act rfl) fun _ => trivial)

lemma obeysHold_processWaitlist (f : FlightId) (s : Option SeatId) :
    ObeysHold cfg (WaitlistService.processWaitlist f s) none := by
  refine (Prog.wp_andThen _ _ _ _).mpr (Prog.wp_mono (fun r hold hhold => ?_)
    (Monitor.wp_of_neutral (p := acquireLock _)
      ((keyless_act rfl).mono fun a ha => holdMonitor_neutral ha none)))
  subst hhold
  cases r with
  | error e => trivial
  | ok _ =>
      refine Prog.Meets.tryFinally ?_ fun _ => obeysHold_keyless (keyless_act rfl)
      refine bind_keyless (keyless_act rfl) fun next => ?_
      cases next with
      | none => trivial
      | some entry =>
          refine bind_keyless (keyless_act rfl) fun found => ?_
          cases found with
          | none => trivial
          | some seat =>
              refine bind_keyless (keyless_act rfl) fun heldAt => ?_
              refine Prog.Meets.bind_perform (F := fun hold => hold = none)
                (R := fun (assigned : Bool) hold => assigned = true →
                  hold = some (seat.id, entry.passengerId)) (fun _ _ h hs => h ▸ hs) rfl ?_ ?_
              · rintro _ r hold' rfl - ⟨-, rfl⟩
                refine ⟨⟨fun _ => rfl, fun _ _ _ h => nomatch h⟩, ?_⟩
                rintro _ rfl rfl
                rfl
              · intro assigned hold hhold
                show ObeysHold cfg (if _ then _ else _) hold
                split
                · rw [hhold ‹_›]
                  refine obeysHold_setSeatHold (Prog.all_bind (keyless_act rfl) fun _ => ?_)
                  exact keyless_act rfl
                · trivial

/-- **Every call obeys the monitor.** -/
theorem obeys_holdMonitor (call : Call) :
    holdMonitor.Obeys (skyHigh cfg) none ((skyHigh cfg).start call) := by
  have hkeyless : (∀ a : Action, call.uses a = true → a.keyless = true) →
      ObeysHold cfg (call.program cfg) none :=
    fun h => obeysHold_keyless ((call.all_uses cfg).mono h)
  cases call with
  | startCheckIn p dto => exact (obeysHold_startCheckIn p dto).map
  | processWaitlist f s => exact (obeysHold_processWaitlist f s).map
  | _ =>
      refine hkeyless fun a ha => ?_
      cases a with
      | holdSeat | assign | setSeatHold => cases ha
      | _ => rfl

end Walks

/-! ## Holds and their check-ins -/

/-- A hold was there before the write, or the write acquires it. -/
lemma Commits.hold {b b' : Bookings} {a : Action} (h : Commits b a b') {s : SeatId} {seat' : Seat}
    {p : PassengerId} (hseat' : b'.seat s = some seat') (hheld : seat'.status = .held)
    (hp : seat'.heldBy = some p) : b.seat s = some seat' ∨
      (a.acquired? = some (s, p) ∧ ∃ seat c, b.Acquirable s seat c ∧ c.passengerId = p) := by
  cases h with
  | @holdSeat _ _ _ _ _ c h hcp _ | @assign _ _ _ _ _ c h hcp _ =>
      rcases Bookings.update_eq_some_iff.mp hseat' with ⟨rfl, rfl⟩ | ⟨-, hs⟩
      · obtain rfl : c.passengerId = p := Option.some_inj.mp hp
        exact .inr ⟨congrArg (fun p => some (_, p)) hcp.symm, _, c, h, rfl⟩
      · exact .inl hs
  | release _ _ _ _ | cancel _ _ _ _ _ | complete _ _ _ _ _ =>
      rcases Bookings.update_eq_some_iff.mp hseat' with ⟨-, rfl⟩ | ⟨-, hs⟩
      · cases hheld
      · exact .inl hs
  | awaitPayment _ _ _ => exact .inl hseat'

/-- Who acquires a seat has booked it. -/
lemma Commits.hasBooked {b b' : Bookings} {a : Action} (h : Commits b a b') {s : SeatId}
    {p : PassengerId} (ha : a.acquired? = some (s, p)) : b'.HasBooked p s := by
  cases h with
  | holdSeat h hp _ | assign h hp _ =>
      obtain ⟨rfl, rfl⟩ := Prod.mk.inj (Option.some_inj.mp ha)
      exact hp ▸ hasBooked_acquired h
  | _ => cases ha

lemma Justified.hasBooked {cfg : Settings} {t : SkyTransition} (ht : Justified cfg t) {s : SeatId}
    {p : PassengerId} {k : ℕ} (hk : acquirer? s p t = some k) :
    t.post.state.db.bookings.HasBooked p s := by
  obtain ⟨-, a, -, hc, ha⟩ := acquirer?_eq_some hk
  cases ht.effect with
  | quiet hnone _ => cases hnone.symm.trans hc
  | commit hc' _ hwrite _ =>
      obtain rfl := Option.some_inj.mp (hc'.symm.trans hc)
      exact hwrite.hasBooked ha

/-- A passenger who has booked a seat cannot acquire it once more. -/
lemma Bookings.Acquirable.not_hasBooked {b : Bookings} {s : SeatId} {seat : Seat} {c : CheckIn}
    (h : b.Acquirable s seat c) (hlinked : b.Linked) : ¬ b.HasBooked c.passengerId s := by
  rintro ⟨i, d, hd, hdp, hds⟩
  obtain ⟨s', seat', hs', hseat', hf⟩ := hlinked.seatOf i d hd
  obtain rfl : s = s' := Option.some_inj.mp (hds.symm.trans hs')
  obtain rfl : seat = seat' := Option.some_inj.mp (h.row.symm.trans hseat')
  exact h.unique i d hd ⟨hdp, hf.symm.trans h.flight.symm⟩

/-- At the instant `now`, the check-in behind a hold is open, and no hold is of the future. -/
structure Bookings.HoldsOpen (b : Bookings) (now : Time) : Prop where
  isOpen : ∀ s seat p, b.seat s = some seat → seat.status = .held → seat.heldBy = some p →
    ∀ i c, b.checkIn i = some c → c.passengerId = p → c.seatId = some s → c.status.isOpen = true
  past : ∀ s seat t, b.seat s = some seat → seat.heldAt = some t → t ≤ now

namespace Bookings.HoldsOpen

variable {b : Bookings} {now : Time}

lemma mono {now' : Time} (h : b.HoldsOpen now) (hnow : now ≤ now') : b.HoldsOpen now' :=
  ⟨h.isOpen, fun s seat t hs ht => (h.past s seat t hs ht).trans hnow⟩

lemma acquired {s : SeatId} {seat : Seat} {c : CheckIn} {t : Time} (hb : b.HoldsOpen now)
    (hlinked : b.Linked) (h : b.Acquirable s seat c) (ht : t ≤ now) :
    (b.acquired s seat c t).HoldsOpen now where
  isOpen := by
    intro s' seat' p hs' hheld hp i d hd hdp hds
    rcases update_eq_some_iff.mp hd with ⟨-, rfl⟩ | ⟨-, hold⟩
    · exact congrArg CheckInStatus.isOpen h.status
    · rcases update_eq_some_iff.mp hs' with ⟨rfl, rfl⟩ | ⟨-, hs'⟩
      · -- the passenger of the new hold had no check-in on this seat
        have hbooked : b.HasBooked c.passengerId s' :=
          ⟨i, d, hold, hdp.trans (Option.some_inj.mp hp).symm, hds⟩
        exact absurd hbooked (h.not_hasBooked hlinked)
      · exact hb.isOpen s' seat' p hs' hheld hp i d hold hdp hds
  past := by
    intro s' seat' t' hs' ht'
    rcases update_eq_some_iff.mp hs' with ⟨-, rfl⟩ | ⟨-, hs'⟩
    · exact Option.some_inj.mp ht' ▸ ht
    · exact hb.past s' seat' t' hs' ht'

/-- A seat loses its hold, and check-ins of other seats keep their statuses. -/
lemma closed {s : SeatId} {seat' : Seat} {g : CheckInId → Option CheckIn} (hb : b.HoldsOpen now)
    (hseat' : seat'.status ≠ .held) (hat : ∀ t, seat'.heldAt = some t → t ≤ now)
    (hg : ∀ i c, g i = some c → c.seatId = some s ∨ b.checkIn i = some c) :
    (⟨Function.update b.seat s (some seat'), g⟩ : Bookings).HoldsOpen now where
  isOpen := by
    intro s₁ seat₁ p hs₁ hheld hp i c hc hcp hcs
    rcases update_eq_some_iff.mp hs₁ with ⟨-, rfl⟩ | ⟨hne, hs₁⟩
    · exact absurd hheld hseat'
    · rcases hg i c hc with hsame | hold
      · exact absurd (Option.some_inj.mp (hcs.symm.trans hsame)) hne
      · exact hb.isOpen s₁ seat₁ p hs₁ hheld hp i c hold hcp hcs
  past := by
    intro s₁ seat₁ t hs₁ ht
    rcases update_eq_some_iff.mp hs₁ with ⟨-, rfl⟩ | ⟨-, hs₁⟩
    · exact hat t ht
    · exact hb.past s₁ seat₁ t hs₁ ht

end Bookings.HoldsOpen

lemma Commits.holdsOpen {cfg : Settings} {w : World} {a : Action} {b' : Bookings}
    (h : Commits w.db.bookings a b') (hlinked : w.db.bookings.Linked) (hpre : a.Pre cfg w)
    (hb : w.db.bookings.HoldsOpen w.now) : b'.HoldsOpen w.now := by
  cases h with
  | holdSeat h _ _ | assign h _ _ => exact hb.acquired hlinked h hpre.2
  | @release seat₀ seat _ _ _ _ _ =>
      refine hb.closed (nofun : seat.freed.status ≠ .held) nofun fun i c hc => ?_
      obtain ⟨d, hd, rfl⟩ := Option.map_eq_some_iff.mp hc
      unfold CheckIn.releasedFrom
      split <;> rename_i hcond
      · exact .inl hcond.1
      · exact .inr hd
  | @cancel _ _ c s seat _ _ _ hcs _ =>
      refine hb.closed (nofun : seat.freed.status ≠ .held) nofun fun i d hd => ?_
      rcases Bookings.update_eq_some_iff.mp hd with ⟨-, rfl⟩ | ⟨-, hold⟩
      · exact .inl hcs
      · exact .inr hold
  | @complete _ _ _ c s seat _ _ _ hcs hseat =>
      refine hb.closed (nofun : seat.taken.status ≠ .held) (fun t ht => hb.past s seat t hseat ht)
        fun i d hd => ?_
      rcases Bookings.update_eq_some_iff.mp hd with ⟨-, rfl⟩ | ⟨-, hold⟩
      · exact .inl hcs
      · exact .inr hold
  | awaitPayment hc _ _ =>
      refine ⟨fun s seat p hs hheld hp i d hd hdp hds => ?_, hb.past⟩
      rcases Bookings.update_eq_some_iff.mp hd with ⟨-, rfl⟩ | ⟨-, hold⟩
      · rfl
      · exact hb.isOpen s seat p hs hheld hp i d hold hdp hds

/-! ## Runs -/

variable {cfg : Settings} {w : World} {ts : List SkyTransition} {c : SkyConfig}

lemma run_holdsOpen (hw : w.Seeded) (h : (skyHigh cfg).Run (.init w) ts c) :
    c.state.db.bookings.HoldsOpen c.state.now := by
  refine run_keeps (fun w => w.db.bookings.HoldsOpen w.now) (fun _ => True) hw h
    (fun _ _ => trivial) ⟨fun s seat p hs hheld => ?_, fun s seat t hs ht => ?_⟩ ?_ ?_
  · rw [hw.seat_available hs] at hheld
    cases hheld
  · rw [(hw.seats seat (Table.mem_of_get? hs)).2.2] at ht
    cases ht
  · intro w₁ w₂ hprogress hsame hholds
    rw [hsame]
    exact hholds.mono hprogress.now
  · intro t a ht _ hpre hwrite _ hholds
    exact (hwrite.holdsOpen ht.linked hpre hholds).mono ht.progress.now

/-- What the calls of a run have acquired: the monitor of each of them knows it, and the passenger
has booked the seat. -/
lemma run_acquired (hw : w.Seeded) (h : (skyHigh cfg).Run (.init w) ts c) :
    ∃ g, holdMonitor.Tracked (skyHigh cfg) c g ∧ ∀ t ∈ ts, ∀ s p k, acquirer? s p t = some k →
      g k = some (s, p) ∧ c.state.db.bookings.HasBooked p s := by
  induction h with
  | nil => exact ⟨_, .init _, fun _ ht => absurd ht List.not_mem_nil⟩
  | @snoc ts c l c' hrun hstep ih =>
      obtain ⟨g, htracked, hacq⟩ := ih
      have hjust : Justified cfg ⟨c, l, c'⟩ := run_justified hw (hrun.snoc hstep) _ (by simp)
      have hkeep : ∀ {p s}, c.state.db.bookings.HasBooked p s →
          c'.state.db.bookings.HasBooked p s :=
        fun hp => hp.evolves hjust.progress.bookings
      rcases (skyHigh cfg).step_cases hstep with ⟨call, rfl, rfl⟩ | ⟨ms, rfl, rfl⟩ |
        ⟨k, ch, call, a, cont, rfl, hk, rfl⟩
      · refine ⟨g, htracked.invoke (obeys_holdMonitor call), fun t ht s p k hk => ?_⟩
        rcases List.mem_append.mp ht with ht | ht
        · exact hacq t ht s p k hk
        · rw [List.mem_singleton.mp ht] at hk
          cases hk
      · refine ⟨g, htracked.of_threads rfl, fun t ht s p k hk => ?_⟩
        rcases List.mem_append.mp ht with ht | ht
        · exact hacq t ht s p k hk
        · rw [List.mem_singleton.mp ht] at hk
          cases hk
      · obtain ⟨hallows, htracked'⟩ := htracked.act hk ch
        refine ⟨_, htracked', fun t ht s p k' hk' => ?_⟩
        rcases List.mem_append.mp ht with ht | ht
        · obtain ⟨hg, hbooked⟩ := hacq t ht s p k' hk'
          refine ⟨?_, hkeep hbooked⟩
          by_cases heq : k' = k
          · subst heq
            rw [hg] at hallows
            rw [Function.update_self, hg, holdMonitor_next_some hallows]
          · rw [Function.update_of_ne heq, hg]
        · rw [List.mem_singleton.mp ht] at hk'
          obtain ⟨rfl, hcommits, hwho⟩ := acquirer?_act hk hk'
          refine ⟨?_, ?_⟩
          · rw [Function.update_self]
            show (if a.committed (World.exec a ch c.state).1 then _ else _) = _
            rw [if_pos hcommits, hwho]
            rfl
          · exact hjust.hasBooked hk'

/-! ## The key of a hold -/

/-- The key of seat `s` names `p`, and does not lapse before the hold is 120 seconds old. -/
def World.Covers (w : World) (s : SeatId) (p : PassengerId) : Prop :=
  ∃ expiry, w.seatHolds s = some (p, expiry) ∧ ∀ seat t, w.db.bookings.seat s = some seat →
    seat.heldAt = some t → t + 120 * 1000 ≤ expiry

lemma World.Covers.live {w : World} {s : SeatId} {p : PassengerId} (h : w.Covers s p)
    (hwindow : w.InWindow s p) : w.live (w.seatHolds s) = some p := by
  obtain ⟨expiry, hkey, hlate⟩ := h
  obtain ⟨seat, heldAt, hseat, -, -, hat, hnow⟩ := hwindow
  have hlt : w.now < expiry := lt_of_lt_of_le hnow (hlate seat heldAt hseat hat)
  rw [hkey]
  exact if_pos hlt

end SkyHighCore
