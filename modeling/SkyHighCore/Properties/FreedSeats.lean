import SkyHighCore.Framework.Tickets
import SkyHighCore.Properties.Flights
import SkyHighCore.Properties.WakeUps
import SkyHighCore.Properties.WalkIns

/-!
# Freed seats and the handlers of their events

A wake-up that a cancellation or an expiry release owes is pending until a handler has settled it,
and each handler settles one.  The wake-ups of a flight are the `Tickets` of its seats: a
cancellation asks for any seat, an expiry release for the seat that it has freed.  They go wrong in
one way: the handler of a cancellation assigns a seat that has been released and whose own handler
has not come to it yet (`steals`).  Then that handler finds nothing, and the seat of the
cancellation is left to nobody.
-/

namespace SkyHighCore

open Framework

/-! ## Wake-ups along a run -/

/-- The wake-up that the transition asks for. -/
def woken? (t : SkyTransition) : Option WakeUp := (committed? t).bind Action.wakeUp?

/-- The wake-up that the transition announces. -/
def announced? (t : SkyTransition) : Option WakeUp := (executed? t).bind fun x => x.2.announced?

/-- The wake-up whose handler the transition issues. -/
def issued? (t : SkyTransition) : Option WakeUp :=
  match t.label with
  | .invoke call => call.handled?
  | _ => none

/-- The wake-up that the transition settles. -/
def settled? (t : SkyTransition) : Option WakeUp :=
  match t.label with
  | .act k ch =>
      match t.pre.threads[k]? with
      | some ⟨call, .act a _⟩ =>
          if a.settles (World.exec a ch t.pre.state).1 then call.handled? else none
      | _ => none
  | _ => none

/-- How often the transitions yield `u`. -/
def total (yields : SkyTransition → Option WakeUp) (ts : List SkyTransition) (u : WakeUp) : ℕ :=
  (ts.filterMap yields).count u

/-- The calls that hold the lock of the waitlist of flight `f` after the transition. -/
def holdersAfter (f : FlightId) (ks : List ℕ) (t : SkyTransition) : List ℕ :=
  match executed? t with
  | some (k, .acquireLock (.waitlistLock f')) => if f' = f then k :: ks else ks
  | some (k, .releaseLock (.waitlistLock f')) => if f' = f then ks.erase k else ks
  | _ => ks

/-- The calls that hold the lock of the waitlist of flight `f`. -/
def lockHolders (f : FlightId) (ts : List SkyTransition) : List ℕ := ts.foldl (holdersAfter f) []

/-- A handler that may assign any seat of flight `f` is about to assign one that has been released
more often than its own handlers have come to it. -/
def steals (f : FlightId) (us : List SkyTransition) (t : SkyTransition) : Bool :=
  match t.label with
  | .act k _ =>
      match t.pre.threads[k]? with
      | some ⟨.processWaitlist f' none, .act (.assign _ seat _ _) _⟩ =>
          f' = f ∧ total settled? us (f, some seat.id) < total woken? us (f, some seat.id)
      | _ => false
  | _ => false

/-- Only cancellations, expiry releases and handlers of waitlists are issued, every handler is that
of an event that has been emitted, the lock of the waitlist of flight `f` excludes, and nothing
fails. -/
structure Orderly (f : FlightId) (ts : List SkyTransition) : Prop where
  calls : ∀ t ∈ ts, ∀ call, t.label = .invoke call → call.wakes = true
  caused : ∀ us, us <+: ts → (us.filterMap issued?).Subperm (us.filterMap announced?)
  exclusive : ∀ us, us <+: ts → (lockHolders f us).length ≤ 1
  faultless : ∀ t ∈ ts, Faultless t

lemma Orderly.of_prefix {f : FlightId} {us ts : List SkyTransition} (h : Orderly f ts)
    (hus : us <+: ts) : Orderly f us where
  calls t ht := h.calls t (hus.subset ht)
  caused vs hvs := h.caused vs (hvs.trans hus)
  exclusive vs hvs := h.exclusive vs (hvs.trans hus)
  faultless t ht := h.faultless t (hus.subset ht)

/-! ## Single transitions -/

section Transitions

variable {yields : SkyTransition → Option WakeUp} {us : List SkyTransition} {t : SkyTransition}
  {u : WakeUp} {f : FlightId} {c c' : SkyConfig} {k : ℕ} {ch : Choice} {call : Call} {a : Action}
  {cont : Except AppException a.Res → Program Reply}

lemma total_concat :
    total yields (us ++ [t]) u = total yields us u + if yields t = some u then 1 else 0 := by
  rw [total, List.filterMap_append, List.count_append, total]
  congr 1
  cases hyields : yields t with
  | none => simp [hyields]
  | some u' => simp [hyields, List.count_singleton]

lemma lockHolders_concat : lockHolders f (us ++ [t]) = holdersAfter f (lockHolders f us) t := by
  simp [lockHolders, List.foldl_append]

lemma woken?_act (hk : c.threads[k]? = some ⟨call, .act a cont⟩) :
    woken? ⟨c, .act k ch, c'⟩ = some u ↔
      a.committed (World.exec a ch c.state).1 = true ∧ a.wakeUp? = some u := by
  simp only [woken?, committed?, hk]
  split <;> simp_all

lemma settled?_act (hk : c.threads[k]? = some ⟨call, .act a cont⟩) :
    settled? ⟨c, .act k ch, c'⟩ = some u ↔
      a.settles (World.exec a ch c.state).1 = true ∧ call.handled? = some u := by
  simp only [settled?, hk]
  split <;> simp_all

lemma executed?_act (hk : c.threads[k]? = some ⟨call, .act a cont⟩) (hch : ch.fault = false) :
    executed? ⟨c, .act k ch, c'⟩ = some (k, a) :=
  (executed?_act_iff hk).mpr ⟨rfl, rfl, hch⟩

lemma announced?_act (hk : c.threads[k]? = some ⟨call, .act a cont⟩) (hch : ch.fault = false) :
    announced? ⟨c, .act k ch, c'⟩ = a.announced? := by
  rw [announced?, executed?_act hk hch]
  rfl

/-- Without a fault a plain action returns. -/
lemma returns_plain {w : World} (ha : a.plain = true) (hch : ch.fault = false) :
    ∃ v, (World.exec a ch w).1 = .ok v := by
  cases a with
  | saveWaitlist entry => exact ⟨_, congrArg Prod.fst (World.transaction_ok hch rfl)⟩
  | findOneFlight | findOneSeat | findOneCheckIn | findOneWaitlist =>
      exact ⟨_, by simp [World.exec, World.query, hch]; rfl⟩
  | setSeatHold | delSeatHold | delSeatMapCache =>
      exact ⟨_, by simp [World.exec, World.redis, hch]; rfl⟩
  | acquireLock | releaseLock => exact ⟨(), by simp [World.exec, hch]⟩
  | dateNow => exact ⟨_, rfl⟩
  | emit => exact ⟨_, rfl⟩
  | _ => cases ha

/-- Without a fault an action that its stage allows returns, or is an assignment. -/
lemma returns {g : Stage} {w : World} (hallows : g.Allows a) (hch : ch.fault = false) :
    (∃ v, (World.exec a ch w).1 = .ok v) ∨ ∃ u e s, g = .found u e s := by
  have hlock : ∀ {resource : LockKey}, ∃ v, (World.exec (.acquireLock resource) ch w).1 = .ok v ∧
      (World.exec (.releaseLock resource) ch w).1 = .ok v := by
    intro resource
    exact ⟨(), by simp [World.exec, hch], by simp [World.exec, hch]⟩
  cases g with
  | free =>
      rcases hallows with ha | hwake
      · exact .inl (returns_plain ha hch)
      · cases a with
        | cancel checkIn i p =>
            obtain ⟨db', hbody⟩ := Tx.cancelTransaction_commits checkIn i p w.db
            exact .inl ⟨_, congrArg Prod.fst (World.transaction_ok hch hbody)⟩
        | release seat =>
            obtain ⟨affected, db', hbody⟩ := Tx.releaseTransaction_commits seat w.db
            exact .inl ⟨_, congrArg Prod.fst (World.transaction_ok hch hbody)⟩
        | _ => exact absurd rfl hwake
  | owing u' =>
      rcases hallows with ha | rfl
      · exact .inl (returns_plain ha hch)
      · exact .inl ⟨_, rfl⟩
  | called u' =>
      obtain rfl : a = _ := hallows
      exact .inl (hlock.imp fun _ h => h.1)
  | locked u' | queued u' e =>
      obtain rfl : a = _ := hallows
      exact .inl ⟨_, by simp [World.exec, World.query, hch]; rfl⟩
  | found u' e s => exact .inr ⟨u', e, s, rfl⟩
  | leaving u' =>
      rcases hallows with ha | rfl
      · exact .inl (returns_plain ha hch)
      · exact .inl (hlock.imp fun _ h => h.2)
  | failed =>
      rcases hallows with ha | ⟨f', rfl⟩
      · exact .inl (returns_plain ha hch)
      · exact .inl (hlock.imp fun _ h => h.2)

end Transitions

/-! ## Stages along a run -/

/-- The stages of the calls after the transitions. -/
def stages (cfg : Settings) (ts : List SkyTransition) : ℕ → Stage :=
  wakeUpMonitor.states (skyHigh cfg) Call.stage ts

section Stages

variable {cfg : Settings} {c₀ c : SkyConfig} {ts : List SkyTransition} {f : FlightId}

lemma stages_act {us : List SkyTransition} {c' : SkyConfig} {k : ℕ} {ch : Choice} {call : Call}
    {a : Action} {cont : Except AppException a.Res → Program Reply}
    (hk : c.threads[k]? = some ⟨call, .act a cont⟩) :
    stages cfg (us ++ [⟨c, .act k ch, c'⟩]) = Function.update (stages cfg us) k
      (wakeUpMonitor.next (stages cfg us k) a (World.exec a ch c.state).1) :=
  Monitor.states_concat.trans (Monitor.advance_act hk)

lemma stages_invoke {us : List SkyTransition} {c' : SkyConfig} {call : Call} :
    stages cfg (us ++ [⟨c, .invoke call, c'⟩]) =
      Function.update (stages cfg us) c.threads.length call.stage :=
  Monitor.states_concat

lemma stages_tick {us : List SkyTransition} {c' : SkyConfig} {ms : ℕ} :
    stages cfg (us ++ [⟨c, .tick ms, c'⟩]) = stages cfg us :=
  Monitor.states_concat

/-- Every call is in its stage. -/
lemma run_staged (h : (skyHigh cfg).Run c₀ ts c) (hquiet : c₀.quiescent)
    (hcalls : ∀ t ∈ ts, ∀ call, t.label = .invoke call → call.wakes = true) :
    wakeUpMonitor.Tracked (skyHigh cfg) c (stages cfg ts) :=
  Monitor.run_tracked h (.of_quiescent hquiet (.inl rfl))
    fun t ht call hl => obeys_wakeUpMonitor (hcalls t ht call hl)

/-- A handler serves the wake-up that it was issued for. -/
lemma run_serving (h : (skyHigh cfg).Run c₀ ts c) (hquiet : c₀.quiescent)
    (hcalls : ∀ t ∈ ts, ∀ call, t.label = .invoke call → call.wakes = true) {k : ℕ}
    {th : Thread Action Action.Res AppException Reply Call} {u : WakeUp}
    (hk : c.threads[k]? = some th) (hu : (stages cfg ts k).serving? = some u) :
    th.call.handled? = some u := by
  induction h generalizing k th with
  | nil => cases hu
  | @snoc ts c l c' hrun hstep ih =>
      have hcalls' : ∀ t ∈ ts, ∀ call, t.label = .invoke call → call.wakes = true :=
        fun t ht => hcalls t (List.mem_append_left _ ht)
      have ih := @ih hcalls'
      rcases (skyHigh cfg).step_cases hstep with ⟨call, rfl, rfl⟩ | ⟨ms, rfl, rfl⟩ |
        ⟨j, ch, call, a, cont, rfl, hj, rfl⟩
      · rw [stages_invoke] at hu
        by_cases hlast : k = c.threads.length
        · subst hlast
          rw [List.getElem?_concat_length] at hk
          obtain rfl := Option.some_inj.mp hk
          rw [Function.update_self] at hu
          unfold Call.stage at hu
          split at hu
          · rename_i u' hhandled
            exact hhandled.trans hu
          · cases hu
        · rw [Function.update_of_ne hlast] at hu
          have hlt := (List.getElem?_eq_some_iff.mp hk).1
          rw [List.length_append, List.length_singleton] at hlt
          rw [List.getElem?_append_left (by omega)] at hk
          exact ih hk hu
      · rw [stages_tick] at hu
        exact ih hk hu
      · rw [stages_act hj] at hu
        by_cases hkj : k = j
        · subst hkj
          rw [Function.update_self] at hu
          rw [List.getElem?_set_self (List.getElem?_eq_some_iff.mp hj).1] at hk
          obtain rfl := Option.some_inj.mp hk
          have hallows := ((run_staged hrun hquiet hcalls').act hj ch).1
          cases hr : (World.exec a ch c.state).1 with
          | error e =>
              rw [hr] at hu
              cases hu
          | ok v =>
              rw [hr] at hu
              have hcall := ih hj (Stage.serving_after hallows v hu)
              exact hcall
        · rw [Function.update_of_ne hkj] at hu
          rw [List.getElem?_set_ne (Ne.symm hkj)] at hk
          exact ih hk hu

/-- The lock is kept by the others. -/
lemma mem_holdersAfter {ks : List ℕ} {k j : ℕ} {a : Action} {t : SkyTransition}
    (ht : executed? t = none ∨ executed? t = some (j, a)) (hk : k ∈ ks)
    (hkeep : k = j → a ≠ .releaseLock (.waitlistLock f)) : k ∈ holdersAfter f ks t := by
  unfold holdersAfter
  split
  · split
    · exact List.mem_cons_of_mem _ hk
    · exact hk
  · rename_i k' f' hexec
    split
    · rename_i hf
      subst hf
      rcases ht with hnone | hsome
      · cases hnone.symm.trans hexec
      · obtain ⟨rfl, rfl⟩ := Prod.mk.inj (Option.some_inj.mp (hsome.symm.trans hexec))
        exact (List.mem_erase_of_ne fun h => hkeep h rfl).mpr hk
    · exact hk
  · exact hk

lemma holdersAfter_acquire {ks : List ℕ} {k : ℕ} {t : SkyTransition}
    (ht : executed? t = some (k, .acquireLock (.waitlistLock f))) :
    holdersAfter f ks t = k :: ks := by
  unfold holdersAfter
  rw [ht]
  exact if_pos rfl

/-- A handler that has got its lock holds it. -/
lemma run_holds (h : (skyHigh cfg).Run c₀ ts c) (hquiet : c₀.quiescent)
    (hcalls : ∀ t ∈ ts, ∀ call, t.label = .invoke call → call.wakes = true) {k : ℕ}
    {u : WakeUp} (hu : (stages cfg ts k).inside? = some u) : k ∈ lockHolders u.1 ts := by
  induction h generalizing k with
  | nil => cases hu
  | @snoc ts c l c' hrun hstep ih =>
      have hcalls' : ∀ t ∈ ts, ∀ call, t.label = .invoke call → call.wakes = true :=
        fun t ht => hcalls t (List.mem_append_left _ ht)
      have ih := @ih hcalls'
      rw [lockHolders_concat]
      rcases (skyHigh cfg).step_cases hstep with ⟨call, rfl, rfl⟩ | ⟨ms, rfl, rfl⟩ |
        ⟨j, ch, call, a, cont, rfl, hj, rfl⟩
      · rw [stages_invoke] at hu
        by_cases hlast : k = c.threads.length
        · subst hlast
          rw [Function.update_self] at hu
          unfold Call.stage at hu
          split at hu <;> cases hu
        · rw [Function.update_of_ne hlast] at hu
          exact ih hu
      · rw [stages_tick] at hu
        exact ih hu
      · have hexec : executed? ⟨c, .act j ch, ⟨(World.exec a ch c.state).2,
            c.threads.set j ⟨call, cont (World.exec a ch c.state).1⟩⟩⟩ = none ∨
            executed? ⟨c, .act j ch, ⟨(World.exec a ch c.state).2,
            c.threads.set j ⟨call, cont (World.exec a ch c.state).1⟩⟩⟩ = some (j, a) := by
          simp only [executed?, hj]
          cases ch.fault
          · exact .inr rfl
          · exact .inl rfl
        rw [stages_act hj] at hu
        by_cases hkj : k = j
        · subst hkj
          rw [Function.update_self] at hu
          have hallows := ((run_staged hrun hquiet hcalls').act hj ch).1
          cases hr : (World.exec a ch c.state).1 with
          | error e =>
              rw [hr] at hu
              cases hu
          | ok v =>
              rw [hr] at hu
              rcases Stage.inside_after hallows v hu with ⟨hinside, hne⟩ | rfl
              · exact mem_holdersAfter hexec (ih hinside) fun _ => hne
              · have hch : ch.fault = false := by
                  by_contra hno
                  simp [World.exec, (Bool.not_eq_false _).mp hno] at hr
                rw [holdersAfter_acquire (executed?_act hj hch)]
                exact List.mem_cons_self
        · rw [Function.update_of_ne hkj] at hu
          exact mem_holdersAfter hexec (ih hu) fun h => absurd h hkj

/-- What an action that its stage allows settles is the wake-up that its call serves. -/
lemma settles_iff {g : Stage} {a : Action} {call : Call} {r : Except AppException a.Res}
    {u : WakeUp} (hallows : g.Allows a)
    (hserving : ∀ u', g.serving? = some u' → call.handled? = some u') :
    a.settles r = true ∧ call.handled? = some u ↔ a.settles r = true ∧ g.serving? = some u := by
  refine and_congr_right fun hsettles => ?_
  obtain ⟨u', hu'⟩ := Option.ne_none_iff_exists'.mp (Stage.inside_of_settles hallows hsettles)
  have hserves := Stage.serving_of_inside hu'
  rw [hserves, hserving u' hserves]

/-- The balance of an action without a fault. -/
lemma balance_exec {g : Stage} {a : Action} {ch : Choice} {w : World} (hallows : g.Allows a)
    (hch : ch.fault = false) (u : WakeUp) :
    Stage.pends u (wakeUpMonitor.next g a (World.exec a ch w).1) +
        (if a.announced? = some u then 1 else 0) +
        (if a.settles (World.exec a ch w).1 = true ∧ g.serving? = some u then 1 else 0) =
      Stage.pends u g +
        if a.committed (World.exec a ch w).1 = true ∧ a.wakeUp? = some u then 1 else 0 := by
  cases hr : (World.exec a ch w).1 with
  | ok v => exact Stage.balance hallows v u
  | error e =>
      rcases returns (w := w) hallows hch with ⟨v, hv⟩ | ⟨u', entry, seat, rfl⟩
      · cases hr.symm.trans hv
      · rcases hallows with rfl | ⟨t, rfl⟩
        · cases hr
        · -- an assignment that fails settles its wake-up, too
          show 0 + 0 + (if true = true ∧ some u' = some u then 1 else 0) =
            (if some u' = some u then 1 else 0) + if false = true ∧ none = some u then 1 else 0
          simp

/-- **Every wake-up that has been asked for is pending, or has been settled**, as long as every
handler has been issued for one that has been announced. -/
lemma run_balance (h : (skyHigh cfg).Run c₀ ts c) (hquiet : c₀.quiescent)
    (hcalls : ∀ t ∈ ts, ∀ call, t.label = .invoke call → call.wakes = true)
    (hfaultless : ∀ t ∈ ts, Faultless t) (u : WakeUp) :
    tally (Stage.pends u) (stages cfg ts) c.threads.length + total announced? ts u +
      total settled? ts u = total woken? ts u + total issued? ts u := by
  induction h with
  | nil =>
      have hnone : tally (Stage.pends u) (stages cfg []) c₀.threads.length = 0 :=
        tally_eq_zero fun _ _ => rfl
      rw [hnone]
      rfl
  | @snoc ts c l c' hrun hstep ih =>
      have hcalls' : ∀ t ∈ ts, ∀ call, t.label = .invoke call → call.wakes = true :=
        fun t ht => hcalls t (List.mem_append_left _ ht)
      have ih := ih hcalls' fun t ht => hfaultless t (List.mem_append_left _ ht)
      simp only [total_concat]
      rcases (skyHigh cfg).step_cases hstep with ⟨call, rfl, rfl⟩ | ⟨ms, rfl, rfl⟩ |
        ⟨k, ch, call, a, cont, rfl, hk, rfl⟩
      · have hsame : ∀ c', tally (Stage.pends u) (stages cfg (ts ++ [⟨c, .invoke call, c'⟩]))
            c.threads.length = tally (Stage.pends u) (stages cfg ts) c.threads.length :=
          fun c' => tally_congr fun k hk => by
            rw [stages_invoke, Function.update_of_ne (Nat.ne_of_lt hk)]
        have hnew : Stage.pends u call.stage = if call.handled? = some u then 1 else 0 := by
          unfold Call.stage
          split
          · rename_i u' hhandled
            rw [hhandled]
            rfl
          · rename_i hhandled
            rw [hhandled]
            rfl
        rw [List.length_append, List.length_singleton, tally, hsame, stages_invoke,
          Function.update_self, hnew]
        have hissued : ∀ c', issued? ⟨c, .invoke call, c'⟩ = call.handled? := fun _ => rfl
        have hothers : ∀ c', woken? ⟨c, .invoke call, c'⟩ = none ∧
            announced? ⟨c, .invoke call, c'⟩ = none ∧ settled? ⟨c, .invoke call, c'⟩ = none :=
          fun _ => ⟨rfl, rfl, rfl⟩
        simp only [hissued, (hothers _).1, (hothers _).2.1, (hothers _).2.2, reduceCtorEq, if_false]
        omega
      · rw [stages_tick]
        exact ih
      · have hch : ch.fault = false := hfaultless _ List.mem_concat_self k ch rfl
        have hallows := ((run_staged hrun hquiet hcalls').act hk ch).1
        have hserving : ∀ u', (stages cfg ts k).serving? = some u' → call.handled? = some u' :=
          fun u' => run_serving hrun hquiet hcalls' hk
        rw [stages_act hk, announced?_act hk hch, List.length_set]
        simp only [woken?_act hk, settled?_act hk, settles_iff hallows hserving]
        have hmoved : ∀ g, tally (Stage.pends u) (Function.update (stages cfg ts) k g)
            c.threads.length + Stage.pends u (stages cfg ts k) =
              tally (Stage.pends u) (stages cfg ts) c.threads.length + Stage.pends u g :=
          tally_update (List.getElem?_eq_some_iff.mp hk).1
        have hmoved := hmoved (wakeUpMonitor.next (stages cfg ts k) a (World.exec a ch c.state).1)
        have hbalance := balance_exec (w := c.state) hallows hch u
        simp only [issued?, reduceCtorEq, if_false]
        omega

end Stages

/-! ## Seats that become available, and passengers who book -/

/-- Seat `s` is an available seat of flight `f`. -/
def Bookings.Vacant (b : Bookings) (f : FlightId) (s : SeatId) : Prop :=
  ∃ seat, b.seat s = some seat ∧ seat.flightId = f ∧ seat.status = .available

section Writes

variable {b b' : Bookings} {a : Action} {f : FlightId} {s : SeatId} {p : PassengerId}

lemma Bookings.SameFlight.vacant (h : b.SameFlight f b') : b'.Vacant f s ↔ b.Vacant f s := by
  refine exists_congr fun seat => ?_
  constructor
  · exact fun ⟨hseat, hf, hst⟩ => ⟨(h.seat s seat hf).mp hseat, hf, hst⟩
  · exact fun ⟨hseat, hf, hst⟩ => ⟨(h.seat s seat hf).mpr hseat, hf, hst⟩

lemma Bookings.SameFlight.unbooked (h : b.SameFlight f b') (hp : b.Unbooked p f) :
    b'.Unbooked p f := by
  intro i c hc hpf
  exact hp i c ((h.checkIn i c hpf.2).mp hc) hpf

/-- A seat that is available after a write was available before, or has been freed. -/
lemma Commits.vacant_backward (h : Commits b a b') (hs : b'.Vacant f s)
    (hfreed : a.freed? ≠ some s) : b.Vacant f s := by
  obtain ⟨seat', hseat', hf, hst⟩ := hs
  cases h with
  | holdSeat _ _ _ | assign _ _ _ | complete _ _ _ _ _ =>
      rcases Bookings.update_eq_some_iff.mp hseat' with ⟨-, rfl⟩ | ⟨-, hs⟩
      · cases hst
      · exact ⟨seat', hs, hf, hst⟩
  | release _ _ _ _ =>
      rcases Bookings.update_eq_some_iff.mp hseat' with ⟨rfl, -⟩ | ⟨-, hs⟩
      · exact absurd rfl hfreed
      · exact ⟨seat', hs, hf, hst⟩
  | cancel _ hsnap _ hseatId _ =>
      rcases Bookings.update_eq_some_iff.mp hseat' with ⟨rfl, -⟩ | ⟨-, hs⟩
      · exact absurd (hsnap.2.2.symm.trans hseatId) hfreed
      · exact ⟨seat', hs, hf, hst⟩
  | awaitPayment _ _ _ => exact ⟨seat', hseat', hf, hst⟩

/-- What frees a seat takes none. -/
lemma Commits.vacant_forward (h : Commits b a b') (hwake : a.wakeUp? ≠ none)
    (hs : b.Vacant f s) : b'.Vacant f s := by
  obtain ⟨seat, hseat, hf, hst⟩ := hs
  have hfreed : ∀ {s' : SeatId} {seat' : Seat}, b.seat s' = some seat' →
      ∃ row, Function.update b.seat s' (some seat'.freed) s = some row ∧ row.flightId = f ∧
        row.status = .available := by
    intro s' seat' hseat'
    by_cases hss : s = s'
    · subst hss
      obtain rfl : seat = seat' := Option.some_inj.mp (hseat.symm.trans hseat')
      exact ⟨_, Function.update_self .., hf, rfl⟩
    · rw [Function.update_of_ne hss]
      exact ⟨seat, hseat, hf, hst⟩
  cases h with
  | release hseat' _ _ _ => exact hfreed hseat'
  | cancel _ _ _ _ hseat' => exact hfreed hseat'
  | _ => exact absurd rfl hwake

/-- What frees a seat inserts no check-in. -/
lemma Commits.unbooked_forward (h : Commits b a b') (hwake : a.wakeUp? ≠ none)
    (hp : b.Unbooked p f) : b'.Unbooked p f := by
  intro i c' hc'
  cases h with
  | release _ _ _ _ =>
      obtain ⟨c, hc, rfl⟩ := Option.map_eq_some_iff.mp hc'
      have hsame := c.sameBooking_releasedFrom
      rw [(hsame _).1, (hsame _).2.1]
      exact hp i c hc
  | cancel hc _ _ _ _ =>
      rcases Bookings.update_eq_some_iff.mp hc' with ⟨rfl, rfl⟩ | ⟨-, hi⟩
      · have hold := hp _ _ hc
        exact hold
      · exact hp i c' hi
  | _ => exact absurd rfl hwake

/-- An assignment books its passenger only. -/
lemma Commits.unbooked_assign {e : Waitlist} {seat : Seat} {g : FlightId} {t : Time}
    (h : Commits b (.assign e seat g t) b') (hp : b.Unbooked p f) (hne : e.passengerId ≠ p) :
    b'.Unbooked p f := by
  intro i c' hc'
  cases h with
  | assign _ hpassenger _ =>
      rcases Bookings.update_eq_some_iff.mp hc' with ⟨-, rfl⟩ | ⟨-, hi⟩
      · rw [hpassenger]
        exact fun h => hne h.1
      · exact hp i c' hi

lemma Commits.taken_assign {e : Waitlist} {seat : Seat} {g : FlightId} {t : Time}
    (h : Commits b (.assign e seat g t) b') : ¬ b'.Vacant f seat.id := by
  rintro ⟨seat', hseat', -, hst⟩
  cases h with
  | assign _ _ _ =>
      rcases Bookings.update_eq_some_iff.mp hseat' with ⟨-, rfl⟩ | ⟨hne, -⟩
      · cases hst
      · exact hne rfl

/-- An entry that is waiting after a write was waiting before, unless it has been inserted. -/
lemma Requeues.waiting_backward {q q' : Queue} {w : World} (h : Requeues q a q')
    (hwarrant : a.Warrant w) (hno : ∀ g p n, a ≠ .insertWaitlist g p n) {i : WaitlistId}
    {e' : Waitlist} (he' : q' i = some e') (hst : e'.status = .waiting) :
    q i = some e' ∧ ∀ e seat g t, a = .assign e seat g t → e.id ≠ i := by
  cases h with
  | assign _ _ =>
      rcases Bookings.update_eq_some_iff.mp he' with ⟨-, rfl⟩ | ⟨hne, hi⟩
      · cases hst
      · refine ⟨hi, fun e seat g t heq => ?_⟩
        obtain ⟨rfl, -⟩ := Action.assign.inj heq
        exact hne.symm
  | @save snap e _ _ =>
      rcases Bookings.update_eq_some_iff.mp he' with ⟨-, rfl⟩ | ⟨hne, hi⟩
      · have hst : snap.status = .waiting := hst
        rcases hwarrant.2 with hcancelled | hexpired
        · cases hcancelled.symm.trans hst
        · cases hexpired.symm.trans hst
      · refine ⟨hi, fun e seat g t heq => ?_⟩
        cases heq
  | insert _ _ _ _ _ _ => exact absurd rfl (hno _ _ _)

/-- **An assignment to a passenger who can be served.** -/
lemma exec_assign_ok {w : World} {ch : Choice} {e : Waitlist} {seat : Seat} {t : Time}
    (hch : ch.fault = false) (hreg : w.db.Registered)
    (hwarrant : (Action.assign e seat f t).Warrant w)
    (hunbooked : w.db.bookings.Unbooked e.passengerId f)
    (hvacant : w.db.bookings.Vacant f seat.id) :
    (World.exec (.assign e seat f t) ch w).1 = .ok true := by
  obtain ⟨row, hrow, -, havailable⟩ := hvacant
  obtain ⟨⟨e₀, he₀, hsame⟩, -, hf⟩ := hwarrant
  obtain ⟨hp, hexists⟩ := hreg e.id e₀ he₀
  rw [hsame.2.1] at hp
  rw [hsame.1, hf] at hexists
  have hexec : w.transaction ch (Tx.assignTransaction w.now e seat f t) =
      World.exec (.assign e seat f t) ch w := rfl
  cases hbody : Tx.assignTransaction w.now e seat f t w.db with
  | error err =>
      rcases Tx.assignTransaction_error hbody with ⟨d, hd, hbooked⟩ | hnone | hnone | hnone
      · exact absurd hbooked (Database.unbooked_iff.mp hunbooked d hd)
      · exact absurd hp hnone
      · exact absurd hnone hexists
      · cases hrow.symm.trans hnone
  | ok out =>
      obtain ⟨assigned, db'⟩ := out
      rw [← hexec, World.transaction_ok hch hbody]
      rcases Tx.assignTransaction_ok hbody with ⟨rfl, -⟩ | ⟨rfl, -⟩
      · exact absurd havailable (Tx.assignTransaction_missed hbody hrow)
      · rfl

end Writes

/-! ## Handlers that can do what they are about to do -/

/-- No handler of flight `f` has a passenger with a check-in on the flight, or a seat that is not
available or not the one it is to assign. -/
structure Prepared (f : FlightId) (db : Database) (g : ℕ → Stage) : Prop where
  waiting : ∀ e, db.Waits f e → db.bookings.Unbooked e.passengerId f
  head : ∀ k u e, (g k).head? = some (u, e) → u.1 = f → db.bookings.Unbooked e.passengerId f
  seat : ∀ k u e s, g k = .found u e s → u.1 = f →
    db.bookings.Vacant f s.id ∧ ∀ i ∈ u.2, s.id = i

section Runs

variable {cfg : Settings} {w : World} {us₀ ts : List SkyTransition} {c₀ c c' : SkyConfig}
  {f : FlightId}

/-- Two calls that hold the lock are one. -/
lemma Orderly.eq_of_holds (h : Orderly f ts) {j k : ℕ} (hj : j ∈ lockHolders f ts)
    (hk : k ∈ lockHolders f ts) : j = k := by
  have hle := h.exclusive ts (List.prefix_refl ts)
  match hl : lockHolders f ts with
  | [] =>
      rw [hl] at hj
      exact absurd hj List.not_mem_nil
  | [i] =>
      rw [hl, List.mem_singleton] at hj hk
      rw [hj, hk]
  | _ :: _ :: _ =>
      rw [hl] at hle
      simp at hle

/-- What an action of a call does to flight `f`: it takes nothing from it, or it is the assignment
of a handler of the flight. -/
lemma act_keeps {g : Stage} {k : ℕ} {ch : Choice} {call : Call} {a : Action}
    {cont : Except AppException a.Res → Program Reply}
    (hk : c.threads[k]? = some ⟨call, .act a cont⟩) (hallows : g.Allows a)
    (hjust : Justified cfg ⟨c, .act k ch, c'⟩) :
    ((∀ p, c.state.db.bookings.Unbooked p f → c'.state.db.bookings.Unbooked p f) ∧
      ∀ s, c.state.db.bookings.Vacant f s → c'.state.db.bookings.Vacant f s) ∨
    ∃ u e s t, g = .found u e s ∧ u.1 = f ∧ a = .assign e s f t ∧
      committed? ⟨c, .act k ch, c'⟩ = some (.assign e s f t) ∧
      Commits c.state.db.bookings (.assign e s f t) c'.state.db.bookings := by
  cases hjust.effect with
  | quiet _ hquiet =>
      have hsame : c'.state.db.bookings = c.state.db.bookings := hquiet.1
      rw [hsame]
      exact .inl ⟨fun _ h => h, fun _ h => h⟩
  | @commit a' hc hpre hwrite _ =>
      have hc' : a.committed (World.exec a ch c.state).1 = true ∧ a' = a := by
        simp only [committed?, hk] at hc
        split at hc
        · rename_i hyes
          exact ⟨hyes, (Option.some_inj.mp hc).symm⟩
        · cases hc
      obtain ⟨hcommitted, rfl⟩ := hc'
      rcases Stage.wakes_or_found hallows hcommitted with hwake | ⟨u, e, s, t, rfl, rfl⟩
      · exact .inl ⟨fun p hp => hwrite.unbooked_forward hwake hp,
          fun s hs => hwrite.vacant_forward hwake hs⟩
      · by_cases hf : u.1 = f
        · subst hf
          exact .inr ⟨u, e, s, t, rfl, rfl, rfl, hc, hwrite⟩
        · have hsame := hwrite.sameFlight hjust.linked hpre (f := u.1) rfl (Ne.symm hf)
          exact .inl ⟨fun p hp => hsame.unbooked hp, fun s hs => hsame.vacant.mpr hs⟩

/-- An entry that waits has waited before. -/
lemma waits_backward {k : ℕ} {ch : Choice} {call : Call} {a : Action}
    {cont : Except AppException a.Res → Program Reply} {g : Stage}
    (hk : c.threads[k]? = some ⟨call, .act a cont⟩) (hallows : g.Allows a)
    (hqueue : QueueEffect ⟨c, .act k ch, c'⟩) {e' : Waitlist} (he' : c'.state.db.Waits f e') :
    c.state.db.Waits f e' ∧ ∀ e s h t, requeued? ⟨c, .act k ch, c'⟩ = some (.assign e s h t) →
      e.id ≠ e'.id := by
  obtain ⟨hrow, hf, hst⟩ := he'
  cases hqueue with
  | same hnone heq =>
      have hsame : c'.state.db.queue = c.state.db.queue := congrArg Table.get? heq
      rw [hsame] at hrow
      refine ⟨⟨hrow, hf, hst⟩, fun e s h t hre => ?_⟩
      cases hnone.symm.trans hre
  | @write a' hsome hwarrant hwrite =>
      have ha : a' = a := by
        simp only [requeued?, hk] at hsome
        split at hsome
        · exact (Option.some_inj.mp hsome).symm
        · cases hsome
      subst ha
      have hno : ∀ g p n, a' ≠ .insertWaitlist g p n := by
        rintro h p n rfl
        cases g with
        | free =>
            rcases hallows with hplain | hwake
            · cases hplain
            · exact hwake rfl
        | called | locked | queued => cases hallows
        | found =>
            rcases hallows with h | ⟨t, h⟩
            · cases h
            · cases h
        | owing | leaving =>
            rcases hallows with h | h
            · cases h
            · cases h
        | failed =>
            rcases hallows with h | ⟨t, h⟩
            · cases h
            · cases h
      obtain ⟨hold, hne⟩ := hwrite.waiting_backward hwarrant hno hrow hst
      refine ⟨⟨hold, hf, hst⟩, fun e s h t hre => ?_⟩
      exact hne e s h t (Option.some_inj.mp (hsome.symm.trans hre))

/-- A handler that goes on has found its passenger and its seat. -/
lemma Prepared.next {g : ℕ → Stage} {k : ℕ} {ch : Choice} {w : World} {a : Action} {u : WakeUp}
    {e : Waitlist} (h : Prepared f w.db g) (hch : ch.fault = false) (hallows : (g k).Allows a)
    (hf : u.1 = f)
    (hnext : (wakeUpMonitor.next (g k) a (World.exec a ch w).1).head? = some (u, e)) :
    w.db.bookings.Unbooked e.passengerId f ∧
      ∀ s, wakeUpMonitor.next (g k) a (World.exec a ch w).1 = .found u e s →
        w.db.bookings.Vacant f s.id ∧ ∀ i ∈ u.2, s.id = i := by
  have hexec : World.exec a ch w = ((World.exec a ch w).1, (World.exec a ch w).2) := rfl
  have hhead := h.head k
  have hseat := h.seat k
  generalize g k = stage at hallows hnext hhead hseat ⊢
  generalize (World.exec a ch w).1 = r at hexec hnext ⊢
  generalize (World.exec a ch w).2 = w' at hexec
  cases r with
  | error err => cases hnext
  | ok v =>
      cases stage with
      | free =>
          cases a with
          | release seat => cases v <;> cases hnext
          | _ => cases hnext
      | owing u' =>
          cases a with
          | emit event => cases event <;> cases hnext
          | _ => cases hnext
      | called u' | failed => cases hnext
      | locked u' =>
          obtain rfl : a = _ := hallows
          cases v with
          | none => cases hnext
          | some entry =>
              obtain ⟨rfl, rfl⟩ := Prod.mk.inj (Option.some_inj.mp hnext)
              obtain ⟨rfl, ⟨hr, -⟩ | ⟨e', hr, hforemost⟩⟩ := exec_findOneWaitlist_waiting hch hexec
              · cases hr
              · obtain rfl := Option.some_inj.mp (Except.ok.inj hr)
                refine ⟨h.waiting _ (hf ▸ hforemost.1), fun s hs => ?_⟩
                cases hs
      | queued u' e' =>
          obtain rfl : a = _ := hallows
          cases v with
          | none => cases hnext
          | some seat =>
              obtain ⟨rfl, rfl⟩ := Prod.mk.inj (Option.some_inj.mp hnext)
              obtain ⟨rfl, ⟨hr, -⟩ | ⟨seat', hr, hoffers⟩⟩ := exec_findOneSeat_available hch hexec
              · cases hr
              · obtain rfl := Option.some_inj.mp (Except.ok.inj hr)
                refine ⟨hhead _ _ rfl hf, fun s hs => ?_⟩
                obtain ⟨-, -, rfl⟩ := Stage.found.inj hs
                obtain ⟨hrow, hflight, hst, hnamed⟩ := hoffers
                exact ⟨⟨seat, hrow, hflight.trans hf, hst⟩, hnamed⟩
      | found u' e' s' =>
          rcases hallows with rfl | ⟨t, rfl⟩
          · obtain ⟨rfl, rfl⟩ := Prod.mk.inj (Option.some_inj.mp hnext)
            exact ⟨hhead _ _ rfl hf, fun s hs => hseat _ _ _ hs hf⟩
          · cases hnext
      | leaving u' =>
          cases a with
          | releaseLock resource => cases resource <;> cases hnext
          | _ => cases hnext

/-- A call that assigns a seat of flight `f` is the only handler of the flight with its lock, and
serves a passenger whom no other entry names. -/
lemma Prepared.assigned {g : ℕ → Stage} {k : ℕ} {db' : Database} {e : Waitlist} {seat : Seat}
    {t : Time} (h : Prepared f c.state.db g) (hsole : c.state.db.queue.Sole)
    (hwarrant : (Action.assign e seat f t).Warrant c.state)
    (halone : ∀ j v, (g j).inside? = some v → v.1 = f → j = k)
    (hwrite : Commits c.state.db.bookings (.assign e seat f t) db'.bookings)
    (hbackward : ∀ e', db'.Waits f e' → c.state.db.Waits f e' ∧ e.id ≠ e'.id) {stage : Stage}
    (hstage : stage.head? = none) : Prepared f db' (Function.update g k stage) := by
  have hnobody : ∀ j v e', (Function.update g k stage j).head? = some (v, e') → v.1 ≠ f := by
    intro j v e' he' hv
    by_cases hjk : j = k
    · subst hjk
      rw [Function.update_self, hstage] at he'
      cases he'
    · rw [Function.update_of_ne hjk] at he'
      exact hjk (halone j v (Stage.inside_of_head he') hv)
  refine ⟨fun e' he' => ?_, fun j v e' he' hv => ?_, fun j v e' s hs hv => ?_⟩
  · obtain ⟨hwaits, hne⟩ := hbackward e' he'
    refine hwrite.unbooked_assign (h.waiting e' hwaits) fun hp => hne ?_
    obtain ⟨⟨e₀, he₀, hsame⟩, -, hflight⟩ := hwarrant
    exact hsole e.id e'.id e₀ e' he₀ hwaits.1 (hsame.1.trans (hflight.trans hwaits.2.1.symm))
      (hsame.2.1.trans hp)
  · exact absurd hv (hnobody j v e' he')
  · exact absurd hv (hnobody j v e' (by rw [hs]; rfl))

/-- **The handlers of flight `f` can do what they are about to do**, in every state of an orderly
run from a state in which everybody who waits is without a check-in. -/
lemma run_prepared (hw : w.Seeded) (h₀ : (skyHigh cfg).Run (.init w) us₀ c₀)
    (hquiet : c₀.quiescent)
    (hwaiting : ∀ e, c₀.state.db.Waits f e → c₀.state.db.bookings.Unbooked e.passengerId f)
    (h : (skyHigh cfg).Run c₀ ts c) (horderly : Orderly f ts) :
    Prepared f c.state.db (stages cfg ts) := by
  induction h with
  | nil =>
      refine ⟨hwaiting, fun k u e he => ?_, fun k u e s hs => ?_⟩
      · cases he
      · cases hs
  | @snoc ts c l c' hrun hstep ih =>
      have horderly' : Orderly f ts := horderly.of_prefix (List.prefix_append _ _)
      have ih := ih horderly'
      have hall := h₀.append hrun
      have hjust : Justified cfg ⟨c, l, c'⟩ := run_justified hw (hall.snoc hstep) _ (by simp)
      have hqueue : QueueEffect ⟨c, l, c'⟩ := step_requeues hw hall hstep
      rcases (skyHigh cfg).step_cases hstep with ⟨call, rfl, rfl⟩ | ⟨ms, rfl, rfl⟩ |
        ⟨k, ch, call, a, cont, rfl, hk, rfl⟩
      · have hold : ∀ j v e',
            (Function.update (stages cfg ts) c.threads.length call.stage j).head? = some (v, e') →
              j ≠ c.threads.length := by
          rintro j v e' he' rfl
          rw [Function.update_self, Stage.head_of_stage] at he'
          cases he'
        rw [stages_invoke]
        refine ⟨ih.waiting, fun j v e' he' => ?_, fun j v e' s hs => ?_⟩
        · have hne := hold j v e' he'
          rw [Function.update_of_ne hne] at he'
          exact ih.head j v e' he'
        · have hne := hold j v e' (by rw [hs]; rfl)
          rw [Function.update_of_ne hne] at hs
          exact ih.seat j v e' s hs
      · rw [stages_tick]
        exact ⟨ih.waiting, ih.head, ih.seat⟩
      · have hch : ch.fault = false := horderly.faultless _ List.mem_concat_self k ch rfl
        have hallows := ((run_staged hrun hquiet horderly'.calls).act hk ch).1
        have hbackward := fun e' (he' : Database.Waits _ f e') =>
          waits_backward hk hallows hqueue he'
        rw [stages_act hk]
        rcases act_keeps (f := f) hk hallows hjust with ⟨hunbooked, hvacant⟩ |
          ⟨u, e, seat, t, hstage, hf, rfl, hcommits, hwrite⟩
        · refine ⟨fun e' he' => hunbooked _ (ih.waiting e' (hbackward e' he').1),
            fun j v e' he' hv => ?_, fun j v e' s hs hv => ?_⟩
          · by_cases hjk : j = k
            · subst hjk
              rw [Function.update_self] at he'
              exact hunbooked _ (ih.next hch hallows hv he').1
            · rw [Function.update_of_ne hjk] at he'
              exact hunbooked _ (ih.head j v e' he' hv)
          · by_cases hjk : j = k
            · subst hjk
              rw [Function.update_self] at hs
              obtain ⟨hseat, hnamed⟩ := (ih.next hch hallows hv (by rw [hs]; rfl)).2 s hs
              exact ⟨hvacant _ hseat, hnamed⟩
            · rw [Function.update_of_ne hjk] at hs
              obtain ⟨hseat, hnamed⟩ := ih.seat j v e' s hs hv
              exact ⟨hvacant _ hseat, hnamed⟩
        · have hholds : k ∈ lockHolders f ts := by
            rw [← hf]
            exact run_holds hrun hquiet horderly'.calls (by rw [hstage]; rfl)
          refine ih.assigned (run_sole hw hall) (run_warrant hw hall hk).1 (fun j v hv hvf => ?_)
            hwrite (fun e' he' => ?_) ?_
          · have hj := run_holds hrun hquiet horderly'.calls hv
            rw [hvf] at hj
            exact horderly'.eq_of_holds hj hholds
          · obtain ⟨hwaits, hne⟩ := hbackward e' he'
            exact ⟨hwaits, hne e seat f t (requeued?_assign_iff.mpr hcommits)⟩
          · rw [hstage]
            cases (World.exec (.assign e seat f t) ch c.state).1 with
            | ok v => rfl
            | error err => rfl

/-! ## The tickets of a flight -/

/-- The available seats of flight `f` and its wake-ups. -/
def tickets (f : FlightId) (ts : List SkyTransition) (db : Database) : Tickets SeatId where
  free := db.bookings.Vacant f
  issued i := total woken? ts (f, i)
  used i := total settled? ts (f, i)

lemma total_concat_of_ne {yields : SkyTransition → Option WakeUp} {t : SkyTransition}
    (h : ∀ i, yields t ≠ some (f, i)) :
    (fun i => total yields (ts ++ [t]) (f, i)) = fun i => total yields ts (f, i) := by
  funext i
  rw [total_concat, if_neg (h i), Nat.add_zero]

lemma total_concat_of_eq {yields : SkyTransition → Option WakeUp} {t : SkyTransition}
    {i : Option SeatId} (h : yields t = some (f, i)) :
    (fun j => total yields (ts ++ [t]) (f, j)) =
      Tickets.plus (fun j => total yields ts (f, j)) i := by
  funext j
  rw [total_concat, h, Tickets.plus]
  simp

/-- A wake-up for flight `f` is asked for whenever a seat of the flight is freed. -/
lemma vacant_of_not_woken {t : SkyTransition} (hjust : Justified cfg t)
    (h : ∀ i, woken? t ≠ some (f, i)) {s : SeatId} (hs : t.post.state.db.bookings.Vacant f s) :
    t.pre.state.db.bookings.Vacant f s := by
  cases hjust.effect with
  | quiet _ hquiet =>
      rw [hquiet.1] at hs
      exact hs
  | @commit a hc hpre hwrite _ =>
      have hwoken : woken? t = a.wakeUp? := by rw [woken?, hc, Option.bind_some]
      rw [hwoken] at h
      cases hwake : a.wakeUp? with
      | none =>
          refine hwrite.vacant_backward hs fun hfreed => ?_
          cases a with
          | cancel | release => cases hwake
          | _ => cases hfreed
      | some u =>
          have hlocal : a.Local u.1 t.pre.state := by
            cases a with
            | cancel | release =>
                obtain rfl := Option.some_inj.mp hwake
                rfl
            | _ => cases hwake
          have hne : f ≠ u.1 := by
            rintro rfl
            exact h u.2 hwake
          exact ((hwrite.sameFlight hjust.linked hpre hlocal hne).vacant).mp hs

lemma next_of_woken? {t : SkyTransition} {u : WakeUp} (h : woken? t = some u) :
    ∃ k ch call a cont, t.label = .act k ch ∧ t.pre.threads[k]? = some ⟨call, .act a cont⟩ := by
  obtain ⟨a, ha, -⟩ := Option.bind_eq_some_iff.mp h
  obtain ⟨k, ch, call, cont, hl, hk⟩ := next_of_committed? ha
  exact ⟨k, ch, call, a, cont, hl, hk⟩

/-- A wake-up for flight `f` asks for the seat that has been freed, or for any. -/
lemma vacant_of_woken {t : SkyTransition} (hjust : Justified cfg t) {i : Option SeatId}
    (h : woken? t = some (f, i)) : ∃ r, (i = none ∨ i = some r) ∧
      ∀ s, t.post.state.db.bookings.Vacant f s → t.pre.state.db.bookings.Vacant f s ∨ s = r := by
  cases hjust.effect with
  | quiet hnone _ =>
      rw [woken?, hnone] at h
      cases h
  | @commit a hc _ hwrite _ =>
      have hwake : a.wakeUp? = some (f, i) := by rwa [woken?, hc, Option.bind_some] at h
      have hfreed : ∃ r, a.freed? = some r ∧ (i = none ∨ i = some r) := by
        generalize t.post.state.db.bookings = b' at hwrite
        cases hwrite with
        | @cancel snap p c r seat _ hsnap _ hseatId _ =>
            obtain ⟨-, rfl⟩ := Prod.mk.inj (Option.some_inj.mp hwake)
            exact ⟨r, hsnap.2.2.symm.trans hseatId, .inl rfl⟩
        | @release seat₀ seat p _ _ _ _ =>
            obtain ⟨-, rfl⟩ := Prod.mk.inj (Option.some_inj.mp hwake)
            exact ⟨seat₀.id, rfl, .inr rfl⟩
        | _ => cases hwake
      obtain ⟨r, hr, hi⟩ := hfreed
      refine ⟨r, hi, fun s hs => ?_⟩
      by_cases hsr : s = r
      · exact .inr hsr
      · refine .inl (hwrite.vacant_backward hs fun hs' => hsr ?_)
        exact Option.some_inj.mp (hs'.symm.trans hr)

/-- No seat is assigned that has a wake-up of its own still to be settled. -/
lemma not_named_of_steals {k : ℕ} {ch : Choice} {g : FlightId} {e : Waitlist} {seat : Seat}
    {t : Time} {cont : Except AppException Bool → Program Reply}
    (hk : c.threads[k]? = some ⟨.processWaitlist f none, .act (.assign e seat g t) cont⟩)
    (h : steals f ts ⟨c, .act k ch, c'⟩ = false) :
    total woken? ts (f, some seat.id) ≤ total settled? ts (f, some seat.id) := by
  unfold steals at h
  simp only [hk, true_and] at h
  simpa using h

/-- What makes a seat vacant settles nothing. -/
lemma not_settled_of_woken {t : SkyTransition} {u : WakeUp} (hwoken : woken? t = some u)
    (u' : WakeUp) : settled? t ≠ some u' := by
  intro hsettled
  obtain ⟨c, l, c'⟩ := t
  obtain ⟨k, ch, call, a, cont, rfl, hk⟩ := next_of_woken? hwoken
  have hwake := ((woken?_act hk).mp hwoken).2
  have hsettles := ((settled?_act hk).mp hsettled).1
  cases a with
  | cancel | release => cases hsettles
  | _ => cases hwake

/-- The assignment of a vacant seat to a passenger without a check-in takes the seat. -/
lemma taken_of_assign (hw : w.Seeded) (h : (skyHigh cfg).Run (.init w) us₀ c) {k : ℕ}
    {ch : Choice} {call : Call} {e : Waitlist} {seat : Seat} {t : Time}
    {cont : Except AppException Bool → Program Reply} (hch : ch.fault = false)
    (hk : c.threads[k]? = some ⟨call, .act (.assign e seat f t) cont⟩)
    (hstep : (skyHigh cfg).step (.act k ch) c = some c')
    (hunbooked : c.state.db.bookings.Unbooked e.passengerId f)
    (hvacant : c.state.db.bookings.Vacant f seat.id) :
    ¬ c'.state.db.bookings.Vacant f seat.id := by
  have hok := exec_assign_ok hch (run_registered hw h) (run_warrant hw h hk).1 hunbooked hvacant
  have hcommitted : committed? ⟨c, .act k ch, c'⟩ = some (.assign e seat f t) := by
    simp [committed?, hk, hok, Action.committed]
  have hjust : Justified cfg ⟨c, .act k ch, c'⟩ := run_justified hw (h.snoc hstep) _ (by simp)
  cases hjust.effect with
  | quiet hnone _ => cases hnone.symm.trans hcommitted
  | commit hc _ hwrite _ =>
      obtain rfl := Option.some_inj.mp (hcommitted.symm.trans hc)
      exact hwrite.taken_assign

/-- **A wake-up that is settled while somebody waits** finds no seat, or takes the seat that it has
found. -/
lemma finds_or_takes (hw : w.Seeded) (h₀ : (skyHigh cfg).Run (.init w) us₀ c₀)
    (hquiet : c₀.quiescent)
    (hwaiting : ∀ e, c₀.state.db.Waits f e → c₀.state.db.bookings.Unbooked e.passengerId f)
    (hrun : (skyHigh cfg).Run c₀ ts c) {l : SkyLabel} (hstep : (skyHigh cfg).step l c = some c')
    (horderly : Orderly f (ts ++ [⟨c, l, c'⟩])) (hwaits : ∃ e, c'.state.db.Waits f e)
    (hno : steals f ts ⟨c, l, c'⟩ = false) {i : Option SeatId}
    (hsettled : settled? ⟨c, l, c'⟩ = some (f, i)) :
    (∀ r, i = none ∨ i = some r → ¬ c.state.db.bookings.Vacant f r) ∨
      ∃ r, (i = some r ∨ (i = none ∧ (tickets f ts c.state.db).Loose r)) ∧
        ¬ c'.state.db.bookings.Vacant f r := by
  have horderly' : Orderly f ts := horderly.of_prefix (List.prefix_append _ _)
  rcases (skyHigh cfg).step_cases hstep with ⟨call, rfl, rfl⟩ | ⟨ms, rfl, rfl⟩ |
    ⟨k, ch, call, a, cont, rfl, hk, rfl⟩
  · cases hsettled
  · cases hsettled
  have hch : ch.fault = false := horderly.faultless _ List.mem_concat_self k ch rfl
  have hallows := ((run_staged hrun hquiet horderly'.calls).act hk ch).1
  have hprepared := run_prepared hw h₀ hquiet hwaiting hrun horderly'
  have hserving : ∀ u', (stages cfg ts k).serving? = some u' → call.handled? = some u' :=
    fun u' => run_serving hrun hquiet horderly'.calls hk
  obtain ⟨hsettles, hserves⟩ := (settles_iff hallows hserving).mp ((settled?_act hk).mp hsettled)
  have hexec : World.exec a ch c.state =
      ((World.exec a ch c.state).1, (World.exec a ch c.state).2) := rfl
  generalize hstage : stages cfg ts k = g at hallows hserves
  cases g with
  | free | owing | failed => cases hserves
  | called u =>
      obtain rfl : a = _ := hallows
      cases hsettles
  | locked u =>
      obtain rfl := Option.some_inj.mp hserves
      obtain rfl : a = _ := hallows
      obtain ⟨hsame, ⟨-, hnobody⟩ | ⟨e, hr, -⟩⟩ := exec_findOneWaitlist_waiting hch hexec
      · obtain ⟨e, he⟩ := hwaits
        rw [← hsame] at hnobody
        exact absurd he (hnobody e)
      · rw [hr] at hsettles
        cases hsettles
  | queued u e =>
      obtain rfl := Option.some_inj.mp hserves
      obtain rfl : a = _ := hallows
      obtain ⟨-, ⟨-, hnothing⟩ | ⟨seat, hr, -⟩⟩ := exec_findOneSeat_available hch hexec
      · refine .inl fun r hr hvacant => ?_
        obtain ⟨seat, hseat, hf, hst⟩ := hvacant
        obtain rfl : seat.id = r := Table.key_of_get? hseat
        refine hnothing seat ⟨hseat, hf, hst, fun j hj => ?_⟩
        rcases hr with rfl | rfl
        · cases hj
        · exact Option.some_inj.mp hj
      · rw [hr] at hsettles
        cases hsettles
  | found u e seat =>
      obtain rfl := Option.some_inj.mp hserves
      rcases hallows with rfl | ⟨t, rfl⟩
      · cases hsettles
      · obtain ⟨hvacant, hnamed⟩ := hprepared.seat k _ e seat hstage rfl
        have hunbooked := hprepared.head k _ e (by rw [hstage]; rfl) rfl
        have htaken := taken_of_assign hw (h₀.append hrun) hch hk hstep hunbooked hvacant
        refine .inr ⟨seat.id, ?_, htaken⟩
        cases i with
        | some r => exact .inl (congrArg some (hnamed r rfl).symm)
        | none =>
            obtain rfl := Call.eq_of_handled (hserving (f, none) (by rw [hstage]; rfl))
            exact .inr ⟨rfl, hvacant, not_named_of_steals hk hno⟩
  | leaving u =>
      rcases hallows with hplain | rfl
      · rw [(Stage.silent_of_plain hplain _).2.2] at hsettles
        cases hsettles
      · cases hsettles

/-- **A transition that nobody steals in is a step of the tickets**, while somebody waits. -/
theorem step_tickets (hw : w.Seeded) (h₀ : (skyHigh cfg).Run (.init w) us₀ c₀)
    (hquiet : c₀.quiescent)
    (hwaiting : ∀ e, c₀.state.db.Waits f e → c₀.state.db.bookings.Unbooked e.passengerId f)
    (hrun : (skyHigh cfg).Run c₀ ts c) {l : SkyLabel} (hstep : (skyHigh cfg).step l c = some c')
    (horderly : Orderly f (ts ++ [⟨c, l, c'⟩])) (hwaits : ∃ e, c'.state.db.Waits f e)
    (hno : steals f ts ⟨c, l, c'⟩ = false) :
    (tickets f ts c.state.db).Step (tickets f (ts ++ [⟨c, l, c'⟩]) c'.state.db) := by
  have hjust : Justified cfg ⟨c, l, c'⟩ :=
    run_justified hw ((h₀.append hrun).snoc hstep) _ (by simp)
  by_cases hwoken : ∃ i, woken? ⟨c, l, c'⟩ = some (f, i)
  · obtain ⟨i, hwoken⟩ := hwoken
    obtain ⟨r, hi, hfree⟩ := vacant_of_woken hjust hwoken
    exact .issue hi hfree (total_concat_of_eq hwoken)
      (total_concat_of_ne fun j => not_settled_of_woken hwoken (f, j))
  rw [not_exists] at hwoken
  have hfree := fun s => vacant_of_not_woken (s := s) hjust hwoken
  have hissued : (tickets f (ts ++ [⟨c, l, c'⟩]) c'.state.db).issued =
      (tickets f ts c.state.db).issued := total_concat_of_ne hwoken
  by_cases hsettled : ∃ i, settled? ⟨c, l, c'⟩ = some (f, i)
  · obtain ⟨i, hsettled⟩ := hsettled
    have hused : (tickets f (ts ++ [⟨c, l, c'⟩]) c'.state.db).used =
        Tickets.plus (tickets f ts c.state.db).used i := total_concat_of_eq hsettled
    rcases finds_or_takes hw h₀ hquiet hwaiting hrun hstep horderly hwaits hno hsettled with
      hnone | ⟨r, hr, htaken⟩
    · exact .waste (fun r hr hvacant => hnone r hr (hfree r hvacant)) hfree hissued hused
    · exact .take hr htaken hfree hissued hused
  · rw [not_exists] at hsettled
    exact .still hfree hissued (total_concat_of_ne hsettled)

/-- No wake-up has been settled more often than it has been asked for. -/
lemma run_sound (h : (skyHigh cfg).Run c₀ ts c) (hquiet : c₀.quiescent) (horderly : Orderly f ts) :
    (tickets f ts c.state.db).Sound := by
  intro i
  have hbalance := run_balance h hquiet horderly.calls horderly.faultless (f, i)
  have hcaused : total issued? ts (f, i) ≤ total announced? ts (f, i) :=
    (horderly.caused ts (List.prefix_refl ts)).count_le (f, i)
  show total settled? ts (f, i) ≤ total woken? ts (f, i)
  omega

/-- Once nothing is in flight and every event has been handled, every wake-up has been settled. -/
lemma run_settled (h : (skyHigh cfg).Run c₀ ts c) (hquiet : c₀.quiescent) (horderly : Orderly f ts)
    (hhandled : (ts.filterMap issued?).Perm (ts.filterMap announced?)) (hend : c.quiescent)
    (i : Option SeatId) :
    (tickets f ts c.state.db).issued i ≤ (tickets f ts c.state.db).used i := by
  have hbalance := run_balance h hquiet horderly.calls horderly.faultless (f, i)
  have hcount : total issued? ts (f, i) = total announced? ts (f, i) := hhandled.count_eq (f, i)
  have hnone : tally (Stage.pends (f, i)) (stages cfg ts) c.threads.length = 0 := by
    refine tally_eq_zero fun k hk => ?_
    have hfinal := (run_staged h hquiet horderly.calls).final (List.getElem?_eq_getElem hk)
      (hend _ (List.getElem_mem hk))
    rcases hfinal with hfree | hfailed
    · rw [hfree]
      rfl
    · rw [hfailed]
      rfl
  show total woken? ts (f, i) ≤ total settled? ts (f, i)
  omega

/-- While somebody waits, every available seat has a wake-up that is not settled. -/
lemma run_covered (hw : w.Seeded) (h₀ : (skyHigh cfg).Run (.init w) us₀ c₀)
    (hquiet : c₀.quiescent) (hfull : ∀ seat, ¬ c₀.state.db.Offers f none seat)
    (hwaiting : ∀ e, c₀.state.db.Waits f e → c₀.state.db.bookings.Unbooked e.passengerId f)
    (h : (skyHigh cfg).Run c₀ ts c) (horderly : Orderly f ts)
    (hno : ∀ us t vs, ts = us ++ t :: vs → steals f us t = false)
    (hwaits : ∃ e, c.state.db.Waits f e) : (tickets f ts c.state.db).Covered := by
  induction h with
  | nil =>
      refine .of_not_free (fun s hs => ?_) (Nat.le_refl 0)
      obtain ⟨seat, hseat, hf, hst⟩ := hs
      obtain rfl : seat.id = s := Table.key_of_get? hseat
      refine hfull seat ⟨hseat, hf, hst, fun i hi => ?_⟩
      cases hi
  | @snoc ts c l c' hrun hstep ih =>
      have horderly' : Orderly f ts := horderly.of_prefix (List.prefix_append _ _)
      have hqueue : QueueEffect ⟨c, l, c'⟩ := step_requeues hw (h₀.append hrun) hstep
      have hwaits' : ∃ e, c.state.db.Waits f e := by
        obtain ⟨e, he⟩ := hwaits
        refine ⟨e, ?_⟩
        rcases (skyHigh cfg).step_cases hstep with ⟨call, rfl, rfl⟩ | ⟨ms, rfl, rfl⟩ |
          ⟨k, ch, call, a, cont, rfl, hk, rfl⟩
        · exact he
        · exact he
        · have hallows := ((run_staged hrun hquiet horderly'.calls).act hk ch).1
          exact (waits_backward hk hallows hqueue he).1
      have hno' : ∀ us t vs, ts = us ++ t :: vs → steals f us t = false := by
        intro us t vs hts
        exact hno us t (vs ++ [⟨c, l, c'⟩]) (by rw [hts, List.append_assoc, List.cons_append])
      have hstep' := step_tickets hw h₀ hquiet hwaiting hrun hstep horderly hwaits
        (hno ts _ [] rfl)
      exact (ih horderly' hno' hwaits').step (run_sound hrun hquiet horderly')
        (run_sound (hrun.snoc hstep) hquiet horderly) hstep'

/-- **A freed seat is offered.**  Flight `f` has no available seat, and everybody on its waitlist is
without a check-in.  After an orderly run in which every event has been handled, the flight does
not have both an available seat and somebody waiting, unless a handler has stolen a seat. -/
theorem freedSeats_offered (hw : w.Seeded) (h₀ : (skyHigh cfg).Run (.init w) us₀ c₀)
    (hquiet : c₀.quiescent) (hfull : ∀ seat, ¬ c₀.state.db.Offers f none seat)
    (hwaiting : ∀ e, c₀.state.db.Waits f e → c₀.state.db.bookings.Unbooked e.passengerId f)
    (h : (skyHigh cfg).Run c₀ ts c) (horderly : Orderly f ts)
    (hhandled : (ts.filterMap issued?).Perm (ts.filterMap announced?))
    (hno : ∀ us t vs, ts = us ++ t :: vs → steals f us t = false) (hend : c.quiescent) :
    ¬ ((∃ seat, c.state.db.Offers f none seat) ∧ ∃ e, c.state.db.Waits f e) := by
  rintro ⟨⟨seat, hrow, hf, hst, -⟩, hwaits⟩
  have hcovered := run_covered hw h₀ hquiet hfull hwaiting h horderly hno hwaits
  exact hcovered.not_free (run_settled h hquiet horderly hhandled hend) seat.id
    ⟨seat, hrow, hf, hst⟩

end Runs

/-! ## Two seats and two handlers -/

/-- Passengers 1 and 2 take the seats, passengers 3 and 4 join the waitlist, and the holds run
out. -/
def fullFlight : List SkyLabel :=
  start ++ [.invoke (.startCheckIn 2 ⟨10, 101⟩)] ++ proceed 1 10 ++
  [.invoke (.joinWaitlist 3 10)] ++ proceed 2 5 ++ [.invoke (.joinWaitlist 4 10)] ++ proceed 3 5 ++
  [.tick 120000]

/-- Seat 100 is released and passenger 2 cancels; both handlers are issued. -/
def releaseAndCancel : List SkyLabel :=
  [.invoke (.releaseSeat 100)] ++ proceed 4 8 ++ [.invoke (.cancelCheckIn 2 2)] ++ proceed 5 7 ++
  [.invoke (.processWaitlist 10 none), .invoke (.processWaitlist 10 (some 100))]

/-- A test for what is assumed of a run. -/
def orderly (f : FlightId) (ts : List SkyTransition) : Bool :=
  ts.all (fun t => t.label.issued.all Call.wakes) && ts.all faultless &&
    ts.inits.all fun us =>
      decide ((us.filterMap issued?).Subperm (us.filterMap announced?)) &&
        decide ((lockHolders f us).length ≤ 1)

lemma orderly_of_test {f : FlightId} {ts : List SkyTransition} (h : orderly f ts = true) :
    Orderly f ts := by
  simp only [orderly, Bool.and_eq_true, List.all_eq_true, decide_eq_true_eq, List.mem_inits] at h
  obtain ⟨⟨hcalls, hfaultless⟩, hinits⟩ := h
  refine ⟨fun t ht call hl => hcalls t ht call ?_, fun us hus => (hinits us hus).1,
    fun us hus => (hinits us hus).2, faultless_of_all (List.all_eq_true.mpr hfaultless)⟩
  rw [hl]
  exact List.mem_singleton_self call

/-- A test for what is assumed of the state before the run. -/
def sold (f : FlightId) (c : SkyConfig) : Bool :=
  ended c && decide (∀ seat ∈ c.state.db.seats.rows, ¬ c.state.db.Offers f none seat) &&
    decide (∀ e ∈ c.state.db.waitlist.rows, c.state.db.Waits f e →
      c.state.db.bookings.Unbooked e.passengerId f)

lemma sold_spec {f : FlightId} {c : SkyConfig} (h : sold f c = true) : c.quiescent ∧
    (∀ seat, ¬ c.state.db.Offers f none seat) ∧
    ∀ e, c.state.db.Waits f e → c.state.db.bookings.Unbooked e.passengerId f := by
  simp only [sold, Bool.and_eq_true, decide_eq_true_eq] at h
  obtain ⟨⟨hended, hfull⟩, hwaiting⟩ := h
  refine ⟨quiescent_of_ended hended, fun seat hseat => ?_, fun e he => ?_⟩
  · exact hfull seat (Database.offers_iff.mp hseat).1 hseat
  · exact hwaiting e (Database.waits_iff.mp he).1 he

/-- If the handler of the release comes first, both passengers are served. -/
theorem freedSeats_offered_inOrder : ∃ us c₀ ts c, (skyHigh {}).Run (.init twoSeatWorld) us c₀ ∧
    (skyHigh {}).Run c₀ ts c ∧ c.state.db.held 100 = true ∧ c.state.db.held 101 = true ∧
    ¬ ((∃ seat, c.state.db.Offers 10 none seat) ∧ ∃ e, c.state.db.Waits 10 e) := by
  obtain ⟨us, c₀, ts, c, hrun₀, hrun, htest⟩ := exists_runs twoSeatWorld fullFlight
    (releaseAndCancel ++ proceed 7 9 ++ proceed 6 9) (fun c₀ ts c =>
      sold 10 c₀ && orderly 10 ts && ended c && c.state.db.held 100 && c.state.db.held 101 &&
      decide ((ts.filterMap issued?).Perm (ts.filterMap announced?)) &&
      ts.inits.all fun us => us.getLast?.all fun t => !steals 10 us.dropLast t) (by decide +kernel)
  simp only [Bool.and_eq_true, decide_eq_true_eq, List.all_eq_true, List.mem_inits,
    Option.all_eq_true, Bool.not_eq_true'] at htest
  obtain ⟨⟨⟨⟨⟨⟨hsold, horderly⟩, hended⟩, hheld⟩, hheld'⟩, hhandled⟩, hno⟩ := htest
  obtain ⟨hquiet, hfull, hwaiting⟩ := sold_spec hsold
  refine ⟨us, c₀, ts, c, hrun₀, hrun, hheld, hheld', freedSeats_offered twoSeatWorld_seeded hrun₀
    hquiet hfull hwaiting hrun (orderly_of_test horderly) hhandled ?_ (quiescent_of_ended hended)⟩
  rintro us t vs rfl
  have hlast := hno (us ++ [t]) ⟨vs, by simp⟩ t (by simp)
  rwa [List.dropLast_concat] at hlast

/-- **If the handler of the cancellation takes seat 100, seat 101 is left** while passenger 4
waits. -/
theorem freedSeats_left : ∃ us c₀ ts c, twoSeatWorld.Seeded ∧
    (skyHigh {}).Run (.init twoSeatWorld) us c₀ ∧ c₀.quiescent ∧
    (∀ seat, ¬ c₀.state.db.Offers 10 none seat) ∧
    (∀ e, c₀.state.db.Waits 10 e → c₀.state.db.bookings.Unbooked e.passengerId 10) ∧
    (skyHigh {}).Run c₀ ts c ∧ Orderly 10 ts ∧
    (ts.filterMap issued?).Perm (ts.filterMap announced?) ∧ c.quiescent ∧
    (∃ seat, c.state.db.Offers 10 none seat) ∧ ∃ e, c.state.db.Waits 10 e := by
  obtain ⟨us, c₀, ts, c, hrun₀, hrun, htest⟩ := exists_runs twoSeatWorld fullFlight
    (releaseAndCancel ++ proceed 6 9 ++ proceed 7 4) (fun c₀ ts c =>
      sold 10 c₀ && orderly 10 ts && ended c &&
      decide ((ts.filterMap issued?).Perm (ts.filterMap announced?)) &&
      decide (∃ seat ∈ c.state.db.seats.rows, c.state.db.Offers 10 none seat) &&
      decide (∃ e ∈ c.state.db.waitlist.rows, c.state.db.Waits 10 e)) (by decide +kernel)
  simp only [Bool.and_eq_true, decide_eq_true_eq] at htest
  obtain ⟨⟨⟨⟨⟨hsold, horderly⟩, hended⟩, hhandled⟩, seat, -, hseat⟩, e, -, he⟩ := htest
  obtain ⟨hquiet, hfull, hwaiting⟩ := sold_spec hsold
  exact ⟨us, c₀, ts, c, twoSeatWorld_seeded, hrun₀, hquiet, hfull, hwaiting, hrun,
    orderly_of_test horderly, hhandled, quiescent_of_ended hended, ⟨seat, hseat⟩, e, he⟩

end SkyHighCore
