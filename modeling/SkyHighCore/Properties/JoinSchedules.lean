import SkyHighCore.Framework.Monitor
import SkyHighCore.Properties.Alphabet
import SkyHighCore.Properties.Positions

/-!
# Inserts between the two statements of a join

A join asks for the greatest position of its flight in one statement, and inserts the next one in
another.  `joinMonitor` ties the position that a call inserts to what the same call has been told.
Hence every insert carries the next position of its moment exactly if no entry of the flight is
inserted between the question and the insert of a join (`joinsUndisturbed_iff_writesNext`), and
exactly then the positions are a linear order of the joins (`fifo_iff_joinsUndisturbed`).
-/

namespace SkyHighCore

open Framework

variable {cfg : Settings} {w : World} {f : FlightId} {us ms ts : List SkyTransition}
  {c c₁ : SkyConfig}

/-- In the transition, call `k` asks for the greatest position of flight `f`. -/
def AsksMax (f : FlightId) (k : ℕ) (t : SkyTransition) : Prop :=
  ∃ ch call cont, t.label = .act k ch ∧ t.pre.threads[k]? = some ⟨call, .act (.maxPosition f) cont⟩

/-- The transition inserts an entry of flight `f`. -/
def Enlists (f : FlightId) (t : SkyTransition) : Prop :=
  ∃ p n, requeued? t = some (.insertWaitlist f p n)

/-- No entry of flight `f` is inserted between a call's question for the greatest position and its
own insert. -/
def JoinsUndisturbed (f : FlightId) (ts : List SkyTransition) : Prop :=
  ∀ us q ms t vs k ch, ts = us ++ q :: (ms ++ t :: vs) → AsksMax f k q → t.label = .act k ch →
    Enlists f t → ∀ t' ∈ ms, ¬ Enlists f t'

/-! ## The monitor -/

/-- How far a call has come in joining a waitlist. -/
inductive JoinStage where
  /-- The call is not going to insert anything. -/
  | aside
  /-- The greatest position has not been asked for. -/
  | arriving
  /-- The answer makes `position` the next one on the flight. -/
  | placed (flightId : FlightId) (position : ℕ)

namespace JoinStage

/-- What a call may do next: ask once, and insert what follows from the answer. -/
def Allows (stage : JoinStage) : Action → Prop
  | .maxPosition _ => ∀ f n, stage ≠ .placed f n
  | .insertWaitlist f _ n => stage = .placed f n
  | _ => True

/-- Where an action leaves its call. -/
def next : JoinStage → (a : Action) → Except AppException a.Res → JoinStage
  | .arriving, .maxPosition f, .ok max => .placed f (max.getD 0 + 1)
  | .arriving, .maxPosition _, .error _ => .aside
  | stage, _, _ => stage

/-- Only a question moves a call. -/
lemma next_of_ne {a : Action} {stage : JoinStage} (h : ∀ f, a ≠ .maxPosition f)
    (r : Except AppException a.Res) : stage.next a r = stage := by
  cases a with
  | maxPosition f => exact absurd rfl (h f)
  | _ => cases stage <;> rfl

/-- The stage in which a call is issued. -/
def start : Call → JoinStage
  | .joinWaitlist _ _ => .arriving
  | _ => .aside

end JoinStage

def joinMonitor : Monitor Action Action.Res AppException JoinStage where
  start := .aside
  allows := JoinStage.Allows
  next := JoinStage.next
  final _ := True

lemma joinMonitor_neutral {a : Action} (h : ∀ f p n, a ≠ .insertWaitlist f p n) :
    joinMonitor.Neutral .aside a := by
  cases a with
  | insertWaitlist f p n => exact absurd rfl (h f p n)
  | maxPosition f =>
      refine ⟨?_, fun _ => rfl⟩
      intro f n heq
      cases heq
  | _ => exact ⟨trivial, fun _ => rfl⟩

namespace WaitlistService

open Monitor

/-- A call asks once. -/
lemma reaches_getNextPosition (f : FlightId) :
    joinMonitor.Reaches (skyHigh cfg) (fun _ => True) .arriving (getNextPosition f)
      fun n stage => stage = .placed f n := by
  have hasks : joinMonitor.Reaches (skyHigh cfg) (fun _ => True) .arriving (maxPosition f)
      fun max stage => stage = .placed f (max.getD 0 + 1) := by
    have hallows : JoinStage.Allows .arriving (.maxPosition f) := by
      intro f' n heq
      cases heq
    exact reaches_perform hallows (fun _ => trivial) fun _ => rfl
  apply hasks.bind
  rintro max _ rfl
  exact rfl

/-- What is read before and written to the audit log after leaves a call where it is. -/
lemma reaches_passive {a : Action} {stage : JoinStage} (hmax : ∀ f, a ≠ .maxPosition f)
    (hinsert : ∀ f p n, a ≠ .insertWaitlist f p n) :
    joinMonitor.Reaches (skyHigh cfg) (fun _ => True) stage (act a)
      fun _ stage' => stage' = stage := by
  have hallows : stage.Allows a := by
    cases a with
    | insertWaitlist f p n => exact absurd rfl (hinsert f p n)
    | maxPosition f => exact absurd rfl (hmax f)
    | _ => trivial
  exact reaches_perform hallows (fun _ => trivial) fun r => JoinStage.next_of_ne hmax (.ok r)

theorem obeys_joinWaitlist (p : PassengerId) (f : FlightId) :
    joinMonitor.Obeys (skyHigh cfg) .arriving (joinWaitlist p f) := by
  apply Reaches.obeys (E := fun _ => True) _ fun _ _ => trivial
  apply (reaches_passive (a := .findOneFlight f) (by simp) (by simp)).bind
  rintro flight _ rfl
  cases flight with
  | none => trivial
  | some flight =>
      apply (reaches_passive (a := .findOneWaitlist _) (by simp) (by simp)).bind
      rintro existing _ rfl
      apply (reaches_throwWhen trivial).bind
      rintro _ _ rfl
      apply (reaches_getNextPosition f).bind
      rintro n _ rfl
      have hinserts : joinMonitor.Reaches (skyHigh cfg) (fun _ => True) (.placed f n)
          (insertWaitlist f p n) fun _ _ => True :=
        reaches_perform rfl (fun _ => trivial) fun _ => trivial
      apply hinserts.bind
      intro saved stage _
      apply (reaches_passive (a := .auditLog _) (by simp) (by simp)).bind
      exact fun _ _ _ => trivial

end WaitlistService

theorem obeys_joinMonitor (call : Call) :
    joinMonitor.Obeys (skyHigh cfg) (JoinStage.start call) ((skyHigh cfg).start call) := by
  have haside : (∀ f p n, call.uses (.insertWaitlist f p n) = false) →
      joinMonitor.Obeys (skyHigh cfg) .aside ((skyHigh cfg).start call) := by
    intro hnever
    refine .of_neutral trivial ((Call.all_uses cfg call).mono fun a ha => joinMonitor_neutral ?_)
    rintro f p n rfl
    cases ha.symm.trans (hnever f p n)
  cases call with
  | joinWaitlist p f => exact Prog.wp_map (WaitlistService.obeys_joinWaitlist p f)
  | _ => exact haside fun _ _ _ => rfl

/-! ## The stages of a run -/

/-- The stage of each call after the transitions `ts`. -/
def joinStages (cfg : Settings) (ts : List SkyTransition) : ℕ → JoinStage :=
  joinMonitor.states (skyHigh cfg) JoinStage.start ts

/-- A call does what its stage allows. -/
lemma joinStages_allows {k : ℕ} {call : Call} {a : Action}
    {cont : Except AppException a.Res → Program Reply} (h : (skyHigh cfg).Run (.init w) ts c)
    (hk : c.threads[k]? = some ⟨call, .act a cont⟩) : (joinStages cfg ts k).Allows a := by
  have htracked : joinMonitor.Tracked (skyHigh cfg) c (joinStages cfg ts) :=
    Monitor.run_tracked h (Monitor.Tracked.init w) fun _ _ call _ => obeys_joinMonitor call
  exact (htracked.act hk {}).1

/-- The next position on flight `f`, for one who asks now. -/
def Queue.Next (q : Queue) (f : FlightId) (n : ℕ) : Prop :=
  (∀ m, q.Taken f m → m < n) ∧ (n = 1 ∨ q.Taken f (n - 1))

lemma next_of_maxPosition {ch : Choice} {max : Option ℕ}
    (h : (World.exec (.maxPosition f) ch w).1 = .ok max) :
    w.db.queue.Next f (max.getD 0 + 1) := by
  obtain ⟨-, htaken, hmax⟩ := WaitlistService.exec_maxPosition (Prod.ext h rfl)
  refine ⟨fun m hm => Nat.lt_succ_of_le (hmax m hm), ?_⟩
  cases max with
  | none => exact .inl rfl
  | some n => exact .inr (htaken n rfl)

/-- A call is given its position by the answer. -/
lemma JoinStage.next_eq_placed {stage : JoinStage} {a : Action} {ch : Choice} {n : ℕ}
    (h : stage.next a (World.exec a ch w).1 = .placed f n) :
    stage = .placed f n ∨ a = .maxPosition f ∧ w.db.queue.Next f n := by
  cases stage with
  | aside => cases h
  | placed f' n' => exact .inl h
  | arriving =>
      cases a with
      | maxPosition f' =>
          cases hr : (World.exec (.maxPosition f') ch w).1 with
          | error e =>
              rw [hr] at h
              cases h
          | ok max =>
              rw [hr] at h
              cases h
              exact .inr ⟨rfl, next_of_maxPosition hr⟩
      | _ => cases h

/-- A call that has a position has asked for it. -/
lemma asked_of_placed (h : (skyHigh cfg).Run (.init w) ts c) {k n : ℕ}
    (hk : joinStages cfg ts k = .placed f n) :
    ∃ us q ms, ts = us ++ q :: ms ∧ AsksMax f k q ∧ q.pre.state.db.queue.Next f n := by
  induction h with
  | nil => cases hk
  | @snoc ts c l c' hrun hstep ih =>
      have hbefore : joinStages cfg ts k = .placed f n → ∃ us q ms,
          ts ++ [⟨c, l, c'⟩] = us ++ q :: ms ∧ AsksMax f k q ∧ q.pre.state.db.queue.Next f n := by
        intro hk
        obtain ⟨us, q, ms, rfl, hasks, hnext⟩ := ih hk
        exact ⟨us, q, ms ++ [⟨c, l, c'⟩], by simp, hasks, hnext⟩
      rw [joinStages, Monitor.states_concat] at hk
      rcases (skyHigh cfg).step_cases hstep with ⟨call, rfl, -⟩ | ⟨d, rfl, -⟩ |
        ⟨i, ch, call, a, cont, rfl, hi, -⟩
      · rw [Monitor.advance_invoke] at hk
        by_cases hne : k = c.threads.length
        · rw [hne, Function.update_self] at hk
          cases call <;> cases hk
        · rw [Function.update_of_ne hne] at hk
          exact hbefore hk
      · exact hbefore hk
      · rw [Monitor.advance_act hi] at hk
        by_cases hki : k = i
        · subst hki
          rw [Function.update_self] at hk
          rcases JoinStage.next_eq_placed hk with hplaced | ⟨rfl, hnext⟩
          · exact hbefore hplaced
          · exact ⟨ts, _, [], rfl, ⟨ch, call, cont, rfl, hi⟩, hnext⟩
        · rw [Function.update_of_ne hki] at hk
          exact hbefore hk

/-- Who asks is given the next position, or gives up. -/
lemma JoinStage.next_maxPosition {stage : JoinStage} (h : stage.Allows (.maxPosition f))
    (ch : Choice) (w : World) :
    stage.next (.maxPosition f) (World.exec (.maxPosition f) ch w).1 = .aside ∨
      ∃ n, stage.next (.maxPosition f) (World.exec (.maxPosition f) ch w).1 = .placed f n ∧
        w.db.queue.Next f n := by
  cases stage with
  | aside => exact .inl rfl
  | placed f' n' => exact absurd rfl (h f' n')
  | arriving =>
      cases hr : (World.exec (.maxPosition f) ch w).1 with
      | error e => exact .inl rfl
      | ok max => exact .inr ⟨_, rfl, next_of_maxPosition hr⟩

/-- A position that a call has is the one that it has been given. -/
lemma next_of_asks {q : SkyTransition} {k n : ℕ}
    (h : (skyHigh cfg).Run (.init w) (us ++ q :: ms) c) (hasks : AsksMax f k q)
    (hk : joinStages cfg (us ++ q :: ms) k = .placed f n) : q.pre.state.db.queue.Next f n := by
  obtain ⟨hus, hstep, hms⟩ := h.at_transition
  obtain ⟨pre, l, post⟩ := q
  obtain ⟨ch, call, cont, rfl, hi⟩ := hasks
  have hlt : k < post.threads.length :=
    (List.getElem?_eq_some_iff.mp hi).1.trans_le (System.Run.single hstep).length_threads_le
  have hstage : joinStages cfg (us ++ [⟨pre, .act k ch, post⟩]) k =
      (joinStages cfg us k).next (.maxPosition f) (World.exec (.maxPosition f) ch pre.state).1 := by
    rw [joinStages, Monitor.states_concat, Monitor.advance_act hi, Function.update_self]
    rfl
  rw [List.append_cons] at hk
  rcases JoinStage.next_maxPosition (joinStages_allows hus hi) ch pre.state with
    haside | ⟨n', hplaced, hnext⟩
  · have hkept := Monitor.states_kept hms hlt (hstage.trans haside) fun _ _ => rfl
    cases hkept.symm.trans hk
  · have hkept := Monitor.states_kept hms hlt (hstage.trans hplaced) fun _ _ => rfl
    obtain ⟨-, rfl⟩ := JoinStage.placed.inj (hkept.symm.trans hk)
    exact hnext

/-! ## Positions between two configurations -/

/-- Entries keep their identity. -/
lemma run_evolves (hw : w.Seeded) (h₁ : (skyHigh cfg).Run (.init w) us c₁)
    (h : (skyHigh cfg).Run c₁ ms c) : c₁.state.db.queue.Evolves c.state.db.queue := by
  induction h with
  | nil => exact .refl _
  | @snoc ms c l c' hrun hstep ih =>
      cases step_requeues hw (h₁.append hrun) hstep with
      | same _ heq =>
          have hqueue : c'.state.db.queue = c.state.db.queue := congrArg Table.get? heq
          rwa [hqueue]
      | write _ _ hwrite => exact ih.trans hwrite.evolves

/-- Without an insert no position is taken. -/
lemma taken_of_run (hw : w.Seeded) (h₁ : (skyHigh cfg).Run (.init w) us c₁)
    (h : (skyHigh cfg).Run c₁ ms c) (hquiet : ∀ t ∈ ms, ¬ Enlists f t) {m : ℕ}
    (hm : c.state.db.queue.Taken f m) : c₁.state.db.queue.Taken f m := by
  induction h with
  | nil => exact hm
  | @snoc ms c l c' hrun hstep ih =>
      apply ih fun t ht => hquiet t (List.mem_append_left _ ht)
      cases step_requeues hw (h₁.append hrun) hstep with
      | same _ heq =>
          have hqueue : c'.state.db.queue = c.state.db.queue := congrArg Table.get? heq
          rwa [hqueue] at hm
      | write hsome _ hwrite =>
          rcases hwrite.taken hm with hold | ⟨p, rfl⟩
          · exact hold
          · exact absurd ⟨p, m, hsome⟩ (hquiet _ List.mem_concat_self)

/-- An inserted position is taken. -/
lemma Requeues.taken_inserted {q q' : Queue} {p : PassengerId} {n : ℕ}
    (h : Requeues q (.insertWaitlist f p n) q') : q'.Taken f n := by
  cases h with
  | @insert _ _ _ e _ hf _ hn _ _ => exact ⟨e.id, e, Function.update_self .., hf, hn⟩

lemma taken_of_enlists {t : SkyTransition} {p : PassengerId} {n : ℕ} (hw : w.Seeded)
    (h : (skyHigh cfg).Run (.init w) ts t.pre)
    (hstep : (skyHigh cfg).step t.label t.pre = some t.post)
    (hsome : requeued? t = some (.insertWaitlist f p n)) :
    0 < n ∧ t.post.state.db.queue.Taken f n := by
  cases step_requeues hw h hstep with
  | same hnone _ => cases hnone.symm.trans hsome
  | write hsome' hwarrant hwrite =>
      obtain rfl := Option.some_inj.mp (hsome'.symm.trans hsome)
      exact ⟨hwarrant.1, hwrite.taken_inserted⟩

lemma AsksMax.not_enlists {t : SkyTransition} {k : ℕ} {f' : FlightId} (h : AsksMax f' k t) :
    ¬ Enlists f t := by
  rintro ⟨p, n, hsome⟩
  obtain ⟨ch, call, cont, hl, hk⟩ := h
  obtain ⟨k', ch', call', cont', hl', hk'⟩ := next_of_requeued? hsome
  obtain ⟨rfl, -⟩ := Label.act.inj (hl.symm.trans hl')
  cases hk.symm.trans hk'

/-- A call inserts the position that it has been given. -/
lemma placed_of_enlists {t : SkyTransition} {k n : ℕ} {ch : Choice} {p : PassengerId}
    (h : (skyHigh cfg).Run (.init w) ts t.pre) (hl : t.label = .act k ch)
    (hsome : requeued? t = some (.insertWaitlist f p n)) : joinStages cfg ts k = .placed f n := by
  obtain ⟨k', ch', call, cont, hl', hk⟩ := next_of_requeued? hsome
  obtain ⟨rfl, -⟩ := Label.act.inj (hl.symm.trans hl')
  exact joinStages_allows h hk

/-! ## Schedules -/

/-- Nothing has been taken since a call has asked, if no insert came between. -/
lemma writesNext_of_joinsUndisturbed (hw : w.Seeded) (h : (skyHigh cfg).Run (.init w) ts c)
    (hundisturbed : JoinsUndisturbed f ts) : ∀ t ∈ ts, WritesNext f t := by
  intro t ht p n hsome m hm
  obtain ⟨ts', vs, rfl, hpre, -, -⟩ := h.mem_split ht
  obtain ⟨k, ch, call, cont, hl, hk⟩ := next_of_requeued? hsome
  obtain ⟨us, q, ms, rfl, hasks, hlt, -⟩ := asked_of_placed hpre (placed_of_enlists hpre hl hsome)
  have hquiet : ∀ t' ∈ q :: ms, ¬ Enlists f t' := by
    intro t' ht'
    rcases List.mem_cons.mp ht' with rfl | ht'
    · exact hasks.not_enlists
    · exact hundisturbed us q ms t vs k ch (by simp) hasks hl ⟨p, n, hsome⟩ t' ht'
  obtain ⟨hus, hstep, hms⟩ := hpre.at_transition
  exact hlt m (taken_of_run hw hus ((System.Run.single hstep).append hms) hquiet hm)

/-- The first insert between the two statements of a join takes the position that the join has been
given, or a greater one. -/
lemma joinsUndisturbed_of_writesNext (hw : w.Seeded) (h : (skyHigh cfg).Run (.init w) ts c)
    (hnext : ∀ t ∈ ts, WritesNext f t) : JoinsUndisturbed f ts := by
  rintro us q ms t vs k ch rfl hasks hl ⟨p, n, hsome⟩ t' ht' ⟨p', n', hsome'⟩
  rw [← List.cons_append, ← List.append_assoc] at h
  obtain ⟨hpre, -, -⟩ := h.at_transition
  have hgiven := next_of_asks hpre hasks (placed_of_enlists hpre hl hsome)
  obtain ⟨as, bs, rfl⟩ := List.append_of_mem ht'
  rw [← List.cons_append, ← List.append_assoc] at hpre
  obtain ⟨hpre', hstep', hbs⟩ := hpre.at_transition
  obtain ⟨hus, hstep, has⟩ := hpre'.at_transition
  obtain ⟨hpos, htaken⟩ := taken_of_enlists hw hpre' hstep' hsome'
  have hlt : n' < n := by
    apply hnext t (by simp) p n hsome
    exact htaken.evolves (run_evolves hw (hpre'.snoc hstep') hbs)
  rcases hgiven.2 with rfl | hprev
  · omega
  · have hle : n - 1 < n' := by
      apply hnext t' (by simp) p' n' hsome'
      exact hprev.evolves (run_evolves hw hus ((System.Run.single hstep).append has))
    omega

/-- **Every insert carries the next position of its moment, exactly if no other insert comes between
the two statements of a join.** -/
theorem joinsUndisturbed_iff_writesNext (hw : w.Seeded) (h : (skyHigh cfg).Run (.init w) ts c)
    (f : FlightId) : JoinsUndisturbed f ts ↔ ∀ t ∈ ts, WritesNext f t :=
  ⟨writesNext_of_joinsUndisturbed hw h, joinsUndisturbed_of_writesNext hw h⟩

/-- **FIFO positions.**  The entries of a flight have pairwise distinct positions, and a join that
has returned before another one is issued has the smaller position, exactly when no entry of the
flight is inserted between the two statements of a join. -/
theorem fifo_iff_joinsUndisturbed (hw : w.Seeded) (h : (skyHigh cfg).Run (.init w) ts c)
    (f : FlightId) :
    ((∀ i j e e', c.state.db.waitlist.get? i = some e → c.state.db.waitlist.get? j = some e' →
        e.flightId = f → e'.flightId = f → e.position = e'.position → i = j) ∧
      ∀ us t vs (p p' : PassengerId) (j : ℕ) (e e' : Waitlist),
        ts = us ++ t :: vs → t.label = .invoke (.joinWaitlist p' f) →
        t.pre.threads[j]? = some ⟨.joinWaitlist p f, .done (.ok (.waitlist e))⟩ →
        c.threads[t.pre.threads.length]? =
          some ⟨.joinWaitlist p' f, .done (.ok (.waitlist e'))⟩ → e.position < e'.position) ↔
    JoinsUndisturbed f ts := by
  rw [joinsUndisturbed_iff_writesNext hw h f]
  exact fifo_iff_writesNext hw h f

/-- Passenger 1 joins, then passenger 2. -/
def joinThenJoin : List SkyLabel :=
  [.invoke (.joinWaitlist 1 10)] ++ proceed 0 5 ++ [.invoke (.joinWaitlist 2 10)] ++ proceed 1 5

theorem fifo_joinThenJoin : ∃ ts c, (skyHigh {}).Run (.init oneSeatWorld) ts c ∧
    c.state.db.waitlist.rows.map Waitlist.position = [1, 2] ∧
    (((∀ i j e e', c.state.db.waitlist.get? i = some e → c.state.db.waitlist.get? j = some e' →
        e.flightId = 10 → e'.flightId = 10 → e.position = e'.position → i = j) ∧
      ∀ us t vs (p p' : PassengerId) (j : ℕ) (e e' : Waitlist),
        ts = us ++ t :: vs → t.label = .invoke (.joinWaitlist p' 10) →
        t.pre.threads[j]? = some ⟨.joinWaitlist p 10, .done (.ok (.waitlist e))⟩ →
        c.threads[t.pre.threads.length]? =
          some ⟨.joinWaitlist p' 10, .done (.ok (.waitlist e'))⟩ → e.position < e'.position) ↔
    JoinsUndisturbed 10 ts) := by
  obtain ⟨ts, c, hrun, htest⟩ := exists_run joinThenJoin
    (fun _ c => c.state.db.waitlist.rows.map Waitlist.position = [1, 2]) (by decide +kernel)
  exact ⟨ts, c, hrun, of_decide_eq_true htest,
    fifo_iff_joinsUndisturbed oneSeatWorld_seeded hrun 10⟩

/-- Both passengers read the greatest position before either of them writes. -/
def joinTogether : List SkyLabel :=
  [.invoke (.joinWaitlist 1 10), .invoke (.joinWaitlist 2 10)] ++ proceed 0 3 ++ proceed 1 3 ++
  proceed 0 2 ++ proceed 1 2

/-- They get the same position. -/
theorem fifo_joinTogether : ∃ ts c, oneSeatWorld.Seeded ∧
    (skyHigh {}).Run (.init oneSeatWorld) ts c ∧
    ¬ ∀ i j e e', c.state.db.waitlist.get? i = some e → c.state.db.waitlist.get? j = some e' →
        e.flightId = 10 → e'.flightId = 10 → e.position = e'.position → i = j := by
  obtain ⟨ts, c, hrun, htest⟩ := exists_run joinTogether
    (fun _ c => (c.state.db.waitlist.get? 1).any (fun e => e.flightId = 10 ∧ e.position = 1) &&
      (c.state.db.waitlist.get? 2).any fun e => e.flightId = 10 ∧ e.position = 1)
    (by decide +kernel)
  simp only [Bool.and_eq_true, Option.any_eq_true, decide_eq_true_eq] at htest
  obtain ⟨⟨e, he, hf, hpos⟩, e', he', hf', hpos'⟩ := htest
  refine ⟨ts, c, oneSeatWorld_seeded, hrun, fun hdistinct => ?_⟩
  have heq := hdistinct 1 2 e e' he he' hf hf' (hpos.trans hpos'.symm)
  cases heq

end SkyHighCore
