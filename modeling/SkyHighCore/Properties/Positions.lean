import SkyHighCore.Properties.Warrants

/-!
# Positions on a waitlist

A join reads the greatest position of the flight in one statement, and inserts an entry with the
next one in another.  The positions of a flight never have a gap, so that a join which inserts a
position that is not greater than all others inserts one that somebody has.  Hence positions are
pairwise distinct exactly when every join writes the next position of the moment in which it
writes.  A join that is issued after another one has returned always gets a greater position.
-/

namespace SkyHighCore

open Framework

/-! ## Positions of a flight -/

namespace Queue

variable {q q' : Queue} {f : FlightId}

/-- The entries of flight `f` have pairwise distinct positions. -/
def Distinct (q : Queue) (f : FlightId) : Prop :=
  ∀ i j e e', q i = some e → q j = some e' → e.flightId = f → e'.flightId = f →
    e.position = e'.position → i = j

/-- The positions of flight `f` start at one and have no gap. -/
def Gapless (q : Queue) (f : FlightId) : Prop :=
  ∀ n, q.Taken f n → 0 < n ∧ ∀ m, 0 < m → m ≤ n → q.Taken f m

/-- The join writes a position greater than all others of its flight. -/
def Fresh (q : Queue) (f : FlightId) (a : Action) : Prop :=
  ∀ p n, a = .insertWaitlist f p n → ∀ m, q.Taken f m → m < n

end Queue

section Writes

variable {q q' : Queue} {f : FlightId} {a : Action}

/-- An entry after a write is one from before, or has been inserted. -/
lemma Requeues.backward (h : Requeues q a q') {i : WaitlistId} {e' : Waitlist}
    (he' : q' i = some e') : (∃ e, q i = some e ∧ e.SameEntry e') ∨
      (q i = none ∧ a = .insertWaitlist e'.flightId e'.passengerId e'.position) := by
  cases h with
  | assign he _ | save he _ =>
      rcases Bookings.update_eq_some_iff.mp he' with ⟨rfl, rfl⟩ | ⟨-, hi⟩
      · exact .inl ⟨_, he, .rfl⟩
      · exact .inl ⟨e', hi, .rfl⟩
  | insert hfresh hf hp hn _ _ =>
      rcases Bookings.update_eq_some_iff.mp he' with ⟨rfl, rfl⟩ | ⟨-, hi⟩
      · exact .inr ⟨hfresh, by rw [hf, hp, hn]⟩
      · exact .inl ⟨e', hi, .rfl⟩

/-- A position that is taken after a write was taken before, or has been inserted. -/
lemma Requeues.taken (h : Requeues q a q') {n : ℕ} (hn : q'.Taken f n) :
    q.Taken f n ∨ ∃ p, a = .insertWaitlist f p n := by
  obtain ⟨i, e', he', rfl, rfl⟩ := hn
  rcases h.backward he' with ⟨e, he, hsame⟩ | ⟨-, ha⟩
  · exact .inl ⟨i, e, he, hsame.1.symm, hsame.2.2.symm⟩
  · exact .inr ⟨_, ha⟩

lemma Requeues.gapless {w : World} (hwarrant : a.Warrant w) (h : Requeues w.db.queue a q')
    (hq : w.db.queue.Gapless f) : q'.Gapless f := by
  intro n hn
  rcases h.taken hn with hold | ⟨p, rfl⟩
  · obtain ⟨hpos, hbelow⟩ := hq n hold
    exact ⟨hpos, fun m hm hle => (hbelow m hm hle).evolves h.evolves⟩
  · obtain ⟨hpos, hnext⟩ := hwarrant
    refine ⟨hpos, fun m hm hle => ?_⟩
    rcases Nat.eq_or_lt_of_le hle with rfl | hlt
    · exact hn
    · rcases hnext with rfl | hprev
      · exact absurd hm (by omega)
      · exact ((hq _ hprev).2 m hm (by omega)).evolves h.evolves

/-- A fresh position is distinct from all others. -/
lemma Requeues.distinct (h : Requeues q a q') (hfresh : q.Fresh f a) (hq : q.Distinct f) :
    q'.Distinct f := by
  have hinserted : ∀ {i j e e'}, q' i = some e → q' j = some e' → e.flightId = f →
      e'.flightId = f → e.position = e'.position →
      a = .insertWaitlist e.flightId e.passengerId e.position →
      (∃ d, q j = some d ∧ d.SameEntry e') → i = j := by
    rintro i j e e' - - hf hf' hpos ha ⟨d, hd, hsame⟩
    have hlt := hfresh e.passengerId e.position (hf ▸ ha) d.position
      ⟨j, d, hd, hsame.1.symm.trans hf', rfl⟩
    rw [hpos, hsame.2.2] at hlt
    exact absurd hlt (lt_irrefl _)
  intro i j e e' he he' hf hf' hpos
  rcases h.backward he with ⟨d, hd, hsame⟩ | ⟨hnone, ha⟩
  · rcases h.backward he' with ⟨d', hd', hsame'⟩ | ⟨-, ha'⟩
    · exact hq i j d d' hd hd' (hsame.1.symm.trans hf) (hsame'.1.symm.trans hf')
        (hsame.2.2.symm.trans (hpos.trans hsame'.2.2))
    · exact (hinserted he' he hf' hf hpos.symm ha' ⟨d, hd, hsame⟩).symm
  · rcases h.backward he' with hold' | ⟨hnone', ha'⟩
    · exact hinserted he he' hf hf' hpos ha hold'
    · -- one action inserts one entry
      cases h with
      | assign => cases ha
      | save => cases ha
      | insert _ _ _ _ _ _ =>
          rcases Bookings.update_eq_some_iff.mp he with ⟨rfl, -⟩ | ⟨-, hi⟩
          · rcases Bookings.update_eq_some_iff.mp he' with ⟨rfl, -⟩ | ⟨-, hj⟩
            · rfl
            · cases hnone'.symm.trans hj
          · cases hnone.symm.trans hi

/-- A position that is not fresh is one that somebody has. -/
lemma Requeues.not_distinct {w : World} (hwarrant : a.Warrant w) (h : Requeues w.db.queue a q')
    (hq : w.db.queue.Gapless f) (hstale : ¬ w.db.queue.Fresh f a) : ¬ q'.Distinct f := by
  simp only [Queue.Fresh, not_forall] at hstale
  obtain ⟨p, n, rfl, m, hm, hle⟩ := hstale
  obtain ⟨i, e, he, hf, hpos⟩ := (hq m hm).2 n hwarrant.1 (not_lt.mp hle)
  cases h with
  | @insert _ _ _ e' hnone hf' _ hn _ _ =>
      intro hdistinct
      have hi : i ≠ e'.id := by
        rintro rfl
        cases hnone.symm.trans he
      have hrow : Function.update w.db.queue e'.id (some e') i = some e :=
        (Function.update_of_ne hi ..).trans he
      exact hi (hdistinct i e'.id e e' hrow (Function.update_self ..) hf hf' (hpos.trans hn.symm))

/-- Equal positions stay equal. -/
lemma Queue.Evolves.not_distinct (h : q.Evolves q') (hq : ¬ q.Distinct f) : ¬ q'.Distinct f := by
  intro hq'
  refine hq fun i j e e' he he' hf hf' hpos => ?_
  obtain ⟨d, hd, hsame⟩ := h i e he
  obtain ⟨d', hd', hsame'⟩ := h j e' he'
  exact hq' i j d d' hd hd' (hsame.1.trans hf) (hsame'.1.trans hf')
    (hsame.2.2.trans (hpos.trans hsame'.2.2.symm))

end Writes

/-! ## What a join returns -/

section Joins

open WaitlistService

variable {cfg : Settings} {target : FlightId → World → Prop} {w w' : World} {f : FlightId}

/-- An entry that has been inserted is there. -/
lemma exec_insertWaitlist {p : PassengerId} {n : ℕ} {ch : Choice} {e : Waitlist}
    (h : World.exec (.insertWaitlist f p n) ch w = (.ok e, w')) :
    w'.db.queue e.id = some e ∧ e.flightId = f ∧ e.position = n := by
  rcases World.transaction_cases h with ⟨_, he, -⟩ | ⟨_, db', he, hbody, rfl⟩
  · cases he
  · cases he
    obtain ⟨rfl, -, -, -, hq⟩ := Tx.insertWaitlist_ok hbody
    refine ⟨?_, rfl, rfl⟩
    show db'.queue _ = _
    rw [hq]
    exact Function.update_self ..

/-- **What a join returns**: an entry of the flight, whose position is greater than those that were
taken when the join began. -/
theorem wp_joinWaitlist (haims : Aims target (fun _ => True) f) (p : PassengerId) {q₀ : Queue}
    (hw : ∀ m, q₀.Taken f m → w.db.queue.Taken f m) :
    (joinWaitlist p f).wp (warrants cfg target) (fun r w' => ∀ e, r = .ok e →
      (w'.db.queue.Has e ∧ e.flightId = f) ∧ ∀ m, q₀.Taken f m → m < e.position) w := by
  have hG : Lasts cfg target fun w => ∀ m, q₀.Taken f m → w.db.queue.Taken f m :=
    fun _ _ h hw m hm => (hw m hm).evolves h.queue
  have hkeeps : ∀ {α : Type} {q : Program α} {w : World}, Idle q →
      (∀ m, q₀.Taken f m → w.db.queue.Taken f m) → q.wp (warrants cfg target)
        (fun r w' => ∀ v, r = .ok v → ∀ m, q₀.Taken f m → w'.db.queue.Taken f m) w :=
    fun hq hw => Prog.wp_mono (fun _ _ h _ _ => h) ((warranted_idle hq).keeps self_reliant hG hw)
  refine Prog.wp_bind_ok (hkeeps (idle_act rfl) hw) fun flight w₁ hw₁ => ?_
  cases flight with
  | none => exact fun _ h => nomatch h
  | some flight =>
      refine Prog.wp_bind_ok (hkeeps (idle_act rfl) hw₁) fun existing w₂ hw₂ => ?_
      refine Prog.wp_bind_ok (hkeeps Prog.all_throwWhen hw₂) fun _ w₃ hw₃ => ?_
      refine Prog.wp_bind_ok (R := fun n w' => (0 < n ∧ (n = 1 ∨ w'.db.queue.Taken f (n - 1))) ∧
        ∀ m, q₀.Taken f m → m < n) ?_ fun n w₄ ⟨hw₄, hlt⟩ => ?_
      · refine Prog.wp_mono (fun r w' h n hn => ?_)
          (Prog.wp_and (wp_getNextPosition f) (hkeeps (idle_getNextPosition f) hw₃))
        obtain ⟨hnext, hlt⟩ := h.1 n hn
        exact ⟨hnext, fun m hm => hlt m (h.2 n hn m hm)⟩
      · have hW : Lasts cfg target fun w => 0 < n ∧ (n = 1 ∨ w.db.queue.Taken f (n - 1)) :=
          fun _ _ h hw => hw.imp_right fun hor => hor.imp_right (.evolves h.queue)
        refine Prog.wp_bind_ok (R := fun e w' => w'.db.queue e.id = some e ∧ e.flightId = f ∧
          e.position = n) ?_ fun e w₅ ⟨he, hf, hn⟩ => ?_
        · refine Prog.wp_mono (fun _ _ h e he => (h e he).2) (wp_write (a := .insertWaitlist f p n)
            hW (fun w _ => haims w trivial) hw₄ (fun _ h => h) (fun _ _ => rfl)
            fun _ _ _ _ _ _ => exec_insertWaitlist)
        · have hlog : Warranted cfg target (auditLog {
              entityType := .waitlist, entityId := e.id, action := .waitlistJoined
              fromState := none, toState := .waitlist .waiting, actorId := p
              metadata := [("flightId", .uuid f), ("position", .number n)] }) w₅ :=
            meets_within (s := none) (G := fun _ => True) Stable.true.lasts haims
              (fun _ _ _ _ hs => nomatch hs) (within_act (a := .auditLog _) nofun) trivial
          refine Prog.wp_bind_ok (Prog.wp_mono (fun _ _ h _ _ => h)
            (hlog.keeps self_reliant (lasts_has e) ⟨e, he, .rfl⟩)) fun _ w₆ hw₆ => ?_
          rintro _ ⟨⟩
          exact ⟨⟨hw₆, hf⟩, hn.symm ▸ hlt⟩

end Joins

/-! ## Runs -/

section Runs

variable {cfg : Settings} {w : World} {ts : List SkyTransition} {c : SkyConfig} {f : FlightId}

/-- Every join that the transition commits gets a position greater than all others of the flight
at that moment. -/
def WritesNext (f : FlightId) (t : SkyTransition) : Prop :=
  ∀ p n, requeued? t = some (.insertWaitlist f p n) → ∀ m, t.pre.state.db.queue.Taken f m → m < n

/-- Positions are without gaps, and distinct as long as every join writes the next one. -/
lemma run_positions (hw : w.Seeded) (h : (skyHigh cfg).Run (.init w) ts c) (f : FlightId) :
    c.state.db.queue.Gapless f ∧ (c.state.db.queue.Distinct f ↔ ∀ t ∈ ts, WritesNext f t) := by
  induction h with
  | nil =>
      have hnone : ∀ i, w.db.queue i = none := by simp [Database.queue, hw.waitlist]
      refine ⟨?_, iff_of_true ?_ (by simp)⟩
      · rintro n ⟨i, e, he, -⟩
        cases (hnone i).symm.trans he
      · rintro i j e e' he
        cases (hnone i).symm.trans he
  | @snoc ts c l c' hrun hstep ih =>
      obtain ⟨hgapless, hiff⟩ := ih
      have hsplit : (∀ t ∈ ts ++ [⟨c, l, c'⟩], WritesNext f t) ↔
          c.state.db.queue.Distinct f ∧ WritesNext f ⟨c, l, c'⟩ := by
        rw [hiff]
        simp [or_imp, forall_and]
      rw [hsplit]
      cases step_requeues hw hrun hstep with
      | same hnone heq =>
          have hqueue : c'.state.db.queue = c.state.db.queue := congrArg Table.get? heq
          have hnext : WritesNext f ⟨c, l, c'⟩ := fun p n ha => by cases hnone.symm.trans ha
          rw [hqueue]
          exact ⟨hgapless, (and_iff_left hnext).symm⟩
      | @write a hsome hwarrant hwrite =>
          have hfresh : WritesNext f ⟨c, l, c'⟩ ↔ c.state.db.queue.Fresh f a := by
            unfold WritesNext Queue.Fresh
            rw [hsome]
            simp only [Option.some_inj]
          rw [hfresh]
          refine ⟨hwrite.gapless hwarrant hgapless, fun hdistinct => ?_, fun hall => ?_⟩
          · exact ⟨of_not_not fun hnot => hwrite.evolves.not_distinct hnot hdistinct,
              of_not_not fun hstale => hwrite.not_distinct hwarrant hgapless hstale hdistinct⟩
          · exact hwrite.distinct hall.2 hall.1

/-- What a join promises. -/
def Joined : Call → Except AppException Reply → World → Prop
  | .joinWaitlist _ f, r, w => ∀ e, r = .ok (.waitlist e) → w.db.queue.Has e ∧ e.flightId = f
  | _, _, _ => True

lemma Joined.advances {call : Call} {r : Except AppException Reply} {w w' : World}
    (h : w.Advances w') (hj : Joined call r w) : Joined call r w' := by
  cases call with
  | joinWaitlist p f => exact fun e he => (hj e he).imp_left (.evolves h.queue)
  | _ => trivial

/-- What a join returns, as the reply of the call. -/
lemma wp_join (p : PassengerId) (q₀ : Queue) (hw : ∀ m, q₀.Taken f m → w.db.queue.Taken f m) :
    ((Call.joinWaitlist p f).program cfg).wp
      (warrants cfg fun g w => (Call.joinWaitlist p f).AddressedTo g w)
      (fun r w' => ∀ e, r = .ok (.waitlist e) →
        (w'.db.queue.Has e ∧ e.flightId = f) ∧ ∀ m, q₀.Taken f m → m < e.position) w := by
  have haims : Aims (fun g w => (Call.joinWaitlist p f).AddressedTo g w) (fun _ => True) f :=
    fun _ _ _ h => h.symm
  refine Prog.wp_map (Prog.wp_mono (fun r w' h e he => ?_) (wp_joinWaitlist haims p hw))
  cases r with
  | error _ => cases he
  | ok e' =>
      obtain rfl : e' = e := by simpa [Except.map] using he
      exact h e' rfl

lemma wp_joined (call : Call) : (call.program cfg).wp
    (warrants cfg fun f w => call.AddressedTo f w) (Joined call) w := by
  cases call with
  | joinWaitlist p f =>
      exact Prog.wp_mono (fun _ _ h e he => (h e he).1)
        (wp_join p (fun _ => none) fun m ⟨_, _, h, _⟩ => nomatch h)
  | _ => exact Prog.wp_mono (fun _ _ _ => trivial) (warranted_program cfg _ w)

/-- A join that has returned before another one is issued has the smaller position. -/
theorem join_before_join {us vs : List SkyTransition} {c₁ c' : SkyConfig} {p p' : PassengerId}
    {j : ℕ} {e e' : Waitlist} (hw : w.Seeded) (h : (skyHigh cfg).Run (.init w) us c)
    (hcall : (skyHigh cfg).step (.invoke (.joinWaitlist p' f)) c = some c₁)
    (hrun : (skyHigh cfg).Run c₁ vs c')
    (hj : c.threads[j]? = some ⟨.joinWaitlist p f, .done (.ok (.waitlist e))⟩)
    (hk : c'.threads[c.threads.length]? =
      some ⟨.joinWaitlist p' f, .done (.ok (.waitlist e'))⟩) : e.position < e'.position := by
  -- what the first call has returned is in the table when the second one is issued
  have hsound := (run_warranted hw h Joined (fun _ _ _ _ => Joined.advances)
    fun call w _ => wp_joined call).1
  obtain ⟨⟨row, hrow, hsame⟩, hf⟩ : c.state.db.queue.Has e ∧ e.flightId = f :=
    hsound.wp _ (List.mem_of_getElem? hj) e rfl
  have htaken : c.state.db.queue.Taken f e.position :=
    ⟨e.id, row, hrow, hsame.1.trans hf, hsame.2.2⟩
  obtain ⟨q, hq, hpost⟩ := run_follow hw h hcall hrun (fun r w w' hadv hr e he =>
    ⟨(hr e he).1.imp_left (.evolves hadv.queue), (hr e he).2⟩) (wp_join p' _ fun m hm => hm)
  obtain ⟨-, rfl⟩ : Call.joinWaitlist p' f = .joinWaitlist p' f ∧ q = _ := by
    simpa using Option.some_inj.mp (hq.symm.trans hk)
  exact (hpost e' rfl).2 e.position htaken

/-- **FIFO positions.**  The entries of a flight have pairwise distinct positions, and a join that
has returned before another one is issued has the smaller position, exactly when every join of the
run writes the next position of the moment in which it writes. -/
theorem fifo_iff_writesNext (hw : w.Seeded) (h : (skyHigh cfg).Run (.init w) ts c) (f : FlightId) :
    ((∀ i j e e', c.state.db.waitlist.get? i = some e → c.state.db.waitlist.get? j = some e' →
        e.flightId = f → e'.flightId = f → e.position = e'.position → i = j) ∧
      ∀ us t vs (p p' : PassengerId) (j : ℕ) (e e' : Waitlist),
        ts = us ++ t :: vs → t.label = .invoke (.joinWaitlist p' f) →
        t.pre.threads[j]? = some ⟨.joinWaitlist p f, .done (.ok (.waitlist e))⟩ →
        c.threads[t.pre.threads.length]? =
          some ⟨.joinWaitlist p' f, .done (.ok (.waitlist e'))⟩ → e.position < e'.position) ↔
    ∀ t ∈ ts, WritesNext f t := by
  have hdistinct := (run_positions hw h f).2
  constructor
  · exact fun hfifo => hdistinct.mp hfifo.1
  · refine fun hnext => ⟨hdistinct.mpr hnext, ?_⟩
    rintro us t vs p p' j e e' rfl hl hj hk
    obtain ⟨hus, hstep, hvs⟩ := h.at_transition
    rw [hl] at hstep
    exact join_before_join hw hus hstep hvs hj hk

end Runs

end SkyHighCore
