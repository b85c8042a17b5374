import SkyHighCore.Framework.Histories
import Mathlib.Logic.Relation

/-!
# A call that runs to its end alone

When all calls but one have ended and no call is issued, the state changes only by the actions of
that call and by the environment.  `Run.solo` is the rule for this case: the call keeps its weakest
precondition under a contract that relies on the environment only.  `exists_run_to_end` says that
the call can be run to its end, since programs are finite.

`Solo` is such a run as a whole, from the moment in which the call is issued to its outcome, and
`lone` the contract in which its program is looked at: `Solo.outcome` says that a weakest
precondition under it holds of the outcome.  Its rules speak of facts that the environment does not
touch (`Lasting`), since nothing else happens between two actions of the call.
-/

namespace Framework

variable {Act : Type} {Res : Act → Type} {ε α σ Choice Env Call : Type}

/-- No call is issued. -/
def Closed (ts : List (Transition Act Res ε α σ Choice Env Call)) : Prop :=
  ∀ t ∈ ts, ∀ call, t.label ≠ .invoke call

lemma closed_of_issued {ts : List (Transition Act Res ε α σ Choice Env Call)}
    (h : ts.flatMap (fun t => t.label.issued) = []) : Closed ts := by
  intro t ht call hl
  have hnone := List.flatMap_eq_nil_iff.mp h t ht
  rw [hl] at hnone
  cases hnone

/-- Every call but the `k`-th has ended. -/
def Config.Only (c : Config Act Res ε α σ Call) (k : ℕ) : Prop :=
  ∀ j th, c.threads[j]? = some th → th.prog.running = true → j = k

lemma Config.Only.quiescent {c : Config Act Res ε α σ Call} {k : ℕ} (h : c.Only k)
    {th : Thread Act Res ε α Call} (hk : c.threads[k]? = some th)
    (hdone : th.prog.running = false) : c.quiescent := by
  intro th' hth'
  obtain ⟨j, hj⟩ := List.mem_iff_getElem?.mp hth'
  by_contra hrun
  obtain rfl := h j th' hj ((Bool.not_eq_false _).mp hrun)
  obtain rfl := Option.some_inj.mp (hj.symm.trans hk)
  exact hrun hdone

lemma Config.Only.set {c : Config Act Res ε α σ Call} {k : ℕ} (h : c.Only k) (s : σ)
    (th : Thread Act Res ε α Call) : Config.Only ⟨s, c.threads.set k th⟩ k := by
  intro j th' hj hrun
  by_contra hne
  rw [List.getElem?_set_ne (Ne.symm hne)] at hj
  exact hne (h j th' hj hrun)

/-- The call that a quiet pool issues is the only one in flight. -/
lemma Config.quiescent.only {c : Config Act Res ε α σ Call} (h : c.quiescent)
    (th : Thread Act Res ε α Call) :
    Config.Only { c with threads := c.threads ++ [th] } c.threads.length := by
  intro j th' hj hrun
  rw [List.getElem?_append] at hj
  split at hj
  · have hdone := h th' (List.mem_of_getElem? hj)
    rw [hrun] at hdone
    cases hdone
  · rename_i hge
    have hsub := (List.getElem?_eq_some_iff.mp hj).1
    rw [List.length_singleton] at hsub
    omega

namespace System

variable {S : System Act Res ε α σ Choice Env Call} {c₁ c : Config Act Res ε α σ Call}
  {ts : List (Transition Act Res ε α σ Choice Env Call)}

/-- **A call that runs alone keeps its weakest precondition.**  The contract may speak of a view of
the state that depends on the history. -/
theorem Run.solo_view {τ : Type} {C : Contract Act Res ε τ}
    (view : List (Transition Act Res ε α σ Choice Env Call) → σ → τ) {Q : Except ε α → τ → Prop}
    {k : ℕ} {call : Call} {q : Prog Act Res ε α} (h : S.Run c₁ ts c) (hclosed : Closed ts)
    (honly : c₁.Only k)
    (hexec : ∀ us t, us ++ [t] <+: ts → ∀ choice, t.label = .act k choice →
      ∀ call a cont, t.pre.threads[k]? = some ⟨call, .act a cont⟩ →
        C.exec a (view us t.pre.state) (S.exec a choice t.pre.state).1
          (view (us ++ [t]) (S.exec a choice t.pre.state).2))
    (hinv : ∀ x, C.inv x) (hrefl : ∀ x, C.rely x x)
    (htrans : ∀ x y z, C.rely x y → C.rely y z → C.rely x z)
    (htick : ∀ us t, us ++ [t] <+: ts → ∀ e, t.label = .tick e →
      C.rely (view us t.pre.state) (view (us ++ [t]) (S.tick e t.pre.state)))
    (hQ : ∀ r x y, C.rely x y → Q r x → Q r y)
    (hk : c₁.threads[k]? = some ⟨call, q⟩) (hwp : q.wp C Q (view [] c₁.state)) :
    c.Only k ∧ ∃ q', c.threads[k]? = some ⟨call, q'⟩ ∧ q'.wp C Q (view ts c.state) := by
  induction h with
  | nil => exact ⟨honly, q, hk, hwp⟩
  | @snoc ts c l c' _ hstep ih =>
      obtain ⟨honly, q', hk', hq'⟩ := ih (fun t ht => hclosed t (List.mem_append_left _ ht))
        (fun us t hus => hexec us t (hus.trans (List.prefix_append _ _)))
        fun us t hus => htick us t (hus.trans (List.prefix_append _ _))
      rcases S.step_cases hstep with ⟨call', rfl, rfl⟩ | ⟨e, rfl, rfl⟩ |
        ⟨i, choice, call', a, cont, rfl, hi, rfl⟩
      · exact absurd rfl (hclosed _ (List.mem_append_right _ List.mem_cons_self) call')
      · refine ⟨honly, q', hk', ?_⟩
        have hrely := htick ts _ List.prefix_rfl e rfl
        cases q' with
        | done r => exact hQ r _ _ hrely hq'
        | act a cont => exact Prog.wp_stable htrans rfl hrely hq'
      · obtain rfl : i = k := honly i _ hi rfl
        obtain ⟨rfl, rfl⟩ : call = call' ∧ q' = .act a cont := by
          simpa using Option.some_inj.mp (hk'.symm.trans hi)
        have he := hexec ts _ List.prefix_rfl choice rfl call a cont hi
        exact ⟨honly.set _ _, _, List.getElem?_set_self (List.getElem?_eq_some_iff.mp hi).1,
          (hq' _ (hrefl _) (hinv _) _ _ he).2⟩

/-- A call that runs alone keeps its weakest precondition on the state. -/
theorem Run.solo {C : Contract Act Res ε σ} {Q : Except ε α → σ → Prop} {k : ℕ} {call : Call}
    {q : Prog Act Res ε α} (h : S.Run c₁ ts c) (hclosed : Closed ts) (honly : c₁.Only k)
    (hexec : ∀ t ∈ ts, ∀ choice, t.label = .act k choice → ∀ a,
      C.exec a t.pre.state (S.exec a choice t.pre.state).1 (S.exec a choice t.pre.state).2)
    (hinv : ∀ s, C.inv s) (hrefl : ∀ s, C.rely s s)
    (htrans : ∀ s₁ s₂ s₃, C.rely s₁ s₂ → C.rely s₂ s₃ → C.rely s₁ s₃)
    (htick : ∀ t ∈ ts, ∀ e, t.label = .tick e → C.rely t.pre.state (S.tick e t.pre.state))
    (hQ : ∀ r s s', C.rely s s' → Q r s → Q r s')
    (hk : c₁.threads[k]? = some ⟨call, q⟩) (hwp : q.wp C Q c₁.state) :
    c.Only k ∧ ∃ q', c.threads[k]? = some ⟨call, q'⟩ ∧ q'.wp C Q c.state :=
  h.solo_view (fun _ s => s) hclosed honly
    (fun _ t hus choice hl _ a _ _ =>
      hexec t (hus.subset (List.mem_append_right _ List.mem_cons_self)) choice hl a)
    hinv hrefl htrans
    (fun _ t hus => htick t (hus.subset (List.mem_append_right _ List.mem_cons_self))) hQ hk hwp

/-- **A call can be run to its end**, whatever the environment chooses. -/
theorem exists_run_to_end (S : System Act Res ε α σ Choice Env Call) (choice : Choice) {k : ℕ}
    {call : Call} (q : Prog Act Res ε α) (c : Config Act Res ε α σ Call)
    (hk : c.threads[k]? = some ⟨call, q⟩) (honly : c.Only k) :
    ∃ ts c' r, S.Run c ts c' ∧ (∀ t ∈ ts, t.label = .act k choice) ∧
      c'.threads[k]? = some ⟨call, .done r⟩ ∧ c'.quiescent := by
  induction q generalizing c with
  | done r => exact ⟨[], c, r, .nil, by simp, hk, honly.quiescent hk rfl⟩
  | act a cont ih =>
      let r := S.exec a choice c.state
      let c₁ : Config Act Res ε α σ Call := ⟨r.2, c.threads.set k ⟨call, cont r.1⟩⟩
      have hstep : S.step (.act k choice) c = some c₁ := by
        simp [System.step, hk, c₁, r]
      have hk₁ : c₁.threads[k]? = some ⟨call, cont r.1⟩ :=
        List.getElem?_set_self (List.getElem?_eq_some_iff.mp hk).1
      obtain ⟨ts, c', r', hrun, hlabels, hend⟩ := ih r.1 c₁ hk₁ (honly.set _ _)
      refine ⟨_, c', r', (Run.single hstep).append hrun, fun t ht => ?_, hend⟩
      rcases List.mem_append.mp ht with ht | ht
      · rw [List.mem_singleton.mp ht]
      · exact hlabels t ht

/-- The other calls stay ended. -/
lemma Run.only {k : ℕ} (h : S.Run c₁ ts c) (hclosed : Closed ts) (honly : c₁.Only k) :
    c.Only k := by
  induction h with
  | nil => exact honly
  | @snoc ts c l c' _ hstep ih =>
      have honly' := ih fun t ht => hclosed t (List.mem_append_left _ ht)
      rcases S.step_cases hstep with ⟨call, rfl, rfl⟩ | ⟨e, rfl, rfl⟩ |
        ⟨i, choice, call, a, cont, rfl, hi, rfl⟩
      · exact absurd rfl (hclosed _ (List.mem_append_right _ List.mem_cons_self) call)
      · exact honly'
      · obtain rfl : i = k := honly' i _ hi rfl
        exact honly'.set _ _

end System

/-! ## From the call to its outcome -/

/-- `call` is issued when all others have ended, runs alone by the transitions `ts`, and ends with
outcome `r`. -/
structure System.Solo (S : System Act Res ε α σ Choice Env Call) (c : Config Act Res ε α σ Call)
    (call : Call) (ts : List (Transition Act Res ε α σ Choice Env Call)) (r : Except ε α)
    (c' : Config Act Res ε α σ Call) : Prop where
  quiet : c.quiescent
  run : S.Run { c with threads := c.threads ++ [⟨call, S.start call⟩] } ts c'
  closed : Closed ts
  done : c'.threads[c.threads.length]? = some ⟨call, .done r⟩

namespace System

variable {S : System Act Res ε α σ Choice Env Call} {c c' : Config Act Res ε α σ Call}
  {ts us : List (Transition Act Res ε α σ Choice Env Call)} {call : Call} {r : Except ε α} {s : σ}

namespace Solo

/-- Afterwards no call is in flight. -/
lemma quiescent (h : S.Solo c call ts r c') : c'.quiescent :=
  (h.run.only h.closed (h.quiet.only _)).quiescent h.done rfl

/-- A run that goes on with a call alone. -/
lemma after (h : S.Solo c call ts r c') (hrun : S.Run (.init s) us c) :
    ∃ vs, S.Run (.init s) vs c' ∧ us <+: vs ∧ (Sequential us → Sequential vs) := by
  have hstep : S.step (.invoke call) c =
      some { c with threads := c.threads ++ [⟨call, S.start call⟩] } := rfl
  refine ⟨_, (hrun.snoc hstep).append h.run, ?_, fun hseq t ht call' hl => ?_⟩
  · exact (List.prefix_append _ _).trans (List.prefix_append _ _)
  · rcases List.mem_append.mp ht with ht | ht
    · rcases List.mem_append.mp ht with ht | ht
      · exact hseq t ht call' hl
      · rw [List.mem_singleton.mp ht]
        exact h.quiet
    · exact absurd hl (h.closed t ht call')

/-- A call that is issued when all others have ended, and that has ended when the next one is
issued. -/
lemma of_run (hquiet : c.quiescent)
    (hrun : S.Run { c with threads := c.threads ++ [⟨call, S.start call⟩] } ts c')
    (hclosed : Closed ts) (hend : c'.quiescent) : ∃ r, S.Solo c call ts r c' := by
  obtain ⟨q, hq⟩ := hrun.thread List.getElem?_concat_length
  cases q with
  | done r => exact ⟨r, hquiet, hrun, hclosed, hq⟩
  | act a k => cases hend _ (List.mem_of_getElem? hq)

end Solo

/-- The last call of a sequential run is issued when all others have ended. -/
lemma Run.last_call (h : S.Run (.init s) ts c) (hseq : Sequential ts) :
    Closed ts ∧ c.threads = [] ∨ ∃ us vs c₁ call,
      ts = us ++ ⟨c₁, .invoke call,
        { c₁ with threads := c₁.threads ++ [⟨call, S.start call⟩] }⟩ :: vs ∧
      S.Run (.init s) us c₁ ∧ c₁.quiescent ∧ Closed vs ∧
      S.Run { c₁ with threads := c₁.threads ++ [⟨call, S.start call⟩] } vs c := by
  induction h with
  | nil => exact .inl ⟨fun _ ht => absurd ht List.not_mem_nil, rfl⟩
  | @snoc ts c l c' hrun hstep ih =>
      have hextend : ∀ vs : List (Transition Act Res ε α σ Choice Env Call), Closed vs →
          (∀ call, l ≠ .invoke call) → Closed (vs ++ [⟨c, l, c'⟩]) := by
        intro vs hvs hl t ht
        rcases List.mem_append.mp ht with ht | ht
        · exact hvs t ht
        · rw [List.mem_singleton.mp ht]
          exact hl
      by_cases hl : ∃ call, l = .invoke call
      · obtain ⟨call, rfl⟩ := hl
        obtain rfl : _ = c' := Option.some_inj.mp hstep
        exact .inr ⟨ts, [], c, call, rfl, hrun,
          hseq _ (List.mem_append_right _ List.mem_cons_self) call rfl,
          fun _ ht => absurd ht List.not_mem_nil, .nil⟩
      rw [not_exists] at hl
      rcases ih fun t ht => hseq t (List.mem_append_left _ ht) with
        ⟨hclosed, hnone⟩ | ⟨us, vs, c₁, call, rfl, hus, hquiet, hclosed, hvs⟩
      · refine .inl ⟨hextend ts hclosed hl, ?_⟩
        rcases S.step_cases hstep with ⟨call, rfl, -⟩ | ⟨e, -, rfl⟩ | ⟨i, ch, call, a, k, -, hi, -⟩
        · exact absurd rfl (hl call)
        · exact hnone
        · rw [hnone] at hi
          cases hi
      · refine .inr ⟨us, vs ++ [⟨c, l, c'⟩], c₁, call, by simp, hus, hquiet,
          hextend vs hclosed hl, hvs.snoc hstep⟩

/-- **The calls of a sequential run have run alone**, one after the other: an action of the `k`-th
call is among the transitions by which this call has run alone to its outcome. -/
theorem Run.exists_solo_of_act (h : S.Run (.init s) ts c) (hseq : Sequential ts)
    (hquiet : c.quiescent) {t : Transition Act Res ε α σ Choice Env Call} (ht : t ∈ ts) {k : ℕ}
    {choice : Choice} (hl : t.label = .act k choice) :
    ∃ us vs ws c₁ c₂ call r, S.Run (.init s) us c₁ ∧ S.Solo c₁ call vs r c₂ ∧ S.Run c₂ ws c ∧
      t ∈ vs ∧ c₁.threads.length = k := by
  induction hn : ts.length using Nat.strongRecOn generalizing ts c with
  | ind n ih =>
      rcases h.last_call hseq with ⟨-, hnone⟩ | ⟨us, vs, c₁, call, rfl, hus, hquiet₁, hclosed, hvs⟩
      · obtain ⟨-, th, -, -, hk, -, hle⟩ := h.before_act ht hl
        have hlt := (List.getElem?_eq_some_iff.mp hk).1
        rw [hnone, List.length_nil] at hle
        omega
      · obtain ⟨r, hsolo⟩ := Solo.of_run hquiet₁ hvs hclosed hquiet
        rcases List.mem_append.mp ht with ht | ht
        · have hlt : us.length < n := by
            rw [← hn, List.length_append, List.length_cons]
            omega
          have hstep : S.step (.invoke call) c₁ =
              some { c₁ with threads := c₁.threads ++ [⟨call, S.start call⟩] } := rfl
          obtain ⟨us', vs', ws, c₁', c₂, call', r', hus', hsolo', hws, hmem, hk⟩ :=
            ih us.length hlt hus (fun t ht => hseq t (List.mem_append_left _ ht)) hquiet₁ ht rfl
          exact ⟨us', vs', _, c₁', c₂, call', r', hus', hsolo', (hws.snoc hstep).append hvs, hmem,
            hk⟩
        rcases List.mem_cons.mp ht with rfl | ht
        · cases hl
        · obtain ⟨ps, th, hpre, hsub, hk, hrun, -⟩ := hvs.before_act ht hl
          have honly := hpre.only (fun t ht => hclosed t (hsub ht)) (hquiet₁.only _)
          exact ⟨us, vs, [], c₁, c, call, r, hus, hsolo, .nil, ht, (honly k th hk hrun).symm⟩

variable (S) in
/-- What the environment does by itself keeps `F`. -/
def Lasting (F : σ → Prop) : Prop := ∀ e s, F s → F (S.tick e s)

variable (S) in
/-- The contract of a call that runs alone, when what the environment chooses meets `P`. -/
def lone (P : Choice → Prop) : Contract Act Res ε σ where
  exec a s r s' := ∃ choice, P choice ∧ S.exec a choice s = (r, s')
  inv _ := True
  rely := Relation.ReflTransGen fun s s' => ∃ e, s' = S.tick e s
  guar _ _ _ _ := True

variable (S) in
/-- The contract of a call that runs alone, when what the environment chooses for an action meets
what `P` says of this action. -/
def loneFor (P : Act → Choice → Prop) : Contract Act Res ε σ where
  exec a s r s' := ∃ choice, P a choice ∧ S.exec a choice s = (r, s')
  inv _ := True
  rely := Relation.ReflTransGen fun s s' => ∃ e, s' = S.tick e s
  guar _ _ _ _ := True

lemma Lasting.keeps {F : σ → Prop} (hF : S.Lasting F) (P : Choice → Prop) :
    (S.lone P).Keeps F := by
  intro s s' (h : Relation.ReflTransGen (fun s s' => ∃ e, s' = S.tick e s) s s') hs
  induction h with
  | refl => exact hs
  | tail _ hlast ih =>
      obtain ⟨e, rfl⟩ := hlast
      exact hF e _ ih

/-- **What a call does that runs alone.** -/
theorem Solo.outcome_for {P : Act → Choice → Prop} {Q : Except ε α → σ → Prop}
    (h : S.Solo c call ts r c')
    (hP : ∀ t ∈ ts, ∀ i choice, t.label = .act i choice →
      ∀ call' a cont, t.pre.threads[i]? = some ⟨call', .act a cont⟩ → P a choice)
    (hQ : ∀ r, S.Lasting (Q r)) (hwp : (S.start call).wp (S.loneFor P) Q c.state) :
    Q r c'.state := by
  obtain ⟨-, q, hq, hpost⟩ := h.run.solo_view (C := S.loneFor P) (fun _ s => s) h.closed
    (h.quiet.only _)
    (fun us t hus choice hl call' a cont hk => ⟨choice, hP t (hus.subset
      (List.mem_append_right _ List.mem_cons_self)) _ choice hl call' a cont hk, rfl⟩)
    (fun _ => trivial) (fun _ => Relation.ReflTransGen.refl)
    (fun _ _ _ => Relation.ReflTransGen.trans)
    (fun _ t _ e _ => Relation.ReflTransGen.single ⟨e, rfl⟩)
    (fun r s s' => (hQ r).keeps (fun _ => True) s s') List.getElem?_concat_length hwp
  obtain rfl : q = .done r := by
    simpa using Option.some_inj.mp (hq.symm.trans h.done)
  exact hpost

/-- The same, when one condition is put on all that the environment chooses. -/
theorem Solo.outcome {P : Choice → Prop} {Q : Except ε α → σ → Prop} (h : S.Solo c call ts r c')
    (hP : ∀ t ∈ ts, ∀ i choice, t.label = .act i choice → P choice)
    (hQ : ∀ r, S.Lasting (Q r)) (hwp : (S.start call).wp (S.lone P) Q c.state) : Q r c'.state :=
  h.outcome_for (fun t ht i choice hl _ _ _ _ => hP t ht i choice hl) hQ hwp

/-- A call that is issued when all others have ended can be run to its end. -/
theorem exists_solo (S : System Act Res ε α σ Choice Env Call) (choice : Choice) (call : Call)
    (hquiet : c.quiescent) :
    ∃ ts r c', S.Solo c call ts r c' ∧ ∀ t ∈ ts, t.label = .act c.threads.length choice := by
  obtain ⟨ts, c', r, hrun, hlabels, hdone, -⟩ := exists_run_to_end S choice (S.start call)
    { c with threads := c.threads ++ [⟨call, S.start call⟩] } List.getElem?_concat_length
    (hquiet.only _)
  refine ⟨ts, r, c', ⟨hquiet, hrun, fun t ht call' hl => ?_, hdone⟩, hlabels⟩
  cases (hlabels t ht).symm.trans hl

/-! ### Rules for its program -/

section Rules

variable {P : Choice → Prop} {F : σ → Prop} {β : Type}

/-- The rule for one action. -/
lemma wp_loneFor {P : Act → Choice → Prop} {a : Act} {Q : Except ε (Res a) → σ → Prop}
    (hF : S.Lasting F) (hs : F s)
    (h : ∀ choice s₁ r s₂, P a choice → F s₁ → S.exec a choice s₁ = (r, s₂) → Q r s₂) :
    (Prog.perform a : Prog Act Res ε (Res a)).wp (S.loneFor P) Q s := by
  rintro s₁ hs₁ - r s₂ ⟨choice, hch, he⟩
  exact ⟨trivial, h choice s₁ r s₂ hch (hF.keeps (fun _ => True) s s₁ hs₁ hs) he⟩

lemma wp_lone {a : Act} {Q : Except ε (Res a) → σ → Prop} (hF : S.Lasting F) (hs : F s)
    (h : ∀ choice s₁ r s₂, P choice → F s₁ → S.exec a choice s₁ = (r, s₂) → Q r s₂) :
    (Prog.perform a : Prog Act Res ε (Res a)).wp (S.lone P) Q s :=
  wp_loneFor (P := fun _ => P) hF hs h

/-- A stretch of actions that keep `F`. -/
lemma wp_loneFor_keeps {P : Act → Choice → Prop} {I : Act → Prop} (hF : S.Lasting F)
    (hI : ∀ a choice s, I a → P a choice → F s → F (S.exec a choice s).2) {p : Prog Act Res ε β}
    (hp : p.All I) (hs : F s) : p.wp (S.loneFor P) (fun _ s' => F s') s := by
  induction p generalizing s with
  | done r => exact hs
  | act a k ih =>
      rintro s₁ hs₁ - r s₂ ⟨choice, hch, he⟩
      have hs₂ := hI a choice s₁ hp.1 hch (hF.keeps (fun _ => True) s s₁ hs₁ hs)
      rw [he] at hs₂
      exact ⟨trivial, ih r (hp.2 r) hs₂⟩

lemma wp_lone_keeps {I : Act → Prop} (hF : S.Lasting F)
    (hI : ∀ a choice s, I a → P choice → F s → F (S.exec a choice s).2) {p : Prog Act Res ε β}
    (hp : p.All I) (hs : F s) : p.wp (S.lone P) (fun _ s' => F s') s :=
  wp_loneFor_keeps (P := fun _ => P) hF hI hp hs

end Rules

end System

end Framework
