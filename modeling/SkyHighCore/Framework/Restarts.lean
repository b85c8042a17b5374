import SkyHighCore.Framework.Pool
import Mathlib.Data.List.Forall2

/-!
# Pools that lose calls

A process that goes down takes the calls it was serving with it, and what it kept in its memory;
the state that is shared stays.  A `History` is a run in which this may happen between any two
steps: calls disappear from the pool, and the state changes in what no action reads.

`History.mirror` says that nothing can be seen in a history that cannot be seen in a run.  To be
lost is, for the others, the same as never to be resumed, so the run keeps the lost calls and lets
them wait.  Each transition of the history has its `Mirrors` in the run, in the same order, so what
is proved about every run, or about every transition of it, is proved about every history.
-/

namespace Framework

variable {Act : Type} {Res : Act → Type} {ε α σ Choice Env Call : Type}

/-- An element of a sublist can be replaced in both lists. -/
lemma exists_set_sublist {β : Type} {l l' : List β} (h : List.Sublist l l') {i : ℕ} {x : β}
    (hi : l[i]? = some x) (y : β) :
    ∃ j, l'[j]? = some x ∧ List.Sublist (l.set i y) (l'.set j y) := by
  induction h generalizing i with
  | slnil => simp at hi
  | cons b _ ih =>
      obtain ⟨j, hj, hsub⟩ := ih hi
      exact ⟨j + 1, hj, hsub.cons b⟩
  | cons_cons b hsub ih =>
      cases i with
      | zero => exact ⟨0, hi, hsub.cons_cons y⟩
      | succ i =>
          obtain ⟨j, hj, hsub'⟩ := ih hi
          exact ⟨j + 1, hj, hsub'.cons_cons b⟩

lemma exists_of_forall₂ {β γ : Type} {P : β → γ → Prop} {l : List β} {l' : List γ}
    (h : List.Forall₂ P l l') {x : β} (hx : x ∈ l) : ∃ y ∈ l', P x y := by
  induction h with
  | nil => exact absurd hx List.not_mem_nil
  | cons hfirst _ ih =>
      rcases List.mem_cons.mp hx with rfl | hx
      · exact ⟨_, List.mem_cons_self, hfirst⟩
      · obtain ⟨y, hy, hxy⟩ := ih hx
        exact ⟨y, List.mem_cons_of_mem _ hy, hxy⟩

namespace System

variable (S : System Act Res ε α σ Choice Env Call)

/-- What an action returns is the same in states that `R` relates, and what it does as well, up to
`R`. -/
structure Unread (R : σ → σ → Prop) : Prop where
  refl : ∀ s, R s s
  trans : ∀ s₁ s₂ s₃, R s₁ s₂ → R s₂ s₃ → R s₁ s₃
  exec : ∀ a choice s s', R s s' → (S.exec a choice s').1 = (S.exec a choice s).1 ∧
    R (S.exec a choice s).2 (S.exec a choice s').2
  tick : ∀ e s s', R s s' → R (S.tick e s) (S.tick e s')

/-- A run that is interrupted by crashes: a part of the calls is lost, and the state may change
as `R` allows. -/
inductive History (R : σ → σ → Prop) (c₀ : Config Act Res ε α σ Call) :
    List (Transition Act Res ε α σ Choice Env Call) → Config Act Res ε α σ Call → Prop
  | nil : History R c₀ [] c₀
  | snoc {ts c l c'} (history : History R c₀ ts c) (step : S.step l c = some c') :
      History R c₀ (ts ++ [⟨c, l, c'⟩]) c'
  | crash {ts c s threads} (history : History R c₀ ts c) (lost : R c.state s)
      (left : List.Sublist threads c.threads) : History R c₀ ts ⟨s, threads⟩

/-- The second transition does what the first one does, in a larger pool. -/
structure Mirrors (R : σ → σ → Prop) (t t' : Transition Act Res ε α σ Choice Env Call) :
    Prop where
  pre : R t'.pre.state t.pre.state
  post : R t'.post.state t.post.state
  issued : t'.label.issued = t.label.issued
  performed : ∀ i choice th, t.label = .act i choice → t.pre.threads[i]? = some th →
    ∃ j, t'.label = .act j choice ∧ t'.pre.threads[j]? = some th

variable {S} {R : σ → σ → Prop} {c₀ c c' : Config Act Res ε α σ Call}
  {ts us : List (Transition Act Res ε α σ Choice Env Call)}

/-- A step of a pool can be made in a larger one. -/
lemma Unread.exists_mirror (hR : S.Unread R) {d : Config Act Res ε α σ Call}
    (hstate : R d.state c.state) (hthreads : List.Sublist c.threads d.threads)
    {l : Label Choice Env Call} (hstep : S.step l c = some c') :
    ∃ l' d', S.step l' d = some d' ∧ R d'.state c'.state ∧
      List.Sublist c'.threads d'.threads ∧ Mirrors R ⟨c, l, c'⟩ ⟨d, l', d'⟩ := by
  rcases S.step_cases hstep with ⟨call, rfl, rfl⟩ | ⟨e, rfl, rfl⟩ |
    ⟨i, ch, call, a, k, rfl, hi, rfl⟩
  · refine ⟨.invoke call, _, rfl, hstate, hthreads.append_right _, hstate, hstate, rfl, ?_⟩
    intro i ch th hl
    exact absurd hl (by simp)
  · have htick := hR.tick e _ _ hstate
    refine ⟨.tick e, _, rfl, htick, hthreads, hstate, htick, rfl, ?_⟩
    intro i ch th hl
    exact absurd hl (by simp)
  · obtain ⟨hout, hpost⟩ := hR.exec a ch _ _ hstate
    obtain ⟨j, hj, hset⟩ := exists_set_sublist hthreads hi ⟨call, k (S.exec a ch c.state).1⟩
    have hstep' : S.step (.act j ch) d = some ⟨(S.exec a ch d.state).2,
        d.threads.set j ⟨call, k (S.exec a ch c.state).1⟩⟩ := by
      simp [step, hj, hout]
    refine ⟨.act j ch, _, hstep', hpost, hset, hstate, hpost, rfl, ?_⟩
    rintro i' ch' th ⟨⟩ hth
    exact ⟨j, rfl, hj.trans (hi.symm.trans hth)⟩

namespace History

/-- **A history shows nothing that a run does not show.** -/
theorem mirror (hR : S.Unread R) (h : S.History R c₀ ts c) :
    ∃ ts' d, S.Run c₀ ts' d ∧ R d.state c.state ∧ List.Sublist c.threads d.threads ∧
      List.Forall₂ (Mirrors R) ts ts' := by
  induction h with
  | nil => exact ⟨[], c₀, .nil, hR.refl _, .refl _, .nil⟩
  | snoc _ hstep ih =>
      obtain ⟨ts', d, hrun, hstate, hthreads, hmirrors⟩ := ih
      obtain ⟨l', d', hstep', hstate', hthreads', hmirror⟩ :=
        hR.exists_mirror hstate hthreads hstep
      exact ⟨_, d', hrun.snoc hstep', hstate', hthreads',
        List.rel_append hmirrors (.cons hmirror .nil)⟩
  | crash _ hlost hleft ih =>
      obtain ⟨ts', d, hrun, hstate, hthreads, hmirrors⟩ := ih
      exact ⟨ts', d, hrun, hR.trans _ _ _ hstate hlost, hleft.trans hthreads, hmirrors⟩

lemma of_run (h : S.Run c₀ ts c) : S.History R c₀ ts c := by
  induction h with
  | nil => exact .nil
  | snoc _ hstep ih => exact ih.snoc hstep

lemma append (h : S.History R c₀ ts c) (h' : S.History R c us c') :
    S.History R c₀ (ts ++ us) c' := by
  induction h' with
  | nil => simpa using h
  | snoc _ hstep ih =>
      rw [← List.append_assoc]
      exact ih.snoc hstep
  | crash _ hlost hleft ih => exact ih.crash hlost hleft

end History

end System

end Framework
