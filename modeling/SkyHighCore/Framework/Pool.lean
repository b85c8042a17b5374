import SkyHighCore.Framework.Program
import Mathlib.Data.List.Induction

/-!
# Pools of interleaved calls

A `System` gives atomic actions their effect, as a function of what the environment chooses,
and every kind of call its program.  A `Config` is a shared state with the calls issued so far;
a step issues a call, performs the next action of one of them, or lets the environment act.
Runs are lists of `Transition`s, so that statements can quantify over every step of a run and
over every state between two steps.

The results are of two kinds.  `Run.invariant` and `Run.invariant_of` carry an invariant along
a run, the latter under a condition on each of the run's transitions.  `Run.sound_of_peaceful`
is the rely–guarantee rule: if every call meets its contract, and its actions do what the other
calls rely on, then in every run each performed action meets its guarantee.  `Run.sound` is the
rule for calls that may run together at all times, `Run.sound_of_apart` for calls that differ in
pairs, and `Run.sound_of_sequential` for calls that are issued one after the other.
-/

namespace Framework

/-- The effect of atomic actions and the programs of calls. -/
structure System (Act : Type) (Res : Act → Type) (ε α σ Choice Env Call : Type) where
  /-- The outcome of an action, given what the environment chooses. -/
  exec : (a : Act) → Choice → σ → Except ε (Res a) × σ
  /-- What the environment does by itself. -/
  tick : Env → σ → σ
  /-- The program of a call. -/
  start : Call → Prog Act Res ε α

/-- A call that has been issued, with what is left of it. -/
structure Thread (Act : Type) (Res : Act → Type) (ε α Call : Type) where
  call : Call
  prog : Prog Act Res ε α

/-- A shared state and the calls issued so far. -/
structure Config (Act : Type) (Res : Act → Type) (ε α σ Call : Type) where
  state : σ
  threads : List (Thread Act Res ε α Call)

/-- One step of a pool: a call is issued, the `i`-th call performs its next action, or the
environment acts. -/
inductive Label (Choice Env Call : Type) where
  | invoke (call : Call)
  | act (i : ℕ) (choice : Choice)
  | tick (e : Env)

/-- The call that the step issues, if it issues one. -/
def Label.issued {Choice Env Call : Type} : Label Choice Env Call → List Call
  | .invoke call => [call]
  | _ => []

/-- A step together with the configurations before and after it. -/
structure Transition (Act : Type) (Res : Act → Type) (ε α σ Choice Env Call : Type) where
  pre : Config Act Res ε α σ Call
  label : Label Choice Env Call
  post : Config Act Res ε α σ Call

variable {Act : Type} {Res : Act → Type} {ε α σ Choice Env Call : Type}

/-- The configuration in which no call has been issued. -/
def Config.init (s : σ) : Config Act Res ε α σ Call := ⟨s, []⟩

/-- No call is in flight. -/
def Config.quiescent (c : Config Act Res ε α σ Call) : Prop :=
  ∀ t ∈ c.threads, t.prog.running = false

/-- The calls issued so far, in the order in which they were issued. -/
def Config.calls (c : Config Act Res ε α σ Call) : List Call := c.threads.map Thread.call

/-- At most one call is in flight. -/
def Config.Alone (c : Config Act Res ε α σ Call) : Prop :=
  ∀ (i j : ℕ) (t t' : Thread Act Res ε α Call), c.threads[i]? = some t → c.threads[j]? = some t' →
    t.prog.running = true → t'.prog.running = true → i = j

/-- Every call is issued when no other call is in flight. -/
def Sequential (ts : List (Transition Act Res ε α σ Choice Env Call)) : Prop :=
  ∀ t ∈ ts, ∀ call, t.label = .invoke call → t.pre.quiescent

namespace System

variable (S : System Act Res ε α σ Choice Env Call)

/-- The configuration after a step, if the step is possible. -/
def step (l : Label Choice Env Call) (c : Config Act Res ε α σ Call) :
    Option (Config Act Res ε α σ Call) :=
  match l with
  | .invoke call => some { c with threads := c.threads ++ [⟨call, S.start call⟩] }
  | .tick e => some { c with state := S.tick e c.state }
  | .act i choice =>
      match c.threads[i]? with
      | some ⟨call, .act a k⟩ =>
          let out := S.exec a choice c.state
          some ⟨out.2, c.threads.set i ⟨call, k out.1⟩⟩
      | _ => none

/-- Everything a step can do. -/
lemma step_cases {l : Label Choice Env Call} {c c' : Config Act Res ε α σ Call}
    (h : S.step l c = some c') :
    (∃ call, l = .invoke call ∧ c' = { c with threads := c.threads ++ [⟨call, S.start call⟩] }) ∨
    (∃ e, l = .tick e ∧ c' = { c with state := S.tick e c.state }) ∨
    (∃ i choice call a k, l = .act i choice ∧ c.threads[i]? = some ⟨call, .act a k⟩ ∧
      c' = ⟨(S.exec a choice c.state).2,
        c.threads.set i ⟨call, k (S.exec a choice c.state).1⟩⟩) := by
  cases l with
  | invoke call => exact .inl ⟨call, rfl, by simpa [step] using h.symm⟩
  | tick e => exact .inr (.inl ⟨e, rfl, by simpa [step] using h.symm⟩)
  | act i choice =>
      simp only [step] at h
      split at h
      · rename_i call a k hi
        exact .inr (.inr ⟨i, choice, call, a, k, rfl, hi, by simpa using h.symm⟩)
      · cases h

/-- A run: the transitions taken from the first configuration to the last. -/
inductive Run (c₀ : Config Act Res ε α σ Call) :
    List (Transition Act Res ε α σ Choice Env Call) → Config Act Res ε α σ Call → Prop
  | nil : Run c₀ [] c₀
  | snoc {ts c l c'} (run : Run c₀ ts c) (step : S.step l c = some c') :
      Run c₀ (ts ++ [⟨c, l, c'⟩]) c'

lemma Run.eq_of_nil {c₀ c : Config Act Res ε α σ Call} (h : S.Run c₀ [] c) : c = c₀ := by
  generalize hts : [] = ts at h
  cases h with
  | nil => rfl
  | snoc run step => exact absurd hts (by simp)

/-- Execute a list of labels. -/
def execute : List (Label Choice Env Call) → Config Act Res ε α σ Call →
    Option (List (Transition Act Res ε α σ Choice Env Call) × Config Act Res ε α σ Call)
  | [], c => some ([], c)
  | l :: ls, c =>
      match S.step l c with
      | none => none
      | some c' => (execute ls c').map fun out => (⟨c, l, c'⟩ :: out.1, out.2)

variable {S}

namespace Run

variable {c₀ c : Config Act Res ε α σ Call}
  {ts : List (Transition Act Res ε α σ Choice Env Call)}

lemma append {c₁ : Config Act Res ε α σ Call}
    {ts' : List (Transition Act Res ε α σ Choice Env Call)}
    (h : S.Run c₀ ts c₁) (h' : S.Run c₁ ts' c) : S.Run c₀ (ts ++ ts') c := by
  induction h' with
  | nil => simpa using h
  | snoc _ hstep ih =>
      rw [← List.append_assoc]
      exact .snoc ih hstep

lemma single {l : Label Choice Env Call} {c' : Config Act Res ε α σ Call}
    (h : S.step l c = some c') : S.Run c [⟨c, l, c'⟩] c' := by
  simpa using Run.snoc (.nil : S.Run c [] c) h

/-- A run of two parts passes through a configuration between them. -/
lemma split {ts' : List (Transition Act Res ε α σ Choice Env Call)}
    (h : S.Run c₀ (ts ++ ts') c) : ∃ c₁, S.Run c₀ ts c₁ ∧ S.Run c₁ ts' c := by
  induction ts' using List.reverseRecOn generalizing c with
  | nil => exact ⟨c, by simpa using h, .nil⟩
  | append_singleton ts' t ih =>
      rw [← List.append_assoc] at h
      generalize hts : ts ++ ts' ++ [t] = us at h
      cases h with
      | nil => simp at hts
      | snoc h hstep =>
          obtain ⟨rfl, ht⟩ := List.append_inj' hts rfl
          obtain rfl := List.singleton_inj.mp ht
          obtain ⟨c₁, h₁, h₂⟩ := ih h
          exact ⟨c₁, h₁, .snoc h₂ hstep⟩

/-- A transition of a run is a step, taken after the run before it. -/
lemma at_transition {us vs : List (Transition Act Res ε α σ Choice Env Call)}
    {t : Transition Act Res ε α σ Choice Env Call} (h : S.Run c₀ (us ++ t :: vs) c) :
    S.Run c₀ us t.pre ∧ S.step t.label t.pre = some t.post ∧ S.Run t.post vs c := by
  rw [List.append_cons] at h
  obtain ⟨c₂, h₁, h₂⟩ := h.split
  generalize hts : us ++ [t] = ws at h₁
  cases h₁ with
  | nil => simp at hts
  | snoc h₁ hstep =>
      obtain ⟨rfl, ht⟩ := List.append_inj' hts rfl
      obtain rfl := List.singleton_inj.mp ht
      exact ⟨h₁, hstep, h₂⟩

/-- Every transition of a run is a step, taken after a shorter run. -/
lemma mem_split {t : Transition Act Res ε α σ Choice Env Call} (h : S.Run c₀ ts c)
    (ht : t ∈ ts) : ∃ us vs, ts = us ++ t :: vs ∧ S.Run c₀ us t.pre ∧
      S.step t.label t.pre = some t.post ∧ S.Run t.post vs c := by
  obtain ⟨us, vs, rfl⟩ := List.append_of_mem ht
  exact ⟨us, vs, rfl, h.at_transition⟩

/-- An invariant kept by the steps that meet a condition holds after every run all of whose
transitions meet it. -/
theorem invariant_of (P : Config Act Res ε α σ Call → Prop)
    (cond : Transition Act Res ε α σ Choice Env Call → Prop) (h : S.Run c₀ ts c)
    (hcond : ∀ t ∈ ts, cond t) (h₀ : P c₀)
    (hstep : ∀ l c c', P c → S.step l c = some c' → cond ⟨c, l, c'⟩ → P c') : P c := by
  induction h with
  | nil => exact h₀
  | snoc _ hs ih =>
      simp only [List.mem_append, List.mem_singleton] at hcond
      exact hstep _ _ _ (ih fun t ht => hcond t (.inl ht)) hs (hcond _ (.inr rfl))

/-- An invariant kept by every step holds after every run. -/
theorem invariant (P : Config Act Res ε α σ Call → Prop) (h : S.Run c₀ ts c) (h₀ : P c₀)
    (hstep : ∀ l c c', P c → S.step l c = some c' → P c') : P c :=
  h.invariant_of P (fun _ => True) (fun _ _ => trivial) h₀
    fun l c c' hc hs _ => hstep l c c' hc hs

end Run

lemma run_of_execute {ls : List (Label Choice Env Call)} {c c' : Config Act Res ε α σ Call}
    {ts : List (Transition Act Res ε α σ Choice Env Call)}
    (h : S.execute ls c = some (ts, c')) : S.Run c ts c' := by
  induction ls generalizing c ts with
  | nil =>
      obtain ⟨rfl, rfl⟩ : [] = ts ∧ c = c' := by simpa [execute] using h
      exact .nil
  | cons l ls ih =>
      simp only [execute] at h
      split at h
      · cases h
      · rename_i c₁ hs
        obtain ⟨out, hout, heq⟩ := Option.map_eq_some_iff.mp h
        obtain ⟨rfl, rfl⟩ := Prod.mk.inj heq
        exact (Run.single hs).append (ih hout)

/-- A test passed by an execution is passed by a run. -/
lemma exists_run_of_execute {ls : List (Label Choice Env Call)} {c : Config Act Res ε α σ Call}
    (test : List (Transition Act Res ε α σ Choice Env Call) → Config Act Res ε α σ Call → Bool)
    (h : ((S.execute ls c).any fun out => test out.1 out.2) = true) :
    ∃ ts c', S.Run c ts c' ∧ test ts c' = true := by
  obtain ⟨⟨ts, c'⟩, hout, htest⟩ := (Option.any_eq_true _ _).mp h
  exact ⟨ts, c', run_of_execute hout, htest⟩

end System

/-! ## The rely–guarantee rule -/

/-- The contracts of the calls of a system: what the environment may choose, the invariant of
the shared state, and what each kind of call relies on and guarantees. -/
structure Protocol (S : System Act Res ε α σ Choice Env Call) where
  /-- The choices the environment is allowed to make. -/
  admits : Act → Choice → σ → Prop
  inv : σ → Prop
  rely : Call → σ → σ → Prop
  guar : Call → (a : Act) → σ → Except ε (Res a) → σ → Prop

namespace Protocol

variable {S : System Act Res ε α σ Choice Env Call} (P : Protocol S)

/-- The contract of one call. -/
def contract (call : Call) : Contract Act Res ε σ where
  exec a s r s' := ∃ choice, P.admits a choice s ∧ S.exec a choice s = (r, s')
  inv := P.inv
  rely := P.rely call
  guar := P.guar call

/-- The conditions under which contracts compose. -/
structure Lawful : Prop where
  rely_refl : ∀ call s, P.inv s → P.rely call s s
  rely_trans : ∀ call s₁ s₂ s₃, P.rely call s₁ s₂ → P.rely call s₂ s₃ → P.rely call s₁ s₃
  inv_step : ∀ call a s r s', P.inv s → (P.contract call).exec a s r s' →
    P.guar call a s r s' → P.inv s'
  inv_tick : ∀ e s, P.inv s → P.inv (S.tick e s)
  rely_tick : ∀ call e s, P.inv s → P.rely call s (S.tick e s)

/-- The step is one the protocol speaks about: the environment's choice is admitted. -/
def Admitted (t : Transition Act Res ε α σ Choice Env Call) : Prop :=
  ∀ i choice, t.label = .act i choice → ∀ th a, t.pre.threads[i]? = some th →
    th.prog.next? = some a → P.admits a choice t.pre.state

variable {P}

/-- One action of a suspended call: its guarantee holds and the rest of the call is sound. -/
lemma Lawful.act (hP : P.Lawful) {call : Call} {a : Act} {k : Except ε (Res a) → Prog Act Res ε α}
    {Q : Except ε α → σ → Prop} {s : σ} {choice : Choice} (hinv : P.inv s)
    (hch : P.admits a choice s) (h : (Prog.act a k).wp (P.contract call) Q s) :
    P.guar call a s (S.exec a choice s).1 (S.exec a choice s).2 ∧
      (k (S.exec a choice s).1).wp (P.contract call) Q (S.exec a choice s).2 ∧
      P.inv (S.exec a choice s).2 := by
  obtain ⟨hg, hk⟩ := h s (hP.rely_refl call s hinv) hinv _ _ ⟨choice, hch, rfl⟩
  exact ⟨hg, hk, hP.inv_step call a s _ _ hinv ⟨choice, hch, rfl⟩ hg⟩

/-- The invariant holds, every call in flight meets its contract from here on, and the outcome of
every call that has ended is as promised. -/
structure Sound (P : Protocol S) (Q : Call → Except ε α → σ → Prop)
    (c : Config Act Res ε α σ Call) : Prop where
  inv : P.inv c.state
  wp : ∀ t ∈ c.threads, t.prog.wp (P.contract t.call) (Q t.call) c.state

/-- The thread a transition runs, the action it performs, and the guarantee of that action. -/
def Guaranteed (P : Protocol S) (t : Transition Act Res ε α σ Choice Env Call) : Prop :=
  ∀ i choice, t.label = .act i choice → ∀ call a k, t.pre.threads[i]? = some ⟨call, .act a k⟩ →
    P.guar call a t.pre.state (S.exec a choice t.pre.state).1 t.post.state

/-- A call that waits may rely on the change; the promise of one that has ended survives it. -/
def Withstands (P : Protocol S) (Q : Call → Except ε α → σ → Prop)
    (th : Thread Act Res ε α Call) (s s' : σ) : Prop :=
  match th.prog with
  | .done r => Q th.call r s → Q th.call r s'
  | .act _ _ => P.rely th.call s s'

/-- What an action of the transition guarantees is what all other calls withstand. -/
def Peaceful (P : Protocol S) (Q : Call → Except ε α → σ → Prop)
    (t : Transition Act Res ε α σ Choice Env Call) : Prop :=
  ∀ i choice th, t.label = .act i choice → t.pre.threads[i]? = some th →
    ∀ j th', j ≠ i → t.pre.threads[j]? = some th' →
    ∀ a s r s', P.inv s → (P.contract th.call).exec a s r s' → P.guar th.call a s r s' →
      P.Withstands Q th' s s'

lemma Withstands.wp (hP : P.Lawful) {Q : Call → Except ε α → σ → Prop}
    {th : Thread Act Res ε α Call} {s s' : σ} (h : P.Withstands Q th s s')
    (hwp : th.prog.wp (P.contract th.call) (Q th.call) s) :
    th.prog.wp (P.contract th.call) (Q th.call) s' := by
  obtain ⟨call, prog⟩ := th
  cases prog with
  | done r => exact h hwp
  | act a k => exact Prog.wp_stable (hP.rely_trans _) rfl h hwp

lemma withstands_of_rely {Q : Call → Except ε α → σ → Prop}
    (hQ : ∀ call r s s', P.rely call s s' → Q call r s → Q call r s')
    {th : Thread Act Res ε α Call} {s s' : σ} (h : P.rely th.call s s') :
    P.Withstands Q th s s' := by
  obtain ⟨call, prog⟩ := th
  cases prog with
  | done r => exact hQ call r s s' h
  | act a k => exact h

/-- **One step under rely–guarantee.**  A call that is issued must meet its contract from the
current state, and the step must be peaceful. -/
theorem Sound.step (hP : P.Lawful) {Q : Call → Except ε α → σ → Prop} {l : Label Choice Env Call}
    {c c' : Config Act Res ε α σ Call} (hc : P.Sound Q c) (hs : S.step l c = some c')
    (hadm : P.Admitted ⟨c, l, c'⟩)
    (hQ : ∀ call r e s, P.inv s → Q call r s → Q call r (S.tick e s))
    (hinvoke : ∀ call, l = .invoke call → P.inv c.state →
      (S.start call).wp (P.contract call) (Q call) c.state)
    (hpeace : P.Peaceful Q ⟨c, l, c'⟩) : P.Sound Q c' ∧ P.Guaranteed ⟨c, l, c'⟩ := by
  rcases S.step_cases hs with ⟨call, rfl, rfl⟩ | ⟨e, rfl, rfl⟩ |
    ⟨i, choice, call, a, k, rfl, hi, rfl⟩
  · refine ⟨⟨hc.inv, fun t ht => ?_⟩, fun i choice h => nomatch h⟩
    rcases List.mem_append.mp ht with ht | ht
    · exact hc.wp t ht
    · rw [List.mem_singleton.mp ht]
      exact hinvoke call rfl hc.inv
  · refine ⟨⟨hP.inv_tick e _ hc.inv, fun t ht => ?_⟩, fun i choice h => nomatch h⟩
    have htick : P.Withstands Q t c.state (S.tick e c.state) := by
      obtain ⟨call, prog⟩ := t
      cases prog with
      | done r => exact hQ call r e c.state hc.inv
      | act a k => exact hP.rely_tick call e c.state hc.inv
    exact htick.wp hP (hc.wp t ht)
  · have hch : P.admits a choice c.state := hadm i choice rfl _ a hi rfl
    have hwp := hc.wp _ (List.mem_of_getElem? hi)
    obtain ⟨hg, hk, hinv⟩ := hP.act hc.inv hch hwp
    refine ⟨⟨hinv, fun t ht => ?_⟩, ?_⟩
    · obtain ⟨j, hj⟩ := List.mem_iff_getElem?.mp ht
      rw [List.getElem?_set] at hj
      split at hj
      · split at hj
        · obtain rfl := Option.some_inj.mp hj
          exact hk
        · cases hj
      · rename_i hij
        exact (hpeace i choice _ rfl hi j t (Ne.symm hij) hj a _ _ _ hc.inv ⟨choice, hch, rfl⟩
          hg).wp hP (hc.wp t (List.mem_of_getElem? hj))
    · rintro i' choice' hl call' a' k' hi'
      cases hl
      obtain ⟨rfl, h⟩ : call = call' ∧ (Prog.act a k : Prog Act Res ε α) = .act a' k' := by
        simpa [hi] using hi'
      cases h
      exact hg

end Protocol

namespace System

variable {S : System Act Res ε α σ Choice Env Call} {P : Protocol S}
  {Q : Call → Except ε α → σ → Prop} {s : σ} {c : Config Act Res ε α σ Call}
  {ts : List (Transition Act Res ε α σ Choice Env Call)}

/-- Soundness lasts along an admitted and peaceful run. -/
theorem Run.sound_from {c₀ : Config Act Res ε α σ Call} (hP : P.Lawful)
    (hQ : ∀ call r e s, P.inv s → Q call r s → Q call r (S.tick e s)) (hc₀ : P.Sound Q c₀)
    (h : S.Run c₀ ts c) (hadm : ∀ t ∈ ts, P.Admitted t)
    (hstart : ∀ call s, P.inv s → (S.start call).wp (P.contract call) (Q call) s)
    (hpeace : ∀ t ∈ ts, P.Peaceful Q t) : P.Sound Q c ∧ ∀ t ∈ ts, P.Guaranteed t := by
  induction h with
  | nil => exact ⟨hc₀, fun t ht => by simp at ht⟩
  | @snoc ts c l c' _ hstep ih =>
      simp only [List.mem_append, List.mem_singleton] at hadm hpeace
      obtain ⟨hsound, hguar⟩ := ih (fun t ht => hadm t (.inl ht)) fun t ht => hpeace t (.inl ht)
      obtain ⟨hsound', hg⟩ := hsound.step hP hstep (hadm _ (.inr rfl)) hQ
        (fun call _ => hstart call c.state) (hpeace _ (.inr rfl))
      refine ⟨hsound', fun t ht => ?_⟩
      rcases List.mem_append.mp ht with ht | ht
      · exact hguar t ht
      · rw [List.mem_singleton.mp ht]
        exact hg

/-- **The rely–guarantee rule.**  Along an admitted and peaceful run from a state without calls the
invariant holds, every call meets its contract and every performed action has met its
guarantee. -/
theorem Run.sound_of_peaceful (hP : P.Lawful)
    (hQ : ∀ call r e s, P.inv s → Q call r s → Q call r (S.tick e s)) (hs : P.inv s)
    (h : S.Run (.init s) ts c) (hadm : ∀ t ∈ ts, P.Admitted t)
    (hstart : ∀ call s, P.inv s → (S.start call).wp (P.contract call) (Q call) s)
    (hpeace : ∀ t ∈ ts, P.Peaceful Q t) : P.Sound Q c ∧ ∀ t ∈ ts, P.Guaranteed t :=
  h.sound_from hP hQ ⟨hs, fun t ht => by simp [Config.init] at ht⟩ hadm hstart hpeace

/-- The rule for calls that are issued when all earlier ones have ended. -/
theorem Run.sound_of_quiescent {c₀ : Config Act Res ε α σ Call} (hP : P.Lawful)
    (hstart : ∀ call s, P.inv s → (S.start call).wp (P.contract call) (fun _ _ => True) s)
    (hcompat : ∀ call call' a s r s', P.inv s → (P.contract call).exec a s r s' →
      P.guar call a s r s' → P.rely call' s s')
    (hquiet : c₀.quiescent) (hs : P.inv c₀.state) (h : S.Run c₀ ts c)
    (hadm : ∀ t ∈ ts, P.Admitted t) : P.inv c.state ∧ ∀ t ∈ ts, P.Guaranteed t := by
  have hsound : P.Sound (fun _ _ _ => True) c₀ := by
    refine ⟨hs, fun th hth => ?_⟩
    obtain ⟨call, prog⟩ := th
    cases prog with
    | done r => trivial
    | act a k => cases hquiet _ hth
  obtain ⟨hsound', hguar⟩ := h.sound_from hP (fun _ _ _ _ _ _ => trivial) hsound hadm hstart
    fun t _ i choice th _ _ j th' _ _ a s r s' hinv he hg =>
      Protocol.withstands_of_rely (fun _ _ _ _ _ _ => trivial)
        (hcompat th.call th'.call a s r s' hinv he hg)
  exact ⟨hsound'.inv, hguar⟩

/-- The rule for calls whose guarantees imply everybody's rely. -/
theorem Run.sound (hP : P.Lawful)
    (hQ : ∀ call r s s', P.rely call s s' → Q call r s → Q call r s')
    (hstart : ∀ call s, P.inv s → (S.start call).wp (P.contract call) (Q call) s)
    (hcompat : ∀ call call' a s r s', P.inv s → (P.contract call).exec a s r s' →
      P.guar call a s r s' → P.rely call' s s')
    (hs : P.inv s) (h : S.Run (.init s) ts c) (hadm : ∀ t ∈ ts, P.Admitted t) :
    P.Sound Q c ∧ ∀ t ∈ ts, P.Guaranteed t := by
  refine h.sound_of_peaceful hP (fun call r e s hinv => hQ call r s _ (hP.rely_tick call e s hinv))
    hs hadm hstart ?_
  intro t _ i choice th _ _ j th' _ _ a s r s' hinv he hg
  exact Protocol.withstands_of_rely hQ (hcompat th.call th'.call a s r s' hinv he hg)

/-- **Following one call.**  In a run whose actions meet their guarantees, a call keeps a
postcondition of its own, which may speak about the state it has started from. -/
theorem Run.follow (hP : P.Lawful)
    (hcompat : ∀ call call' a s r s', P.inv s → (P.contract call).exec a s r s' →
      P.guar call a s r s' → P.rely call' s s')
    {c₁ : Config Act Res ε α σ Call} (h : S.Run c₁ ts c) (hinv : ∀ t ∈ ts, P.inv t.pre.state)
    (hadm : ∀ t ∈ ts, P.Admitted t) (hguar : ∀ t ∈ ts, P.Guaranteed t) {k : ℕ} {call : Call}
    {q : Prog Act Res ε α} (hk : c₁.threads[k]? = some ⟨call, q⟩) {Q : Except ε α → σ → Prop}
    (hQ : ∀ r s s', P.rely call s s' → Q r s → Q r s')
    (hwp : q.wp (P.contract call) Q c₁.state) :
    ∃ q', c.threads[k]? = some ⟨call, q'⟩ ∧ q'.wp (P.contract call) Q c.state := by
  have hstable : ∀ {q' : Prog Act Res ε α} {s s' : σ}, P.rely call s s' →
      q'.wp (P.contract call) Q s → q'.wp (P.contract call) Q s' := by
    intro q' s s' hr hq'
    cases q' with
    | done r => exact hQ r s s' hr hq'
    | act a k' => exact Prog.wp_stable (hP.rely_trans call) rfl hr hq'
  induction h with
  | nil => exact ⟨q, hk, hwp⟩
  | @snoc ts c l c' _ hstep ih =>
      simp only [List.mem_append, List.mem_singleton] at hinv hadm hguar
      obtain ⟨q', hk', hq'⟩ := ih (fun t ht => hinv t (.inl ht)) (fun t ht => hadm t (.inl ht))
        fun t ht => hguar t (.inl ht)
      have hpre : P.inv c.state := hinv ⟨c, l, c'⟩ (.inr rfl)
      have hlt : k < c.threads.length := (List.getElem?_eq_some_iff.mp hk').1
      rcases S.step_cases hstep with ⟨_, rfl, rfl⟩ | ⟨e, rfl, rfl⟩ |
        ⟨i, choice, call', a, cont, rfl, hi, rfl⟩
      · exact ⟨q', (List.getElem?_append_left hlt).trans hk', hq'⟩
      · exact ⟨q', hk', hstable (hP.rely_tick call e _ hpre) hq'⟩
      · have hch : P.admits a choice c.state :=
          hadm ⟨c, _, _⟩ (.inr rfl) i choice rfl _ a hi rfl
        by_cases hik : i = k
        · subst hik
          obtain ⟨rfl, rfl⟩ : call = call' ∧ q' = .act a cont := by
            simpa using Option.some_inj.mp (hk'.symm.trans hi)
          exact ⟨_, List.getElem?_set_self hlt, (hP.act hpre hch hq').2.1⟩
        · refine ⟨q', (List.getElem?_set_ne hik).trans hk', hstable ?_ hq'⟩
          exact hcompat call' call a _ _ _ hpre ⟨choice, hch, rfl⟩
            (hguar ⟨c, _, _⟩ (.inr rfl) i choice rfl call' a cont hi)

/-- What is left of a call performs actions of the call only. -/
lemma Run.all {P : Call → Act → Prop} (h : S.Run (.init s) ts c)
    (hstart : ∀ call, (S.start call).All (P call)) : ∀ t ∈ c.threads, t.prog.All (P t.call) := by
  refine h.invariant (fun c => ∀ t ∈ c.threads, t.prog.All (P t.call)) ?_ ?_
  · simp [Config.init]
  · intro l c c' hc hstep
    rcases S.step_cases hstep with ⟨call, rfl, rfl⟩ | ⟨e, rfl, rfl⟩ |
      ⟨i, choice, call, a, k, rfl, hi, rfl⟩
    · intro t ht
      rcases List.mem_append.mp ht with ht | ht
      · exact hc t ht
      · rw [List.mem_singleton.mp ht]
        exact hstart call
    · exact hc
    · intro t ht
      rcases List.mem_or_eq_of_mem_set ht with ht | rfl
      · exact hc t ht
      · exact (hc _ (List.mem_of_getElem? hi)).2 _

/-! ### Calls that are apart -/

/-- A step adds the call that it issues, and leaves the others as they are. -/
lemma step_calls {l : Label Choice Env Call} {c c' : Config Act Res ε α σ Call}
    (h : S.step l c = some c') : c'.calls = c.calls ++ l.issued := by
  rcases S.step_cases h with ⟨call, rfl, rfl⟩ | ⟨e, rfl, rfl⟩ |
    ⟨i, choice, call, a, k, rfl, hi, rfl⟩
  · exact List.map_append
  · exact (List.append_nil _).symm
  · obtain ⟨hlt, heq⟩ := List.getElem?_eq_some_iff.mp hi
    have hlt' : i < (c.threads.map Thread.call).length := by simpa using hlt
    have hcall : (c.threads.map Thread.call)[i] = call := by rw [List.getElem_map, heq]
    rw [Config.calls, List.map_set, ← hcall, List.set_getElem_self]
    exact (List.append_nil _).symm

/-- The calls of an execution are those that its labels issue. -/
lemma calls_of_execute {ls : List (Label Choice Env Call)} {c c' : Config Act Res ε α σ Call}
    {ts : List (Transition Act Res ε α σ Choice Env Call)} (h : S.execute ls c = some (ts, c')) :
    c'.calls = c.calls ++ ls.flatMap Label.issued := by
  induction ls generalizing c ts with
  | nil =>
      obtain ⟨-, rfl⟩ : [] = ts ∧ c = c' := by simpa [execute] using h
      exact (List.append_nil _).symm
  | cons l ls ih =>
      simp only [execute] at h
      split at h
      · cases h
      · rename_i c₁ hs
        obtain ⟨out, hout, heq⟩ := Option.map_eq_some_iff.mp h
        obtain ⟨rfl, rfl⟩ := Prod.mk.inj heq
        rw [ih hout, step_calls hs, List.flatMap_cons, List.append_assoc]

/-- Two threads whose calls are apart. -/
lemma apart_of_pairwise {Apart : Call → Call → Prop}
    (hsymm : ∀ call call', Apart call call' → Apart call' call) (hapart : c.calls.Pairwise Apart)
    {i j : ℕ} {th th' : Thread Act Res ε α Call} (hi : c.threads[i]? = some th)
    (hj : c.threads[j]? = some th') (hij : i ≠ j) : Apart th.call th'.call := by
  rw [Config.calls, List.pairwise_map, List.pairwise_iff_getElem] at hapart
  obtain ⟨hlt, rfl⟩ := List.getElem?_eq_some_iff.mp hi
  obtain ⟨hlt', rfl⟩ := List.getElem?_eq_some_iff.mp hj
  rcases Nat.lt_or_gt_of_ne hij with h | h
  · exact hapart i j hlt hlt' h
  · exact hsymm _ _ (hapart j i hlt' hlt h)

/-- A guaranteed step is one that a call apart from all others may rely on. -/
lemma rely_of_guaranteed (hP : P.Lawful) {Apart : Call → Call → Prop}
    (hcompat : ∀ call call', Apart call call' → ∀ a s r s', P.inv s →
      (P.contract call).exec a s r s' → P.guar call a s r s' → P.rely call' s s')
    {l : Label Choice Env Call} {c' : Config Act Res ε α σ Call} (hinv : P.inv c.state)
    (hstep : S.step l c = some c') (hadm : P.Admitted ⟨c, l, c'⟩) (hg : P.Guaranteed ⟨c, l, c'⟩)
    {call : Call} (hcall : ∀ call' ∈ c.calls, Apart call' call) :
    P.rely call c.state c'.state := by
  rcases S.step_cases hstep with ⟨_, rfl, rfl⟩ | ⟨e, rfl, rfl⟩ |
    ⟨i, choice, call', a, k, rfl, hi, rfl⟩
  · exact hP.rely_refl call _ hinv
  · exact hP.rely_tick call e _ hinv
  · have hmem : call' ∈ c.calls :=
      List.mem_map.mpr ⟨⟨call', .act a k⟩, List.mem_of_getElem? hi, rfl⟩
    have hch : P.admits a choice c.state := hadm i choice rfl _ a hi rfl
    exact hcompat call' call (hcall call' hmem) a _ _ _ hinv ⟨choice, hch, rfl⟩
      (hg i choice rfl call' a k hi)

/-- The rule for calls that are pairwise apart, where the guarantee of one implies what the calls
apart from it rely on.  A call can rely on it from the start of the run, before it is
issued. -/
theorem Run.sound_of_apart (hP : P.Lawful)
    (hQ : ∀ call r s s', P.rely call s s' → Q call r s → Q call r s') (Apart : Call → Call → Prop)
    (hsymm : ∀ call call', Apart call call' → Apart call' call)
    (hcompat : ∀ call call', Apart call call' → ∀ a s r s', P.inv s →
      (P.contract call).exec a s r s' → P.guar call a s r s' → P.rely call' s s')
    (hs : P.inv s) (h : S.Run (.init s) ts c) (hadm : ∀ t ∈ ts, P.Admitted t)
    (hstart : ∀ call ∈ c.calls, ∀ s', P.rely call s s' → P.inv s' →
      (S.start call).wp (P.contract call) (Q call) s')
    (hapart : c.calls.Pairwise Apart) :
    P.Sound Q c ∧ ∀ call, (∀ call' ∈ c.calls, Apart call' call) → P.rely call s c.state := by
  induction h with
  | nil =>
      refine ⟨⟨hs, fun t ht => by simp [Config.init] at ht⟩, ?_⟩
      exact fun call _ => hP.rely_refl call s hs
  | @snoc ts c l c' _ hstep ih =>
      have hcalls : c.calls <+: c'.calls := by
        rw [step_calls hstep]
        exact List.prefix_append _ _
      obtain ⟨hsound, hrely⟩ := ih (fun t ht => hadm t (List.mem_append_left _ ht))
        (fun call hcall => hstart call (hcalls.subset hcall)) (hapart.sublist hcalls.sublist)
      have hinvoke : ∀ call, l = .invoke call → P.inv c.state →
          (S.start call).wp (P.contract call) (Q call) c.state := by
        rintro call rfl hinv
        have hlast : call ∈ c'.calls := by
          rw [step_calls hstep]
          exact List.mem_append_right _ (List.mem_singleton_self call)
        refine hstart call hlast _ (hrely call fun call' hcall' => ?_) hinv
        rw [step_calls hstep, List.pairwise_append] at hapart
        exact hapart.2.2 call' hcall' call (List.mem_singleton_self call)
      have hpeace : P.Peaceful Q ⟨c, l, c'⟩ := by
        intro i choice th _ hi j th' hij hj a s r s' hinv he hg
        have happart := apart_of_pairwise hsymm (hapart.sublist hcalls.sublist) hi hj (Ne.symm hij)
        exact Protocol.withstands_of_rely hQ (hcompat _ _ happart a s r s' hinv he hg)
      obtain ⟨hsound', hg⟩ := hsound.step hP hstep (hadm _ (by simp))
        (fun call r e s hinv => hQ call r s _ (hP.rely_tick call e s hinv)) hinvoke hpeace
      refine ⟨hsound', fun call hcall => ?_⟩
      have hcall' : ∀ call' ∈ c.calls, Apart call' call :=
        fun call' hmem => hcall call' (hcalls.subset hmem)
      exact hP.rely_trans call _ _ _ (hrely call hcall')
        (rely_of_guaranteed hP hcompat hsound.inv hstep (hadm _ (by simp)) hg hcall')

/-! ### Calls one after the other -/

/-- In a sequential run at most one call is in flight. -/
lemma Run.alone {s : σ} (h : S.Run (.init s) ts c) (hseq : Sequential ts) : c.Alone := by
  induction h with
  | nil =>
      intro i j t t' hi
      simp [Config.init] at hi
  | @snoc ts c l c' _ hstep ih =>
      have halone : c.Alone := ih fun t ht => hseq t (List.mem_append_left _ ht)
      have hlast := hseq ⟨c, l, c'⟩ (by simp)
      rcases S.step_cases hstep with ⟨call, rfl, rfl⟩ | ⟨e, rfl, rfl⟩ |
        ⟨k, choice, call, a, cont, rfl, hk, rfl⟩
      · -- only the new call is in flight
        have hnew : ∀ (i : ℕ) (t : Thread Act Res ε α Call),
            (c.threads ++ [⟨call, S.start call⟩])[i]? = some t → t.prog.running = true →
              i = c.threads.length := by
          intro i t hi hrun
          rw [List.getElem?_append] at hi
          split at hi <;> rename_i hlt
          · have hdone := hlast call rfl t (List.mem_of_getElem? hi)
            rw [hrun] at hdone
            cases hdone
          · have hsub := (List.getElem?_eq_some_iff.mp hi).1
            rw [List.length_singleton] at hsub
            omega
        intro i j t t' hi hj hrun hrun'
        exact (hnew i t hi hrun).trans (hnew j t' hj hrun').symm
      · exact halone
      · have hback : ∀ (i : ℕ) (t : Thread Act Res ε α Call),
            (c.threads.set k ⟨call, cont (S.exec a choice c.state).1⟩)[i]? = some t →
            t.prog.running = true →
            ∃ t₀ : Thread Act Res ε α Call, c.threads[i]? = some t₀ ∧ t₀.prog.running = true := by
          intro i t hi hrun
          by_cases hik : k = i
          · subst hik
            exact ⟨_, hk, rfl⟩
          · rw [List.getElem?_set_ne hik] at hi
            exact ⟨t, hi, hrun⟩
        intro i j t t' hi hj hrun hrun'
        obtain ⟨t₀, hi₀, hrun₀⟩ := hback i t hi hrun
        obtain ⟨t₁, hj₁, hrun₁⟩ := hback j t' hj hrun'
        exact halone i j t₀ t₁ hi₀ hj₁ hrun₀ hrun₁

/-- The rule for calls that are issued one after the other: nobody interferes. -/
theorem Run.sound_of_sequential (hP : P.Lawful) {s : σ}
    (hstart : ∀ call s, P.inv s → (S.start call).wp (P.contract call) (fun _ _ => True) s)
    (hs : P.inv s) (h : S.Run (.init s) ts c) (hseq : Sequential ts)
    (hadm : ∀ t ∈ ts, P.Admitted t) : ∀ t ∈ ts, P.Guaranteed t := by
  refine (h.sound_of_peaceful (Q := fun _ _ _ => True) hP (fun _ _ _ _ _ _ => trivial) hs hadm
    hstart ?_).2
  intro t ht i choice th hl hi j th' hij hj a s r s' _ _ _
  obtain ⟨us, vs, rfl, hpre, hstep, -⟩ := h.mem_split ht
  have halone := hpre.alone fun t' ht' => hseq t' (List.mem_append_left _ ht')
  have hrun : th.prog.running = true := by
    rw [hl] at hstep
    rcases S.step_cases hstep with ⟨_, hl', -⟩ | ⟨_, hl', -⟩ | ⟨i', _, _, _, _, hl', hi', -⟩
    · cases hl'
    · cases hl'
    · cases hl'
      obtain rfl := Option.some_inj.mp (hi.symm.trans hi')
      rfl
  obtain ⟨call', prog'⟩ := th'
  cases prog' with
  | done r => exact fun _ => trivial
  | act a' k => exact absurd (halone j i _ th hj hi rfl hrun) hij

end System

end Framework
