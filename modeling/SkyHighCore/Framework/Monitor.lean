import SkyHighCore.Framework.Histories

/-!
# Monitors

A `Monitor` watches the actions of a call and their outcomes, but not the shared state.  It is a
state machine that says, in each of its states, which action the call may perform next and in
which state the call may end.  A program `Obeys` a monitor if it has a weakest precondition under
the contract whose states are those of the monitor and which nobody interferes with, so that the
rules of `Prog.wp` apply.

`Tracked` says of a pool that each of its calls obeys the monitor from the state that `g` gives
to the call.  `Tracked.invoke` and `Tracked.act` move these states along with the pool; an
invariant of the shared state may then speak about them, and `tally` sums up what they count.
-/

namespace Framework

/-- A state machine that watches one call. -/
structure Monitor (Act : Type) (Res : Act → Type) (ε γ : Type) where
  /-- The state in which a call is issued. -/
  start : γ
  /-- The actions a call may perform. -/
  allows : γ → Act → Prop
  next : γ → (a : Act) → Except ε (Res a) → γ
  /-- The states in which a call may end. -/
  final : γ → Prop

namespace Monitor

variable {Act : Type} {Res : Act → Type} {ε α β τ σ γ Choice Env Call : Type}
variable (M : Monitor Act Res ε γ) (S : System Act Res ε α σ Choice Env Call)

/-- The monitor as a contract on its own states. -/
def contract : Contract Act Res ε γ where
  exec a g r g' := (∃ ch s, (S.exec a ch s).1 = r) ∧ g' = M.next g a r
  inv _ := True
  rely := Eq
  guar a g _ _ := M.allows g a

/-- From the state `g` of the monitor on, the program does what the monitor allows. -/
def Obeys (g : γ) (p : Prog Act Res ε β) : Prop :=
  p.wp (M.contract S) (fun _ g' => M.final g') g

variable {M S} {g : γ}

/-- One action of a call. -/
lemma Obeys.act {a : Act} {k : Except ε (Res a) → Prog Act Res ε β}
    (h : M.Obeys S g (.act a k)) (ch : Choice) (s : σ) :
    M.allows g a ∧ M.Obeys S (M.next g a (S.exec a ch s).1) (k (S.exec a ch s).1) :=
  h g rfl trivial _ _ ⟨⟨ch, s, rfl⟩, rfl⟩

/-- The monitor allows an action in `g` and stays there, whatever the outcome. -/
def Neutral (M : Monitor Act Res ε γ) (g : γ) (a : Act) : Prop :=
  M.allows g a ∧ ∀ r, M.next g a r = g

/-- A program of neutral actions leaves the monitor where it is. -/
lemma wp_of_neutral {p : Prog Act Res ε β} (hp : p.All (M.Neutral g)) :
    p.wp (M.contract S) (fun _ g' => g' = g) g := by
  induction p with
  | done r => exact rfl
  | act a k ih =>
      rintro g₁ rfl - r g₂ ⟨-, rfl⟩
      obtain ⟨⟨hallows, hnext⟩, hk⟩ := hp
      rw [hnext r]
      exact ⟨hallows, ih r (hk r)⟩

lemma Obeys.of_neutral (hg : M.final g) {p : Prog Act Res ε β} (hp : p.All (M.Neutral g)) :
    M.Obeys S g p :=
  Prog.wp_mono (fun _ _ h => h.symm ▸ hg) (wp_of_neutral hp)

/-- A program of neutral actions before another program. -/
lemma Obeys.bind_neutral (hg : M.final g) {p : Prog Act Res ε β} (hp : p.All (M.Neutral g))
    {k : β → Prog Act Res ε τ} (hk : ∀ v, M.Obeys S g (k v)) : M.Obeys S g (p >>= k) := by
  refine Prog.wp_bind (Prog.wp_mono (fun r g' hg' => ?_) (wp_of_neutral hp))
  subst hg'
  cases r with
  | ok v => exact hk v
  | error e => exact hg

/-- An action that moves the monitor, before another program. -/
lemma Obeys.bind_perform {a : Act} {k : Res a → Prog Act Res ε β} (ha : M.allows g a)
    (hfail : ∀ e, M.final (M.next g a (.error e)))
    (hk : ∀ v, M.Obeys S (M.next g a (.ok v)) (k v)) :
    M.Obeys S g ((Prog.perform a : Prog Act Res ε (Res a)) >>= k) := by
  rintro g₁ rfl - r g₂ ⟨-, rfl⟩
  refine ⟨ha, ?_⟩
  cases r with
  | ok v => exact hk v
  | error e => exact hfail e

/-- From `g` on, the program does what the monitor allows; if it returns, `Q` holds, and if it
throws, the monitor is in a state of `E`. -/
def Reaches (M : Monitor Act Res ε γ) (S : System Act Res ε α σ Choice Env Call) (E : γ → Prop)
    (g : γ) (p : Prog Act Res ε β) (Q : β → γ → Prop) : Prop :=
  p.wp (M.contract S) (fun r g' => match r with
    | .ok v => Q v g'
    | .error _ => E g') g

section Reaches

variable {E : γ → Prop} {Q : β → γ → Prop} {R : τ → γ → Prop}

lemma reaches_pure {v : β} (h : Q v g) : M.Reaches S E g (pure v) Q := h

lemma reaches_throw {e : ε} (h : E g) : M.Reaches S E g (Prog.throw e) Q := h

lemma reaches_throwWhen {c : Prop} [Decidable c] {e : ε} (h : E g) :
    M.Reaches S E g (Prog.throwWhen c e) fun _ g' => g' = g :=
  Prog.wp_throwWhen (fun _ => h) fun _ => rfl

lemma reaches_perform {a : Act} {P : Res a → γ → Prop} (ha : M.allows g a)
    (hfail : ∀ e, E (M.next g a (.error e))) (hok : ∀ v, P v (M.next g a (.ok v))) :
    M.Reaches S E g (Prog.perform a) P := by
  rintro g₁ rfl - r g₂ ⟨-, rfl⟩
  refine ⟨ha, ?_⟩
  cases r with
  | ok v => exact hok v
  | error e => exact hfail e

lemma Reaches.mono {p : Prog Act Res ε β} {P : β → γ → Prop} (hp : M.Reaches S E g p Q)
    (hQ : ∀ v g', Q v g' → P v g') : M.Reaches S E g p P := by
  refine Prog.wp_mono (fun r g' hr => ?_) hp
  cases r with
  | ok v => exact hQ v g' hr
  | error e => exact hr

lemma Reaches.bind {p : Prog Act Res ε β} {k : β → Prog Act Res ε τ} (hp : M.Reaches S E g p Q)
    (hk : ∀ v g', Q v g' → M.Reaches S E g' (k v) R) : M.Reaches S E g (p >>= k) R := by
  refine Prog.wp_bind (Prog.wp_mono (fun r g' hr => ?_) hp)
  cases r with
  | ok v => exact hk v g' hr
  | error e => exact hr

/-- A program may end where its exceptions do. -/
lemma Reaches.obeys {p : Prog Act Res ε β} (hp : M.Reaches S E g p fun _ g' => E g')
    (hE : ∀ g', E g' → M.final g') : M.Obeys S g p := by
  refine Prog.wp_mono (fun r g' hr => ?_) hp
  cases r with
  | ok v => exact hE g' hr
  | error e => exact hE g' hr

/-- A program with a `finally` block that ends in a final state, wherever it is entered. -/
lemma obeys_tryFinally {F : γ → Prop} {p : Prog Act Res ε β} {fin : Prog Act Res ε Unit}
    (hp : M.Reaches S F g p fun _ g' => F g') (hfin : ∀ g', F g' → M.Obeys S g' fin) :
    M.Obeys S g (p.tryFinally fin) := by
  refine Prog.wp_tryFinally (Prog.wp_mono (fun r g' hr => ?_) hp)
  have hF : F g' := by
    cases r with
    | ok v => exact hr
    | error e => exact hr
  refine Prog.wp_mono (fun r' g'' hr' => ?_) (hfin g' hF)
  cases r' with
  | ok _ => exact hr'
  | error _ => exact hr'

end Reaches

/-! ## Pools of monitored calls -/

variable (M S)

/-- Every call obeys the monitor from its own state on; calls not yet issued are at the start. -/
structure Tracked (c : Config Act Res ε α σ Call) (g : ℕ → γ) : Prop where
  obeys : ∀ k th, c.threads[k]? = some th → M.Obeys S (g k) th.prog
  idle : ∀ k, c.threads[k]? = none → g k = M.start

variable {M S} {c : Config Act Res ε α σ Call} {g : ℕ → γ}

lemma Tracked.init (s : σ) : M.Tracked S (.init s) fun _ => M.start where
  obeys k th h := by simp [Config.init] at h
  idle _ _ := rfl

/-- Calls that have ended are where a call may end, and start. -/
lemma Tracked.of_quiescent (h : c.quiescent) (hstart : M.final M.start) :
    M.Tracked S c fun _ => M.start where
  obeys k th hk := by
    have hdone := h th (List.mem_of_getElem? hk)
    obtain ⟨call, prog⟩ := th
    cases prog with
    | done r => exact hstart
    | act a cont => cases hdone
  idle _ _ := rfl

lemma Tracked.of_threads {c' : Config Act Res ε α σ Call} (h : M.Tracked S c g)
    (heq : c'.threads = c.threads) : M.Tracked S c' g where
  obeys k th hk := h.obeys k th (heq ▸ hk)
  idle k hk := h.idle k (heq ▸ hk)

/-- A call that is issued in a state of its own. -/
lemma Tracked.invoke_at {call : Call} {g₀ : γ} (h : M.Tracked S c g)
    (hcall : M.Obeys S g₀ (S.start call)) :
    M.Tracked S { c with threads := c.threads ++ [⟨call, S.start call⟩] }
      (Function.update g c.threads.length g₀) where
  obeys k th hk := by
    rw [List.getElem?_append] at hk
    split at hk
    · rename_i hlt
      rw [Function.update_of_ne (Nat.ne_of_lt hlt)]
      exact h.obeys k th hk
    · rename_i hge
      have hsub := (List.getElem?_eq_some_iff.mp hk).1
      rw [List.length_singleton] at hsub
      obtain rfl : k = c.threads.length := by omega
      rw [Nat.sub_self] at hk
      obtain rfl := Option.some_inj.mp hk
      rw [Function.update_self]
      exact hcall
  idle k hk := by
    rw [List.getElem?_eq_none_iff, List.length_append, List.length_singleton] at hk
    rw [Function.update_of_ne (by omega)]
    exact h.idle k (List.getElem?_eq_none (by omega))

lemma Tracked.invoke {call : Call} (h : M.Tracked S c g)
    (hcall : M.Obeys S M.start (S.start call)) :
    M.Tracked S { c with threads := c.threads ++ [⟨call, S.start call⟩] } g := by
  have hat := h.invoke_at hcall
  have hg : g c.threads.length = M.start := h.idle _ (List.getElem?_eq_none (Nat.le_refl _))
  rwa [← hg, Function.update_eq_self] at hat

/-- The call that acts moves on; the others stay where they are. -/
theorem Tracked.act {k : ℕ} {call : Call} {a : Act} {cont : Except ε (Res a) → Prog Act Res ε α}
    (h : M.Tracked S c g) (hk : c.threads[k]? = some ⟨call, .act a cont⟩) (ch : Choice) :
    M.allows (g k) a ∧
      M.Tracked S ⟨(S.exec a ch c.state).2, c.threads.set k ⟨call, cont (S.exec a ch c.state).1⟩⟩
        (Function.update g k (M.next (g k) a (S.exec a ch c.state).1)) := by
  obtain ⟨hallows, hnext⟩ := (h.obeys k _ hk).act ch c.state
  refine ⟨hallows, fun j th hj => ?_, fun j hj => ?_⟩
  · by_cases hjk : j = k
    · subst hjk
      rw [List.getElem?_set_self (List.getElem?_eq_some_iff.mp hk).1] at hj
      obtain rfl := Option.some_inj.mp hj
      rw [Function.update_self]
      exact hnext
    · rw [List.getElem?_set_ne (Ne.symm hjk)] at hj
      rw [Function.update_of_ne hjk]
      exact h.obeys j th hj
  · have hne : j ≠ k := by
      rintro rfl
      simp [(List.getElem?_eq_some_iff.mp hk).1] at hj
    rw [List.getElem?_set_ne (Ne.symm hne)] at hj
    rw [Function.update_of_ne hne]
    exact h.idle j hj

/-- A call that has ended has ended in a final state. -/
lemma Tracked.final {k : ℕ} {th : Thread Act Res ε α Call} (h : M.Tracked S c g)
    (hk : c.threads[k]? = some th) (hdone : th.prog.running = false) : M.final (g k) := by
  have hobeys := h.obeys k th hk
  obtain ⟨call, prog⟩ := th
  cases prog with
  | done r => exact hobeys
  | act a cont => cases hdone

/-! ### States along a run -/

section States

variable (M S) (start : Call → γ)

/-- The states of the calls after a transition, if a call is issued in the state that `start` gives
to it. -/
def advance (g : ℕ → γ) (t : Transition Act Res ε α σ Choice Env Call) : ℕ → γ :=
  match t.label with
  | .invoke call => Function.update g t.pre.threads.length (start call)
  | .act k ch =>
      match t.pre.threads[k]? with
      | some ⟨_, .act a _⟩ => Function.update g k (M.next (g k) a (S.exec a ch t.pre.state).1)
      | _ => g
  | .tick _ => g

/-- The states of the calls after a list of transitions. -/
def states (ts : List (Transition Act Res ε α σ Choice Env Call)) : ℕ → γ :=
  ts.foldl (M.advance S start) fun _ => M.start

variable {M S start}

lemma states_concat {ts : List (Transition Act Res ε α σ Choice Env Call)}
    {t : Transition Act Res ε α σ Choice Env Call} :
    M.states S start (ts ++ [t]) = M.advance S start (M.states S start ts) t := by
  simp [states, List.foldl_append]

lemma advance_invoke {call : Call} {c' : Config Act Res ε α σ Call} :
    M.advance S start g ⟨c, .invoke call, c'⟩ =
      Function.update g c.threads.length (start call) := rfl

lemma advance_act {k : ℕ} {ch : Choice} {call : Call} {a : Act}
    {cont : Except ε (Res a) → Prog Act Res ε α} {c' : Config Act Res ε α σ Call}
    (hk : c.threads[k]? = some ⟨call, .act a cont⟩) :
    M.advance S start g ⟨c, .act k ch, c'⟩ =
      Function.update g k (M.next (g k) a (S.exec a ch c.state).1) := by
  simp only [advance, hk]

/-- **Calls that are issued where they obey the monitor obey it throughout a run.** -/
theorem run_tracked {c₀ : Config Act Res ε α σ Call}
    {ts : List (Transition Act Res ε α σ Choice Env Call)} (h : S.Run c₀ ts c)
    (h₀ : M.Tracked S c₀ fun _ => M.start)
    (hcalls : ∀ t ∈ ts, ∀ call, t.label = .invoke call → M.Obeys S (start call) (S.start call)) :
    M.Tracked S c (M.states S start ts) := by
  induction h with
  | nil => exact h₀
  | @snoc ts c l c' hrun hstep ih =>
      have htracked := ih fun t ht => hcalls t (List.mem_append_left _ ht)
      rw [states_concat]
      rcases S.step_cases hstep with ⟨call, rfl, rfl⟩ | ⟨e, rfl, rfl⟩ |
        ⟨k, ch, call, a, cont, rfl, hk, rfl⟩
      · exact htracked.invoke_at (hcalls _ (List.mem_concat_self) call rfl)
      · exact htracked.of_threads rfl
      · rw [advance_act hk]
        exact (htracked.act hk ch).2

/-- A state that no action leaves is the state of the call from then on. -/
lemma states_kept {c₁ : Config Act Res ε α σ Call} {x : γ}
    {us ms : List (Transition Act Res ε α σ Choice Env Call)} {k : ℕ} (h : S.Run c₁ ms c)
    (hk : k < c₁.threads.length) (hstate : M.states S start us k = x)
    (hnext : ∀ a r, M.next x a r = x) : M.states S start (us ++ ms) k = x := by
  induction h with
  | nil => rwa [List.append_nil]
  | @snoc ms c l c' hrun hstep ih =>
      rw [← List.append_assoc, states_concat]
      rcases S.step_cases hstep with ⟨call, rfl, -⟩ | ⟨e, rfl, -⟩ |
        ⟨i, ch, call, a, cont, rfl, hi, -⟩
      · have hlt : k < c.threads.length := Nat.lt_of_lt_of_le hk hrun.length_threads_le
        rw [advance_invoke, Function.update_of_ne (Nat.ne_of_lt hlt)]
        exact ih
      · exact ih
      · rw [advance_act hi]
        by_cases hki : k = i
        · subst hki
          rw [Function.update_self, ih]
          exact hnext a _
        · rw [Function.update_of_ne hki]
          exact ih

end States

end Monitor

/-! ## Tallies -/

/-- The sum of what the first `n` calls count. -/
def tally {γ : Type} (count : γ → ℕ) (g : ℕ → γ) : ℕ → ℕ
  | 0 => 0
  | n + 1 => tally count g n + count (g n)

section Tally

variable {γ : Type} {count : γ → ℕ} {g g' : ℕ → γ} {n k : ℕ}

lemma tally_congr (h : ∀ k < n, g' k = g k) : tally count g' n = tally count g n := by
  induction n with
  | zero => rfl
  | succ n ih => rw [tally, tally, ih fun k hk => h k (by omega), h n (Nat.lt_succ_self n)]

/-- One call counts differently. -/
lemma tally_update (hk : k < n) (x : γ) :
    tally count (Function.update g k x) n + count (g k) = tally count g n + count x := by
  induction n with
  | zero => cases hk
  | succ n ih =>
      rw [tally, tally]
      by_cases hkn : k = n
      · subst hkn
        have hsame : tally count (Function.update g k x) k = tally count g k :=
          tally_congr fun j hj => Function.update_of_ne (Nat.ne_of_lt hj) x g
        rw [hsame, Function.update_self]
        omega
      · rw [Function.update_of_ne (Ne.symm hkn)]
        have hih := ih (by omega)
        omega

lemma tally_eq_zero (h : ∀ k < n, count (g k) = 0) : tally count g n = 0 := by
  induction n with
  | zero => rfl
  | succ n ih => rw [tally, ih fun k hk => h k (by omega), h n (Nat.lt_succ_self n)]

end Tally

end Framework
