import SkyHighCore.Framework.Histories

/-!
# What a call has done

`Prog.Yields p tr r` says that `p` ends with `r` when the actions it performs, in order, are those
of `tr` and have the outcomes recorded there.  A trace says nothing about the shared state, so that
it is the same thing for a call that runs alone and for one that is interleaved with others; the
rules for it are equivalences, one for each combinator, and `yields_forEach` cuts the trace of a
loop into rounds.

`System.trace k ts` is the trace of the `k`-th call in a run, and `Run.yields` connects the two: the
trace of a call that has ended yields what it ended with.
-/

namespace Framework

/-- An action with its outcome. -/
abbrev Event (Act : Type) (Res : Act → Type) (ε : Type) : Type := Σ a : Act, Except ε (Res a)

namespace Prog

variable {Act : Type} {Res : Act → Type} {ε α β : Type}

/-- The call ends with `r` after the actions of `tr`, with the outcomes they have there. -/
def Yields : Prog Act Res ε α → List (Event Act Res ε) → Except ε α → Prop
  | .done r', tr, r => tr = [] ∧ r = r'
  | .act a k, tr, r => ∃ o tr', tr = ⟨a, o⟩ :: tr' ∧ (k o).Yields tr' r

variable {tr : List (Event Act Res ε)}

lemma yields_perform {a : Act} {r : Except ε (Res a)} :
    (perform a : Prog Act Res ε (Res a)).Yields tr r ↔ tr = [⟨a, r⟩] := by
  constructor
  · rintro ⟨o, tr', rfl, rfl, rfl⟩
    rfl
  · rintro rfl
    exact ⟨r, [], rfl, rfl, rfl⟩

lemma yields_andThen {p : Prog Act Res ε α} {f : Except ε α → Prog Act Res ε β} {r : Except ε β} :
    (p.andThen f).Yields tr r ↔
      ∃ tr₁ tr₂ o, tr = tr₁ ++ tr₂ ∧ p.Yields tr₁ o ∧ (f o).Yields tr₂ r := by
  induction p generalizing tr with
  | done r' =>
      constructor
      · intro h
        exact ⟨[], tr, r', rfl, ⟨rfl, rfl⟩, h⟩
      · rintro ⟨_, tr₂, _, rfl, ⟨rfl, rfl⟩, h⟩
        exact h
  | act a k ih =>
      constructor
      · rintro ⟨o, tr', rfl, h⟩
        obtain ⟨tr₁, tr₂, o', rfl, h₁, h₂⟩ := (ih o).mp h
        exact ⟨⟨a, o⟩ :: tr₁, tr₂, o', rfl, ⟨o, tr₁, rfl, h₁⟩, h₂⟩
      · rintro ⟨_, tr₂, o', rfl, ⟨o, tr₁, rfl, h₁⟩, h₂⟩
        exact ⟨o, tr₁ ++ tr₂, rfl, (ih o).mpr ⟨tr₁, tr₂, o', rfl, h₁, h₂⟩⟩

lemma yields_bind {p : Prog Act Res ε α} {f : α → Prog Act Res ε β} {r : Except ε β} :
    (p >>= f).Yields tr r ↔
      (∃ tr₁ tr₂ a, tr = tr₁ ++ tr₂ ∧ p.Yields tr₁ (.ok a) ∧ (f a).Yields tr₂ r) ∨
      ∃ e, p.Yields tr (.error e) ∧ r = .error e := by
  refine yields_andThen.trans ⟨?_, ?_⟩
  · rintro ⟨tr₁, tr₂, o, rfl, h₁, h₂⟩
    cases o with
    | ok a => exact .inl ⟨tr₁, tr₂, a, rfl, h₁, h₂⟩
    | error e =>
        obtain ⟨rfl, rfl⟩ := h₂
        rw [List.append_nil]
        exact .inr ⟨e, h₁, rfl⟩
  · rintro (⟨tr₁, tr₂, a, rfl, h₁, h₂⟩ | ⟨e, h, rfl⟩)
    · exact ⟨tr₁, tr₂, .ok a, rfl, h₁, h₂⟩
    · exact ⟨tr, [], .error e, (List.append_nil tr).symm, h, rfl, rfl⟩

/-- A single action in front. -/
lemma yields_perform_bind {a : Act} {f : Res a → Prog Act Res ε β} {r : Except ε β} :
    ((perform a : Prog Act Res ε (Res a)) >>= f).Yields tr r ↔
      (∃ v tr', tr = ⟨a, .ok v⟩ :: tr' ∧ (f v).Yields tr' r) ∨
      ∃ e, tr = [⟨a, .error e⟩] ∧ r = .error e := by
  constructor
  · rintro ⟨o, tr', rfl, h⟩
    cases o with
    | ok v => exact .inl ⟨v, tr', rfl, h⟩
    | error e =>
        obtain ⟨rfl, rfl⟩ := h
        exact .inr ⟨e, rfl, rfl⟩
  · rintro (⟨v, tr', rfl, h⟩ | ⟨e, rfl, rfl⟩)
    · exact ⟨.ok v, tr', rfl, h⟩
    · exact ⟨.error e, [], rfl, rfl, rfl⟩

lemma yields_map {p : Prog Act Res ε α} {f : α → β} {r : Except ε β} :
    (f <$> p).Yields tr r ↔ ∃ o, p.Yields tr o ∧ r = o.map f := by
  refine yields_bind.trans ⟨?_, ?_⟩
  · rintro (⟨tr₁, tr₂, a, rfl, h₁, rfl, rfl⟩ | ⟨e, h, rfl⟩)
    · exact ⟨.ok a, by rwa [List.append_nil], rfl⟩
    · exact ⟨.error e, h, rfl⟩
  · rintro ⟨o, h, rfl⟩
    cases o with
    | ok a => exact .inl ⟨tr, [], a, (List.append_nil tr).symm, h, rfl, rfl⟩
    | error e => exact .inr ⟨e, h, rfl⟩

lemma yields_tryCatch {p : Prog Act Res ε α} {handler : ε → Prog Act Res ε α} {r : Except ε α} :
    (p.tryCatch handler).Yields tr r ↔ (∃ a, p.Yields tr (.ok a) ∧ r = .ok a) ∨
      ∃ tr₁ tr₂ e, tr = tr₁ ++ tr₂ ∧ p.Yields tr₁ (.error e) ∧ (handler e).Yields tr₂ r := by
  refine yields_andThen.trans ⟨?_, ?_⟩
  · rintro ⟨tr₁, tr₂, o, rfl, h₁, h₂⟩
    cases o with
    | ok a =>
        obtain ⟨rfl, rfl⟩ := h₂
        rw [List.append_nil]
        exact .inl ⟨a, h₁, rfl⟩
    | error e => exact .inr ⟨tr₁, tr₂, e, rfl, h₁, h₂⟩
  · rintro (⟨a, h, rfl⟩ | ⟨tr₁, tr₂, e, rfl, h₁, h₂⟩)
    · exact ⟨tr, [], .ok a, (List.append_nil tr).symm, h, rfl, rfl⟩
    · exact ⟨tr₁, tr₂, .error e, rfl, h₁, h₂⟩

lemma yields_tryFinally {p : Prog Act Res ε α} {fin : Prog Act Res ε Unit} {r : Except ε α} :
    (p.tryFinally fin).Yields tr r ↔ ∃ tr₁ tr₂ o, tr = tr₁ ++ tr₂ ∧ p.Yields tr₁ o ∧
      ((fin.Yields tr₂ (.ok ()) ∧ r = o) ∨ ∃ e, fin.Yields tr₂ (.error e) ∧ r = .error e) := by
  refine yields_andThen.trans ⟨?_, ?_⟩
  · rintro ⟨tr₁, tr', o, rfl, h₁, h⟩
    obtain ⟨tr₂, tr₃, o', rfl, h₂, h₃⟩ := yields_andThen.mp h
    cases o' with
    | ok _ =>
        obtain ⟨rfl, hr⟩ := h₃
        rw [List.append_nil]
        exact ⟨tr₁, tr₂, o, rfl, h₁, .inl ⟨h₂, hr⟩⟩
    | error e =>
        obtain ⟨rfl, hr⟩ := h₃
        rw [List.append_nil]
        exact ⟨tr₁, tr₂, o, rfl, h₁, .inr ⟨e, h₂, hr⟩⟩
  · rintro ⟨tr₁, tr₂, o, rfl, h₁, h⟩
    refine ⟨tr₁, tr₂, o, rfl, h₁, yields_andThen.mpr ?_⟩
    rcases h with ⟨h₂, hr⟩ | ⟨e, h₂, hr⟩
    · exact ⟨tr₂, [], .ok (), (List.append_nil tr₂).symm, h₂, rfl, hr⟩
    · exact ⟨tr₂, [], .error e, (List.append_nil tr₂).symm, h₂, rfl, hr⟩

/-! ## What is behind an exception -/

/-- The program throws only after one of its actions, one that satisfies `P`, has failed. -/
def Relays (P : Act → Prop) (p : Prog Act Res ε α) : Prop :=
  ∀ tr e, p.Yields tr (.error e) → ∃ a e', P a ∧ ⟨a, .error e'⟩ ∈ tr

section Relays

variable {P : Act → Prop}

lemma relays_pure (v : α) : (pure v : Prog Act Res ε α).Relays P := by
  rintro tr e ⟨-, hfalse⟩
  cases hfalse

lemma relays_perform {a : Act} (ha : P a) : (perform a : Prog Act Res ε (Res a)).Relays P := by
  intro tr e h
  rw [yields_perform.mp h]
  exact ⟨a, e, ha, List.mem_singleton_self _⟩

lemma Relays.andThen {p : Prog Act Res ε α} {f : Except ε α → Prog Act Res ε β}
    (hf : ∀ o, (f o).Relays P) : (p.andThen f).Relays P := by
  intro tr e h
  obtain ⟨tr₁, tr₂, o, rfl, -, h₂⟩ := yields_andThen.mp h
  obtain ⟨a, e', ha, hmem⟩ := hf o tr₂ e h₂
  exact ⟨a, e', ha, List.mem_append_right _ hmem⟩

lemma Relays.bind {p : Prog Act Res ε α} {f : α → Prog Act Res ε β} (hp : p.Relays P)
    (hf : ∀ v, (f v).Relays P) : (p >>= f).Relays P := by
  intro tr e h
  rcases yields_bind.mp h with ⟨tr₁, tr₂, v, rfl, -, h₂⟩ | ⟨e', h₁, -⟩
  · obtain ⟨a, e', ha, hmem⟩ := hf v tr₂ e h₂
    exact ⟨a, e', ha, List.mem_append_right _ hmem⟩
  · exact hp tr e' h₁

lemma Relays.tryFinally {p : Prog Act Res ε α} {fin : Prog Act Res ε Unit} (hp : p.Relays P)
    (hfin : fin.Relays P) : (p.tryFinally fin).Relays P := by
  intro tr e h
  obtain ⟨tr₁, tr₂, o, rfl, h₁, hend⟩ := yields_tryFinally.mp h
  rcases hend with ⟨-, rfl⟩ | ⟨e', h₂, -⟩
  · obtain ⟨a, e', ha, hmem⟩ := hp tr₁ e h₁
    exact ⟨a, e', ha, List.mem_append_left _ hmem⟩
  · obtain ⟨a, e'', ha, hmem⟩ := hfin tr₂ e' h₂
    exact ⟨a, e'', ha, List.mem_append_right _ hmem⟩

end Relays

/-- What all actions of a call satisfy is satisfied by those of its trace. -/
lemma All.of_yields {P : Act → Prop} {p : Prog Act Res ε α} (hp : p.All P) {r : Except ε α}
    (h : p.Yields tr r) : ∀ e ∈ tr, P e.1 := by
  induction p generalizing tr with
  | done r' =>
      obtain ⟨rfl, -⟩ := h
      simp
  | act a k ih =>
      obtain ⟨o, tr', rfl, h⟩ := h
      intro e he
      rcases List.mem_cons.mp he with rfl | he
      · exact hp.1
      · exact ih o (hp.2 o) h e he

/-! ## Loops -/

/-- A round of a loop: the element, the trace of the body for it and what the body ended with. -/
structure Round (Act : Type) (Res : Act → Type) (ε α : Type) where
  element : α
  trace : List (Event Act Res ε)
  outcome : Except ε Unit

/-- The rounds a loop makes over a list, and what it ends with: a body that throws ends it. -/
inductive Loops (body : α → Prog Act Res ε Unit) :
    List α → List (Round Act Res ε α) → Except ε Unit → Prop
  | nil : Loops body [] [] (.ok ())
  | next {a as tr rounds r} (yields : (body a).Yields tr (.ok ())) (rest : Loops body as rounds r) :
      Loops body (a :: as) (⟨a, tr, .ok ()⟩ :: rounds) r
  | threw {a as tr e} (yields : (body a).Yields tr (.error e)) :
      Loops body (a :: as) [⟨a, tr, .error e⟩] (.error e)

/-- The trace of a loop is that of its rounds. -/
lemma yields_forEach {as : List α} {body : α → Prog Act Res ε Unit} {r : Except ε Unit} :
    (forEach as body).Yields tr r ↔
      ∃ rounds, Loops body as rounds r ∧ tr = rounds.flatMap Round.trace := by
  induction as generalizing tr with
  | nil =>
      constructor
      · rintro ⟨rfl, rfl⟩
        exact ⟨[], .nil, rfl⟩
      · rintro ⟨_, hloops, rfl⟩
        cases hloops
        exact ⟨rfl, rfl⟩
  | cons a as ih =>
      refine yields_bind.trans ⟨?_, ?_⟩
      · rintro (⟨tr₁, tr₂, _, rfl, hbody, hrest⟩ | ⟨e, hbody, rfl⟩)
        · obtain ⟨rounds, hloops, rfl⟩ := ih.mp hrest
          exact ⟨_, .next hbody hloops, rfl⟩
        · exact ⟨_, .threw hbody, by simp⟩
      · rintro ⟨_, hloops, rfl⟩
        cases hloops with
        | next hbody hrest =>
            exact .inl ⟨_, _, (), List.flatMap_cons, hbody, ih.mpr ⟨_, hrest, rfl⟩⟩
        | threw hbody =>
            refine .inr ⟨_, ?_, rfl⟩
            simpa using hbody

namespace Loops

variable {body : α → Prog Act Res ε Unit} {as : List α} {rounds : List (Round Act Res ε α)}
  {r : Except ε Unit}

/-- What a loop does with its list it does from the front. -/
lemma elements_prefix (h : Loops body as rounds r) : rounds.map Round.element <+: as := by
  induction h with
  | nil => exact List.prefix_rfl
  | next hbody hrest ih => exact List.cons_prefix_cons.mpr ⟨rfl, ih⟩
  | threw hbody => exact List.cons_prefix_cons.mpr ⟨rfl, List.nil_prefix⟩

lemma yields (h : Loops body as rounds r) {round : Round Act Res ε α} (hmem : round ∈ rounds) :
    (body round.element).Yields round.trace round.outcome := by
  induction h with
  | nil => simp at hmem
  | next hbody hrest ih =>
      rcases List.mem_cons.mp hmem with rfl | hmem
      · exact hbody
      · exact ih hmem
  | threw hbody =>
      obtain rfl := List.mem_singleton.mp hmem
      exact hbody

/-- The body throws in the last round at most. -/
lemma outcome_of_mem_dropLast (h : Loops body as rounds r) {round : Round Act Res ε α}
    (hmem : round ∈ rounds.dropLast) : round.outcome = .ok () := by
  induction h with
  | nil => simp at hmem
  | @next a as tr rounds r hbody hrest ih =>
      cases rounds with
      | nil => simp at hmem
      | cons round' rounds =>
          rw [List.dropLast_cons_cons] at hmem
          rcases List.mem_cons.mp hmem with rfl | hmem
          · rfl
          · exact ih hmem
  | threw hbody => simp at hmem

/-- **When a loop comes to its end.**  With `F` the elements for which the body throws, a loop
makes a round for every element exactly when none but the last is in `F`. -/
lemma elements_eq_iff (h : Loops body as rounds r) {F : α → Prop}
    (hF : ∀ round ∈ rounds, round.outcome ≠ .ok () ↔ F round.element) :
    rounds.map Round.element = as ↔ ∀ a ∈ as.dropLast, ¬ F a := by
  constructor
  · rintro rfl a ha hFa
    rw [← List.map_dropLast, List.mem_map] at ha
    obtain ⟨round, hround, rfl⟩ := ha
    exact (hF round ((List.dropLast_sublist rounds).mem hround)).mpr hFa
      (h.outcome_of_mem_dropLast hround)
  · intro hnone
    induction h with
    | nil => rfl
    | @next a as tr rounds r hbody hrest ih =>
        have hrest' : rounds.map Round.element = as := by
          apply ih fun round hround => hF round (List.mem_cons_of_mem _ hround)
          intro a' ha'
          apply hnone a'
          cases as with
          | nil => simp at ha'
          | cons a'' as => exact List.mem_cons_of_mem _ ha'
        rw [List.map_cons, hrest']
    | @threw a as tr e hbody =>
        have hFa : F a := (hF _ (List.mem_singleton_self _)).mp (by simp)
        cases as with
        | nil => rfl
        | cons a' as => exact absurd hFa (hnone a List.mem_cons_self)

end Loops

end Prog

/-! ## The calls of a run -/

namespace System

variable {Act : Type} {Res : Act → Type} {ε α σ Choice Env Call : Type}

/-- What a step adds to the trace of the `k`-th call. -/
def event? (S : System Act Res ε α σ Choice Env Call) (k : ℕ)
    (t : Transition Act Res ε α σ Choice Env Call) : Option (Event Act Res ε) :=
  match t.label with
  | .act i choice =>
      if i = k then
        (t.pre.threads[i]?).bind fun th => match th.prog with
          | .act a _ => some ⟨a, (S.exec a choice t.pre.state).1⟩
          | .done _ => none
      else none
  | _ => none

/-- What the `k`-th call has done in a run. -/
def trace (S : System Act Res ε α σ Choice Env Call) (k : ℕ)
    (ts : List (Transition Act Res ε α σ Choice Env Call)) : List (Event Act Res ε) :=
  ts.filterMap (S.event? k)

variable {S : System Act Res ε α σ Choice Env Call} {c₀ c : Config Act Res ε α σ Call}
  {ts : List (Transition Act Res ε α σ Choice Env Call)} {k : ℕ}

lemma event?_eq_some_iff {t : Transition Act Res ε α σ Choice Env Call} {e : Event Act Res ε} :
    S.event? k t = some e ↔ ∃ choice call a cont, t.label = .act k choice ∧
      t.pre.threads[k]? = some ⟨call, .act a cont⟩ ∧
      e = ⟨a, (S.exec a choice t.pre.state).1⟩ := by
  constructor
  · intro h
    obtain ⟨pre, label, post⟩ := t
    cases label with
    | invoke call => cases h
    | tick e => cases h
    | act i choice =>
        simp only [event?] at h
        split at h
        · rename_i hik
          subst hik
          obtain ⟨⟨call, prog⟩, hth, hevent⟩ := Option.bind_eq_some_iff.mp h
          cases prog with
          | done r => cases hevent
          | act a cont => exact ⟨choice, call, a, cont, rfl, hth, (Option.some_inj.mp hevent).symm⟩
        · cases h
  · rintro ⟨choice, call, a, cont, hlabel, hth, rfl⟩
    simp [event?, hlabel, hth]

lemma mem_trace_iff {e : Event Act Res ε} : e ∈ S.trace k ts ↔ ∃ t ∈ ts, ∃ choice call a cont,
    t.label = .act k choice ∧ t.pre.threads[k]? = some ⟨call, .act a cont⟩ ∧
    e = ⟨a, (S.exec a choice t.pre.state).1⟩ := by
  simp only [trace, List.mem_filterMap, event?_eq_some_iff]

lemma trace_append (ts' : List (Transition Act Res ε α σ Choice Env Call)) :
    S.trace k (ts ++ ts') = S.trace k ts ++ S.trace k ts' :=
  List.filterMap_append

lemma trace_act {choice : Choice} {c' : Config Act Res ε α σ Call} {call : Call} {a : Act}
    {cont : Except ε (Res a) → Prog Act Res ε α} (hk : c.threads[k]? = some ⟨call, .act a cont⟩) :
    S.trace k [⟨c, .act k choice, c'⟩] = [⟨a, (S.exec a choice c.state).1⟩] := by
  simp [trace, event?, hk]

lemma trace_act_of_ne {i : ℕ} {choice : Choice} {c' : Config Act Res ε α σ Call} (hik : i ≠ k) :
    S.trace k [⟨c, .act i choice, c'⟩] = [] := by
  simp [trace, event?, hik]

/-- A call that has not been issued has done nothing. -/
lemma Run.trace_eq_nil (h : S.Run c₀ ts c) (hk : c.threads.length ≤ k) : S.trace k ts = [] := by
  rw [List.eq_nil_iff_forall_not_mem]
  intro e he
  obtain ⟨t, ht, choice, call, a, cont, hlabel, hth, -⟩ := mem_trace_iff.mp he
  obtain ⟨-, -, -, -, -, -, hle⟩ := h.before_act ht hlabel
  have hlt := (List.getElem?_eq_some_iff.mp hth).1
  omega

/-- What is left of a call goes on from what it has done. -/
lemma Run.yields_of_rest {s : σ} (h : S.Run (.init s) ts c) {call : Call} {q : Prog Act Res ε α}
    (hk : c.threads[k]? = some ⟨call, q⟩) {tr : List (Event Act Res ε)} {r : Except ε α}
    (hq : q.Yields tr r) : (S.start call).Yields (S.trace k ts ++ tr) r := by
  induction h generalizing k call q tr with
  | nil => simp [Config.init] at hk
  | @snoc ts c l c' hrun hstep ih =>
      have hlast : S.trace k (ts ++ [⟨c, l, c'⟩]) = S.trace k ts ++ S.trace k [⟨c, l, c'⟩] :=
        trace_append _
      rcases S.step_cases hstep with ⟨call', rfl, rfl⟩ | ⟨e, rfl, rfl⟩ |
        ⟨i, ch, call', a, cont, rfl, hi, rfl⟩
      · rcases getElem?_concat_cases hk with hk | ⟨rfl, heq⟩
        · rw [hlast, show S.trace k [_] = [] from rfl, List.append_nil]
          exact ih hk hq
        · cases heq
          rw [hlast, show S.trace c.threads.length [_] = [] from rfl, List.append_nil,
            hrun.trace_eq_nil (Nat.le_refl _)]
          exact hq
      · rw [hlast, show S.trace k [_] = [] from rfl, List.append_nil]
        exact ih hk hq
      · by_cases hik : i = k
        · subst hik
          rw [hlast, trace_act hi, List.append_assoc]
          rw [List.getElem?_set_self (List.getElem?_eq_some_iff.mp hi).1] at hk
          cases hk
          exact ih hi ⟨_, tr, rfl, hq⟩
        · rw [hlast, trace_act_of_ne hik, List.append_nil]
          rw [List.getElem?_set_ne hik] at hk
          exact ih hk hq

/-- **The trace of a call that has ended yields what it ended with.** -/
theorem Run.yields {s : σ} (h : S.Run (.init s) ts c) {call : Call} {r : Except ε α}
    (hk : c.threads[k]? = some ⟨call, .done r⟩) : (S.start call).Yields (S.trace k ts) r := by
  have hdone : (Prog.done r : Prog Act Res ε α).Yields [] r := ⟨rfl, rfl⟩
  have hyields := h.yields_of_rest hk hdone
  rwa [List.append_nil] at hyields

end System

end Framework
