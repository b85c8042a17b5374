import SkyHighCore.Framework.Traces

/-!
# Calls by their record

`Prog.Yields` reads a finished call's trace backwards, from the outcome.  This module goes forward:
`recording` is a contract whose state is what the call has done so far, so that a program is walked
through action by action with the rules of `Prog.wp`, and both what it performs and what it ends
with can be justified by the record.

`Records` says that a program keeps such promises from a record on, with one promise for the value
it may return and one for the exception.  `Run.records` turns it into a statement about runs: a
call that has ended has kept its promise on its trace, and each action of a call was justified by
the trace before it.
-/

namespace Framework

variable {Act : Type} {Res : Act → Type} {ε α β : Type}

/-- What a call has done so far. -/
abbrev Record (Act : Type) (Res : Act → Type) (ε : Type) : Type := List (Event Act Res ε)

/-- The contract of a call whose outcomes are `possible` and whose actions the record
`justifies`. -/
def recording (possible : (a : Act) → Except ε (Res a) → Prop)
    (justifies : Record Act Res ε → Act → Prop) : Contract Act Res ε (Record Act Res ε) where
  exec a tr r tr' := possible a r ∧ tr' = tr ++ [⟨a, r⟩]
  inv _ := True
  rely := Eq
  guar a tr _ _ := justifies tr a

namespace Prog

/-- From the record `tr` on, each action is justified, a returned value keeps `Q` and an exception
keeps `E`. -/
def Records (possible : (a : Act) → Except ε (Res a) → Prop)
    (justifies : Record Act Res ε → Act → Prop) (E : ε → Record Act Res ε → Prop)
    (p : Prog Act Res ε α) (Q : α → Record Act Res ε → Prop) (tr : Record Act Res ε) : Prop :=
  p.wp (recording possible justifies) (fun r tr' => match r with
    | .ok v => Q v tr'
    | .error e => E e tr') tr

namespace Records

variable {possible : (a : Act) → Except ε (Res a) → Prop}
  {justifies : Record Act Res ε → Act → Prop} {E E' : ε → Record Act Res ε → Prop}
  {p : Prog Act Res ε α} {Q Q' : α → Record Act Res ε → Prop} {R : β → Record Act Res ε → Prop}
  {tr : Record Act Res ε}

lemma pure {v : α} (h : Q v tr) :
    (Pure.pure v : Prog Act Res ε α).Records possible justifies E Q tr := h

lemma throw {e : ε} (h : E e tr) :
    (Prog.throw e : Prog Act Res ε α).Records possible justifies E Q tr := h

lemma mono (h : p.Records possible justifies E Q tr) (hQ : ∀ v tr', Q v tr' → Q' v tr')
    (hE : ∀ e tr', E e tr' → E' e tr') : p.Records possible justifies E' Q' tr := by
  refine wp_mono (fun r tr' hr => ?_) h
  cases r with
  | ok v => exact hQ v tr' hr
  | error e => exact hE e tr' hr

lemma bind {k : α → Prog Act Res ε β} (h : p.Records possible justifies E Q tr)
    (hk : ∀ v tr', Q v tr' → (k v).Records possible justifies E R tr') :
    (p >>= k).Records possible justifies E R tr := by
  refine wp_bind (wp_mono (fun r tr' hr => ?_) h)
  cases r with
  | ok v => exact hk v tr' hr
  | error e => exact hr

lemma map {f : α → β} (h : p.Records possible justifies E (fun v => R (f v)) tr) :
    (f <$> p).Records possible justifies E R tr :=
  h.bind fun _ _ hv => hv

lemma perform {a : Act} {Q : Res a → Record Act Res ε → Prop} (ha : justifies tr a)
    (herror : ∀ e, possible a (.error e) → E e (tr ++ [⟨a, .error e⟩]))
    (hok : ∀ v, possible a (.ok v) → Q v (tr ++ [⟨a, .ok v⟩])) :
    (Prog.perform a : Prog Act Res ε (Res a)).Records possible justifies E Q tr := by
  rintro tr₁ rfl - r tr₂ ⟨hr, rfl⟩
  refine ⟨ha, ?_⟩
  cases r with
  | ok v => exact hok v hr
  | error e => exact herror e hr

/-- One action in front. -/
lemma perform_bind {a : Act} {k : Res a → Prog Act Res ε β} (ha : justifies tr a)
    (herror : ∀ e, possible a (.error e) → E e (tr ++ [⟨a, .error e⟩]))
    (hok : ∀ v, possible a (.ok v) →
      (k v).Records possible justifies E R (tr ++ [⟨a, .ok v⟩])) :
    ((Prog.perform a : Prog Act Res ε (Res a)) >>= k).Records possible justifies E R tr :=
  (perform (Q := fun v tr' => (k v).Records possible justifies E R tr') ha herror hok).bind
    fun _ _ h => h

lemma throwWhen {c : Prop} [Decidable c] {e : ε} {Q : Unit → Record Act Res ε → Prop}
    (hthrow : c → E e tr) (hpass : ¬ c → Q () tr) :
    (Prog.throwWhen c e : Prog Act Res ε Unit).Records possible justifies E Q tr :=
  wp_throwWhen hthrow hpass

/-- A check in front. -/
lemma throwWhen_bind {c : Prop} [Decidable c] {e : ε} {k : Unit → Prog Act Res ε β}
    (hthrow : c → E e tr) (hpass : ¬ c → (k ()).Records possible justifies E R tr) :
    (Prog.throwWhen c e >>= k).Records possible justifies E R tr :=
  (throwWhen (Q := fun u tr' => (k u).Records possible justifies E R tr') hthrow hpass).bind
    fun _ _ h => h

/-- `try … catch`: `E` is what the handler is given. -/
lemma tryCatch {handler : ε → Prog Act Res ε α} (h : p.Records possible justifies E Q tr)
    (hh : ∀ e tr', E e tr' → (handler e).Records possible justifies E' Q tr') :
    (p.tryCatch handler).Records possible justifies E' Q tr := by
  refine wp_tryCatch (wp_mono (fun r tr' hr => ?_) h)
  cases r with
  | ok v => exact hr
  | error e => exact hh e tr' hr

/-- `try … finally`: the outcome of the body is kept if the finalizer returns. -/
lemma tryFinally {fin : Prog Act Res ε Unit} (h : p.Records possible justifies E Q tr)
    (hok : ∀ v tr', Q v tr' →
      fin.Records possible justifies E' (fun _ tr'' => Q' v tr'') tr')
    (herror : ∀ e tr', E e tr' →
      fin.Records possible justifies E' (fun _ tr'' => E' e tr'') tr') :
    (p.tryFinally fin).Records possible justifies E' Q' tr := by
  refine wp_tryFinally (wp_mono (fun r tr' hr => ?_) h)
  cases r with
  | ok v =>
      refine wp_mono (fun r' tr'' hr' => ?_) (hok v tr' hr)
      cases r' with
      | ok _ => exact hr'
      | error e => exact hr'
  | error e =>
      refine wp_mono (fun r' tr'' hr' => ?_) (herror e tr' hr)
      cases r' with
      | ok _ => exact hr'
      | error e => exact hr'

/-- An outcome that is looked at, value or exception. -/
lemma andThen {f : Except ε α → Prog Act Res ε β}
    (h : p.Records possible justifies E Q tr)
    (hok : ∀ v tr', Q v tr' → (f (.ok v)).Records possible justifies E' R tr')
    (herror : ∀ e tr', E e tr' → (f (.error e)).Records possible justifies E' R tr') :
    (p.andThen f).Records possible justifies E' R tr := by
  refine (wp_andThen p f _ tr).mpr (wp_mono (fun r tr' hr => ?_) h)
  cases r with
  | ok v => exact hok v tr' hr
  | error e => exact herror e tr' hr

/-- A loop keeps what each round keeps. -/
lemma forEach {as : List β} {body : β → Prog Act Res ε Unit} {F : Record Act Res ε → Prop}
    (hbody : ∀ b tr, F tr → (body b).Records possible justifies E (fun _ tr' => F tr') tr)
    (htr : F tr) : (Prog.forEach as body).Records possible justifies E (fun _ tr' => F tr') tr := by
  induction as generalizing tr with
  | nil => exact htr
  | cons b as ih => exact (hbody b tr htr).bind fun _ _ h => ih h

/-- A program whose actions are all justified, and keep what the record says. -/
lemma of_all {P : Act → Prop} {F : Record Act Res ε → Prop}
    (hP : ∀ a tr, P a → F tr → justifies tr a)
    (hF : ∀ a tr r, P a → F tr → possible a r → F (tr ++ [⟨a, r⟩])) (hp : p.All P) (htr : F tr) :
    p.Records possible justifies (fun _ tr' => F tr') (fun _ tr' => F tr') tr := by
  induction p generalizing tr with
  | done r => cases r <;> exact htr
  | act a k ih =>
      rintro tr₁ rfl - r tr₂ ⟨hr, rfl⟩
      exact ⟨hP a tr hp.1 htr, ih r (hp.2 r) (hF a tr r hp.1 htr hr)⟩

end Records

end Prog

namespace System

open Prog

variable {σ Choice Env Call : Type} {S : System Act Res ε α σ Choice Env Call}
  {c : Config Act Res ε α σ Call} {ts : List (Transition Act Res ε α σ Choice Env Call)}
  {possible : (a : Act) → Except ε (Res a) → Prop}
  {justifies : Call → Record Act Res ε → Act → Prop}
  {E : Call → ε → Record Act Res ε → Prop} {Q : Call → α → Record Act Res ε → Prop}

/-- **What is left of a call goes on from its record.** -/
theorem Run.records {s : σ} (h : S.Run (.init s) ts c)
    (hpossible : ∀ a ch s, possible a (S.exec a ch s).1)
    (hstart : ∀ call, (S.start call).Records possible (justifies call) (E call) (Q call) [])
    {k : ℕ} {call : Call} {q : Prog Act Res ε α} (hk : c.threads[k]? = some ⟨call, q⟩) :
    q.Records possible (justifies call) (E call) (Q call) (S.trace k ts) := by
  induction h generalizing k call q with
  | nil => simp [Config.init] at hk
  | @snoc ts c l c' hrun hstep ih =>
      rw [trace_append]
      rcases S.step_cases hstep with ⟨call', rfl, rfl⟩ | ⟨e, rfl, rfl⟩ |
        ⟨i, ch, call', a, cont, rfl, hi, rfl⟩
      · rw [show S.trace k [_] = [] from rfl, List.append_nil]
        rcases getElem?_concat_cases hk with hk | ⟨rfl, heq⟩
        · exact ih hk
        · cases heq
          rw [hrun.trace_eq_nil (Nat.le_refl _)]
          exact hstart call
      · rw [show S.trace k [_] = [] from rfl, List.append_nil]
        exact ih hk
      · by_cases hik : i = k
        · subst hik
          rw [List.getElem?_set_self (List.getElem?_eq_some_iff.mp hi).1] at hk
          cases hk
          rw [trace_act hi]
          exact (ih hi _ rfl trivial _ _ ⟨hpossible a ch c.state, rfl⟩).2
        · rw [trace_act_of_ne hik, List.append_nil]
          rw [List.getElem?_set_ne hik] at hk
          exact ih hk

/-- A call that has ended has kept its promise. -/
theorem Run.kept {s : σ} (h : S.Run (.init s) ts c)
    (hpossible : ∀ a ch s, possible a (S.exec a ch s).1)
    (hstart : ∀ call, (S.start call).Records possible (justifies call) (E call) (Q call) [])
    {k : ℕ} {call : Call} :
    (∀ v, c.threads[k]? = some ⟨call, .done (.ok v)⟩ → Q call v (S.trace k ts)) ∧
      ∀ e, c.threads[k]? = some ⟨call, .done (.error e)⟩ → E call e (S.trace k ts) :=
  ⟨fun _ hk => h.records hpossible hstart hk, fun _ hk => h.records hpossible hstart hk⟩

/-! ## From the record back to the run -/

/-- An event of a call is a step that the call has taken. -/
lemma Run.step_of_event {c₀ : Config Act Res ε α σ Call} (h : S.Run c₀ ts c) {k : ℕ} {call : Call}
    {q : Prog Act Res ε α} (hk : c.threads[k]? = some ⟨call, q⟩) {event : Event Act Res ε}
    (hmem : event ∈ S.trace k ts) :
    ∃ us t vs ch cont, ts = us ++ t :: vs ∧ S.Run c₀ us t.pre ∧ S.Run t.post vs c ∧
      t.label = .act k ch ∧ t.pre.threads[k]? = some ⟨call, .act event.1 cont⟩ ∧
      S.step t.label t.pre = some t.post ∧ (S.exec event.1 ch t.pre.state).1 = event.2 := by
  obtain ⟨t, ht, ch, call', a, cont, hl, hk', rfl⟩ := mem_trace_iff.mp hmem
  obtain ⟨us, vs, rfl, hpre, hstep, hpost⟩ := h.mem_split ht
  obtain ⟨q', hq'⟩ := ((Run.single hstep).append hpost).thread hk'
  obtain ⟨rfl, -⟩ : call' = call ∧ q' = q := by simpa using hq'.symm.trans hk
  exact ⟨us, t, vs, ch, cont, rfl, hpre, hpost, hl, hk', hstep, rfl⟩

end System

end Framework
