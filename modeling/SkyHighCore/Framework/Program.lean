import Mathlib.Logic.Basic
import Mathlib.Tactic.Lemma

/-!
# Calls as programs of atomic actions

An asynchronous call is a finite tree of atomic actions: it performs one, is suspended, and
goes on with the action's outcome, which may be an exception.  `Prog` is that tree; exceptions,
`try … catch` and `try … finally` are defined on it through the single combinator `andThen`,
which hands a finished call's outcome, value or exception, to what follows.

`Prog.wp C p Q s` is the weakest precondition of `p` **under interference**.  A `Contract` says
what one call may rely on between its own actions (`rely`, with an invariant `inv` of every
state it is resumed in) and what each of its actions guarantees (`guar`).  The rules
`wp_andThen`, `wp_bind`, `wp_tryCatch`, `wp_tryFinally` and `wp_forEach` decompose a program,
`wp_mono` and `wp_stable` move between postconditions and between states, and `wp_of_all`
disposes of a program all of whose actions are harmless.  Where only the guarantees matter and
not the outcome, `Prog.Meets` has the same rules in a shorter form.
-/

namespace Framework

/-- A call: either finished with a value or an exception, or about to perform an atomic action
and to continue with its outcome. -/
inductive Prog (Act : Type) (Res : Act → Type) (ε α : Type) : Type where
  | done (r : Except ε α)
  | act (a : Act) (k : Except ε (Res a) → Prog Act Res ε α)

namespace Prog

variable {Act : Type} {Res : Act → Type} {ε α β γ σ : Type}

/-! ## Combinators -/

/-- The call consisting of one action. -/
def perform (a : Act) : Prog Act Res ε (Res a) := .act a .done

/-- The call that throws at once. -/
def throw (e : ε) : Prog Act Res ε α := .done (.error e)

/-- Run `p` to its end and continue with its outcome. -/
def andThen : Prog Act Res ε α → (Except ε α → Prog Act Res ε β) → Prog Act Res ε β
  | .done r, f => f r
  | .act a k, f => .act a fun r => (k r).andThen f

/-- Continue with the value; an exception skips the continuation. -/
def bind (p : Prog Act Res ε α) (f : α → Prog Act Res ε β) : Prog Act Res ε β :=
  p.andThen fun
    | .ok a => f a
    | .error e => throw e

/-- `try p catch e => handler e`. -/
def tryCatch (p : Prog Act Res ε α) (handler : ε → Prog Act Res ε α) : Prog Act Res ε α :=
  p.andThen fun
    | .ok a => .done (.ok a)
    | .error e => handler e

/-- `try p finally fin`: an exception of `fin` replaces the outcome of `p`. -/
def tryFinally (p : Prog Act Res ε α) (fin : Prog Act Res ε Unit) : Prog Act Res ε α :=
  p.andThen fun r => fin.andThen fun
    | .ok _ => .done r
    | .error e => throw e

instance : Monad (Prog Act Res ε) where
  pure a := .done (.ok a)
  bind := bind

/-- Throw `e` when `c` holds. -/
def throwWhen (c : Prop) [Decidable c] (e : ε) : Prog Act Res ε Unit :=
  if c then throw e else pure ()

/-- The body for every element of a list, in order. -/
def forEach : List α → (α → Prog Act Res ε Unit) → Prog Act Res ε Unit
  | [], _ => pure ()
  | a :: as, body => do
      body a
      forEach as body

/-- Whether the call still has an action to perform. -/
def running : Prog Act Res ε α → Bool
  | .done _ => false
  | .act _ _ => true

/-- The action the call performs next. -/
def next? : Prog Act Res ε α → Option Act
  | .done _ => none
  | .act a _ => some a

/-- Every action the call can ever perform meets `P`. -/
def All (P : Act → Prop) : Prog Act Res ε α → Prop
  | .done _ => True
  | .act a k => P a ∧ ∀ r, (k r).All P

lemma All.mono {P Q : Act → Prop} (h : ∀ a, P a → Q a) {p : Prog Act Res ε α} (hp : p.All P) :
    p.All Q := by
  induction p with
  | done r => trivial
  | act a k ih => exact ⟨h a hp.1, fun r => ih r (hp.2 r)⟩

lemma All.of_forall {P : Act → Prop} (h : ∀ a, P a) (p : Prog Act Res ε α) : p.All P := by
  induction p with
  | done r => trivial
  | act a k ih => exact ⟨h a, ih⟩

lemma all_andThen {P : Act → Prop} {p : Prog Act Res ε α} {f : Except ε α → Prog Act Res ε β}
    (hp : p.All P) (hf : ∀ r, (f r).All P) : (p.andThen f).All P := by
  induction p with
  | done r => exact hf r
  | act a k ih => exact ⟨hp.1, fun r => ih r (hp.2 r)⟩

lemma all_bind {P : Act → Prop} {p : Prog Act Res ε α} {f : α → Prog Act Res ε β}
    (hp : p.All P) (hf : ∀ a, (f a).All P) : (p >>= f).All P := by
  refine all_andThen hp fun r => ?_
  cases r with
  | ok a => exact hf a
  | error e => trivial

lemma all_map {P : Act → Prop} {p : Prog Act Res ε α} (f : α → β) (hp : p.All P) :
    (f <$> p).All P :=
  all_bind hp fun _ => trivial

lemma all_tryCatch {P : Act → Prop} {p : Prog Act Res ε α} {handler : ε → Prog Act Res ε α}
    (hp : p.All P) (hh : ∀ e, (handler e).All P) : (p.tryCatch handler).All P := by
  refine all_andThen hp fun r => ?_
  cases r with
  | ok a => trivial
  | error e => exact hh e

lemma all_tryFinally {P : Act → Prop} {p : Prog Act Res ε α} {fin : Prog Act Res ε Unit}
    (hp : p.All P) (hfin : fin.All P) : (p.tryFinally fin).All P := by
  refine all_andThen hp fun r => all_andThen hfin fun r' => ?_
  cases r' with
  | ok a => trivial
  | error e => trivial

lemma all_throwWhen {P : Act → Prop} {c : Prop} [Decidable c] {e : ε} :
    (throwWhen c e : Prog Act Res ε Unit).All P := by
  unfold throwWhen
  split <;> trivial

lemma all_forEach {P : Act → Prop} {as : List α} {body : α → Prog Act Res ε Unit}
    (h : ∀ a, (body a).All P) : (forEach as body).All P := by
  induction as with
  | nil => trivial
  | cons a as ih => exact all_bind (h a) fun _ => ih

lemma all_perform {P : Act → Prop} {a : Act} (h : P a) :
    (perform a : Prog Act Res ε (Res a)).All P := ⟨h, fun _ => trivial⟩

end Prog

/-! ## Weakest preconditions under interference -/

/-- What one call may assume of the calls it is interleaved with, and what it owes them. -/
structure Contract (Act : Type) (Res : Act → Type) (ε σ : Type) where
  /-- The possible outcomes of an action. -/
  exec : (a : Act) → σ → Except ε (Res a) → σ → Prop
  /-- Holds in every state the call is resumed in. -/
  inv : σ → Prop
  /-- How the state may change while the call is suspended. -/
  rely : σ → σ → Prop
  /-- What each action of the call satisfies. -/
  guar : (a : Act) → σ → Except ε (Res a) → σ → Prop

namespace Prog

variable {Act : Type} {Res : Act → Type} {ε α β σ : Type}
variable {C : Contract Act Res ε σ}

/-- From `s`, whatever the interference, every action of `p` meets the guarantee and `p` ends,
if it ends, with an outcome and a state in `Q`. -/
def wp (C : Contract Act Res ε σ) : Prog Act Res ε α → (Except ε α → σ → Prop) → σ → Prop
  | .done r, Q, s => Q r s
  | .act a k, Q, s => ∀ s₁, C.rely s s₁ → C.inv s₁ → ∀ r s₂, C.exec a s₁ r s₂ →
      C.guar a s₁ r s₂ ∧ (k r).wp C Q s₂

@[simp] lemma wp_done (r : Except ε α) (Q : Except ε α → σ → Prop) (s : σ) :
    (Prog.done r : Prog Act Res ε α).wp C Q s ↔ Q r s := Iff.rfl

@[simp] lemma wp_pure (a : α) (Q : Except ε α → σ → Prop) (s : σ) :
    (pure a : Prog Act Res ε α).wp C Q s ↔ Q (.ok a) s := Iff.rfl

@[simp] lemma wp_throw (e : ε) (Q : Except ε α → σ → Prop) (s : σ) :
    (throw e : Prog Act Res ε α).wp C Q s ↔ Q (.error e) s := Iff.rfl

lemma wp_mono {p : Prog Act Res ε α} {Q Q' : Except ε α → σ → Prop}
    (hQ : ∀ r s, Q r s → Q' r s) {s : σ} (h : p.wp C Q s) : p.wp C Q' s := by
  induction p generalizing s with
  | done r => exact hQ r s h
  | act a k ih =>
      intro s₁ hs hi r s₂ he
      exact ⟨(h s₁ hs hi r s₂ he).1, ih r (h s₁ hs hi r s₂ he).2⟩

lemma wp_and {p : Prog Act Res ε α} {Q Q' : Except ε α → σ → Prop} {s : σ} (h : p.wp C Q s)
    (h' : p.wp C Q' s) : p.wp C (fun r s' => Q r s' ∧ Q' r s') s := by
  induction p generalizing s with
  | done r => exact ⟨h, h'⟩
  | act a k ih =>
      intro s₁ hs hi r s₂ he
      obtain ⟨hg, hk⟩ := h s₁ hs hi r s₂ he
      exact ⟨hg, ih r hk (h' s₁ hs hi r s₂ he).2⟩

lemma wp_andThen (p : Prog Act Res ε α) (f : Except ε α → Prog Act Res ε β)
    (Q : Except ε β → σ → Prop) (s : σ) :
    (p.andThen f).wp C Q s ↔ p.wp C (fun r s' => (f r).wp C Q s') s := by
  induction p generalizing s with
  | done r => exact Iff.rfl
  | act a k ih =>
      simp only [andThen, wp]
      refine forall₂_congr fun s₁ _ => imp_congr_right fun _ => forall₃_congr fun r s₂ _ => ?_
      rw [ih]

lemma wp_bind {p : Prog Act Res ε α} {f : α → Prog Act Res ε β} {Q : Except ε β → σ → Prop}
    {s : σ} (h : p.wp C (fun r s' => match r with
      | .ok a => (f a).wp C Q s'
      | .error e => Q (.error e) s') s) : (p >>= f).wp C Q s := by
  refine (wp_andThen p _ Q s).mpr (wp_mono (fun r s' hr => ?_) h)
  cases r with
  | ok a => exact hr
  | error e => exact hr

/-- The rule for a sequence when only what is returned matters. -/
lemma wp_bind_ok {p : Prog Act Res ε α} {f : α → Prog Act Res ε β} {R : α → σ → Prop}
    {Q : β → σ → Prop} {s : σ} (hp : p.wp C (fun r s' => ∀ a, r = .ok a → R a s') s)
    (hf : ∀ a s', R a s' → (f a).wp C (fun r s'' => ∀ b, r = .ok b → Q b s'') s') :
    (p >>= f).wp C (fun r s' => ∀ b, r = .ok b → Q b s') s := by
  refine wp_bind (wp_mono (fun r s' hr => ?_) hp)
  cases r with
  | ok a => exact hf a s' (hr a rfl)
  | error e => exact fun _ h => nomatch h

lemma wp_map {p : Prog Act Res ε α} {f : α → β} {Q : Except ε β → σ → Prop} {s : σ}
    (h : p.wp C (fun r s' => Q (r.map f) s') s) : (f <$> p).wp C Q s := by
  refine wp_bind (wp_mono (fun r s' hr => ?_) h)
  cases r with
  | ok a => exact hr
  | error e => exact hr

lemma wp_tryCatch {p : Prog Act Res ε α} {handler : ε → Prog Act Res ε α}
    {Q : Except ε α → σ → Prop} {s : σ} (h : p.wp C (fun r s' => match r with
      | .ok a => Q (.ok a) s'
      | .error e => (handler e).wp C Q s') s) : (p.tryCatch handler).wp C Q s := by
  refine (wp_andThen p _ Q s).mpr (wp_mono (fun r s' hr => ?_) h)
  cases r with
  | ok a => exact hr
  | error e => exact hr

lemma wp_tryFinally {p : Prog Act Res ε α} {fin : Prog Act Res ε Unit} {Q : Except ε α → σ → Prop}
    {s : σ} (h : p.wp C (fun r s' => fin.wp C (fun r' s'' => match r' with
      | .ok _ => Q r s''
      | .error e => Q (.error e) s'') s') s) : (p.tryFinally fin).wp C Q s := by
  refine (wp_andThen p _ Q s).mpr (wp_mono (fun r s' hr => ?_) h)
  refine (wp_andThen fin _ Q s').mpr (wp_mono (fun r' s'' hr' => ?_) hr)
  cases r' with
  | ok a => exact hr'
  | error e => exact hr'

lemma wp_throwWhen {c : Prop} [Decidable c] {e : ε} {Q : Except ε Unit → σ → Prop} {s : σ}
    (hthrow : c → Q (.error e) s) (hpass : ¬ c → Q (.ok ()) s) :
    (throwWhen c e : Prog Act Res ε Unit).wp C Q s := by
  unfold throwWhen
  split
  · exact hthrow ‹c›
  · exact hpass ‹¬ c›

/-- A loop keeps what its body keeps, whether the body returns or throws. -/
lemma wp_forEach {as : List α} {body : α → Prog Act Res ε Unit} {F : σ → Prop}
    (hbody : ∀ a ∈ as, ∀ s, F s → (body a).wp C (fun _ s' => F s') s) {s : σ} (hs : F s) :
    (forEach as body).wp C (fun _ s' => F s') s := by
  induction as generalizing s with
  | nil => exact hs
  | cons a as ih =>
      refine wp_bind (wp_mono (fun r s' hs' => ?_) (hbody a List.mem_cons_self s hs))
      cases r with
      | ok _ => exact ih (fun b hb => hbody b (List.mem_cons_of_mem a hb)) hs'
      | error _ => exact hs'

/-- A suspended call survives interference. -/
lemma wp_stable {p : Prog Act Res ε α} {Q : Except ε α → σ → Prop}
    (htrans : ∀ s₁ s₂ s₃, C.rely s₁ s₂ → C.rely s₂ s₃ → C.rely s₁ s₃)
    (hp : p.running = true) {s s' : σ} (hs : C.rely s s') (h : p.wp C Q s) : p.wp C Q s' := by
  cases p with
  | done r => cases hp
  | act a k => exact fun s₁ hs₁ => h s₁ (htrans _ _ _ hs hs₁)

/-- A program that meets one contract meets another that is relied on less, if its actions turn
the guarantees of the first into those of the second. -/
lemma wp_transfer {C' : Contract Act Res ε σ} {P : Act → Prop}
    (hexec : ∀ a s r s', C'.exec a s r s' → C.exec a s r s') (hinv : ∀ s, C'.inv s → C.inv s)
    (hrely : ∀ s s', C'.rely s s' → C.rely s s')
    (hguar : ∀ a s r s', P a → C.guar a s r s' → C'.guar a s r s')
    {p : Prog Act Res ε α} (hp : p.All P) {Q : Except ε α → σ → Prop} {s : σ}
    (h : p.wp C Q s) : p.wp C' Q s := by
  induction p generalizing s with
  | done r => exact h
  | act a k ih =>
      intro s₁ hs hi r s₂ he
      obtain ⟨hg, hk⟩ := h s₁ (hrely s s₁ hs) (hinv s₁ hi) r s₂ (hexec a s₁ r s₂ he)
      exact ⟨hguar a s₁ r s₂ hp.1 hg, ih r (hp.2 r) hk⟩

/-- A program all of whose actions are harmless: they meet the guarantee in any state, and
keep whatever interference keeps. -/
lemma wp_of_all {P : Act → Prop} {F : σ → Prop}
    (hP : ∀ a s r s', P a → C.inv s → C.exec a s r s' → C.guar a s r s' ∧ C.rely s s')
    (hF : ∀ s s', C.rely s s' → F s → F s') {p : Prog Act Res ε α} (hp : p.All P) {s : σ}
    (hs : F s) : p.wp C (fun _ s' => F s') s := by
  induction p generalizing s with
  | done r => exact hs
  | act a k ih =>
      intro s₁ hs₁ hi r s₂ he
      obtain ⟨hg, hr⟩ := hP a s₁ r s₂ hp.1 hi he
      exact ⟨hg, ih r (hp.2 r) (hF _ _ hr (hF _ _ hs₁ hs))⟩

end Prog

/-! ## Programs that meet a contract -/

namespace Contract

variable {Act : Type} {Res : Act → Type} {ε σ : Type} (C : Contract Act Res ε σ)

/-- Interference keeps `F`. -/
def Keeps (F : σ → Prop) : Prop := ∀ s s', C.rely s s' → F s → F s'

/-- Actions that the call may perform at any time: they meet the guarantee, and the call itself can
rely on them. -/
def Tolerates (I : Act → Prop) : Prop :=
  ∀ a s r s', I a → C.inv s → C.exec a s r s' → C.guar a s r s' ∧ C.rely s s'

/-- A call can rely on its own actions. -/
def SelfReliant : Prop := ∀ a s r s', C.inv s → C.exec a s r s' → C.guar a s r s' → C.rely s s'

end Contract

namespace Prog

variable {Act : Type} {Res : Act → Type} {ε α β σ : Type}

/-- From `s` on, every action of the program meets its guarantee. -/
def Meets (C : Contract Act Res ε σ) (p : Prog Act Res ε α) (s : σ) : Prop :=
  p.wp C (fun _ _ => True) s

namespace Meets

variable {C : Contract Act Res ε σ} {I : Act → Prop} {F : σ → Prop} {s : σ}

/-- A program whose actions are all justified by one fact that stays. -/
lemma of_all_under {P : Act → Prop}
    (hP : ∀ a s r s', P a → F s → C.inv s → C.exec a s r s' → C.guar a s r s' ∧ C.rely s s')
    (hF : C.Keeps F) {p : Prog Act Res ε α} (hp : p.All P) (hs : F s) : p.Meets C s := by
  induction p generalizing s with
  | done r => trivial
  | act a k ih =>
      intro s₁ hs₁ hi r s₂ he
      have hs₁' : F s₁ := hF _ _ hs₁ hs
      obtain ⟨hg, hr⟩ := hP a s₁ r s₂ hp.1 hs₁' hi he
      exact ⟨hg, ih r (hp.2 r) (hF _ _ hr hs₁')⟩

/-- A program whose actions meet the guarantee whenever they are performed. -/
lemma of_guar {P : Act → Prop} (hP : ∀ a s r s', P a → C.inv s → C.exec a s r s' → C.guar a s r s')
    {p : Prog Act Res ε α} (hp : p.All P) : p.Meets C s := by
  induction p generalizing s with
  | done r => trivial
  | act a k ih =>
      intro s₁ _ hi r s₂ he
      exact ⟨hP a s₁ r s₂ hp.1 hi he, ih r (hp.2 r)⟩

lemma of_all (hI : C.Tolerates I) {p : Prog Act Res ε α} (hp : p.All I) : p.Meets C s :=
  of_guar (fun a s r s' ha hi he => (hI a s r s' ha hi he).1) hp

/-- A program that is followed by another one, which starts from what the first has left. -/
lemma bind_wp {p : Prog Act Res ε α} {k : α → Prog Act Res ε β} {R : α → σ → Prop}
    (hp : p.wp C (fun r s' => ∀ a, r = .ok a → R a s') s)
    (hk : ∀ a s', R a s' → (k a).Meets C s') : (p >>= k).Meets C s := by
  refine Prog.wp_bind (wp_mono (fun r s' hr => ?_) hp)
  cases r with
  | ok a => exact hk a s' (hr a rfl)
  | error e => trivial

lemma bind_all (hI : C.Tolerates I) (hF : C.Keeps F) {p : Prog Act Res ε α} (hp : p.All I)
    (hs : F s) {k : α → Prog Act Res ε β} (hk : ∀ a s', F s' → (k a).Meets C s') :
    (p >>= k).Meets C s := by
  have hkeeps := wp_of_all hI hF hp hs
  exact bind_wp (R := fun _ => F) (wp_mono (fun _ _ h _ _ => h) hkeeps) hk

lemma bind {p : Prog Act Res ε α} {k : α → Prog Act Res ε β} (hp : p.Meets C s)
    (hk : ∀ a s', (k a).Meets C s') : (p >>= k).Meets C s :=
  bind_wp (R := fun _ _ => True) (wp_mono (fun _ _ _ _ _ => trivial) hp) fun a s' _ => hk a s'

lemma map {p : Prog Act Res ε α} {f : α → β} (hp : p.Meets C s) : (f <$> p).Meets C s :=
  wp_map hp

lemma andThen {p : Prog Act Res ε α} {k : Except ε α → Prog Act Res ε β} (hp : p.Meets C s)
    (hk : ∀ r s', (k r).Meets C s') : (p.andThen k).Meets C s :=
  (wp_andThen p k _ s).mpr (wp_mono (fun r s' _ => hk r s') hp)

lemma tryFinally {p : Prog Act Res ε α} {fin : Prog Act Res ε Unit} (hp : p.Meets C s)
    (hfin : ∀ s', fin.Meets C s') : (p.tryFinally fin).Meets C s := by
  refine hp.andThen fun r s' => (hfin s').andThen fun r' s'' => ?_
  cases r' with
  | ok _ => trivial
  | error _ => trivial

lemma tryCatch {p : Prog Act Res ε α} {handler : ε → Prog Act Res ε α} (hp : p.Meets C s)
    (hh : ∀ e s', (handler e).Meets C s') : (p.tryCatch handler).Meets C s := by
  refine hp.andThen fun r s' => ?_
  cases r with
  | ok _ => trivial
  | error e => exact hh e s'

/-- A program whose own actions are what it relies on keeps what interference keeps. -/
lemma keeps (hself : C.SelfReliant) (hF : C.Keeps F) {p : Prog Act Res ε α} (hp : p.Meets C s)
    (hs : F s) : p.wp C (fun _ s' => F s') s := by
  induction p generalizing s with
  | done r => exact hs
  | act a k ih =>
      intro s₁ hs₁ hi r s₂ he
      obtain ⟨hg, hk⟩ := hp s₁ hs₁ hi r s₂ he
      exact ⟨hg, ih r hk (hF _ _ (hself a s₁ r s₂ hi he hg) (hF _ _ hs₁ hs))⟩

lemma bind_keeps (hself : C.SelfReliant) (hF : C.Keeps F) {p : Prog Act Res ε α} (hp : p.Meets C s)
    (hs : F s) {k : α → Prog Act Res ε β} (hk : ∀ a s', F s' → (k a).Meets C s') :
    (p >>= k).Meets C s :=
  bind_wp (R := fun _ => F) (wp_mono (fun _ _ h _ _ => h) (hp.keeps hself hF hs)) hk

/-- An action that what survives until it is performed justifies, and what it leaves to the rest of
the program. -/
lemma bind_perform {a : Act} {k : Res a → Prog Act Res ε β} {R : Res a → σ → Prop}
    (hF : C.Keeps F) (hs : F s) (h : ∀ s₁ r s₂, F s₁ → C.inv s₁ → C.exec a s₁ r s₂ →
      C.guar a s₁ r s₂ ∧ ∀ v, r = .ok v → R v s₂)
    (hk : ∀ v s', R v s' → (k v).Meets C s') :
    ((perform a : Prog Act Res ε (Res a)) >>= k).Meets C s :=
  bind_wp (R := R) (fun s₁ hs₁ hi r s₂ he => h s₁ r s₂ (hF _ _ hs₁ hs) hi he) hk

end Meets

end Prog

end Framework
