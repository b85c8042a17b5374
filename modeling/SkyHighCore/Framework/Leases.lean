import Mathlib.Data.Option.Basic
import SkyHighCore.Framework.Pool

/-!
# Locks that are leased

A lock that its holder may not live to release is given out for a limited time: a table says for
each key who holds it and when his lease ends, and from then on the key is anybody's.  A `Locking`
names the actions of a system that ask for a lock or give it back; such an action succeeds only as
the table permits (`Respected`), and fails whenever the environment pleases.

What a call believes is another matter.  It is in the `section` of a key from the moment its
request is granted until it asks for the release, whatever has become of its lease meanwhile.
`Run.lease` connects the two: as long as the lease of a section lasts, the table knows the call as
the holder.  So two calls are in the section of one key only after the lease of one of them has
ended (`Run.exclusive`).
-/

namespace Framework

/-- What an action does with locks. -/
inductive LockOp (Key : Type) where
  | acquire (key : Key)
  | release (key : Key)
  | other

/-- The holder of each key, and the instant at which his lease ends. -/
abbrev Leases (Key : Type) := Key → Option (ℕ × ℕ)

variable {Act : Type} {Res : Act → Type} {ε α σ Choice Env Call : Type}

/-- The locks of a system, with the length of their leases on the system's clock. -/
structure Locking (S : System Act Res ε α σ Choice Env Call) (Key : Type) where
  op : Act → LockOp Key
  ttl : Key → ℕ
  clock : σ → ℕ
  clock_exec : ∀ a ch s, clock s ≤ clock (S.exec a ch s).2
  clock_tick : ∀ e s, clock s ≤ clock (S.tick e s)

namespace Locking

variable {S : System Act Res ε α σ Choice Env Call} {Key : Type} (L : Locking S Key)

/-- The call that acts in the transition, what it does with locks, and whether it succeeds. -/
def operation? (t : Transition Act Res ε α σ Choice Env Call) : Option (ℕ × LockOp Key × Bool) :=
  match t.label with
  | .act k ch =>
      match t.pre.threads[k]? with
      | some ⟨_, .act a _⟩ => some (k, L.op a, (S.exec a ch t.pre.state).1.isOk)
      | _ => none
  | _ => none

/-- A request is granted only if nobody has a lease on the key, and a release succeeds only if the
lease still lasts. -/
def Permits (T : Leases Key) (t : Transition Act Res ε α σ Choice Env Call) : Prop :=
  match L.operation? t with
  | some (_, .acquire key, true) => ∀ lease ∈ T key, lease.2 ≤ L.clock t.pre.state
  | some (k, .release key, true) => ∃ lease ∈ T key, lease.1 = k ∧ L.clock t.pre.state < lease.2
  | _ => True

instance (T : Leases Key) (t : Transition Act Res ε α σ Choice Env Call) :
    Decidable (L.Permits T t) := by
  unfold Permits
  split <;> infer_instance

/-- The sections the calls are in after the transition, each with the instant of its entry. -/
def enter (sections : ℕ → Option (Key × ℕ)) (t : Transition Act Res ε α σ Choice Env Call) :
    ℕ → Option (Key × ℕ) :=
  match L.operation? t with
  | some (k, .acquire key, true) =>
      Function.update sections k (some (key, L.clock t.pre.state))
  | some (k, .release _, _) => Function.update sections k none
  | _ => sections

/-- The section of each call after a list of transitions. -/
def sections (ts : List (Transition Act Res ε α σ Choice Env Call)) : ℕ → Option (Key × ℕ) :=
  ts.foldl L.enter fun _ => none

/-- From the sections on, a call that is in a section acts while its lease lasts. -/
def TimelyFrom (sections : ℕ → Option (Key × ℕ)) :
    List (Transition Act Res ε α σ Choice Env Call) → Prop
  | [] => True
  | t :: ts => (∀ op ∈ L.operation? t, ∀ entry ∈ sections op.1,
      L.clock t.pre.state < entry.2 + L.ttl entry.1) ∧ TimelyFrom (L.enter sections t) ts

/-- No call outlives the lease of a section that it is in. -/
def Timely (ts : List (Transition Act Res ε α σ Choice Env Call)) : Prop :=
  L.TimelyFrom (fun _ => none) ts

instance decidableTimelyFrom (sections : ℕ → Option (Key × ℕ))
    (ts : List (Transition Act Res ε α σ Choice Env Call)) :
    Decidable (L.TimelyFrom sections ts) :=
  match ts with
  | [] => .isTrue trivial
  | t :: ts =>
      have := decidableTimelyFrom (L.enter sections t) ts
      inferInstanceAs (Decidable (_ ∧ _))

instance (ts : List (Transition Act Res ε α σ Choice Env Call)) : Decidable (L.Timely ts) :=
  inferInstanceAs (Decidable (L.TimelyFrom _ ts))

section Table

variable [DecidableEq Key]

/-- The table after the transition. -/
def lease (T : Leases Key) (t : Transition Act Res ε α σ Choice Env Call) : Leases Key :=
  match L.operation? t with
  | some (k, .acquire key, true) =>
      Function.update T key (some (k, L.clock t.pre.state + L.ttl key))
  | some (_, .release key, true) => Function.update T key none
  | _ => T

/-- The table after a list of transitions. -/
def leases (ts : List (Transition Act Res ε α σ Choice Env Call)) : Leases Key :=
  ts.foldl L.lease fun _ => none

/-- From the table `T` on, every transition is one that the table permits. -/
def RespectedFrom (T : Leases Key) : List (Transition Act Res ε α σ Choice Env Call) → Prop
  | [] => True
  | t :: ts => L.Permits T t ∧ RespectedFrom (L.lease T t) ts

/-- The locks are given out as their leases permit. -/
def Respected (ts : List (Transition Act Res ε α σ Choice Env Call)) : Prop :=
  L.RespectedFrom (fun _ => none) ts

instance decidableRespectedFrom (T : Leases Key)
    (ts : List (Transition Act Res ε α σ Choice Env Call)) : Decidable (L.RespectedFrom T ts) :=
  match ts with
  | [] => .isTrue trivial
  | t :: ts =>
      have := decidableRespectedFrom (L.lease T t) ts
      inferInstanceAs (Decidable (_ ∧ _))

instance (ts : List (Transition Act Res ε α σ Choice Env Call)) : Decidable (L.Respected ts) :=
  inferInstanceAs (Decidable (L.RespectedFrom _ ts))

end Table

variable {L} {t : Transition Act Res ε α σ Choice Env Call}
  {ts us : List (Transition Act Res ε α σ Choice Env Call)} {c c₀ : Config Act Res ε α σ Call}

/-! ## One more transition -/

lemma operation?_act {k : ℕ} {ch : Choice} {c' : Config Act Res ε α σ Call} {call : Call} {a : Act}
    {cont : Except ε (Res a) → Prog Act Res ε α} (hk : c.threads[k]? = some ⟨call, .act a cont⟩) :
    L.operation? ⟨c, .act k ch, c'⟩ = some (k, L.op a, (S.exec a ch c.state).1.isOk) := by
  simp [operation?, hk]

lemma sections_concat : L.sections (ts ++ [t]) = L.enter (L.sections ts) t := by
  simp [sections, List.foldl_append]

lemma timelyFrom_append {e : ℕ → Option (Key × ℕ)} : L.TimelyFrom e (us ++ ts) ↔
    L.TimelyFrom e us ∧ L.TimelyFrom (us.foldl L.enter e) ts := by
  induction us generalizing e with
  | nil => simp [TimelyFrom]
  | cons u us ih => simp only [List.cons_append, TimelyFrom, ih, List.foldl_cons, and_assoc]

lemma Timely.prefix (h : L.Timely (us ++ ts)) : L.Timely us := (timelyFrom_append.mp h).1

/-- A call that acts in a section acts in time. -/
lemma Timely.lasts (h : L.Timely (us ++ t :: ts)) {k : ℕ} {op : LockOp Key} {ok : Bool}
    (hop : L.operation? t = some (k, op, ok)) {key : Key} {since : ℕ}
    (hsection : L.sections us k = some (key, since)) :
    L.clock t.pre.state < since + L.ttl key :=
  (timelyFrom_append.mp h).2.1 _ hop _ hsection

lemma clock_step {l : Label Choice Env Call} {c' : Config Act Res ε α σ Call}
    (h : S.step l c = some c') : L.clock c.state ≤ L.clock c'.state := by
  rcases S.step_cases h with ⟨_, rfl, rfl⟩ | ⟨e, rfl, rfl⟩ | ⟨_, ch, _, a, _, rfl, _, rfl⟩
  · exact Nat.le_refl _
  · exact L.clock_tick e c.state
  · exact L.clock_exec a ch c.state

variable [DecidableEq Key]

lemma leases_concat : L.leases (ts ++ [t]) = L.lease (L.leases ts) t := by
  simp [leases, List.foldl_append]

/-- The table stays as it is when the action has nothing to do with locks. -/
lemma lease_other {T : Leases Key} {k : ℕ} {ch : Choice} {c' : Config Act Res ε α σ Call}
    {call : Call} {a : Act} {cont : Except ε (Res a) → Prog Act Res ε α}
    (hk : c.threads[k]? = some ⟨call, .act a cont⟩) (hop : L.op a = .other) :
    L.lease T ⟨c, .act k ch, c'⟩ = T := by
  simp only [lease, operation?_act hk, hop]

lemma respectedFrom_append {T : Leases Key} : L.RespectedFrom T (us ++ ts) ↔
    L.RespectedFrom T us ∧ L.RespectedFrom (us.foldl L.lease T) ts := by
  induction us generalizing T with
  | nil => simp [RespectedFrom]
  | cons u us ih => simp only [List.cons_append, RespectedFrom, ih, List.foldl_cons, and_assoc]

lemma Respected.concat (h : L.Respected (ts ++ [t])) :
    L.Respected ts ∧ L.Permits (L.leases ts) t := by
  obtain ⟨hts, ht⟩ := respectedFrom_append.mp h
  exact ⟨hts, ht.1⟩

lemma Respected.prefix (h : L.Respected (us ++ ts)) : L.Respected us :=
  (respectedFrom_append.mp h).1

/-! ## The lease of a section -/

/-- What a transition does with the locks, to the call that acts and to the others. -/
lemma holder_step {T : Leases Key} {e : ℕ → Option (Key × ℕ)} (hpermits : L.Permits T t) {k : ℕ}
    {key : Key} {since : ℕ} (hsection : L.enter e t k = some (key, since))
    (hlasts : L.clock t.pre.state < since + L.ttl key)
    (hheld : e k = some (key, since) → T key = some (k, since + L.ttl key)) :
    L.lease T t key = some (k, since + L.ttl key) := by
  cases hop : L.operation? t with
  | none =>
      simp only [enter, hop] at hsection
      simp only [Locking.lease, hop]
      exact hheld hsection
  | some action =>
      obtain ⟨j, op, ok⟩ := action
      cases op with
      | other =>
          simp only [enter, hop] at hsection
          simp only [Locking.lease, hop]
          exact hheld hsection
      | acquire key' =>
          cases ok with
          | false =>
              simp only [enter, hop] at hsection
              simp only [Locking.lease, hop]
              exact hheld hsection
          | true =>
              simp only [enter, hop] at hsection
              simp only [Locking.lease, hop]
              simp only [Permits, hop] at hpermits
              by_cases hjk : k = j
              · rw [hjk, Function.update_self] at hsection
                obtain ⟨rfl, rfl⟩ := Prod.mk.inj (Option.some_inj.mp hsection)
                rw [hjk, Function.update_self]
              · rw [Function.update_of_ne hjk] at hsection
                have hne : key ≠ key' := by
                  rintro rfl
                  have hended := hpermits _ (hheld hsection)
                  dsimp only at hended
                  omega
                rw [Function.update_of_ne hne]
                exact hheld hsection
      | release key' =>
          simp only [enter, hop] at hsection
          by_cases hjk : k = j
          · rw [hjk, Function.update_self] at hsection
            cases hsection
          · rw [Function.update_of_ne hjk] at hsection
            cases ok with
            | false =>
                simp only [Locking.lease, hop]
                exact hheld hsection
            | true =>
                simp only [Locking.lease, hop]
                simp only [Permits, hop] at hpermits
                have hne : key ≠ key' := by
                  rintro rfl
                  obtain ⟨lease, hlease, howner, -⟩ := hpermits
                  rw [hheld hsection] at hlease
                  obtain rfl := Option.some_inj.mp hlease
                  exact hjk howner
                rw [Function.update_of_ne hne]
                exact hheld hsection

/-- **The holder of a key is the call that is in its section**, as long as the lease lasts. -/
theorem Run.lease (h : S.Run c₀ ts c) (hlocks : L.Respected ts) {k : ℕ} {key : Key} {since : ℕ}
    (hsection : L.sections ts k = some (key, since))
    (hlasts : L.clock c.state < since + L.ttl key) :
    L.leases ts key = some (k, since + L.ttl key) := by
  induction h generalizing k key since with
  | nil => cases hsection
  | @snoc ts c l c' _ hstep ih =>
      obtain ⟨hlocks, hpermits⟩ := hlocks.concat
      have hlasts' : L.clock c.state < since + L.ttl key := by
        have hclock : L.clock c.state ≤ L.clock c'.state := clock_step hstep
        omega
      rw [sections_concat] at hsection
      rw [leases_concat]
      exact holder_step hpermits hsection hlasts' fun hbefore => ih hlocks hbefore hlasts'

/-- **Mutual exclusion**, while the leases last. -/
theorem Run.exclusive (h : S.Run c₀ ts c) (hlocks : L.Respected ts) {j k : ℕ} {key : Key}
    {since since' : ℕ} (hj : L.sections ts j = some (key, since))
    (hk : L.sections ts k = some (key, since'))
    (hlasts : L.clock c.state < since + L.ttl key)
    (hlasts' : L.clock c.state < since' + L.ttl key) : j = k := by
  have hheld := Run.lease h hlocks hj hlasts
  rw [Run.lease h hlocks hk hlasts'] at hheld
  exact (Prod.mk.inj (Option.some_inj.mp hheld)).1.symm

end Locking

end Framework
