import Mathlib.Data.Nat.Notation
import Mathlib.Data.Option.Basic
import Mathlib.Logic.Function.Basic
import Mathlib.Tactic.Lemma

/-!
# A key-value store whose keys lapse

`Keyspace` is a store with one namespace of keys, each with a value and the instant from which on
it is gone, and `Keyspace.exec` executes the commands that clients of such a store share it
through: plain ones, the conditional ones that locks are made of, and one that replaces a value by
a function of it.

A client rarely thinks of the store's keys: it has keys of its own, and spells them.  `Represents`
says that the store has just what the client thinks it has, and `Represents.exec` that this stays
so, and that the store answers as the client expects, if no two of his keys are spelled alike.
Keys that are spelled as a prefix and a name are told apart if the prefixes are `PrefixFree`.
-/

namespace Framework

variable {κ ν ι : Type}

/-- The values under the keys, each with the instant at which it lapses. -/
abbrev Keyspace (κ ν : Type) := κ → Option (ν × ℕ)

/-- The commands, with times to live. -/
inductive Command (κ ν : Type) where
  | get (key : κ)
  | exists (key : κ)
  | set (key : κ) (value : ν) (ttl : ℕ)
  /-- Set the key if it is not there. -/
  | setNX (key : κ) (value : ν) (ttl : ℕ)
  | del (key : κ)
  /-- Delete the key if it has this value. -/
  | delEq (key : κ) (value : ν)
  /-- Replace the value by a function of it, and count; the function may refuse the value. -/
  | modify (key : κ) (f : Option ν → Option (ν × ℕ)) (ttl : ℕ)

/-- What the store answers. -/
inductive Answer (ν : Type) where
  | ok
  | nil
  | value (v : ν)
  | count (n : ℕ)
  | refused
  deriving DecidableEq

/-- The command on the key as it is spelled. -/
def Command.mapKey (spell : ι → κ) : Command ι ν → Command κ ν
  | .get key => .get (spell key)
  | .exists key => .exists (spell key)
  | .set key value ttl => .set (spell key) value ttl
  | .setNX key value ttl => .setNX (spell key) value ttl
  | .del key => .del (spell key)
  | .delEq key value => .delEq (spell key) value
  | .modify key f ttl => .modify (spell key) f ttl

namespace Keyspace

/-- The value under a key that has not lapsed. -/
def live (ρ : Keyspace κ ν) (now : ℕ) (key : κ) : Option ν :=
  (ρ key).bind fun e => if now < e.2 then some e.1 else none

section Exec

variable [DecidableEq κ] [DecidableEq ν]

/-- The answer to a command and its effect. -/
def exec (ρ : Keyspace κ ν) (now : ℕ) : Command κ ν → Answer ν × Keyspace κ ν
  | .get key => ((ρ.live now key).elim .nil .value, ρ)
  | .exists key => (.count (if (ρ.live now key).isSome then 1 else 0), ρ)
  | .set key value ttl => (.ok, Function.update ρ key (some (value, now + ttl)))
  | .setNX key value ttl =>
      if (ρ.live now key).isSome then (.nil, ρ)
      else (.ok, Function.update ρ key (some (value, now + ttl)))
  | .del key =>
      (.count (if (ρ.live now key).isSome then 1 else 0), Function.update ρ key none)
  | .delEq key value =>
      if ρ.live now key = some value then (.count 1, Function.update ρ key none)
      else (.count 0, ρ)
  | .modify key f ttl =>
      match f (ρ.live now key) with
      | some (value, n) => (.count n, Function.update ρ key (some (value, now + ttl)))
      | none => (.refused, ρ)

/-- The store after a list of commands, each at its instant. -/
def execAll (ρ : Keyspace κ ν) (cmds : List (ℕ × Command κ ν)) : Keyspace κ ν :=
  cmds.foldl (fun ρ cmd => (ρ.exec cmd.1 cmd.2).2) ρ

lemma execAll_append (ρ : Keyspace κ ν) (cmds cmds' : List (ℕ × Command κ ν)) :
    ρ.execAll (cmds ++ cmds') = (ρ.execAll cmds).execAll cmds' := List.foldl_append

end Exec

/-! ## Keys of one's own -/

/-- The store has the client's values under his keys, as he spells them, and no others. -/
structure Represents (ρ : Keyspace κ ν) (spell : ι → κ) (m : Keyspace ι ν) : Prop where
  under : ∀ i, ρ (spell i) = m i
  only : ∀ key, ρ key ≠ none → ∃ i, spell i = key

section Represents

variable {ρ : Keyspace κ ν} {spell : ι → κ} {m : Keyspace ι ν}

lemma Represents.live (h : ρ.Represents spell m) (now : ℕ) (i : ι) :
    ρ.live now (spell i) = m.live now i := by
  unfold Keyspace.live
  rw [h.under i]

variable [DecidableEq κ] [DecidableEq ι]

lemma Represents.update (h : ρ.Represents spell m) (hspell : Function.Injective spell) (i : ι)
    (v : Option (ν × ℕ)) :
    Keyspace.Represents (Function.update ρ (spell i) v) spell (Function.update m i v) where
  under j := by
    by_cases hj : j = i
    · rw [hj, Function.update_self, Function.update_self]
    · rw [Function.update_of_ne (hspell.ne hj), Function.update_of_ne hj]
      exact h.under j
  only key hkey := by
    by_cases hi : key = spell i
    · exact ⟨i, hi.symm⟩
    · rw [Function.update_of_ne hi] at hkey
      exact h.only key hkey

variable [DecidableEq ν]

/-- **Spelled keys do as well as the client's own**, as long as no two are spelled alike. -/
theorem Represents.exec (h : ρ.Represents spell m) (hspell : Function.Injective spell) (now : ℕ)
    (cmd : Command ι ν) :
    (ρ.exec now (cmd.mapKey spell)).1 = (m.exec now cmd).1 ∧
      (ρ.exec now (cmd.mapKey spell)).2.Represents spell (m.exec now cmd).2 := by
  cases cmd with
  | get key | «exists» key =>
      simp only [Command.mapKey, Keyspace.exec, h.live]
      exact ⟨trivial, h⟩
  | set key value ttl => exact ⟨rfl, h.update hspell key _⟩
  | del key =>
      simp only [Command.mapKey, Keyspace.exec, h.live]
      exact ⟨trivial, h.update hspell key _⟩
  | setNX key value ttl =>
      simp only [Command.mapKey, Keyspace.exec, h.live]
      split
      · exact ⟨rfl, h⟩
      · exact ⟨rfl, h.update hspell key _⟩
  | delEq key value =>
      simp only [Command.mapKey, Keyspace.exec, h.live]
      split
      · exact ⟨rfl, h.update hspell key _⟩
      · exact ⟨rfl, h⟩
  | modify key f ttl =>
      simp only [Command.mapKey, Keyspace.exec, h.live]
      cases f (m.live now key) with
      | none => exact ⟨rfl, h⟩
      | some result => exact ⟨rfl, h.update hspell key _⟩

end Represents

end Keyspace

/-! ## Prefixes -/

/-- None of the prefixes starts another one. -/
def PrefixFree (prefixes : List String) : Prop :=
  ∀ p ∈ prefixes, ∀ q ∈ prefixes, p.toList <+: q.toList → p = q

instance (prefixes : List String) : Decidable (PrefixFree prefixes) := by
  unfold PrefixFree
  infer_instance

/-- What is spelled as a prefix and a name can be read in one way only. -/
lemma PrefixFree.append_inj {prefixes : List String} (hfree : PrefixFree prefixes)
    {p q a b : String} (hp : p ∈ prefixes) (hq : q ∈ prefixes) (heq : p ++ a = q ++ b) :
    p = q ∧ a = b := by
  have hlists : p.toList ++ a.toList = q.toList ++ b.toList := by
    rw [← String.toList_append, ← String.toList_append, heq]
  have hpq : p = q := by
    have hleft : p.toList <+: q.toList ++ b.toList := ⟨a.toList, hlists⟩
    rcases List.prefix_or_prefix_of_prefix hleft (List.prefix_append _ _) with h | h
    · exact hfree p hp q hq h
    · exact (hfree q hq p hp h).symm
  subst hpq
  exact ⟨rfl, String.toList_inj.mp (List.append_cancel_left hlists)⟩

end Framework
