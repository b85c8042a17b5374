import Mathlib.Data.List.Dedup
import Mathlib.Data.List.Nodup
import Mathlib.Data.List.Perm.Lattice
import Mathlib.Order.Basic

/-!
# Sorted sets

A `SortedSet` holds members with a score each; a member occurs once, which is a field.  The
commands are the ones a store offers for it: add a member or give it a new score, remove the
members whose score lies in an interval, count the members.

A set that is fed one member for each instant of a log, with the instant as its score, counts
different instants: `zcard_eq_of_mem_iff` reads its size off the log.
-/

namespace Framework

/-- Members with a score each. -/
structure SortedSet (μ σ : Type) where
  entries : List (μ × σ)
  nodup : (entries.map Prod.fst).Nodup

namespace SortedSet

variable {μ σ : Type}

/-- The set without members. -/
def empty : SortedSet μ σ := ⟨[], List.nodup_nil⟩

/-- Keep the entries that meet `p`. -/
def keep (s : SortedSet μ σ) (p : μ × σ → Bool) : SortedSet μ σ where
  entries := s.entries.filter p
  nodup := s.nodup.sublist (List.filter_sublist.map Prod.fst)

/-- `ZADD key score member`. -/
def zadd [DecidableEq μ] (s : SortedSet μ σ) (score : σ) (member : μ) : SortedSet μ σ where
  entries := (s.keep fun e => e.1 ≠ member).entries ++ [(member, score)]
  nodup := by
    rw [List.map_append, List.nodup_append]
    refine ⟨(s.keep _).nodup, by simp, ?_⟩
    intro m hm m' hm' heq
    obtain ⟨e, he, rfl⟩ := List.mem_map.mp hm
    have hne : e.1 ≠ member := by simpa using (List.mem_filter.mp he).2
    exact hne (heq.trans (by simpa using hm'))

/-- `ZREMRANGEBYSCORE key min max`: both ends belong to the range. -/
def zremrangebyscore [LE σ] [DecidableLE σ] (s : SortedSet μ σ) (min max : σ) : SortedSet μ σ :=
  s.keep fun e => ¬ (min ≤ e.2 ∧ e.2 ≤ max)

/-- `ZCARD key`. -/
def zcard (s : SortedSet μ σ) : ℕ := s.entries.length

@[simp] lemma not_mem_empty (e : μ × σ) : e ∉ (empty : SortedSet μ σ).entries :=
  List.not_mem_nil

lemma mem_zadd_iff [DecidableEq μ] (s : SortedSet μ σ) (score : σ) (member : μ) (e : μ × σ) :
    e ∈ (s.zadd score member).entries ↔
      (e ∈ s.entries ∧ e.1 ≠ member) ∨ e = (member, score) := by
  simp [zadd, keep]

lemma mem_zremrangebyscore_iff [LE σ] [DecidableLE σ] (s : SortedSet μ σ) (min max : σ)
    (e : μ × σ) :
    e ∈ (s.zremrangebyscore min max).entries ↔ e ∈ s.entries ∧ (min ≤ e.2 → ¬ e.2 ≤ max) := by
  simp [zremrangebyscore, keep, imp_iff_not_or]

/-- The size of a set whose entries are named, one for one, by the values that occur in `l`. -/
lemma zcard_eq_of_mem_iff {τ : Type} [DecidableEq τ] (s : SortedSet μ σ) (l : List τ)
    (entry : τ → μ × σ) (hinj : Function.Injective entry)
    (h : ∀ e, e ∈ s.entries ↔ ∃ u ∈ l, entry u = e) : s.zcard = l.dedup.length := by
  have hnodup : (l.dedup.map entry).Nodup := l.nodup_dedup.map hinj
  have hperm : s.entries.Perm (l.dedup.map entry) := by
    apply (List.perm_ext_iff_of_nodup s.nodup.of_map hnodup).mpr
    intro e
    rw [h, List.mem_map]
    simp only [List.mem_dedup]
  rw [zcard, hperm.length_eq, List.length_map]

end SortedSet

end Framework
