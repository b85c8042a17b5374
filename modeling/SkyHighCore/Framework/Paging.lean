import Mathlib.Data.List.Sort

/-!
# Pages of an ordered query

A store that answers an `ORDER BY key` query returns the rows in some order in which the keys
ascend.  An `OrderedBy key rows` is one such answer, and `page limit k` is what `OFFSET k * limit
LIMIT limit` leaves of it.

Where no two rows have one key there is a single answer (`OrderedBy.list_eq`), so that pages read
with one query each are the pages of one list.  `flatMap_pages_perm` and `flatMap_pages_pairwise`
put such pages together, also when the rows of each page are handed out in another order.
-/

namespace Framework

variable {ρ β : Type} [LinearOrder β] {key : ρ → β} {rows : List ρ}

/-- An order of the rows that `ORDER BY key` allows. -/
structure OrderedBy (key : ρ → β) (rows : List ρ) where
  list : List ρ
  perm : list.Perm rows
  sorted : list.Pairwise fun r r' => key r ≤ key r'

/-- Page `k`, the first one being page `0`. -/
def page (limit k : ℕ) (l : List ρ) : List ρ := (l.drop (k * limit)).take limit

namespace OrderedBy

/-- Rows with keys of their own come in one order. -/
lemma list_eq (hkey : Set.InjOn key {r | r ∈ rows}) (o o' : OrderedBy key rows) :
    o.list = o'.list := by
  apply List.Perm.eq_of_pairwise _ o.sorted o'.sorted (o.perm.trans o'.perm.symm)
  intro r r' hr hr' hle hge
  exact hkey (o.perm.mem_iff.mp hr) (o'.perm.mem_iff.mp hr') (le_antisymm hle hge)

/-- An answer to the query. -/
def insertionSort (key : ρ → β) (rows : List ρ) : OrderedBy key rows where
  list := rows.insertionSort fun r r' => key r ≤ key r'
  perm := List.perm_insertionSort _ rows
  sorted := by
    have : Std.Total fun r r' : ρ => key r ≤ key r' := ⟨fun r r' => le_total (key r) (key r')⟩
    have : IsTrans ρ fun r r' : ρ => key r ≤ key r' := ⟨fun _ _ _ => le_trans⟩
    exact List.pairwise_insertionSort _ rows

end OrderedBy

/-! ## Reading all pages -/

section Pages

variable {limit : ℕ} {l : List ρ} {part : ℕ → List ρ}

lemma take_succ_mul (limit k : ℕ) (l : List ρ) :
    l.take ((k + 1) * limit) = l.take (k * limit) ++ page limit k l := by
  rw [Nat.succ_mul, List.take_add, page]

/-- A page past the last row is empty. -/
lemma page_eq_nil {k : ℕ} (h : l.length ≤ k * limit) : page limit k l = [] := by
  rw [page, List.drop_of_length_le h, List.take_nil]

/-- The first `n` pages are the rows before the next page. -/
lemma flatMap_pages_perm (h : ∀ k, (part k).Perm (page limit k l)) (n : ℕ) :
    ((List.range n).flatMap part).Perm (l.take (n * limit)) := by
  induction n with
  | zero => simp
  | succ n ih =>
      rw [List.range_succ, List.flatMap_append, List.flatMap_singleton, take_succ_mul]
      exact ih.append (h n)

/-- Pages of an ordered list, each of them ordered, are ordered together. -/
lemma flatMap_pages_pairwise {R : ρ → ρ → Prop} (h : ∀ k, (part k).Perm (page limit k l))
    (hpart : ∀ k, (part k).Pairwise R) (hl : l.Pairwise R) (n : ℕ) :
    ((List.range n).flatMap part).Pairwise R := by
  induction n with
  | zero => simp
  | succ n ih =>
      have hsorted := hl.sublist (List.take_sublist ((n + 1) * limit) l)
      rw [take_succ_mul] at hsorted
      obtain ⟨-, -, hcross⟩ := List.pairwise_append.mp hsorted
      rw [List.range_succ, List.flatMap_append, List.flatMap_singleton]
      apply List.pairwise_append.mpr
      refine ⟨ih, hpart n, ?_⟩
      intro r hr r' hr'
      exact hcross r ((flatMap_pages_perm h n).mem_iff.mp hr) r' ((h n).mem_iff.mp hr')

end Pages

end Framework
