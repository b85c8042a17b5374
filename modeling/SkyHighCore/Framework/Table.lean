import Mathlib.Data.List.Nodup
import Mathlib.Data.List.MinMax
import Mathlib.Data.Nat.Basic
import Mathlib.Logic.Function.Basic
import Mathlib.Tactic.Push

/-!
# Tables with a primary key

A `Table` is a list of rows whose keys are pairwise distinct, the distinctness being a field,
so that a table violating its primary key cannot be built.  The operations are the ones a
relational store offers to a client: look a row up by key, update every row that meets a
condition, count those rows, insert a row under an unused key, and read rows by a condition
in whatever order the store returns them.

Everything later developments need is phrased through `Table.get?`: `get?_updateWhere` and
`get?_insert` say what the two writes do to it, `mem_rows_iff` and `forall_rows_iff` turn
statements about rows into statements about keys, and `count_eq_zero_iff` reads the number of
affected rows of a conditional update.
-/

namespace Framework

/-- Rows that carry their own primary key. -/
class Keyed (ρ : Type) (κ : outParam Type) where
  key : ρ → κ

export Keyed (key)

/-- A list of rows with pairwise distinct keys. -/
@[ext]
structure Table (ρ : Type) {κ : Type} [Keyed ρ κ] where
  rows : List ρ
  nodup : (rows.map key).Nodup

namespace Table

variable {ρ κ : Type} [Keyed ρ κ]

/-- The table without rows. -/
def empty : Table ρ := ⟨[], List.nodup_nil⟩

/-! ## Lookup by key -/

lemma eq_of_key_eq (t : Table ρ) {r r' : ρ} (hr : r ∈ t.rows) (hr' : r' ∈ t.rows)
    (h : key r = key r') : r = r' :=
  List.inj_on_of_nodup_map t.nodup hr hr' h

section Lookup

variable [DecidableEq κ]

/-- The row with a given key. -/
def get? (t : Table ρ) (k : κ) : Option ρ :=
  t.rows.find? fun r => decide (key r = k)

@[simp] lemma get?_empty (k : κ) : (empty : Table ρ).get? k = none := rfl

lemma get?_eq_some_iff (t : Table ρ) {k : κ} {r : ρ} :
    t.get? k = some r ↔ r ∈ t.rows ∧ key r = k := by
  have found : ∀ r', t.get? k = some r' → r' ∈ t.rows ∧ key r' = k := fun r' h =>
    ⟨List.mem_of_find?_eq_some h, by simpa using List.find?_some h⟩
  refine ⟨found r, fun ⟨hr, hk⟩ => ?_⟩
  rcases hq : t.get? k with _ | r'
  · exact absurd hk (by simpa using List.find?_eq_none.mp hq r hr)
  · obtain ⟨hr', hk'⟩ := found r' hq
    rw [t.eq_of_key_eq hr' hr (hk'.trans hk.symm)]

lemma key_of_get? {t : Table ρ} {k : κ} {r : ρ} (h : t.get? k = some r) : key r = k :=
  (t.get?_eq_some_iff.mp h).2

lemma mem_of_get? {t : Table ρ} {k : κ} {r : ρ} (h : t.get? k = some r) : r ∈ t.rows :=
  (t.get?_eq_some_iff.mp h).1

lemma mem_rows_iff (t : Table ρ) {r : ρ} : r ∈ t.rows ↔ t.get? (key r) = some r := by
  simp [get?_eq_some_iff]

lemma get?_eq_none_iff (t : Table ρ) {k : κ} :
    t.get? k = none ↔ ∀ r ∈ t.rows, key r ≠ k := by
  simp [get?, List.find?_eq_none]

/-- A statement about every row is a statement about every key. -/
lemma forall_rows_iff (t : Table ρ) {P : ρ → Prop} :
    (∀ r ∈ t.rows, P r) ↔ ∀ k r, t.get? k = some r → P r := by
  constructor
  · intro h k r hr
    exact h r (mem_of_get? hr)
  · intro h r hr
    exact h (key r) r (t.mem_rows_iff.mp hr)

end Lookup

/-! ## Conditional update -/

/-- Apply `f` to every row that meets `p`; `f` keeps the key. -/
def updateWhere (t : Table ρ) (p : ρ → Prop) [DecidablePred p] (f : ρ → ρ)
    (hf : ∀ r, key (f r) = key r := by intro _; rfl) : Table ρ where
  rows := t.rows.map fun r => if p r then f r else r
  nodup := by
    have hkeys : (t.rows.map fun r => if p r then f r else r).map key = t.rows.map key := by
      rw [List.map_map]
      refine List.map_congr_left fun r _ => ?_
      by_cases hp : p r <;> simp [hp, hf]
    rw [hkeys]
    exact t.nodup

/-- How many rows a conditional update affects. -/
def count (t : Table ρ) (p : ρ → Prop) [DecidablePred p] : ℕ :=
  t.rows.countP fun r => decide (p r)

lemma count_eq_zero_iff [DecidableEq κ] (t : Table ρ) (p : ρ → Prop) [DecidablePred p] :
    t.count p = 0 ↔ ∀ k r, t.get? k = some r → ¬ p r := by
  rw [count, List.countP_eq_zero, ← forall_rows_iff]
  simp

lemma get?_updateWhere [DecidableEq κ] (t : Table ρ) (p : ρ → Prop) [DecidablePred p]
    (f : ρ → ρ) (hf : ∀ r, key (f r) = key r) (k : κ) :
    (t.updateWhere p f hf).get? k = (t.get? k).map fun r => if p r then f r else r := by
  have hkey : ∀ r, key (if p r then f r else r) = key r := by
    intro r
    by_cases hp : p r <;> simp [hp, hf]
  have hcomp : (fun r => decide (key r = k)) ∘ (fun r => if p r then f r else r) =
      fun r => decide (key r = k) := by
    funext r
    rw [Function.comp_apply, hkey]
  rw [get?, updateWhere, List.find?_map, hcomp, get?]

/-- Only the row with key `k` can meet the condition. -/
lemma get?_updateWhere_of_key [DecidableEq κ] (t : Table ρ) {p : ρ → Prop} [DecidablePred p]
    {f : ρ → ρ} {hf : ∀ r, key (f r) = key r} {k : κ} {r : ρ} (hr : t.get? k = some r) (hp : p r)
    (hk : ∀ r', p r' → key r' = k) :
    (t.updateWhere p f hf).get? = Function.update t.get? k (some (f r)) := by
  funext k'
  rw [get?_updateWhere]
  by_cases h : k' = k
  · subst h
    simp [hr, hp]
  · rw [Function.update_of_ne h]
    cases hr' : t.get? k' with
    | none => rfl
    | some r' =>
        have hnp : ¬ p r' := fun hp' => h ((key_of_get? hr').symm.trans (hk r' hp'))
        simp [hnp]

/-- A conditional update of one key affects a row exactly when that row meets the condition. -/
lemma exists_of_count_ne_zero [DecidableEq κ] (t : Table ρ) {p : ρ → Prop} [DecidablePred p]
    {k : κ} (hk : ∀ r, p r → key r = k) (h : t.count p ≠ 0) : ∃ r, t.get? k = some r ∧ p r := by
  by_contra hno
  push Not at hno
  refine h ((t.count_eq_zero_iff p).mpr fun k' r hr hp => ?_)
  obtain rfl : k' = k := (key_of_get? hr).symm.trans (hk r hp)
  exact hno r hr hp

/-- An update that affects no row changes nothing. -/
lemma updateWhere_of_count_eq_zero (t : Table ρ) {p : ρ → Prop} [DecidablePred p] {f : ρ → ρ}
    {hf : ∀ r, key (f r) = key r} (h : t.count p = 0) : t.updateWhere p f hf = t := by
  obtain ⟨rows, nodup⟩ := t
  rw [count, List.countP_eq_zero] at h
  have hrows : (rows.map fun r => if p r then f r else r) = rows := by
    refine (List.map_congr_left fun r hr => ?_).trans (List.map_id rows)
    exact if_neg (by simpa using h r hr)
  simp only [updateWhere, hrows]

/-! ## Insertion -/

/-- Add a row whose key is unused. -/
def insert [DecidableEq κ] (t : Table ρ) (r : ρ) (h : t.get? (key r) = none) : Table ρ where
  rows := t.rows ++ [r]
  nodup := by
    rw [List.map_append, List.nodup_append]
    refine ⟨t.nodup, by simp, ?_⟩
    intro a ha b hb hab
    obtain ⟨r', hr', rfl⟩ := List.mem_map.mp ha
    rw [List.map_singleton, List.mem_singleton] at hb
    exact t.get?_eq_none_iff.mp h r' hr' (hab.trans hb)

lemma get?_insert [DecidableEq κ] (t : Table ρ) (r : ρ) (h : t.get? (key r) = none) (k : κ) :
    (t.insert r h).get? k = if k = key r then some r else t.get? k := by
  by_cases hk : k = key r
  · subst hk
    rw [if_pos rfl, get?_eq_some_iff]
    simp [insert]
  · rw [if_neg hk]
    simp [get?, insert, List.find?_append, Ne.symm hk]

lemma get?_insert_eq [DecidableEq κ] (t : Table ρ) (r : ρ) (h : t.get? (key r) = none) :
    (t.insert r h).get? = Function.update t.get? (key r) (some r) := by
  funext k
  rw [get?_insert, Function.update_apply]

@[simp] lemma rows_insert [DecidableEq κ] (t : Table ρ) (r : ρ) (h : t.get? (key r) = none) :
    (t.insert r h).rows = t.rows ++ [r] := rfl

/-- A key no row uses. -/
def freshKey {ρ : Type} [Keyed ρ ℕ] (t : Table ρ) : ℕ :=
  (t.rows.map key).foldr max 0 + 1

lemma key_lt_freshKey {ρ : Type} [Keyed ρ ℕ] (t : Table ρ) {r : ρ} (hr : r ∈ t.rows) :
    key r < t.freshKey := by
  have hle : ∀ l : List ℕ, ∀ n ∈ l, n ≤ l.foldr max 0 := by
    intro l
    induction l with
    | nil => simp
    | cons a l ih =>
        intro n hn
        rcases List.mem_cons.mp hn with rfl | hn
        · exact Nat.le_max_left _ _
        · exact (ih n hn).trans (Nat.le_max_right _ _)
  have hkey := hle _ _ (List.mem_map_of_mem (f := key) hr)
  rw [freshKey]
  omega

lemma get?_freshKey {ρ : Type} [Keyed ρ ℕ] (t : Table ρ) : t.get? t.freshKey = none := by
  apply t.get?_eq_none_iff.mpr
  intro r hr
  exact (t.key_lt_freshKey hr).ne

/-! ## Reading rows by a condition

A store that is asked for rows without an `ORDER BY` may return them in any order, and may
break ties of an `ORDER BY` as it likes.  The order is a rank the caller supplies. -/

/-- The first row meeting `p` in the order given by `rank`. -/
def findOne {β : Type} [LinearOrder β] (t : Table ρ) (rank : ρ → β) (p : ρ → Prop)
    [DecidablePred p] : Option ρ :=
  (t.rows.filter fun r => decide (p r)).argmin rank

lemma findOne_eq_none_iff {β : Type} [LinearOrder β] (t : Table ρ) (rank : ρ → β) (p : ρ → Prop)
    [DecidablePred p] : t.findOne rank p = none ↔ ∀ r ∈ t.rows, ¬ p r := by
  simp [findOne, List.argmin_eq_none, List.filter_eq_nil_iff]

lemma findOne_spec {β : Type} [LinearOrder β] {t : Table ρ} {rank : ρ → β} {p : ρ → Prop}
    [DecidablePred p] {r : ρ} (h : t.findOne rank p = some r) :
    r ∈ t.rows ∧ p r ∧ ∀ r' ∈ t.rows, p r' → rank r ≤ rank r' := by
  have hmem := List.argmin_mem (Option.mem_def.mpr h)
  rw [List.mem_filter] at hmem
  refine ⟨hmem.1, by simpa using hmem.2, fun r' hr' hp => ?_⟩
  exact List.le_of_mem_argmin (List.mem_filter.mpr ⟨hr', by simpa using hp⟩) (Option.mem_def.mpr h)

/-- A condition that only the row with key `k` can meet finds that row, in whatever order. -/
lemma findOne_of_key {β : Type} [LinearOrder β] [DecidableEq κ] (t : Table ρ) (rank : ρ → β)
    {p : ρ → Prop} [DecidablePred p] {k : κ} (hk : ∀ r, p r → key r = k) :
    t.findOne rank p = (t.get? k).filter fun r => decide (p r) := by
  cases hfound : t.findOne rank p with
  | none =>
      have hnone := (t.findOne_eq_none_iff rank p).mp hfound
      cases hr : t.get? k with
      | none => rfl
      | some r => simp [Option.filter, hnone r (mem_of_get? hr)]
  | some r =>
      obtain ⟨hmem, hr, -⟩ := findOne_spec hfound
      have hget : t.get? k = some r := t.get?_eq_some_iff.mpr ⟨hmem, hk r hr⟩
      simp [hget, Option.filter, hr]

end Table

end Framework
