import Mathlib.Data.Finset.Card
import Mathlib.Tactic.Lemma

/-!
# Tickets for freed items

Whoever frees an item leaves a ticket, which asks for any item or for the one that has been freed.
Tickets are used in any order: each one takes a free item that it asks for, if there is one.  A
ticket for any item may take an item that another ticket names; the other ticket then finds nothing,
and the item that the first one was left for has no ticket any more.

`Step` describes tickets of which this is not true: one for any item takes a `loose` item, which no
unused ticket names.  Then there are always as many unused tickets for any item as there are loose
items (`Covered`), so that no item is free once all tickets have been used.
-/

namespace Framework

/-- The free items, and how many tickets of each kind have been issued and used: `none` asks for any
item, `some r` for item `r`. -/
structure Tickets (ρ : Type) where
  free : ρ → Prop
  issued : Option ρ → ℕ
  used : Option ρ → ℕ

namespace Tickets

variable {ρ : Type} [DecidableEq ρ]

/-- The item is free, and no unused ticket names it. -/
def Loose (T : Tickets ρ) (r : ρ) : Prop := T.free r ∧ T.issued (some r) ≤ T.used (some r)

/-- No more tickets have been used than issued. -/
def Sound (T : Tickets ρ) : Prop := ∀ u, T.used u ≤ T.issued u

/-- There are as many unused tickets for any item as there are loose items. -/
def Covered (T : Tickets ρ) : Prop :=
  ∀ S : Finset ρ, (∀ r ∈ S, T.Loose r) → S.card + T.used none ≤ T.issued none

/-- One more for `u`. -/
def plus (count : Option ρ → ℕ) (u v : Option ρ) : ℕ := count v + if u = v then 1 else 0

/-- What may happen to the items and their tickets; items may also be taken without a ticket. -/
inductive Step (T T' : Tickets ρ) : Prop
  /-- No item becomes free, and no ticket is issued or used. -/
  | still (hfree : ∀ r, T'.free r → T.free r) (hissued : T'.issued = T.issued)
      (hused : T'.used = T.used)
  /-- Item `r` becomes free, and a ticket is issued that asks for any item, or for `r`. -/
  | issue {u : Option ρ} {r : ρ} (hu : u = none ∨ u = some r)
      (hfree : ∀ r', T'.free r' → T.free r' ∨ r' = r) (hissued : T'.issued = plus T.issued u)
      (hused : T'.used = T.used)
  /-- A ticket is used that finds no item. -/
  | waste {u : Option ρ} (hnone : ∀ r, u = none ∨ u = some r → ¬ T'.free r)
      (hfree : ∀ r, T'.free r → T.free r) (hissued : T'.issued = T.issued)
      (hused : T'.used = plus T.used u)
  /-- A ticket takes item `r`, which is loose if the ticket asks for any item. -/
  | take {u : Option ρ} {r : ρ} (hu : u = some r ∨ (u = none ∧ T.Loose r)) (htaken : ¬ T'.free r)
      (hfree : ∀ r', T'.free r' → T.free r') (hissued : T'.issued = T.issued)
      (hused : T'.used = plus T.used u)

variable {T T' : Tickets ρ} {count : Option ρ → ℕ} {u : Option ρ} {r : ρ}

lemma plus_self : plus count u u = count u + 1 := by simp [plus]

lemma plus_none : plus count (some r) none = count none := by simp [plus]

lemma plus_some_of_ne (h : u ≠ some r) : plus count u (some r) = count (some r) := by simp [plus, h]

omit [DecidableEq ρ] in
/-- A loose item was loose before if it was free and its tickets are the same. -/
lemma Loose.of_eq (h : T'.Loose r) (hfree : T.free r)
    (hissued : T'.issued (some r) = T.issued (some r))
    (hused : T'.used (some r) = T.used (some r)) : T.Loose r := by
  refine ⟨hfree, ?_⟩
  rw [← hissued, ← hused]
  exact h.2

omit [DecidableEq ρ] in
lemma Covered.of_not_free (h : ∀ r, ¬ T.free r) (hused : T.used none ≤ T.issued none) :
    T.Covered := by
  intro S hS
  have hempty : S = ∅ := Finset.eq_empty_of_forall_notMem fun r hr => h r (hS r hr).1
  rw [hempty, Finset.card_empty, Nat.zero_add]
  exact hused

omit [DecidableEq ρ] in
/-- Nothing has become loose, and the tickets for any item are the same. -/
lemma Covered.of_loose (hcovered : T.Covered) (hloose : ∀ r, T'.Loose r → T.Loose r)
    (hissued : T'.issued none = T.issued none) (hused : T'.used none = T.used none) :
    T'.Covered := by
  intro S hS
  rw [hissued, hused]
  exact hcovered S fun r hr => hloose r (hS r hr)

/-- **The items stay covered.** -/
theorem Covered.step (hcovered : T.Covered) (hsound : T.Sound) (hsound' : T'.Sound)
    (h : T.Step T') : T'.Covered := by
  cases h with
  | still hfree hissued hused =>
      refine hcovered.of_loose (fun r hr => ?_) (by rw [hissued]) (by rw [hused])
      exact hr.of_eq (hfree r hr.1) (by rw [hissued]) (by rw [hused])
  | @issue u r hu hfree hissued hused =>
      rcases hu with rfl | rfl
      · -- all but `r` have been loose before
        intro S hS
        have hold : (S.erase r).card + T.used none ≤ T.issued none := by
          refine hcovered _ fun r' hr' => ?_
          obtain ⟨hne, hr'⟩ := Finset.mem_erase.mp hr'
          have hfree' := (hfree r' (hS r' hr').1).resolve_right hne
          have hsame : T'.issued (some r') = T.issued (some r') := by
            rw [hissued, plus_some_of_ne (Option.some_ne_none r').symm]
          exact (hS r' hr').of_eq hfree' hsame (by rw [hused])
        have hcard := Finset.pred_card_le_card_erase (s := S) (a := r)
        rw [hissued, hused, plus_self]
        omega
      · -- `r` is not loose, because its ticket has not been used
        have hne : ∀ r', T'.Loose r' → some r ≠ some r' := by
          intro r' hr' h
          obtain rfl := Option.some_inj.mp h
          have hle := hr'.2
          rw [hissued, hused, plus_self] at hle
          have hused' := hsound (some r)
          omega
        refine hcovered.of_loose (fun r' hr' => ?_) (by rw [hissued, plus_none]) (by rw [hused])
        have hfree' : T.free r' :=
          (hfree r' hr'.1).resolve_right fun h => hne r' hr' (congrArg some h.symm)
        exact hr'.of_eq hfree' (by rw [hissued, plus_some_of_ne (hne r' hr')]) (by rw [hused])
  | @waste u hnone hfree hissued hused =>
      cases u with
      | none => exact .of_not_free (fun r => hnone r (.inl rfl)) (hsound' none)
      | some r =>
          refine hcovered.of_loose (fun r' hr' => ?_) (by rw [hissued]) (by rw [hused, plus_none])
          have hne : some r ≠ some r' := fun h => hnone r' (.inr h) hr'.1
          exact hr'.of_eq (hfree r' hr'.1) (by rw [hissued]) (by rw [hused, plus_some_of_ne hne])
  | @take u r hu htaken hfree hissued hused =>
      rcases hu with rfl | ⟨rfl, hloose⟩
      · refine hcovered.of_loose (fun r' hr' => ?_) (by rw [hissued]) (by rw [hused, plus_none])
        have hne : some r ≠ some r' := fun h => htaken (Option.some_inj.mp h ▸ hr'.1)
        exact hr'.of_eq (hfree r' hr'.1) (by rw [hissued]) (by rw [hused, plus_some_of_ne hne])
      · -- `r` was loose too
        intro S hS
        have hold : (insert r S).card + T.used none ≤ T.issued none := by
          refine hcovered _ fun r' hr' => ?_
          rcases Finset.mem_insert.mp hr' with rfl | hr'
          · exact hloose
          · have hsame : T'.used (some r') = T.used (some r') := by
              rw [hused, plus_some_of_ne (Option.some_ne_none r').symm]
            exact (hS r' hr').of_eq (hfree r' (hS r' hr').1) (by rw [hissued]) hsame
        rw [Finset.card_insert_of_notMem fun hr => htaken (hS r hr).1] at hold
        rw [hissued, hused, plus_self]
        omega

omit [DecidableEq ρ] in
/-- **Once all tickets have been used, no item is free.** -/
theorem Covered.not_free (h : T.Covered) (hused : ∀ u, T.issued u ≤ T.used u) (r : ρ) :
    ¬ T.free r := by
  intro hr
  have hone : ∀ r' ∈ ({r} : Finset ρ), T.Loose r' := by
    intro r' hr'
    rw [Finset.mem_singleton.mp hr']
    exact ⟨hr, hused (some r)⟩
  have hcard := h {r} hone
  rw [Finset.card_singleton] at hcard
  have hnone := hused none
  omega

end Tickets

end Framework
