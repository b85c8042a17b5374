import SkyHighCore.Framework.Table

/-!
# Rows that are inserted together

One statement can insert many rows, each of which the store gives a key that no row has.  The new
rows come after the old ones and in the order of the statement, so that reading the table back
without the keys gives what was there and what was inserted (`map_keyed`).
-/

namespace Framework

namespace Table

variable {ρ α β : Type} [Keyed ρ ℕ]

/-- A row from each of `xs`, under the keys that come after those of the table. -/
def keyed (t : Table ρ) (mk : α → ℕ → ρ) (xs : List α) : List ρ :=
  (xs.zipIdx t.freshKey).map fun x => mk x.1 x.2

lemma map_keyed (t : Table ρ) {mk : α → ℕ → ρ} {read : ρ → β} {g : α → β}
    (h : ∀ x k, read (mk x k) = g x) (xs : List α) : (t.keyed mk xs).map read = xs.map g := by
  rw [keyed, List.map_map]
  calc (xs.zipIdx t.freshKey).map (read ∘ fun x => mk x.1 x.2)
      = (xs.zipIdx t.freshKey).map (g ∘ Prod.fst) :=
        List.map_congr_left fun x _ => h x.1 x.2
    _ = xs.map g := by rw [← List.map_map, List.zipIdx_map_fst]

lemma map_key_keyed (t : Table ρ) {mk : α → ℕ → ρ} (hmk : ∀ x k, key (mk x k) = k)
    (xs : List α) : (t.keyed mk xs).map key = List.range' t.freshKey xs.length := by
  rw [keyed, List.map_map]
  calc (xs.zipIdx t.freshKey).map (key ∘ fun x => mk x.1 x.2)
      = (xs.zipIdx t.freshKey).map Prod.snd := List.map_congr_left fun x _ => hmk x.1 x.2
    _ = List.range' t.freshKey xs.length := List.zipIdx_map_snd _ _

/-- Insert a row from each of `xs`. -/
def insertAll (t : Table ρ) (mk : α → ℕ → ρ) (hmk : ∀ x k, key (mk x k) = k) (xs : List α) :
    Table ρ where
  rows := t.rows ++ t.keyed mk xs
  nodup := by
    rw [List.map_append, map_key_keyed t hmk, List.nodup_append]
    refine ⟨t.nodup, List.nodup_range', ?_⟩
    intro k hk k' hk'
    obtain ⟨r, hr, rfl⟩ := List.mem_map.mp hk
    have hlt := t.key_lt_freshKey hr
    have hge := (List.mem_range'_1.mp hk').1
    omega

@[simp] lemma rows_insertAll (t : Table ρ) (mk : α → ℕ → ρ) (hmk : ∀ x k, key (mk x k) = k)
    (xs : List α) : (t.insertAll mk hmk xs).rows = t.rows ++ t.keyed mk xs := rfl

end Table

end Framework
