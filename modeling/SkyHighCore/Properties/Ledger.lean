import SkyHighCore.Construction.World

/-!
# The payment ledger

Who has been charged for what, with everything else stripped away: the charges that the Payment
Service has taken for each check-in, the transaction id that each check-in stores, and the charge
that each call in flight has been told of and has not stored yet.

A `Ledger` is written in two ways: a request is answered (`posted`), or a completion is attempted
(`settled`).  Both are `Safe` or not in the ledger they start from.  Safe entries keep the ledger
`Balanced` (every charge is stored, or owed by exactly one call), an unsafe one makes a balanced
ledger `Broken`, and a broken ledger is never repaired.  Once nothing is owed, balanced and broken
are `Agrees` and its negation.
-/

namespace SkyHighCore

/-- Charges taken, transaction ids stored, and what the calls in flight owe. -/
structure Ledger where
  charges : CheckInId → List (Option String)
  stored : CheckInId → Option String
  owed : ℕ → Option (CheckInId × Option String)

namespace Ledger

/-! ## Entries -/

/-- The `k`-th call learns the outcome of a payment request for check-in `i`. -/
def posted (L : Ledger) (k : ℕ) (i : CheckInId) (outcome : PaymentOutcome) : Ledger where
  charges := Function.update L.charges i (L.charges i ++ outcome.charge.toList)
  stored := L.stored
  owed := Function.update L.owed k (outcome.confirmedId.map (i, ·))

/-- The `k`-th call attempts to complete check-in `i` with a transaction id. -/
def settled (L : Ledger) (k : ℕ) (i : CheckInId) (paymentId : Option String) (commits : Bool) :
    Ledger where
  charges := L.charges
  stored := if commits then Function.update L.stored i paymentId else L.stored
  owed := Function.update L.owed k none

/-- A request that takes a charge takes the first one, and its response arrives. -/
def SafePost (L : Ledger) (i : CheckInId) (outcome : PaymentOutcome) : Prop :=
  outcome.charge ≠ none → (∀ transactionId, outcome ≠ .lost transactionId) ∧ L.charges i = []

/-- A completion that brings a transaction id commits; one that brings none does not overwrite
any. -/
def SafeSettlement (L : Ledger) (i : CheckInId) (paymentId : Option String) (commits : Bool) :
    Prop :=
  match paymentId with
  | some _ => commits = true
  | none => commits = true → L.stored i = none

/-- The completion is the one the call owes, or the call owes none and brings no id. -/
def Owes (L : Ledger) (k : ℕ) (i : CheckInId) (paymentId : Option String) : Prop :=
  (L.owed k = none ∧ paymentId = none) ∨ L.owed k = some (i, paymentId)

/-! ## Balance -/

/-- No call in flight owes a completion of check-in `i`. -/
def Clear (L : Ledger) (i : CheckInId) : Prop := ∀ k x, L.owed k ≠ some (i, x)

/-- The three ways in which the charges of check-in `i` are accounted for. -/
inductive Balance (L : Ledger) (i : CheckInId) : Prop
  | uncharged (hcharges : L.charges i = []) (hstored : L.stored i = none) (hclear : L.Clear i)
  | stored {transactionId : String} (hcharges : L.charges i = [some transactionId])
      (hstored : L.stored i = some transactionId) (hclear : L.Clear i)
  | owed {transactionId : String} {k : ℕ} (hcharges : L.charges i = [some transactionId])
      (hstored : L.stored i = none) (howed : L.owed k = some (i, some transactionId))
      (honly : ∀ k' x, L.owed k' = some (i, x) → k' = k)

def Balanced (L : Ledger) : Prop := ∀ i, L.Balance i

/-- A check-in has been charged twice, or charged once with nobody left to store it. -/
def Broken (L : Ledger) : Prop :=
  ∃ i, 2 ≤ (L.charges i).length ∨ (L.charges i ≠ [] ∧ L.stored i = none ∧ L.Clear i)

/-- **Every check-in has been charged not at all, or once under the id that it stores.** -/
def Agrees (L : Ledger) : Prop :=
  ∀ i, L.charges i = [] ∨
    ∃ transactionId, L.charges i = [some transactionId] ∧ L.stored i = some transactionId

variable {L : Ledger} {k : ℕ} {i : CheckInId} {outcome : PaymentOutcome}
  {paymentId : Option String} {commits : Bool}

lemma Balanced.agrees (h : L.Balanced) (hclear : ∀ i, L.Clear i) : L.Agrees := by
  intro i
  cases h i with
  | uncharged hcharges _ _ => exact .inl hcharges
  | stored hcharges hstored _ => exact .inr ⟨_, hcharges, hstored⟩
  | owed _ _ howed _ => exact absurd howed (hclear i _ _)

lemma Broken.not_agrees (h : L.Broken) : ¬ L.Agrees := by
  intro hagrees
  obtain ⟨i, htwo | ⟨hne, hnone, -⟩⟩ := h
  · rcases hagrees i with hnil | ⟨_, hone, -⟩
    · simp [hnil] at htwo
    · simp [hone] at htwo
  · rcases hagrees i with hnil | ⟨_, -, hstored⟩
    · exact hne hnil
    · simp [hnone] at hstored

/-! ## A charge and its response -/

lemma charge_of_confirmedId {x : Option String} (h : outcome.confirmedId = some x) :
    outcome.charge = some x := by
  cases outcome with
  | response body => exact h
  | lost _ | unreachable _ => cases h

lemma confirmedId_of_charge {x : Option String} (h : outcome.charge = some x)
    (hlost : ∀ transactionId, outcome ≠ .lost transactionId) : outcome.confirmedId = some x := by
  cases outcome with
  | response body => exact h
  | lost transactionId => exact absurd rfl (hlost transactionId)
  | unreachable _ => cases h

lemma confirmedId_of_uncharged (h : outcome.charge = none) : outcome.confirmedId = none := by
  by_contra hne
  obtain ⟨x, hx⟩ := Option.ne_none_iff_exists'.mp hne
  rw [charge_of_confirmedId hx] at h
  cases h

/-! ## Who owes what after an entry -/

lemma owed_posted_iff {k' : ℕ} {j : CheckInId} {x : Option String} :
    (L.posted k i outcome).owed k' = some (j, x) ↔
      (k' = k ∧ i = j ∧ outcome.confirmedId = some x) ∨ (k' ≠ k ∧ L.owed k' = some (j, x)) := by
  by_cases hk : k' = k
  · subst hk
    simp [posted, and_comm]
  · simp [posted, hk]

lemma owed_settled_iff {k' : ℕ} {j : CheckInId} {x : Option String} :
    (L.settled k i paymentId commits).owed k' = some (j, x) ↔ k' ≠ k ∧ L.owed k' = some (j, x) := by
  by_cases hk : k' = k
  · subst hk
    simp [settled]
  · simp [settled, hk]

lemma Clear.posted {j : CheckInId} (h : L.Clear j) (hj : j = i → outcome.confirmedId = none) :
    (L.posted k i outcome).Clear j := by
  intro k' x hk'
  rcases owed_posted_iff.mp hk' with ⟨-, rfl, hid⟩ | ⟨-, howed⟩
  · simp [hj rfl] at hid
  · exact h k' x howed

lemma Clear.settled {j : CheckInId} (h : L.Clear j) : (L.settled k i paymentId commits).Clear j :=
  fun k' x hk' => h k' x (owed_settled_iff.mp hk').2

/-- A call that has nothing to complete for check-in `j` leaves its balance alone. -/
lemma Balance.settled_of_ne {j : CheckInId} (h : L.Balance j)
    (hk : ∀ x, L.owed k ≠ some (j, x)) (hstored : commits = true → j = i → paymentId = L.stored j) :
    (L.settled k i paymentId commits).Balance j := by
  have hkeeps : (L.settled k i paymentId commits).stored j = L.stored j := by
    cases commits with
    | false => rfl
    | true =>
        by_cases hj : j = i
        · subst hj
          simp [settled, hstored rfl rfl]
        · simp [settled, hj]
  cases h with
  | uncharged hnil hnone hclear => exact .uncharged hnil (hkeeps.trans hnone) hclear.settled
  | stored hone hid hclear => exact .stored hone (hkeeps.trans hid) hclear.settled
  | @owed transactionId k₀ hone hnone howed honly =>
      have hne : k₀ ≠ k := by
        rintro rfl
        exact hk _ howed
      exact .owed hone (hkeeps.trans hnone) (owed_settled_iff.mpr ⟨hne, howed⟩)
        fun k' x hk' => honly k' x (owed_settled_iff.mp hk').2

/-- A request that takes no charge, or one for another check-in, leaves the balance alone. -/
lemma Balance.posted_of_uncharged {j : CheckInId} (h : L.Balance j) (hk : L.owed k = none)
    (hj : j = i → outcome.charge = none) : (L.posted k i outcome).Balance j := by
  have hcharges : (L.posted k i outcome).charges j = L.charges j := by
    by_cases hji : j = i
    · subst hji
      simp [posted, hj rfl]
    · simp [posted, hji]
  have hid : j = i → outcome.confirmedId = none := fun hji => confirmedId_of_uncharged (hj hji)
  cases h with
  | uncharged hnil hnone hclear => exact .uncharged (hcharges.trans hnil) hnone (hclear.posted hid)
  | stored hone hstored hclear => exact .stored (hcharges.trans hone) hstored (hclear.posted hid)
  | @owed transactionId k₀ hone hnone howed honly =>
      have hne : k₀ ≠ k := by
        rintro rfl
        simp [hk] at howed
      refine .owed (hcharges.trans hone) hnone (owed_posted_iff.mpr (.inr ⟨hne, howed⟩)) ?_
      intro k' x hk'
      rcases owed_posted_iff.mp hk' with ⟨-, hij, hx⟩ | ⟨-, howed'⟩
      · simp [hid hij.symm] at hx
      · exact honly k' x howed'

/-! ## Safe entries -/

/-- A safe request keeps the balance; a confirmed response carries a transaction id. -/
theorem Balanced.posted (h : L.Balanced) (hk : L.owed k = none) (hsafe : L.SafePost i outcome)
    (hconfirmed : outcome.confirmedId ≠ some none) : (L.posted k i outcome).Balanced := by
  intro j
  by_cases hj : j = i → outcome.charge = none
  · exact (h j).posted_of_uncharged hk hj
  · obtain ⟨rfl, hcharge⟩ := Classical.not_imp.mp hj
    obtain ⟨hlost, hnil⟩ := hsafe hcharge
    obtain ⟨x, hx⟩ := Option.ne_none_iff_exists'.mp hcharge
    have hid := confirmedId_of_charge hx hlost
    obtain ⟨transactionId, rfl⟩ : ∃ transactionId, x = some transactionId := by
      cases x with
      | none => exact absurd hid hconfirmed
      | some transactionId => exact ⟨transactionId, rfl⟩
    cases h j with
    | uncharged _ hnone hclear =>
        refine .owed (k := k) ?_ hnone (owed_posted_iff.mpr (.inl ⟨rfl, rfl, hid⟩)) ?_
        · simp [Ledger.posted, hnil, hx]
        · intro k' y hk'
          rcases owed_posted_iff.mp hk' with ⟨rfl, -⟩ | ⟨-, howed⟩
          · rfl
          · exact absurd howed (hclear k' y)
    | stored hone _ _ | owed hone _ _ _ => simp [hnil] at hone

/-- A safe completion keeps the balance. -/
theorem Balanced.settled (h : L.Balanced) (hk : L.Owes k i paymentId)
    (hsafe : L.SafeSettlement i paymentId commits) :
    (L.settled k i paymentId commits).Balanced := by
  intro j
  rcases hk with ⟨hnone, rfl⟩ | howed
  · refine (h j).settled_of_ne (fun x => by simp [hnone]) fun hcommits hj => ?_
    subst hj
    exact (hsafe hcommits).symm
  · by_cases hj : j = i
    · subst hj
      cases h j with
      | uncharged _ _ hclear | stored _ _ hclear => exact absurd howed (hclear k _)
      | @owed transactionId k₀ hone hstored howed₀ honly =>
          obtain rfl := honly k _ howed
          obtain rfl : paymentId = some transactionId := by
            simpa using Option.some_inj.mp (howed.symm.trans howed₀)
          have hcommits : commits = true := hsafe
          refine .stored hone (by simp [Ledger.settled, hcommits]) fun k' x hk' => ?_
          obtain ⟨hne, howed'⟩ := owed_settled_iff.mp hk'
          exact hne (honly k' x howed')
    · refine (h j).settled_of_ne (fun x hx => hj ?_) fun _ hji => absurd hji hj
      exact (congrArg Prod.fst (Option.some_inj.mp (howed.symm.trans hx))).symm

/-! ## Unsafe entries -/

lemma length_charges_posted {j : CheckInId} :
    (L.charges j).length ≤ ((L.posted k i outcome).charges j).length := by
  by_cases hj : j = i
  · subst hj
    simp [posted]
  · simp [posted, hj]

/-- An unsafe request breaks the ledger. -/
theorem Balanced.broken_posted (h : L.Balanced) (hrisky : ¬ L.SafePost i outcome) :
    (L.posted k i outcome).Broken := by
  obtain ⟨hcharge, hnot⟩ := Classical.not_imp.mp hrisky
  obtain ⟨x, hx⟩ := Option.ne_none_iff_exists'.mp hcharge
  have hcharges : (L.posted k i outcome).charges i = L.charges i ++ [x] := by
    simp [Ledger.posted, hx]
  by_cases hnil : L.charges i = []
  · -- the response is lost: nobody will ever store the charge
    have hlost : outcome.confirmedId = none := by
      by_contra hne
      refine hnot ⟨fun transactionId hout => hne ?_, hnil⟩
      rw [hout]
      rfl
    cases h i with
    | uncharged _ hnone hclear =>
        exact ⟨i, .inr ⟨by simp [hcharges], hnone, hclear.posted fun _ => hlost⟩⟩
    | stored hone _ _ | owed hone _ _ _ => simp [hnil] at hone
  · have hpos := List.length_pos_iff.mpr hnil
    refine ⟨i, .inl ?_⟩
    rw [hcharges, List.length_append, List.length_singleton]
    omega

/-- An unsafe completion breaks the ledger. -/
theorem Balanced.broken_settled (h : L.Balanced) (hk : L.Owes k i paymentId)
    (hrisky : ¬ L.SafeSettlement i paymentId commits) :
    (L.settled k i paymentId commits).Broken := by
  cases paymentId with
  | none =>
      obtain ⟨hcommits, hstored⟩ : commits = true ∧ L.stored i ≠ none := Classical.not_imp.mp hrisky
      cases h i with
      | uncharged _ hnone _ | owed _ hnone _ _ => exact absurd hnone hstored
      | stored hone _ hclear =>
          refine ⟨i, .inr ⟨?_, by simp [Ledger.settled, hcommits], hclear.settled⟩⟩
          show L.charges i ≠ []
          simp [hone]
  | some transactionId =>
      have hfails : commits = false := by simpa [SafeSettlement] using hrisky
      have howed : L.owed k = some (i, some transactionId) := by simpa [Owes] using hk
      cases h i with
      | uncharged _ _ hclear | stored _ _ hclear => exact absurd howed (hclear k _)
      | owed hone hnone _ honly =>
          refine ⟨i, .inr ⟨?_, by simp [Ledger.settled, hfails, hnone], fun k' x hk' => ?_⟩⟩
          · show L.charges i ≠ []
            simp [hone]
          · obtain ⟨hne, howed'⟩ := owed_settled_iff.mp hk'
            exact hne ((honly k' x howed').trans (honly k _ howed).symm)

/-! ## A broken ledger stays broken -/

theorem Broken.posted (h : L.Broken) : (L.posted k i outcome).Broken := by
  obtain ⟨j, htwo | ⟨hne, hnone, hclear⟩⟩ := h
  · exact ⟨j, .inl (htwo.trans length_charges_posted)⟩
  · by_cases hj : j = i → outcome.charge = none
    · refine ⟨j, .inr ⟨fun hnil => hne ?_, hnone, ?_⟩⟩
      · have hle : (L.charges j).length ≤ ((L.posted k i outcome).charges j).length :=
          length_charges_posted
        rw [hnil] at hle
        exact List.length_eq_zero_iff.mp (Nat.le_zero.mp hle)
      · exact hclear.posted fun hji => confirmedId_of_uncharged (hj hji)
    · obtain ⟨rfl, hcharge⟩ := Classical.not_imp.mp hj
      obtain ⟨x, hx⟩ := Option.ne_none_iff_exists'.mp hcharge
      have hpos := List.length_pos_iff.mpr hne
      refine ⟨j, .inl ?_⟩
      simp only [Ledger.posted, Function.update_self, hx, Option.toList_some, List.length_append,
        List.length_singleton]
      omega

theorem Broken.settled (h : L.Broken) (hk : L.Owes k i paymentId) :
    (L.settled k i paymentId commits).Broken := by
  obtain ⟨j, htwo | ⟨hne, hnone, hclear⟩⟩ := h
  · exact ⟨j, .inl htwo⟩
  · refine ⟨j, .inr ⟨hne, ?_, hclear.settled⟩⟩
    cases commits with
    | false => exact hnone
    | true =>
        by_cases hj : j = i
        · subst hj
          have hid : paymentId = none := (hk.resolve_right (hclear k _)).2
          simp [Ledger.settled, hid]
        · simp [Ledger.settled, hj, hnone]

end Ledger

end SkyHighCore
