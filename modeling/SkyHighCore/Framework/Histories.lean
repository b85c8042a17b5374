import SkyHighCore.Framework.Pool

/-!
# Histories

A run is a list of transitions, and statements about the order of its steps speak of positions in
that list.  `Run.at_index` cuts a run at a position.  `Run.traced` carries a predicate along that
connects what is left of a call with the history so far, and `Run.last_write` explains the value of
a cell of the shared state by the last step that wrote it.
-/

namespace Framework

/-- A list around its `n`-th element. -/
lemma split_of_getElem? {α : Type} {l : List α} {n : ℕ} {a : α} (h : l[n]? = some a) :
    l = l.take n ++ a :: l.drop (n + 1) := by
  obtain ⟨hn, rfl⟩ := List.getElem?_eq_some_iff.mp h
  rw [← List.drop_eq_getElem_cons hn, List.take_append_drop]

/-- The element at a position of a list with one more element. -/
lemma getElem?_concat_cases {α : Type} {l : List α} {a b : α} {n : ℕ}
    (h : (l ++ [a])[n]? = some b) : l[n]? = some b ∨ n = l.length ∧ b = a := by
  rw [List.getElem?_append] at h
  split at h
  · exact .inl h
  · rename_i hge
    have hlt := (List.getElem?_eq_some_iff.mp h).1
    rw [List.length_singleton] at hlt
    have hn : n = l.length := by omega
    subst hn
    rw [Nat.sub_self] at h
    exact .inr ⟨rfl, (Option.some_inj.mp h).symm⟩

lemma getElem?_concat_of_some {α : Type} {l : List α} {b : α} {n : ℕ} (h : l[n]? = some b)
    (a : α) : (l ++ [a])[n]? = some b := by
  rw [List.getElem?_append_left (List.getElem?_eq_some_iff.mp h).1]
  exact h

lemma getElem?_of_take {α : Type} {l : List α} {b : α} {i n : ℕ}
    (h : (l.take n)[i]? = some b) : i < n ∧ l[i]? = some b := by
  have hlt := (List.getElem?_eq_some_iff.mp h).1
  rw [List.length_take] at hlt
  have hin : i < n := by omega
  exact ⟨hin, (List.getElem?_take_of_lt hin).symm.trans h⟩

namespace System

variable {Act : Type} {Res : Act → Type} {ε α σ Choice Env Call : Type}
variable {S : System Act Res ε α σ Choice Env Call} {c₀ c : Config Act Res ε α σ Call}
  {ts : List (Transition Act Res ε α σ Choice Env Call)}

/-- The run before and after its `n`-th step. -/
lemma Run.at_index {n : ℕ} {t : Transition Act Res ε α σ Choice Env Call} (h : S.Run c₀ ts c)
    (hn : ts[n]? = some t) : S.Run c₀ (ts.take n) t.pre ∧ S.step t.label t.pre = some t.post ∧
      S.Run t.post (ts.drop (n + 1)) c := by
  rw [split_of_getElem? hn] at h
  exact h.at_transition

/-- No call is forgotten. -/
lemma Run.length_threads_le (h : S.Run c₀ ts c) : c₀.threads.length ≤ c.threads.length := by
  refine h.invariant (fun c => c₀.threads.length ≤ c.threads.length) (Nat.le_refl _) ?_
  intro l c c' hle hstep
  have hcalls := congrArg List.length (step_calls hstep)
  simp only [Config.calls, List.length_append, List.length_map] at hcalls
  omega

/-- A call stays at its place, with what is left of it. -/
lemma Run.thread {k : ℕ} {call : Call} {q : Prog Act Res ε α} (h : S.Run c₀ ts c)
    (hk : c₀.threads[k]? = some ⟨call, q⟩) : ∃ q', c.threads[k]? = some ⟨call, q'⟩ := by
  refine h.invariant (fun c => ∃ q', c.threads[k]? = some ⟨call, q'⟩) ⟨q, hk⟩ ?_
  rintro l c c' ⟨q', hk⟩ hstep
  rcases S.step_cases hstep with ⟨call', rfl, rfl⟩ | ⟨e, rfl, rfl⟩ |
    ⟨i, ch, call', a, cont, rfl, hi, rfl⟩
  · exact ⟨q', getElem?_concat_of_some hk _⟩
  · exact ⟨q', hk⟩
  · by_cases hik : i = k
    · subst hik
      obtain ⟨rfl, -⟩ : call = call' ∧ q' = .act a cont := by
        simpa using Option.some_inj.mp (hk.symm.trans hi)
      exact ⟨_, List.getElem?_set_self (List.getElem?_eq_some_iff.mp hi).1⟩
    · exact ⟨q', (List.getElem?_set_ne hik).trans hk⟩

/-- The call that acts in a transition of a run is one of those that have been issued before, and
has not ended. -/
lemma Run.before_act {k : ℕ} {choice : Choice} {t : Transition Act Res ε α σ Choice Env Call}
    (h : S.Run c₀ ts c) (ht : t ∈ ts) (hl : t.label = .act k choice) :
    ∃ us th, S.Run c₀ us t.pre ∧ us ⊆ ts ∧ t.pre.threads[k]? = some th ∧
      th.prog.running = true ∧ t.pre.threads.length ≤ c.threads.length := by
  obtain ⟨us, vs, rfl, hpre, hstep, hpost⟩ := h.mem_split ht
  have hle := ((Run.single hstep).append hpost).length_threads_le
  rw [hl] at hstep
  rcases S.step_cases hstep with ⟨_, hl', -⟩ | ⟨_, hl', -⟩ | ⟨i, _, _, _, _, hl', hi, -⟩
  · cases hl'
  · cases hl'
  · cases hl'
    exact ⟨us, _, hpre, List.subset_append_left _ _, hi, rfl, hle⟩

/-- A call that has ended stays as it is. -/
lemma Run.ended_stays {i : ℕ} {th : Thread Act Res ε α Call} (h : S.Run c₀ ts c)
    (hi : c₀.threads[i]? = some th) (hdone : th.prog.running = false) :
    c.threads[i]? = some th := by
  refine h.invariant (fun c => c.threads[i]? = some th) hi ?_
  intro l c c' hth hstep
  rcases S.step_cases hstep with ⟨call, rfl, rfl⟩ | ⟨e, rfl, rfl⟩ |
    ⟨k, ch, call, a, cont, rfl, hk, rfl⟩
  · exact getElem?_concat_of_some hth _
  · exact hth
  · have hki : k ≠ i := by
      rintro rfl
      obtain rfl := Option.some_inj.mp (hth.symm.trans hk)
      cases hdone
    exact (List.getElem?_set_ne hki).trans hth

/-- **A call and its history.**  What holds of a call when it is issued, survives the steps of
others and is carried on by each of its own actions, holds of it throughout a run. -/
theorem Run.traced {s : σ} {call : Call}
    (H : List (Transition Act Res ε α σ Choice Env Call) → ℕ → Prog Act Res ε α → Prop)
    (hstart : ∀ ts k, H ts k (S.start call)) (hmono : ∀ ts t k q, H ts k q → H (ts ++ [t]) k q)
    (hact : ∀ ts k c ch a cont, S.Run (.init s) ts c →
      c.threads[k]? = some ⟨call, .act a cont⟩ → H ts k (.act a cont) →
      H (ts ++ [⟨c, .act k ch, ⟨(S.exec a ch c.state).2,
        c.threads.set k ⟨call, cont (S.exec a ch c.state).1⟩⟩⟩]) k (cont (S.exec a ch c.state).1))
    (h : S.Run (.init s) ts c) {k : ℕ} {q : Prog Act Res ε α}
    (hk : c.threads[k]? = some ⟨call, q⟩) : H ts k q := by
  induction h generalizing k q with
  | nil => simp [Config.init] at hk
  | @snoc ts c l c' hrun hstep ih =>
      rcases S.step_cases hstep with ⟨call', rfl, rfl⟩ | ⟨e, rfl, rfl⟩ |
        ⟨i, ch, call', a, cont, rfl, hi, rfl⟩
      · rcases getElem?_concat_cases hk with hk | ⟨-, heq⟩
        · exact hmono _ _ _ _ (ih hk)
        · cases heq
          exact hstart _ _
      · exact hmono _ _ _ _ (ih hk)
      · by_cases hik : i = k
        · subst hik
          rw [List.getElem?_set_self (List.getElem?_eq_some_iff.mp hi).1] at hk
          cases hk
          exact hact _ _ _ _ _ _ hrun hi (ih hi)
        · rw [List.getElem?_set_ne hik] at hk
          exact hmono _ _ _ _ (ih hk)

/-- **The last write.**  A cell that was empty at the start holds what the last step that wrote it
has put there. -/
theorem Run.last_write {β : Type} (cell : σ → Option β)
    (write : Transition Act Res ε α σ Choice Env Call → Option (Option β))
    (hwrite : ∀ l c c', S.step l c = some c' →
      cell c'.state = (write ⟨c, l, c'⟩).getD (cell c.state))
    (h : S.Run c₀ ts c) (h₀ : cell c₀.state = none) {v : β} (hv : cell c.state = some v) :
    ∃ n t, ts[n]? = some t ∧ write t = some (some v) ∧
      ∀ (m : ℕ) t', n < m → ts[m]? = some t' → write t' = none := by
  induction h with
  | nil => rw [h₀] at hv; cases hv
  | @snoc ts c l c' hrun hstep ih =>
      rw [hwrite l c c' hstep] at hv
      cases hlast : write ⟨c, l, c'⟩ with
      | some x =>
          rw [hlast, Option.getD_some] at hv
          refine ⟨ts.length, _, List.getElem?_concat_length, hlast.trans (congrArg some hv), ?_⟩
          intro m t' hm ht'
          have hlt := (List.getElem?_eq_some_iff.mp ht').1
          rw [List.length_append, List.length_singleton] at hlt
          omega
      | none =>
          rw [hlast, Option.getD_none] at hv
          obtain ⟨n, t, hn, ht, hlater⟩ := ih hv
          refine ⟨n, t, getElem?_concat_of_some hn _, ht, fun m t' hm ht' => ?_⟩
          rcases getElem?_concat_cases ht' with ht' | ⟨-, rfl⟩
          · exact hlater m t' hm ht'
          · exact hlast

end System

end Framework
