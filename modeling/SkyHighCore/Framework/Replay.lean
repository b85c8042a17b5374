import Mathlib.Data.List.Chain
import Mathlib.Tactic.Lemma

/-!
# Logs that can be replayed

A log of rows, each of which names the state it was written in (`source`) and the state it was
written for (`target`), replays a variable if the rows form a chain from the variable's first value
to its current one.

`Move` says what one step of a program may do to the log and the variable: nothing, an assignment
with a row, or an assignment without one.  A row that names the first value is only written when
the variable has it.  Then a log that has once failed to replay the variable does so forever
(`Broken.move`), so that it replays the variable at the end of a run exactly when every move of
the run has been logged as it was.
-/

namespace Framework

namespace Replay

variable {ρ σ : Type} (source : ρ → Option σ) (target : ρ → σ) (start : σ)

/-- The state the log ends in. -/
def lastState (log : List ρ) : σ := (log.getLast?.map target).getD start

/-- Every row was written in the state for which the row before it was written. -/
structure Chained (log : List ρ) : Prop where
  first : ∀ r ∈ log.head?, source r = some start
  next : log.IsChain fun r r' => source r' = some (target r)

/-- The rows lead from the first state to the current one. -/
structure Replays (log : List ρ) (current : σ) : Prop where
  chained : Chained source target start log
  last : lastState target start log = current

/-- The log does not replay the variable, and will not do so again. -/
def Broken (log : List ρ) (current : σ) : Prop :=
  ¬ Chained source target start log ∨ (lastState target start log = start ∧ current ≠ start)

/-- What one step does to the log and the variable; `faithful` says whether the step is logged as it
was. -/
inductive Move (faithful : Prop) (log : List ρ) (current : σ) (log' : List ρ) (current' : σ) : Prop
  | still (hlog : log' = log) (hcurrent : current' = current) (hfaithful : faithful)
  | logged {r : ρ} (hlog : log' = log ++ [r]) (hcurrent : current' = target r)
      (hstart : source r = some start → current = start)
      (hiff : faithful ↔ source r = some current)
  | silent (hlog : log' = log) (hfrom : current = start) (hnew : current' ≠ start)
      (hfaithful : ¬ faithful)

variable {source target start} {log log' : List ρ} {current current' : σ} {faithful : Prop} {r : ρ}

@[simp] lemma lastState_nil : lastState target start [] = start := rfl

@[simp] lemma lastState_concat : lastState target start (log ++ [r]) = target r := by
  simp [lastState]

lemma chained_nil : Chained source target start [] := ⟨nofun, .nil⟩

lemma chained_concat_iff : Chained source target start (log ++ [r]) ↔
    Chained source target start log ∧ source r = some (lastState target start log) := by
  cases log using List.reverseRecOn with
  | nil =>
      constructor
      · exact fun h => ⟨chained_nil, h.first r rfl⟩
      · rintro ⟨-, hr⟩
        refine ⟨fun r' hr' => ?_, .singleton r⟩
        rw [← Option.some_inj.mp hr']
        exact hr
  | append_singleton log r₀ =>
      have hhead : (log ++ [r₀] ++ [r]).head? = (log ++ [r₀]).head? :=
        List.head?_append_of_ne_nil _ (by simp)
      have hnext : ((log ++ [r₀] ++ [r]).IsChain fun r r' => source r' = some (target r)) ↔
          ((log ++ [r₀]).IsChain fun r r' => source r' = some (target r)) ∧
            source r = some (target r₀) := by
        rw [List.isChain_append]
        simp
      rw [lastState_concat]
      constructor
      · exact fun h => ⟨⟨fun r' hr' => h.first r' (hhead ▸ hr'), (hnext.mp h.next).1⟩,
          (hnext.mp h.next).2⟩
      · exact fun h => ⟨fun r' hr' => h.1.first r' (hhead ▸ hr'), hnext.mpr ⟨h.1.next, h.2⟩⟩

lemma replays_nil : Replays source target start [] start := ⟨chained_nil, rfl⟩

/-- A move that is logged as it was keeps the log replaying. -/
theorem Replays.move (h : Replays source target start log current)
    (hmove : Move source target start faithful log current log' current') (hfaithful : faithful) :
    Replays source target start log' current' := by
  cases hmove with
  | still hlog hcurrent _ =>
      rw [hlog, hcurrent]
      exact h
  | logged hlog hcurrent _ hiff =>
      rw [hlog, hcurrent]
      refine ⟨chained_concat_iff.mpr ⟨h.chained, ?_⟩, lastState_concat⟩
      rw [h.last]
      exact hiff.mp hfaithful
  | silent _ _ _ hnot => exact absurd hfaithful hnot

/-- A move that is not logged as it was breaks the log. -/
theorem Replays.broken (h : Replays source target start log current)
    (hmove : Move source target start faithful log current log' current')
    (hfaithful : ¬ faithful) : Broken source target start log' current' := by
  cases hmove with
  | still _ _ hyes => exact absurd hyes hfaithful
  | logged hlog _ _ hiff =>
      rw [hlog]
      refine .inl fun hchained => hfaithful (hiff.mpr ?_)
      rw [← h.last]
      exact (chained_concat_iff.mp hchained).2
  | silent hlog hfrom hnew _ =>
      rw [hlog]
      exact .inr ⟨h.last.trans hfrom, hnew⟩

/-- A broken log stays broken. -/
theorem Broken.move (h : Broken source target start log current)
    (hmove : Move source target start faithful log current log' current') :
    Broken source target start log' current' := by
  cases hmove with
  | still hlog hcurrent _ =>
      rw [hlog, hcurrent]
      exact h
  | logged hlog _ hstart _ =>
      rw [hlog]
      refine .inl fun hchained => ?_
      obtain ⟨hlog, hr⟩ := chained_concat_iff.mp hchained
      rcases h with hnot | ⟨hlast, hcurrent⟩
      · exact hnot hlog
      · -- the row would have to name the first state, which the variable does not have
        rw [hlast] at hr
        exact hcurrent (hstart hr)
  | silent hlog hfrom _ _ =>
      rw [hlog]
      exact h.imp_right fun hlast => absurd hfrom hlast.2

lemma Broken.not_replays (h : Broken source target start log current) :
    ¬ Replays source target start log current := by
  intro hreplays
  rcases h with hnot | ⟨hlast, hcurrent⟩
  · exact hnot hreplays.chained
  · exact hcurrent (hreplays.last.symm.trans hlast)

end Replay

end Framework
