import SkyHighCore.Framework.Histories
import SkyHighCore.Properties.Discipline

/-!
# Runs from seeded tables

What a transition of a run does, once the discipline of the calls is known: it commits one of
the five writes under the precondition of its action, or leaves the bookings alone
(`run_justified`).  `run_keeps` turns a step lemma about committed writes into an invariant of
whole runs, possibly under a condition on the state before each write.
-/

namespace SkyHighCore

open Framework

/-! ## Seeded tables -/

lemma World.Seeded.linked {w : World} (hw : w.Seeded) : w.db.bookings.Linked where
  seatOf i c hc := by simp [Database.bookings, hw.checkIns] at hc
  unique i c i' c' hc := by simp [Database.bookings, hw.checkIns] at hc
  holder s seat p hseat hp := by
    rw [(hw.seats seat (Table.mem_of_get? hseat)).2.1] at hp
    cases hp
  wellFormed s seat hseat := by
    obtain ⟨hst, hby, hat⟩ := hw.seats seat (Table.mem_of_get? hseat)
    constructor <;> simp [hst, hby, hat]

lemma World.Seeded.checkIn_eq_none {w : World} (hw : w.Seeded) (i : CheckInId) :
    w.db.bookings.checkIn i = none := by
  simp [Database.bookings, hw.checkIns]

lemma World.Seeded.seat_available {w : World} (hw : w.Seeded) {s : SeatId} {seat : Seat}
    (hseat : w.db.bookings.seat s = some seat) : seat.status = .available :=
  (hw.seats seat (Table.mem_of_get? hseat)).1

/-! ## A world to try things in -/

/-- Flight 10 with its only seat 100, and two passengers. -/
def oneSeatWorld : World where
  db := {
    passengers := [1, 2]
    flights := ⟨[⟨10, "A320", 86400000, .scheduled⟩], by decide⟩
    seats := ⟨[⟨100, 10, 1, "A", .available, none, none⟩], by decide⟩
    checkIns := Table.empty
    waitlist := Table.empty
    auditLog := [] }
  seatHolds := fun _ => none
  seatMapCache := fun _ => none
  now := 0
  payments := []
  events := []
  seatContentionTotal := fun _ => 0

lemma oneSeatWorld_seeded : oneSeatWorld.Seeded where
  seats := by decide
  checkIns := rfl
  waitlist := rfl
  auditLog := rfl
  seatHolds := fun _ => rfl
  payments := rfl
  events := rfl

/-- Flight 10 with its seats 100 and 101, and four passengers. -/
def twoSeatWorld : World :=
  { oneSeatWorld with db := { oneSeatWorld.db with
      passengers := [1, 2, 3, 4]
      seats := ⟨[⟨100, 10, 1, "A", .available, none, none⟩,
        ⟨101, 10, 1, "B", .available, none, none⟩], by decide⟩ } }

lemma twoSeatWorld_seeded : twoSeatWorld.Seeded := { oneSeatWorld_seeded with seats := by decide }

/-- The next `n` actions of the `i`-th call, under the default choices. -/
def proceed (i n : ℕ) : List SkyLabel := List.replicate n (.act i {})

/-- A test that a schedule of `oneSeatWorld` passes is passed by a run of the calls it issues. -/
lemma exists_run_calls (schedule : List SkyLabel) (test : List SkyTransition → SkyConfig → Bool)
    (h : (((skyHigh {}).execute schedule (.init oneSeatWorld)).any fun out =>
      test out.1 out.2) = true) :
    ∃ ts c, (skyHigh {}).Run (.init oneSeatWorld) ts c ∧
      c.calls = schedule.flatMap Label.issued ∧ test ts c = true := by
  obtain ⟨⟨ts, c⟩, hout, htest⟩ := (Option.any_eq_true _ _).mp h
  exact ⟨ts, c, System.run_of_execute hout, System.calls_of_execute hout, htest⟩

/-- A call is that of its thread. -/
lemma exists_thread {c : SkyConfig} {k : ℕ} {call : Call} (h : c.calls[k]? = some call) :
    ∃ q, c.threads[k]? = some ⟨call, q⟩ := by
  rw [Config.calls, List.getElem?_map, Option.map_eq_some_iff] at h
  obtain ⟨⟨call, q⟩, hk, rfl⟩ := h
  exact ⟨q, hk⟩

/-- A test that a schedule passes is passed by a run. -/
lemma exists_run_from (w : World) (schedule : List SkyLabel)
    (test : List SkyTransition → SkyConfig → Bool)
    (h : (((skyHigh {}).execute schedule (.init w)).any fun out => test out.1 out.2) = true) :
    ∃ ts c, (skyHigh {}).Run (.init w) ts c ∧ test ts c = true :=
  System.exists_run_of_execute test h

/-- A test that two schedules pass, one after the other, is passed by two runs. -/
lemma exists_runs (w : World) (before after : List SkyLabel)
    (test : SkyConfig → List SkyTransition → SkyConfig → Bool)
    (h : (((skyHigh {}).execute before (.init w)).any fun out =>
      ((skyHigh {}).execute after out.2).any fun out' => test out.2 out'.1 out'.2) = true) :
    ∃ us c ts c', (skyHigh {}).Run (.init w) us c ∧ (skyHigh {}).Run c ts c' ∧
      test c ts c' = true := by
  obtain ⟨⟨us, c⟩, hout, h⟩ := (Option.any_eq_true _ _).mp h
  obtain ⟨ts, c', hrun, htest⟩ := System.exists_run_of_execute (test c) h
  exact ⟨us, c, ts, c', System.run_of_execute hout, hrun, htest⟩

/-- A test that a schedule of `oneSeatWorld` passes is passed by a run. -/
lemma exists_run (schedule : List SkyLabel) (test : List SkyTransition → SkyConfig → Bool)
    (h : (((skyHigh {}).execute schedule (.init oneSeatWorld)).any fun out =>
      test out.1 out.2) = true) :
    ∃ ts c, (skyHigh {}).Run (.init oneSeatWorld) ts c ∧ test ts c = true :=
  exists_run_from oneSeatWorld schedule test h

/-- A test that a schedule passes after a call has been issued. -/
lemma exists_run_call (before : List SkyLabel) (call : Call) (schedule : List SkyLabel)
    (test : List SkyTransition → SkyConfig → List SkyTransition → SkyConfig → Bool)
    (h : (((skyHigh {}).execute before (.init oneSeatWorld)).any fun out =>
      ((skyHigh {}).execute schedule { out.2 with
        threads := out.2.threads ++ [⟨call, call.program {}⟩] }).any fun out' =>
          test out.1 out.2 out'.1 out'.2) = true) :
    ∃ us c c₁ vs c', (skyHigh {}).Run (.init oneSeatWorld) us c ∧
      (skyHigh {}).step (.invoke call) c = some c₁ ∧ (skyHigh {}).Run c₁ vs c' ∧
      test us c vs c' = true := by
  obtain ⟨⟨us, c⟩, hout, h⟩ := (Option.any_eq_true _ _).mp h
  obtain ⟨vs, c', hrun, htest⟩ := System.exists_run_of_execute (test us c) h
  exact ⟨us, c, _, vs, c', System.run_of_execute hout, rfl, hrun, htest⟩

/-- The body of a `PATCH` without a weight. -/
def omittedWeight : UpdateCheckInRequestDto := ⟨none, fun _ h => nomatch h⟩

/-- The body of a `PATCH` that declares a weight. -/
def declaring (kg : ℕ) : UpdateCheckInRequestDto :=
  ⟨some kg, fun _ h => Option.some_inj.mp h ▸ Nat.cast_nonneg kg⟩

/-- Passenger 1 takes the seat. -/
def start : List SkyLabel := [.invoke (.startCheckIn 1 ⟨10, 100⟩)] ++ proceed 0 10

/-- Passenger 1 starts and confirms. -/
def startThenConfirm : List SkyLabel :=
  start ++ [.invoke (.confirmCheckIn 1 1 (declaring 20))] ++ proceed 1 8

/-- The Payment Service answers a request with `confirmed`. -/
def confirmedBy (transactionId : String) : Choice :=
  { payment := .response ⟨some transactionId, "confirmed"⟩ }

/-- Passenger 1 starts, declares 30 kg and pays. -/
def startThenPay : List SkyLabel :=
  start ++ [.invoke (.confirmCheckIn 1 1 (declaring 30))] ++ proceed 1 5 ++
  [.act 1 (confirmedBy "txn_1")] ++ proceed 1 6

/-! ## Transitions -/

/-- The action whose write the transition commits, if it commits one. -/
def committed? (t : SkyTransition) : Option Action :=
  match t.label with
  | .act i ch =>
      match t.pre.threads[i]? with
      | some ⟨_, .act a _⟩ =>
          if a.committed (World.exec a ch t.pre.state).1 then some a else none
      | _ => none
  | _ => none

/-- A committed action is the next action of the call that the transition runs. -/
lemma next_of_committed? {t : SkyTransition} {a : Action} (h : committed? t = some a) :
    ∃ k ch call cont, t.label = .act k ch ∧ t.pre.threads[k]? = some ⟨call, .act a cont⟩ := by
  unfold committed? at h
  split at h
  · rename_i k ch hl
    split at h
    · rename_i call a' cont hk
      split at h
      · obtain rfl := Option.some_inj.mp h
        exact ⟨k, ch, call, cont, hl, hk⟩
      · cases h
    · cases h
  · cases h

/-- The call that executes an action in the transition without a fault, and the action. -/
def executed? (t : SkyTransition) : Option (ℕ × Action) :=
  match t.label with
  | .act k ch =>
      match t.pre.threads[k]? with
      | some ⟨_, .act a _⟩ => if ch.fault then none else some (k, a)
      | _ => none
  | _ => none

lemma executed?_eq_some {t : SkyTransition} {k : ℕ} {a : Action} (h : executed? t = some (k, a)) :
    ∃ ch call cont, t.label = .act k ch ∧ t.pre.threads[k]? = some ⟨call, .act a cont⟩ ∧
      ch.fault = false := by
  unfold executed? at h
  split at h
  · rename_i k' ch hl
    split at h
    · rename_i call a' cont hk
      split at h
      · cases h
      · rename_i hfault
        obtain ⟨rfl, rfl⟩ := Prod.mk.inj (Option.some_inj.mp h)
        exact ⟨ch, call, cont, hl, hk, Bool.eq_false_iff.mpr hfault⟩
    · cases h
  · cases h

lemma executed?_act_iff {c c' : SkyConfig} {k : ℕ} {ch : Choice} {call : Call} {a : Action}
    {cont : Except AppException a.Res → Program Reply}
    (hk : c.threads[k]? = some ⟨call, .act a cont⟩) {k' : ℕ} {a' : Action} :
    executed? ⟨c, .act k ch, c'⟩ = some (k', a') ↔ k' = k ∧ a' = a ∧ ch.fault = false := by
  simp only [executed?, hk]
  cases ch.fault <;> simp [eq_comm]

/-- A call that is not done can perform its next action. -/
lemma exists_step (cfg : Settings) {c : SkyConfig} {k : ℕ} {call : Call} {a : Action}
    {cont : Except AppException a.Res → Program Reply}
    (hk : c.threads[k]? = some ⟨call, .act a cont⟩) (ch : Choice) :
    ∃ c', (skyHigh cfg).step (.act k ch) c = some c' := by
  simp [System.step, hk]

/-- The environment does not let the action fail. -/
def Faultless (t : SkyTransition) : Prop := ∀ i ch, t.label = .act i ch → ch.fault = false

/-- A test for `Faultless`. -/
def faultless (t : SkyTransition) : Bool :=
  match t.label with
  | .act _ ch => !ch.fault
  | _ => true

lemma faultless_of_all {ts : List SkyTransition} (h : ts.all faultless = true) :
    ∀ t ∈ ts, Faultless t := by
  intro t ht i ch hl
  have hall := List.all_eq_true.mp h t ht
  rw [faultless, hl] at hall
  simpa using hall

/-- A test for `Sequential`. -/
def issuedAlone (t : SkyTransition) : Bool :=
  match t.label with
  | .invoke _ => t.pre.threads.all fun th => !th.prog.running
  | _ => true

lemma sequential_of_issuedAlone {ts : List SkyTransition} (h : ts.all issuedAlone = true) :
    Sequential ts := by
  intro t ht call hl th hth
  have hall := List.all_eq_true.mp h t ht
  rw [issuedAlone, hl] at hall
  simpa using List.all_eq_true.mp hall th hth

/-- A test for `Config.quiescent`. -/
def ended (c : SkyConfig) : Bool := c.threads.all fun th => !th.prog.running

lemma quiescent_of_ended {c : SkyConfig} (h : ended c = true) : c.quiescent := by
  intro th hth
  simpa using List.all_eq_true.mp h th hth

/-- The check-in that the transition completes, if it completes one. -/
def completion? (t : SkyTransition) : Option CheckIn :=
  match committed? t with
  | some (.complete checkIn _ _) => some checkIn
  | _ => none

lemma completion?_eq_some_iff {t : SkyTransition} {checkIn : CheckIn} :
    completion? t = some checkIn ↔
      ∃ weight paymentId, committed? t = some (.complete checkIn weight paymentId) := by
  unfold completion?
  split
  · rename_i d weight paymentId h
    simp [h]
  · rename_i h
    simp only [reduceCtorEq, false_iff, not_exists]
    exact fun weight paymentId => h checkIn weight paymentId

/-- What a transition of a disciplined run does. -/
inductive Effect (cfg : Settings) (t : SkyTransition) : Prop
  | quiet (hnone : committed? t = none) (hquiet : t.pre.state.db.Quiet t.post.state.db)
  | commit {a : Action} (hcommits : committed? t = some a) (hpre : a.Pre cfg t.pre.state)
      (hwrite : Commits t.pre.state.db.bookings a t.post.state.db.bookings)
      (hlogs : t.pre.state.db.Logs t.post.state.db a.trail)

/-- What is known of every transition of a run. -/
structure Justified (cfg : Settings) (t : SkyTransition) : Prop where
  linked : t.pre.state.db.bookings.Linked
  progress : t.pre.state.Progress t.post.state
  effect : Effect cfg t

variable {cfg : Settings} {w : World} {ts : List SkyTransition} {c : SkyConfig}

/-- The links hold after every run, and every performed action has met its precondition. -/
lemma run_disciplined (hw : w.Seeded) (h : (skyHigh cfg).Run (.init w) ts c) :
    c.state.db.bookings.Linked ∧ ∀ t ∈ ts, (discipline cfg).Guaranteed t := by
  obtain ⟨hsound, hguar⟩ := h.sound (P := discipline cfg) (Q := fun _ _ _ => True)
    (discipline_lawful cfg) (fun _ _ _ _ _ _ => trivial)
    (fun call w' _ => disciplined_program cfg call w')
    (fun _ _ a s r s' hinv ⟨ch, _, he⟩ hpre => exec_progress hinv hpre he) hw.linked
    (fun _ _ _ _ _ _ _ _ _ => trivial)
  exact ⟨hsound.inv, hguar⟩

/-- **The links between the tables hold in every reachable state.** -/
theorem run_linked (hw : w.Seeded) (h : (skyHigh cfg).Run (.init w) ts c) :
    c.state.db.bookings.Linked :=
  (run_disciplined hw h).1

/-- In every reachable state, the next action of every call meets its precondition. -/
lemma run_pre (hw : w.Seeded) (h : (skyHigh cfg).Run (.init w) ts c) {k : ℕ} {call : Call}
    {a : Action} {cont : Except AppException a.Res → Program Reply}
    (hk : c.threads[k]? = some ⟨call, .act a cont⟩) : a.Pre cfg c.state := by
  obtain ⟨c', hstep⟩ := exists_step cfg hk {}
  have hguar := (run_disciplined hw (h.snoc hstep)).2 _ (List.mem_append_right _ List.mem_cons_self)
  exact hguar k {} rfl call a cont hk

/-- A step all of whose actions meet their precondition is justified. -/
lemma justified_of_step {l : SkyLabel} {c c' : SkyConfig} (hlinked : c.state.db.bookings.Linked)
    (hguar : (discipline cfg).Guaranteed ⟨c, l, c'⟩) (hstep : (skyHigh cfg).step l c = some c') :
    Justified cfg ⟨c, l, c'⟩ := by
  rcases (skyHigh cfg).step_cases hstep with ⟨call, rfl, rfl⟩ | ⟨ms, rfl, rfl⟩ |
    ⟨i, ch, call, a, k, rfl, hi, rfl⟩
  · exact ⟨hlinked, .refl _, .quiet rfl (.refl _)⟩
  · exact ⟨hlinked, World.progress_tick ms _, .quiet rfl (.refl _)⟩
  · have hpre : a.Pre cfg c.state := hguar i ch rfl call a k hi
    have hexec : World.exec a ch c.state = (_, _) := (Prod.mk.eta).symm
    refine ⟨hlinked, exec_progress hlinked hpre hexec, ?_⟩
    rcases exec_commits hlinked hpre hexec with ⟨hc, hwrite, hlogs⟩ | ⟨hc, hquiet⟩
    · exact .commit (by simp [committed?, hi, hc]) hpre hwrite hlogs
    · exact .quiet (by simp [committed?, hi, hc]) hquiet

/-- **Every transition of a run is justified.** -/
theorem run_justified (hw : w.Seeded) (h : (skyHigh cfg).Run (.init w) ts c) :
    ∀ t ∈ ts, Justified cfg t := by
  intro t ht
  obtain ⟨us, vs, -, hpre, hstep, -⟩ := h.mem_split ht
  exact justified_of_step (run_linked hw hpre) ((run_disciplined hw h).2 t ht) hstep

lemma run_progress (hw : w.Seeded) (h : (skyHigh cfg).Run (.init w) ts c) {us : List SkyTransition}
    {c' : SkyConfig} (hrun : (skyHigh cfg).Run c us c') : c.state.Progress c'.state := by
  induction hrun with
  | nil => exact .refl _
  | @snoc us c₁ l c₂ hrun hstep ih =>
      have hjust : Justified cfg ⟨c₁, l, c₂⟩ :=
        run_justified hw ((h.append hrun).snoc hstep) _ (by simp)
      exact ih.trans hjust.progress

/-- A run forgets no payment request. -/
lemma run_payments (hw : w.Seeded) (h : (skyHigh cfg).Run (.init w) ts c) :
    ∀ t ∈ ts, t.post.state.payments ⊆ c.state.payments := by
  induction h with
  | nil => simp
  | @snoc ts c l c' hrun hstep ih =>
      have hlast : Justified cfg ⟨c, l, c'⟩ := run_justified hw (hrun.snoc hstep) _ (by simp)
      intro t ht
      rcases List.mem_append.mp ht with ht | ht
      · exact List.Subset.trans (ih t ht) hlast.progress.payments.subset
      · rw [List.mem_singleton.mp ht]
        exact List.Subset.refl _

/-- **Invariants of runs.**  What quiet progress keeps, and every committed write whose
transition meets `cond`, holds after a run all of whose transitions meet `cond`. -/
theorem run_keeps (P : World → Prop) (cond : SkyTransition → Prop) (hw : w.Seeded)
    (h : (skyHigh cfg).Run (.init w) ts c) (hcond : ∀ t ∈ ts, cond t) (hinit : P w)
    (hquiet : ∀ w w' : World, w.Progress w' → w'.db.bookings = w.db.bookings → P w → P w')
    (hwrite : ∀ t a, Justified cfg t → committed? t = some a → a.Pre cfg t.pre.state →
      Commits t.pre.state.db.bookings a t.post.state.db.bookings → cond t →
      P t.pre.state → P t.post.state) : P c.state := by
  induction h with
  | nil => exact hinit
  | @snoc ts c l c' hrun hstep ih =>
      have hjust : Justified cfg ⟨c, l, c'⟩ :=
        run_justified hw (.snoc hrun hstep) _ (by simp)
      have hP : P c.state := ih fun t ht => hcond t (by simp [ht])
      cases hjust.effect with
      | quiet _ hq => exact hquiet _ _ hjust.progress hq.1 hP
      | commit hc hpre hcommits _ =>
          exact hwrite _ _ hjust hc hpre hcommits (hcond _ (by simp)) hP

end SkyHighCore
