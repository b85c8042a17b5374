import SkyHighCore.Framework.Solo
import SkyHighCore.Properties.Runs

/-!
# Calls from their issue to their outcome

`System.Solo` at the calls of the services: time may pass between two actions of the call, and
nothing else happens.  What is known of the database therefore lasts, and a stretch of actions that
do not write to it keeps it.
-/

namespace SkyHighCore

open Framework

variable {cfg : Settings} {P : Choice → Prop} {α : Type} {w : World}

/-! ## Stretches without writes -/

/-- Time does not touch the database. -/
lemma lasting_db (db : Database) : (skyHigh cfg).Lasting fun w : World => w.db = db :=
  fun _ _ h => h

/-- A call has waited: of the data, nothing is different. -/
structure World.SameData (w w' : World) : Prop where
  db : w'.db = w.db
  events : w'.events = w.events
  now : w.now ≤ w'.now

lemma World.SameData.refl (w : World) : w.SameData w := ⟨rfl, rfl, le_rfl⟩

lemma World.lasting_sameData (w : World) : (skyHigh cfg).Lasting w.SameData :=
  fun e _ h => ⟨h.db, h.events, h.now.trans (Nat.le_add_right _ e)⟩

/-- A stretch without writes to the database. -/
lemma lone_spares {db : Database} {p : Program α} (hp : p.All fun a => a.sparesDatabase = true)
    (hw : w.db = db) : p.wp ((skyHigh cfg).lone P) (fun _ w' => w'.db = db) w := by
  refine System.wp_lone_keeps (F := fun w : World => w.db = db) (fun _ _ h => h) ?_ hp hw
  intro a ch w₁ ha _ hw₁
  exact (World.exec_sparesDatabase ha ch w₁).trans hw₁

/-! ## Actions without faults -/

namespace World

variable {ch : Choice} {β : Type}

lemma query_ok (hch : ch.fault = false) (x : β) : w.query ch x = (.ok x, w) := by
  simp [query, hch]

lemma redis_ok (hch : ch.fault = false) (x : β) (w' : World) : w.redis ch x w' = (.ok x, w') := by
  simp [redis, hch]

/-- A seat is found by its id. -/
lemma exec_findOneSeat_id (hch : ch.fault = false) (s : SeatId) :
    exec (.findOneSeat { id := some s }) ch w = (.ok (w.db.seats.get? s), w) := by
  have hmatches : ∀ seat : Seat, SeatWhere.Matches { id := some s } seat ↔ seat.id = s := by
    intro seat
    simp [SeatWhere.Matches]
  have hfound : w.db.seats.findOne (fun seat => ch.rank seat.id)
      (SeatWhere.Matches { id := some s }) = w.db.seats.get? s := by
    rw [Table.findOne_of_key (k := s) _ _ fun seat h => (hmatches seat).mp h]
    cases hseat : w.db.seats.get? s with
    | none => rfl
    | some seat =>
        have hid : seat.id = s := Table.key_of_get? hseat
        simp [Option.filter, hmatches, hid]
  simp only [exec]
  rw [hfound]
  exact query_ok hch _

lemma exec_acquireLock (hch : ch.fault = false) (resource : LockKey) :
    exec (.acquireLock resource) ch w = (.ok (), w) := by
  simp [exec, hch]

lemma exec_releaseLock (hch : ch.fault = false) (resource : LockKey) :
    exec (.releaseLock resource) ch w = (.ok (), w) := by
  simp [exec, hch]

end World

/-- The contract of a call that runs alone and without faults. -/
abbrev unhindered (cfg : Settings) : SkyContract World :=
  (skyHigh cfg).lone fun ch => ch.fault = false

section Steps

variable {β : Type} {a : Action} {k : a.Res → Program β} {Q : Except AppException β → World → Prop}
  {F : World → Prop}

/-- The rule for an action that succeeds whenever the environment keeps to `P`. -/
lemma loneFor_ok {P : Action → Choice → Prop} {R : a.Res → World → Prop}
    (hF : (skyHigh cfg).Lasting F) (hw : F w)
    (h : ∀ ch w₁, P a ch → F w₁ → ∃ x w₂, World.exec a ch w₁ = (.ok x, w₂) ∧ R x w₂)
    (hk : ∀ x w₂, R x w₂ → (k x).wp ((skyHigh cfg).loneFor P) Q w₂) :
    (act a >>= k).wp ((skyHigh cfg).loneFor P) Q w := by
  refine Prog.wp_bind (System.wp_loneFor hF hw fun ch w₁ r w₂ hch hw₁ he => ?_)
  obtain ⟨x, w₂', hok, hR⟩ := h ch w₁ hch hw₁
  obtain ⟨rfl, rfl⟩ := Prod.mk.inj (hok.symm.trans he)
  exact hk x w₂' hR

/-- The rule for an action that succeeds without faults. -/
lemma unhindered_ok {R : a.Res → World → Prop} (hF : (skyHigh cfg).Lasting F) (hw : F w)
    (h : ∀ ch w₁, ch.fault = false → F w₁ → ∃ x w₂, World.exec a ch w₁ = (.ok x, w₂) ∧ R x w₂)
    (hk : ∀ x w₂, R x w₂ → (k x).wp (unhindered cfg) Q w₂) :
    (act a >>= k).wp (unhindered cfg) Q w :=
  loneFor_ok (P := fun _ ch => ch.fault = false) hF hw h hk

/-- The rule for an action that throws. -/
lemma unhindered_error (hF : (skyHigh cfg).Lasting F) (hw : F w)
    (h : ∀ ch w₁, ch.fault = false → F w₁ →
      ∃ e w₂, World.exec a ch w₁ = (.error e, w₂) ∧ Q (.error e) w₂) :
    (act a >>= k).wp (unhindered cfg) Q w := by
  refine Prog.wp_bind (System.wp_lone hF hw fun ch w₁ r w₂ hch hw₁ he => ?_)
  obtain ⟨e, w₂', herr, hQ⟩ := h ch w₁ hch hw₁
  obtain ⟨rfl, rfl⟩ := Prod.mk.inj (herr.symm.trans he)
  exact hQ

end Steps

/-! ## Actions that may fail -/

/-- The action throws if the environment lets it fail. -/
def Action.fails : Action → Bool
  | .auditLog _ | .postPayment _ | .dateNow | .delay _ | .emit _ | .incSeatContention _ => false
  | _ => true

lemma World.exec_fault {a : Action} {ch : Choice} (ha : a.fails = true) (hch : ch.fault = true)
    (w : World) : ∃ e, World.exec a ch w = (.error e, w) := by
  cases a with
  | auditLog | postPayment | dateNow | delay | emit | incSeatContention => cases ha
  | _ => exact ⟨_, by simp only [exec, query, transaction, redis, hch, if_true]; rfl⟩

/-- The environment may let an action fail. -/
def Faulty (P : Choice → Prop) : Prop := ∃ ch, P ch ∧ ch.fault = true

/-- What is returned is as `Q` says, and nothing is thrown unless the environment may let an action
fail. -/
def Barring (P : Choice → Prop) (Q : α → World → Prop) : Except AppException α → World → Prop
  | .ok v, w => Q v w
  | .error _, _ => Faulty P

lemma Barring.ok_of_unhindered {Q : α → World → Prop} {r : Except AppException α}
    (h : Barring (fun ch => ch.fault = false) Q r w) : ∃ v, r = .ok v ∧ Q v w := by
  cases r with
  | ok v => exact ⟨v, rfl, h⟩
  | error e =>
      obtain ⟨ch, hno, hyes⟩ := h
      cases hno.symm.trans hyes

section Barring

variable {β : Type} {a : Action} {F : World → Prop} {Q : α → World → Prop}
  {R : a.Res → World → Prop}

/-- The rule for an action whose failures count as faults. -/
lemma barring_act (hF : (skyHigh cfg).Lasting F) (hw : F w)
    (h : ∀ ch w₁, (a.fails = true → ch.fault = false) → F w₁ →
      ∃ x w₂, World.exec a ch w₁ = (.ok x, w₂) ∧ R x w₂) :
    (act a).wp ((skyHigh cfg).lone P) (Barring P R) w := by
  refine System.wp_lone hF hw fun ch w₁ r w₂ hch hw₁ he => ?_
  by_cases hfault : a.fails = true ∧ ch.fault = true
  · obtain ⟨e, herr⟩ := World.exec_fault hfault.1 hfault.2 w₁
    obtain ⟨rfl, rfl⟩ := Prod.mk.inj (herr.symm.trans he)
    exact ⟨ch, hch, hfault.2⟩
  · have hno : a.fails = true → ch.fault = false := fun ha => by
      rw [← Bool.not_eq_true]
      exact fun hyes => hfault ⟨ha, hyes⟩
    obtain ⟨x, w₂', hok, hR⟩ := h ch w₁ hno hw₁
    obtain ⟨rfl, rfl⟩ := Prod.mk.inj (hok.symm.trans he)
    exact hR

lemma barring_bind {C : SkyContract World} {p : Program β} {k : β → Program α}
    {Q' : β → World → Prop} (hp : p.wp C (Barring P Q') w)
    (hk : ∀ v w', Q' v w' → (k v).wp C (Barring P Q) w') : (p >>= k).wp C (Barring P Q) w := by
  refine Prog.wp_bind (Prog.wp_mono (fun r w' hr => ?_) hp)
  cases r with
  | ok v => exact hk v w' hr
  | error e => exact hr

lemma barring_forEach {C : SkyContract World} {as : List β} {body : β → Program Unit}
    (hbody : ∀ b ∈ as, ∀ w, F w → (body b).wp C (Barring P fun _ => F) w) (hw : F w) :
    (Prog.forEach as body).wp C (Barring P fun _ => F) w := by
  induction as generalizing w with
  | nil => exact hw
  | cons b as ih =>
      refine barring_bind (hbody b List.mem_cons_self w hw) fun _ w₁ hw₁ => ?_
      exact ih (fun b' hb' => hbody b' (List.mem_cons_of_mem b hb')) hw₁

end Barring

/-! ## Complete calls -/

/-- Issued when no other call is in flight, and run alone without faults, the call comes to its end,
and always as `Q` says. -/
def Completes (cfg : Settings) (c : SkyConfig) (call : Call)
    (Q : Except AppException Reply → World → Prop) : Prop :=
  (∃ us r c', (skyHigh cfg).Solo c call us r c' ∧ ∀ t ∈ us, Faultless t) ∧
    ∀ us r c', (skyHigh cfg).Solo c call us r c' → (∀ t ∈ us, Faultless t) → Q r c'.state

lemma completes_of_wp {c : SkyConfig} {call : Call} {Q : Except AppException Reply → World → Prop}
    (hquiet : c.quiescent) (hQ : ∀ r, (skyHigh cfg).Lasting (Q r))
    (hwp : (call.program cfg).wp (unhindered cfg) Q c.state) : Completes cfg c call Q := by
  constructor
  · obtain ⟨us, r, c', hsolo, hlabels⟩ := System.exists_solo (skyHigh cfg) {} call hquiet
    refine ⟨us, r, c', hsolo, fun t ht i ch hl => ?_⟩
    cases (hlabels t ht).symm.trans hl
    rfl
  · exact fun us r c' hsolo hfaultless =>
      hsolo.outcome (fun t ht i ch hl => hfaultless t ht i ch hl) hQ hwp

/-- What a call completes with is possible. -/
lemma Completes.possible {c : SkyConfig} {call : Call}
    {Q Q' : Except AppException Reply → World → Prop} (h : Completes cfg c call Q)
    (h' : Completes cfg c call Q') : ∃ r w, Q r w ∧ Q' r w := by
  obtain ⟨us, r, c', hsolo, hfaultless⟩ := h.1
  exact ⟨r, c'.state, h.2 us r c' hsolo hfaultless, h'.2 us r c' hsolo hfaultless⟩

/-! ## Calls in a schedule -/

/-- The outcome of the `k`-th call, once it has ended. -/
def outcome? (c : SkyConfig) (k : ℕ) : Option (Except AppException Reply) :=
  match c.threads[k]? with
  | some ⟨_, .done r⟩ => some r
  | _ => none

lemma outcome?_eq_some {c : SkyConfig} {k : ℕ} {r : Except AppException Reply}
    (h : outcome? c k = some r) : ∃ call, c.threads[k]? = some ⟨call, .done r⟩ := by
  unfold outcome? at h
  split at h
  · rename_i call r' hk
    obtain rfl := Option.some_inj.mp h
    exact ⟨call, hk⟩
  · cases h

/-- A call that has an outcome has ended with it. -/
lemma ended_of_outcome? {c : SkyConfig} {k : ℕ} {call : Call} {r : Except AppException Reply}
    (hcall : c.calls[k]? = some call) (h : outcome? c k = some r) :
    c.threads[k]? = some ⟨call, .done r⟩ := by
  obtain ⟨call', hk⟩ := outcome?_eq_some h
  obtain ⟨q, hq⟩ := exists_thread hcall
  obtain rfl : call' = call := congrArg Thread.call (Option.some_inj.mp (hk.symm.trans hq))
  exact hk

/-- The value that a release has returned. -/
def released? : Except AppException Reply → Option Bool
  | .ok (.released b) => some b
  | _ => none

lemma released?_eq_some {r : Except AppException Reply} {b : Bool}
    (h : released? r = some b) : r = .ok (.released b) := by
  unfold released? at h
  split at h
  · rw [Option.some_inj.mp h]
  · cases h

/-- A call that is issued when all others have ended, and that a schedule brings to its end. -/
lemma solo_of_execute {c : SkyConfig} {call : Call} {schedule : List SkyLabel}
    {out : List SkyTransition × SkyConfig} {r : Except AppException Reply} (hended : ended c = true)
    (hout : (skyHigh {}).execute schedule { c with
      threads := c.threads ++ [⟨call, call.program {}⟩] } = some out)
    (hissued : out.1.flatMap (fun t => t.label.issued) = [])
    (hr : outcome? out.2 c.threads.length = some r) : (skyHigh {}).Solo c call out.1 r out.2 := by
  refine ⟨quiescent_of_ended hended, System.run_of_execute hout, closed_of_issued hissued, ?_⟩
  refine ended_of_outcome? ?_ hr
  rw [System.calls_of_execute hout, List.getElem?_append_left (by simp [Config.calls])]
  simp [Config.calls]

/-- A test that is passed by a schedule with a call after it, which runs alone. -/
lemma exists_solo_from (w : World) (before : List SkyLabel) (call : Call) (schedule : List SkyLabel)
    (test : List SkyTransition → SkyConfig → List SkyTransition → Except AppException Reply →
      SkyConfig → Bool)
    (h : (((skyHigh {}).execute before (.init w)).any fun out =>
      ended out.2 && ((skyHigh {}).execute schedule { out.2 with
        threads := out.2.threads ++ [⟨call, call.program {}⟩] }).any fun out' =>
          decide (out'.1.flatMap (fun t => t.label.issued) = []) &&
          (outcome? out'.2 out.2.threads.length).any fun r =>
            test out.1 out.2 out'.1 r out'.2) = true) :
    ∃ us c vs r c', (skyHigh {}).Run (.init w) us c ∧ (skyHigh {}).Solo c call vs r c' ∧
      test us c vs r c' = true := by
  obtain ⟨⟨us, c⟩, hout, h⟩ := (Option.any_eq_true _ _).mp h
  obtain ⟨hended, h⟩ := Bool.and_eq_true_iff.mp h
  obtain ⟨⟨vs, c'⟩, hout', h⟩ := (Option.any_eq_true _ _).mp h
  obtain ⟨hissued, h⟩ := Bool.and_eq_true_iff.mp h
  obtain ⟨r, hr, htest⟩ := (Option.any_eq_true _ _).mp h
  exact ⟨us, c, vs, r, c', System.run_of_execute hout,
    solo_of_execute hended hout' (of_decide_eq_true hissued) hr, htest⟩

end SkyHighCore
