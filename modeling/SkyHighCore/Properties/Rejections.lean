import SkyHighCore.Properties.Alone
import SkyHighCore.Properties.AuditRows

/-!
# Rejected calls

A start, a confirmation without excess baggage and a cancellation write to the tables in one
transaction.  What fails before it leaves the tables as they were.  What fails after it, the hold
key, the cached map, the lock or the row that is read again, makes the call throw all the same,
and nothing takes the transaction back.

`Standing` follows a call that runs alone: it has not committed, it has and nothing has failed
since, or something has.
-/

namespace SkyHighCore

open Framework

/-! ## Where a call stands -/

inductive Standing where
  | fresh | committed | broken
  deriving DecidableEq

/-- The standing after an action of which it is known whether it commits, and whether it is made to
fail. -/
def Standing.next (commits fault : Bool) : Standing → Standing
  | .fresh => if commits then .committed else .fresh
  | .committed => if fault then .broken else .committed
  | .broken => .broken

/-- The standing after a transition. -/
def Standing.after (t : SkyTransition) (st : Standing) : Standing :=
  st.next (committed? t).isSome !faultless t

/-- The standing after a list of transitions. -/
def standingOf (ts : List SkyTransition) : Standing := ts.foldl (fun st t => st.after t) .fresh

/-- Some statement or command fails after a transaction of the list has committed. -/
def FailsAfterCommit (ts : List SkyTransition) : Prop :=
  ∃ us t vs, ts = us ++ t :: vs ∧ (∃ t' ∈ us, committed? t' ≠ none) ∧ ¬ Faultless t

lemma standingOf_concat (ts : List SkyTransition) (t : SkyTransition) :
    standingOf (ts ++ [t]) = (standingOf ts).after t := by
  simp [standingOf]

lemma faultless_iff {t : SkyTransition} : faultless t = true ↔ Faultless t := by
  unfold faultless Faultless
  cases t.label <;> simp

lemma standingOf_eq_fresh {ts : List SkyTransition} :
    standingOf ts = .fresh ↔ ∀ t ∈ ts, committed? t = none := by
  induction ts using List.reverseRecOn with
  | nil => simp [standingOf]
  | append_singleton ts t ih =>
      rw [standingOf_concat, List.forall_mem_append, List.forall_mem_singleton, ← ih]
      cases hst : standingOf ts <;> cases hc : committed? t <;>
        cases hf : faultless t <;> simp [Standing.after, Standing.next, hc, hf]

/-- The last transition decides, or one before it has. -/
lemma failsAfterCommit_concat {ts : List SkyTransition} {t : SkyTransition} :
    FailsAfterCommit (ts ++ [t]) ↔
      FailsAfterCommit ts ∨ standingOf ts ≠ .fresh ∧ ¬ Faultless t := by
  have hcommitted : standingOf ts ≠ .fresh ↔ ∃ t' ∈ ts, committed? t' ≠ none := by
    rw [Ne, standingOf_eq_fresh]
    push Not
    rfl
  rw [hcommitted]
  constructor
  · rintro ⟨us, t', vs, heq, hus, ht'⟩
    rcases List.eq_nil_or_concat vs with rfl | ⟨vs, t'', rfl⟩
    · obtain ⟨rfl, h⟩ := List.append_inj' heq rfl
      obtain rfl : t = t' := List.singleton_inj.mp h
      exact .inr ⟨hus, ht'⟩
    · have hinit : ts ++ [t] = (us ++ t' :: vs) ++ [t''] := by simpa using heq
      obtain ⟨rfl, -⟩ := List.append_inj' hinit rfl
      exact .inl ⟨us, t', vs, rfl, hus, ht'⟩
  · rintro (⟨us, t', vs, rfl, hus, ht'⟩ | ⟨hus, ht⟩)
    · exact ⟨us, t', vs ++ [t], by simp, hus, ht'⟩
    · exact ⟨ts, t, [], rfl, hus, ht⟩

lemma standingOf_eq_broken {ts : List SkyTransition} :
    standingOf ts = .broken ↔ FailsAfterCommit ts := by
  induction ts using List.reverseRecOn with
  | nil => simp [standingOf, FailsAfterCommit]
  | append_singleton ts t ih =>
      rw [standingOf_concat, failsAfterCommit_concat, ← ih, ← faultless_iff]
      cases hst : standingOf ts <;> cases hc : committed? t <;>
        cases hf : faultless t <;> simp [Standing.after, Standing.next, hc, hf]

/-! ## The contract -/

/-- Actions that do not write to the database. -/
abbrev Sparing {α : Type} (p : Program α) : Prop := p.All fun a => a.sparesDatabase = true

lemma Idle.sparing {α : Type} {p : Program α} (hp : Idle p) : Sparing p := by
  refine Prog.All.mono (fun a ha => ?_) hp
  cases a with
  | holdSeat | awaitPayment | complete | cancel | release | assign | saveWaitlist | insertWaitlist
  | auditLog => cases ha
  | _ => rfl

lemma Action.not_committed_of_spares {a : Action} (ha : a.sparesDatabase = true)
    (r : Except AppException a.Res) : a.committed r = false := by
  cases a with
  | holdSeat | awaitPayment | complete | cancel | release | assign => cases ha
  | _ => rfl

/-- A call that runs alone, and its standing. -/
def staged (cfg : Settings) : SkyContract (World × Standing) where
  exec a x r x' := ∃ ch, World.exec a ch x.1 = (r, x'.1) ∧
    x'.2 = x.2.next (a.committed r) ch.fault
  inv _ := True
  rely x x' := x'.2 = x.2 ∧ (unhindered cfg).rely x.1 x'.1
  guar _ _ _ _ := True

/-- The audit log has grown. -/
def Database.Grown (db db' : Database) : Prop := db.changes.length < db'.changes.length

/-- What the standing of a call says of the tables, and of its outcome. -/
def Standing.Shows {α : Type} (db : Database) (r : Except AppException α) (w : World) :
    Standing → Prop
  | .fresh => w.db = db
  | .committed => db.Grown w.db ∧ ∃ v, r = .ok v
  | .broken => db.Grown w.db

section Rules

variable {cfg : Settings} {α β : Type} {db : Database} {x : World × Standing} {w : World}

lemma unhindered_rely_db {w w' : World} (h : (unhindered cfg).rely w w') : w'.db = w.db :=
  System.Lasting.keeps (F := fun w' : World => w'.db = w.db) (fun _ _ h => h) _ _ _ h rfl

/-- Before the commit and after a failure the standing stays, whatever fails. -/
lemma wp_stays {p : Program α} (hp : Sparing p) {P : Database → Prop} {st : Standing}
    (hst : st ≠ .committed) (hx : x.2 = st ∧ P x.1.db) :
    p.wp (staged cfg) (fun _ x' => x'.2 = st ∧ P x'.1.db) x := by
  induction p generalizing x with
  | done r => exact hx
  | act a k ih =>
      rintro ⟨w₁, st₁⟩ ⟨hst₁, hrely⟩ - r ⟨w₂, st₂⟩ ⟨ch, he, hst₂⟩
      have hdb : w₂.db = x.1.db := by
        rw [← unhindered_rely_db hrely, ← World.exec_sparesDatabase hp.1 ch w₁, he]
      refine ⟨trivial, ih r (hp.2 r) ⟨?_, hdb ▸ hx.2⟩⟩
      rw [Action.not_committed_of_spares hp.1] at hst₂
      rw [hst₂, hst₁, hx.1]
      cases st with
      | committed => exact absurd rfl hst
      | _ => rfl

/-- After the commit a call without writes breaks, or returns what it would return without
faults. -/
lemma wp_proceeds {p : Program α} (hp : Sparing p)
    (hok : p.wp (unhindered cfg) (fun r _ => ∃ v, r = .ok v) w) (hgrown : db.Grown w.db) :
    p.wp (staged cfg) (fun r x' => x'.2 ≠ .fresh ∧ x'.2.Shows db r x'.1) (w, .committed) := by
  induction p generalizing w with
  | done r => exact ⟨by simp, hgrown, hok⟩
  | act a k ih =>
      rintro ⟨w₁, st₁⟩ ⟨hst₁, hrely⟩ - r ⟨w₂, st₂⟩ ⟨ch, he, hst₂⟩
      have hdb : w₂.db = w.db := by
        rw [← unhindered_rely_db hrely, ← World.exec_sparesDatabase hp.1 ch w₁, he]
      obtain rfl : st₁ = .committed := hst₁
      refine ⟨trivial, ?_⟩
      cases hch : ch.fault with
      | false =>
          obtain rfl : st₂ = .committed := by simpa [hch, Standing.next] using hst₂
          exact ih r (hp.2 r) (hok w₁ hrely trivial r w₂ ⟨ch, hch, he⟩).2 (hdb ▸ hgrown)
      | true =>
          obtain rfl : st₂ = .broken := by simpa [hch, Standing.next] using hst₂
          refine Prog.wp_mono (fun r x' hx' => ?_)
            (wp_stays (hp.2 r) (P := db.Grown) (by simp) ⟨rfl, hdb ▸ hgrown⟩)
          rw [hx'.1]
          exact ⟨by simp, hx'.2⟩

/-- What has not committed, or has failed since, may throw whatever follows. -/
lemma Standing.Shows.wp_recover {p : Program α} (hp : Sparing p) {e : AppException}
    (h : x.2.Shows db (.error e : Except AppException β) x.1) :
    p.wp (staged cfg) (fun r x' => x'.2.Shows db r x'.1) x := by
  obtain ⟨w, st⟩ := x
  cases st with
  | committed =>
      obtain ⟨-, v, hv⟩ := h
      cases hv
  | fresh =>
      refine Prog.wp_mono (fun r x' hx' => ?_)
        (wp_stays hp (P := fun db' => db' = db) (by simp) ⟨rfl, h⟩)
      rw [hx'.1]
      exact hx'.2
  | broken =>
      refine Prog.wp_mono (fun r x' hx' => ?_) (wp_stays hp (P := db.Grown) (by simp) ⟨rfl, h⟩)
      rw [hx'.1]
      exact hx'.2

/-- What follows in any case keeps what the standing shows. -/
lemma Standing.Shows.wp_finally {fin : Program Unit} (hfin : Sparing fin)
    (hok : ∀ w, fin.wp (unhindered cfg) (fun r _ => ∃ v, r = .ok v) w) {r : Except AppException α}
    (h : x.2.Shows db r x.1) :
    fin.wp (staged cfg) (fun r' x' => match r' with
      | .ok _ => x'.2.Shows db r x'.1
      | .error e => x'.2.Shows db (.error e : Except AppException α) x'.1) x := by
  obtain ⟨w, st⟩ := x
  cases st with
  | fresh =>
      refine Prog.wp_mono (fun r' x' hx' => ?_)
        (wp_stays hfin (P := fun db' => db' = db) (by simp) ⟨rfl, h⟩)
      rw [hx'.1]
      cases r' <;> exact hx'.2
  | broken =>
      refine Prog.wp_mono (fun r' x' hx' => ?_) (wp_stays hfin (P := db.Grown) (by simp) ⟨rfl, h⟩)
      rw [hx'.1]
      cases r' <;> exact hx'.2
  | committed =>
      refine Prog.wp_mono (fun r' x' hx' => ?_) (wp_proceeds hfin (hok w) h.1)
      obtain ⟨w', st'⟩ := x'
      obtain ⟨hne, hshows⟩ := hx'
      cases st' with
      | fresh => exact absurd rfl hne
      | broken => cases r' <;> exact hshows
      | committed =>
          obtain ⟨hgrown, v, rfl⟩ := hshows
          exact ⟨hgrown, h.2⟩

/-- A failing action leaves the tables alone. -/
lemma exec_error_db {a : Action} {ch : Choice} {e : AppException} {w w' : World}
    (h : World.exec a ch w = (.error e, w')) : w'.db = w.db := by
  cases a with
  | holdSeat | assign | awaitPayment | complete | cancel | release | insertWaitlist =>
      rcases World.transaction_cases h with ⟨e', -, rfl⟩ | ⟨v, db', hr, -⟩
      · rfl
      · cases hr
  | saveWaitlist entry =>
      have h : w.transaction ch (Tx.saveWaitlist entry) = (.error e, w') := h
      rcases World.transaction_cases h with ⟨e', -, rfl⟩ | ⟨v, db', hr, -⟩
      · rfl
      · cases hr
  | auditLog dto =>
      simp only [World.exec] at h
      split at h <;> cases h
  | _ =>
      have hdb := congrArg World.db (congrArg Prod.snd h)
      exact hdb.symm.trans (World.exec_sparesDatabase rfl ch w)

/-- The transaction of the call: it fails and leaves the tables alone, or the audit log grows. -/
lemma wp_commit {a : Action} {k : a.Res → Program α} (ha : ∀ v, a.committed (.ok v) = true)
    (hne : a.changes ≠ []) (hx : x.2 = .fresh ∧ x.1.db = db)
    (hk : ∀ v ch w₁ w₂, w₁.db = db → World.exec a ch w₁ = (.ok v, w₂) → db.Grown w₂.db →
      (k v).wp (staged cfg) (fun r x' => x'.2.Shows db r x'.1) (w₂, .committed)) :
    (act a >>= k).wp (staged cfg) (fun r x' => x'.2.Shows db r x'.1) x := by
  refine Prog.wp_bind ?_
  rintro ⟨w₁, st₁⟩ ⟨hst₁, hrely⟩ - r ⟨w₂, st₂⟩ ⟨ch, he, hst₂⟩
  have hw₁ : w₁.db = db := (unhindered_rely_db hrely).trans hx.2
  obtain rfl : st₁ = .fresh := hst₁.trans hx.1
  refine ⟨trivial, ?_⟩
  cases r with
  | error e =>
      have hfresh : a.committed (.error e) = false := by cases a <;> rfl
      obtain rfl : st₂ = .fresh := by simpa [hfresh, Standing.next] using hst₂
      exact (exec_error_db he).trans hw₁
  | ok v =>
      obtain rfl : st₂ = .committed := by simpa [ha v, Standing.next] using hst₂
      refine hk v ch w₁ w₂ hw₁ he ?_
      rcases exec_changes he with ⟨-, hchanges⟩ | ⟨hc, -⟩
      · rw [Database.Grown, hchanges, hw₁, List.length_append]
        have hlength := List.length_pos_of_ne_nil hne
        omega
      · rw [ha v] at hc
        cases hc

lemma Standing.shows_of_fresh {r : Except AppException α} (hx : x.2 = .fresh ∧ x.1.db = db) :
    x.2.Shows db r x.1 := by
  rw [hx.1]
  exact hx.2

/-- What precedes the commit. -/
lemma wp_before {p : Program α} {k : α → Program β} (hp : Sparing p)
    (hx : x.2 = .fresh ∧ x.1.db = db) (hk : ∀ v x', x'.2 = .fresh ∧ x'.1.db = db →
      (k v).wp (staged cfg) (fun r x' => x'.2.Shows db r x'.1) x') :
    (p >>= k).wp (staged cfg) (fun r x' => x'.2.Shows db r x'.1) x := by
  refine Prog.wp_bind (Prog.wp_mono (fun r x' hx' => ?_)
    (wp_stays hp (P := fun db' => db' = db) (by simp) hx))
  cases r with
  | ok v => exact hk v x' hx'
  | error e => exact Standing.shows_of_fresh hx'

/-- What follows the commit. -/
lemma wp_rest {p : Program α} (hp : Sparing p)
    (hok : p.wp (unhindered cfg) (fun r _ => ∃ v, r = .ok v) w) (hgrown : db.Grown w.db) :
    p.wp (staged cfg) (fun r x' => x'.2.Shows db r x'.1) (w, .committed) :=
  Prog.wp_mono (fun _ _ h => h.2) (wp_proceeds hp hok hgrown)

/-- An action that fails only if it is made to. -/
lemma returns_act {a : Action}
    (h : ∀ ch w, ch.fault = false → ∃ v w', World.exec a ch w = (.ok v, w')) :
    (act a).wp (unhindered cfg) (fun r _ => ∃ v, r = .ok v) w := by
  refine System.wp_lone (F := fun _ => True) (fun _ _ h => h) trivial fun ch w₁ r w₂ hch _ he => ?_
  obtain ⟨v, w', hok⟩ := h ch w₁ hch
  exact ⟨v, (Prod.mk.inj (he.symm.trans hok)).1⟩

lemma returns_bind {p : Program α} {k : α → Program β}
    (hp : p.wp (unhindered cfg) (fun r _ => ∃ v, r = .ok v) w)
    (hk : ∀ v w, (k v).wp (unhindered cfg) (fun r _ => ∃ v, r = .ok v) w) :
    (p >>= k).wp (unhindered cfg) (fun r _ => ∃ v, r = .ok v) w := by
  refine Prog.wp_bind (Prog.wp_mono (fun r w' hr => ?_) hp)
  obtain ⟨v, rfl⟩ := hr
  exact hk v w'

end Rules

/-! ## The three calls -/

section Calls

open CheckInService

variable {cfg : Settings} {db : Database} {x : World × Standing} {w : World}

lemma sparing_act {a : Action} (h : a.sparesDatabase = true) : Sparing (act a) := Prog.all_perform h

lemma sparing_dropHold (checkIn : CheckIn) : Sparing (dropHold checkIn) := by
  unfold dropHold
  split
  · trivial
  · exact Prog.all_bind (sparing_act rfl) fun _ => sparing_act rfl

lemma returns_redis {a : Action} {v : a.Res} {f : World → World}
    (h : ∀ ch w, World.exec a ch w = w.redis ch v (f w)) :
    (act a).wp (unhindered cfg) (fun r _ => ∃ v, r = .ok v) w :=
  returns_act fun ch w₁ hch => ⟨v, f w₁, (h ch w₁).trans (World.redis_ok hch v (f w₁))⟩

lemma returns_dropHold (checkIn : CheckIn) :
    (dropHold checkIn).wp (unhindered cfg) (fun r _ => ∃ v, r = .ok v) w := by
  unfold dropHold
  split
  · exact ⟨(), rfl⟩
  · refine returns_bind (returns_redis fun _ _ => rfl) fun _ w₁ => ?_
    exact returns_redis fun _ _ => rfl

lemma wp_holdSeatWithinLock_staged {p : PassengerId} {f : FlightId} {s : SeatId}
    (hx : x.2 = .fresh ∧ x.1.db = db) :
    (holdSeatWithinLock p f s).wp (staged cfg) (fun r x' => x'.2.Shows db r x'.1) x := by
  refine wp_before (sparing_act rfl) hx fun seat x₁ hx₁ => ?_
  refine wp_before Prog.all_throwWhen hx₁ fun _ x₂ hx₂ => ?_
  refine wp_before (sparing_act rfl) hx₂ fun heldAt x₃ hx₃ => ?_
  refine wp_commit (fun _ => rfl) (by simp [Action.changes]) hx₃
    fun checkIn ch w₁ w₂ _ _ hgrown => wp_rest ?_ ?_ hgrown
  · refine Prog.all_bind (sparing_act rfl) fun _ => ?_
    exact Prog.all_bind (sparing_act rfl) fun _ => trivial
  · refine returns_bind (returns_redis fun _ _ => rfl) fun _ w₃ => ?_
    exact returns_bind (returns_redis fun _ _ => rfl) fun _ w₄ => ⟨_, rfl⟩

lemma wp_startCheckIn_staged {p : PassengerId} {dto : StartCheckInRequestDto}
    (hx : x.2 = .fresh ∧ x.1.db = db) :
    (startCheckIn p dto).wp (staged cfg) (fun r x' => x'.2.Shows db r x'.1) x := by
  refine wp_before (idle_validateFlightExists _).sparing hx fun _ x₁ hx₁ => ?_
  refine wp_before (idle_validateSeatBelongsToFlight _ _).sparing hx₁ fun _ x₂ hx₂ => ?_
  refine wp_before (idle_validateNoActiveCheckIn _ _).sparing hx₂ fun _ x₃ hx₃ => ?_
  have hlocked : (do
      acquireLock (.seatLock dto.seatId)
      (holdSeatWithinLock p dto.flightId dto.seatId).tryFinally
        (releaseLock (.seatLock dto.seatId)) : Program CheckInResponseDto).wp (staged cfg)
      (fun r x' => x'.2.Shows db r x'.1) x₃ := by
    refine wp_before (sparing_act rfl) hx₃ fun _ x₄ hx₄ => ?_
    refine Prog.wp_tryFinally (Prog.wp_mono (fun r x₅ hx₅ => ?_)
      (wp_holdSeatWithinLock_staged hx₄))
    have hreturns : ∀ w', (releaseLock (.seatLock dto.seatId)).wp (unhindered cfg)
        (fun r _ => ∃ v, r = .ok v) w' := fun w' =>
      returns_act fun ch w₁ hch => ⟨(), w₁, World.exec_releaseLock hch _⟩
    refine Prog.wp_mono (fun r' x₆ hx₆ => ?_) (hx₅.wp_finally (sparing_act rfl) hreturns)
    cases r' <;> exact hx₆
  refine Prog.wp_tryCatch (Prog.wp_mono (fun r x' hx' => ?_) hlocked)
  cases r with
  | ok response => exact hx'
  | error e => exact hx'.wp_recover (idle_countAndRethrow _ e).sparing

/-- A row that is there is read again, whoever completes or cancels its check-in. -/
lemma returns_findCheckInOrFail {i : CheckInId} (hi : w.db.checkIns.get? i ≠ none) :
    (findCheckInOrFail i).wp (unhindered cfg) (fun r _ => ∃ v, r = .ok v) w := by
  obtain ⟨c, hc⟩ := Option.ne_none_iff_exists'.mp hi
  refine unhindered_ok (F := fun w' => w'.db = w.db) (R := fun found _ => found = some c)
    (lasting_db w.db) rfl (fun ch w₁ hch hw₁ => ⟨_, _, World.query_ok hch _, ?_⟩) ?_
  · rw [Table.findOne_of_key (k := i) _ _ fun r h => h.1 i rfl, hw₁, hc]
    have hid : c.id = i := Table.key_of_get? hc
    simp [Option.filter, CheckInWhere.Matches, hid]
  · rintro _ w₁ rfl
    exact ⟨c, rfl⟩

/-- A completion removes no row. -/
lemma completeTransaction_has {checkIn : CheckIn} {weight : ℚ} {paymentId : Option String}
    {u : Unit} {db db' : Database} {i : CheckInId}
    (h : Tx.completeTransaction checkIn weight paymentId db = .ok (u, db'))
    (hi : db.checkIns.get? i ≠ none) : db'.checkIns.get? i ≠ none := by
  cases hs : checkIn.seatId with
  | none | some s =>
      simp only [Tx.completeTransaction, hs, Tx.run_bind, Tx.run_forM_some, Tx.run_forM_none,
        Tx.run_updateSeats, Tx.run_updateCheckIns, Tx.run_logWithTransaction, Tx.numeric52] at h
      split at h
      · rename_i hw
        obtain ⟨-, rfl⟩ := Tx.numeric_ok hw
        split at h
        · rename_i hp
          obtain ⟨-, rfl⟩ := Tx.varchar100_ok hp
          cases h
          simpa [Table.get?_updateWhere] using hi
        · cases h
      · cases h

/-- A check-in that is found is a row of the table. -/
lemma wp_findCheckInOrThrow_staged {i : CheckInId} {p : PassengerId}
    (hx : x.2 = .fresh ∧ x.1.db = db) :
    (findCheckInOrThrow i p).wp (staged cfg) (fun r x' => (x'.2 = .fresh ∧ x'.1.db = db) ∧
      ∀ c, r = .ok c → db.checkIns.get? c.id = some c) x := by
  refine Prog.wp_and
    (wp_stays (idle_findCheckInOrThrow i p).sparing (P := fun db' => db' = db) (by simp) hx) ?_
  refine Prog.wp_bind ?_
  rintro ⟨w₁, st₁⟩ ⟨-, hrely⟩ - r ⟨w₂, st₂⟩ ⟨ch, he, -⟩
  have hw₁ : w₁.db = db := (unhindered_rely_db hrely).trans hx.2
  refine ⟨trivial, ?_⟩
  cases r with
  | error e => exact fun _ h => nomatch h
  | ok found =>
      cases found with
      | none => exact fun _ h => nomatch h
      | some c =>
          obtain ⟨-, hc, -⟩ := exec_findOneCheckIn he
          rintro _ ⟨⟩
          exact hw₁ ▸ hc

lemma wp_completeCheckIn_staged {checkIn : CheckIn} {weight : ℚ} {paymentId : Option String}
    (hc : db.checkIns.get? checkIn.id ≠ none) (hx : x.2 = .fresh ∧ x.1.db = db) :
    (completeCheckIn checkIn weight paymentId).wp (staged cfg)
      (fun r x' => x'.2.Shows db r x'.1) x := by
  refine wp_before (sparing_act rfl) hx fun confirmedAt x₁ hx₁ => ?_
  refine wp_commit (fun _ => rfl) (by simp [Action.changes]) hx₁
    fun _ ch w₁ w₂ hw₁ he hgrown => wp_rest ?_ ?_ hgrown
  · refine Prog.all_bind (sparing_dropHold checkIn) fun _ => ?_
    exact Prog.all_bind (idle_findCheckInOrFail _).sparing fun _ => trivial
  · have hhas : w₂.db.checkIns.get? checkIn.id ≠ none := by
      rcases World.transaction_cases he with ⟨e, hr, -⟩ | ⟨u, db', -, hbody, rfl⟩
      · cases hr
      · exact completeTransaction_has hbody (hw₁ ▸ hc)
    refine Prog.wp_bind (Prog.wp_mono (fun r w₃ hw₃ => ?_) (Prog.wp_and
      (lone_spares (sparing_dropHold checkIn) rfl) (returns_dropHold checkIn)))
    obtain ⟨hdb, v, rfl⟩ := hw₃
    refine returns_bind (returns_findCheckInOrFail ?_) fun _ _ => ⟨_, rfl⟩
    rw [hdb]
    exact hhas

lemma wp_validateAndCalculateFee_staged {p : PassengerId} {weight : ℚ}
    (hx : x.2 = .fresh ∧ x.1.db = db) :
    (BaggageService.validateAndCalculateFee cfg p weight).wp (staged cfg)
      (fun r x' => (x'.2 = .fresh ∧ x'.1.db = db) ∧
        ∀ result, r = .ok result → result = BaggageService.calculateFee cfg weight) x := by
  refine Prog.wp_bind (Prog.wp_mono (fun r x₁ hx₁ => ?_)
    (wp_stays (idle_callWeightService p).sparing (P := fun db' => db' = db) (by simp) hx))
  cases r with
  | error e => exact ⟨hx₁, fun _ h => nomatch h⟩
  | ok _ =>
      refine ⟨hx₁, ?_⟩
      rintro _ ⟨⟩
      rfl

/-- **Without excess baggage a confirmation has one transaction.** -/
lemma wp_confirmCheckIn_staged {i : CheckInId} {p : PassengerId} {dto : UpdateCheckInRequestDto}
    (hdto : declaredWeight dto ≤ cfg.maxBaggageKg) (hx : x.2 = .fresh ∧ x.1.db = db) :
    (confirmCheckIn cfg i p dto).wp (staged cfg) (fun r x' => x'.2.Shows db r x'.1) x := by
  refine Prog.wp_bind (Prog.wp_mono (fun r x₁ hx₁ => ?_) (wp_findCheckInOrThrow_staged hx))
  obtain ⟨hx₁, hfound⟩ := hx₁
  cases r with
  | error e => exact Standing.shows_of_fresh hx₁
  | ok checkIn =>
      have hc : db.checkIns.get? checkIn.id ≠ none := by
        rw [hfound checkIn rfl]
        exact Option.some_ne_none _
      have hvalidate : Idle (validateHoldNotExpired checkIn) :=
        Prog.all_bind Prog.all_throwWhen fun _ => idle_validateHoldKey _
      refine wp_before hvalidate.sparing hx₁ fun _ x₂ hx₂ => ?_
      refine Prog.wp_bind (Prog.wp_mono (fun r x₃ hx₃ => ?_)
        (wp_validateAndCalculateFee_staged hx₂))
      obtain ⟨hx₃, hresult⟩ := hx₃
      cases r with
      | error e => exact Standing.shows_of_fresh hx₃
      | ok result =>
          have hwithin : ¬ result.isOverweight = true := by
            rw [hresult result rfl, BaggageService.calculateFee_isOverweight, decide_eq_true_eq]
            exact not_lt.mpr hdto
          show (if result.isOverweight then _ else _ : Program CheckInResponseDto).wp _ _ _
          rw [if_neg hwithin]
          exact wp_completeCheckIn_staged hc hx₃

lemma wp_cancelCheckIn_staged {i : CheckInId} {p : PassengerId}
    (hx : x.2 = .fresh ∧ x.1.db = db) :
    (cancelCheckIn i p).wp (staged cfg) (fun r x' => x'.2.Shows db r x'.1) x := by
  refine wp_before (idle_findCheckInOrThrow i p).sparing hx fun checkIn x₁ hx₁ => ?_
  refine wp_before (sparing_act rfl) hx₁ fun flight x₂ hx₂ => ?_
  refine wp_before Prog.all_throwWhen hx₂ fun _ x₃ hx₃ => ?_
  refine wp_before (sparing_act rfl) hx₃ fun cancelledAt x₄ hx₄ => ?_
  refine wp_commit (fun _ => rfl) (by simp [Action.changes]) hx₄
    fun _ ch w₁ w₂ _ _ hgrown => wp_rest ?_ ?_ hgrown
  · refine Prog.all_bind (sparing_dropHold checkIn) fun _ => ?_
    exact Prog.all_bind (sparing_act rfl) fun _ => trivial
  · refine returns_bind (returns_dropHold checkIn) fun _ w₃ => ?_
    exact returns_bind (returns_act fun ch w₄ _ => ⟨_, _, rfl⟩) fun _ w₅ => ⟨_, rfl⟩

end Calls

/-! ## What a rejected call leaves -/

section Rejected

variable {cfg : Settings} {c c' : SkyConfig} {call : Call} {us : List SkyTransition}
  {e : AppException}

/-- The calls that write in one transaction: a start, a confirmation without excess baggage and a
cancellation. -/
def Call.WritesOnce (cfg : Settings) : Call → Prop
  | .startCheckIn .. | .cancelCheckIn .. => True
  | .confirmCheckIn _ _ dto => CheckInService.declaredWeight dto ≤ cfg.maxBaggageKg
  | _ => False

/-- The seats, the check-ins and the audit log are the same. -/
def Database.SameTables (db db' : Database) : Prop :=
  db'.seats = db.seats ∧ db'.checkIns = db.checkIns ∧ db'.auditLog = db.auditLog

lemma wp_program_staged {w : World} (hcall : call.WritesOnce cfg) :
    (call.program cfg).wp (staged cfg) (fun r x' => x'.2.Shows w.db r x'.1) (w, .fresh) := by
  have hmap : ∀ {α : Type} {p : Program α} (f : α → Reply),
      p.wp (staged cfg) (fun r x' => x'.2.Shows w.db r x'.1) (w, .fresh) →
        (f <$> p).wp (staged cfg) (fun r x' => x'.2.Shows w.db r x'.1) (w, .fresh) := by
    intro α p f hp
    refine Prog.wp_map (Prog.wp_mono (fun r x' hx' => ?_) hp)
    obtain ⟨w', st'⟩ := x'
    cases st' with
    | fresh | broken => exact hx'
    | committed =>
        obtain ⟨hgrown, v, rfl⟩ := hx'
        exact ⟨hgrown, f v, rfl⟩
  cases call with
  | startCheckIn p dto => exact hmap _ (wp_startCheckIn_staged ⟨rfl, rfl⟩)
  | confirmCheckIn i p dto => exact hmap _ (wp_confirmCheckIn_staged hcall ⟨rfl, rfl⟩)
  | cancelCheckIn i p => exact hmap _ (wp_cancelCheckIn_staged ⟨rfl, rfl⟩)
  | _ => cases hcall

/-- What the transitions of a call that runs alone say of the tables and of its outcome. -/
lemma solo_shows {r : Except AppException Reply} (hcall : call.WritesOnce cfg)
    (h : (skyHigh cfg).Solo c call us r c') :
    (standingOf us).Shows c.state.db r c'.state := by
  have hexec : ∀ vs t, vs ++ [t] <+: us → ∀ ch, t.label = .act c.threads.length ch →
      ∀ call a cont, t.pre.threads[c.threads.length]? = some ⟨call, .act a cont⟩ →
        (staged cfg).exec a (t.pre.state, standingOf vs) (World.exec a ch t.pre.state).1
          ((World.exec a ch t.pre.state).2, standingOf (vs ++ [t])) := by
    intro vs t _ ch hl call a cont hk
    refine ⟨ch, rfl, ?_⟩
    rw [standingOf_concat, Standing.after]
    cases hc : a.committed (World.exec a ch t.pre.state).1 <;>
      simp [committed?, faultless, hl, hk, hc]
  have htick : ∀ vs t, vs ++ [t] <+: us → ∀ e, t.label = .tick e →
      (staged cfg).rely (t.pre.state, standingOf vs)
        (World.tick e t.pre.state, standingOf (vs ++ [t])) := by
    intro vs t _ e hl
    refine ⟨?_, Relation.ReflTransGen.single ⟨e, rfl⟩⟩
    rw [standingOf_concat, Standing.after]
    cases standingOf vs <;> simp [committed?, faultless, hl, Standing.next]
  have hQ : ∀ (r : Except AppException Reply) x y, (staged cfg).rely x y →
      x.2.Shows c.state.db r x.1 → y.2.Shows c.state.db r y.1 := by
    rintro r ⟨w, st⟩ ⟨w', st'⟩ ⟨hst, hrely⟩ hshows
    obtain rfl : st' = st := hst
    have hdb : w'.db = w.db := unhindered_rely_db hrely
    cases st' <;> simpa only [Standing.Shows, hdb] using hshows
  obtain ⟨-, q, hq, hpost⟩ := h.run.solo_view (fun us w => (w, standingOf us)) h.closed
    (h.quiet.only _) hexec (fun _ => trivial) (fun _ => ⟨rfl, .refl⟩)
    (fun _ _ _ h h' => ⟨h'.1.trans h.1, h.2.trans h'.2⟩) htick hQ
    List.getElem?_concat_length (wp_program_staged hcall)
  obtain rfl : q = .done r := by
    simpa using Option.some_inj.mp (hq.symm.trans h.done)
  exact hpost

/-- **When a rejected call leaves the tables as they were.**  A start, a confirmation without excess
baggage or a cancellation that runs alone and throws has changed the seats, the check-ins or the
audit log exactly if something has failed after its transaction. -/
theorem rejected_unchanged_iff (hcall : call.WritesOnce cfg)
    (h : (skyHigh cfg).Solo c call us (.error e) c') :
    c.state.db.SameTables c'.state.db ↔ ¬ FailsAfterCommit us := by
  have hshows := solo_shows hcall h
  rw [← standingOf_eq_broken]
  cases hst : standingOf us with
  | fresh =>
      rw [hst] at hshows
      have hdb : c'.state.db = c.state.db := hshows
      exact iff_of_true (by simp [Database.SameTables, hdb]) (by simp)
  | committed =>
      rw [hst] at hshows
      obtain ⟨-, v, hv⟩ := hshows
      cases hv
  | broken =>
      rw [hst] at hshows
      refine iff_of_false (fun hsame => ?_) (by simp)
      have hgrown : c.state.db.changes.length < c'.state.db.changes.length := hshows
      rw [Database.changes, Database.changes, hsame.2.2] at hgrown
      omega

end Rejected

/-- A call that is not allowed to lock its seat. -/
theorem rejected_unchanged_refusedLock : ∃ us e c',
    (skyHigh {}).Solo (.init oneSeatWorld) (.startCheckIn 1 ⟨10, 100⟩) us (.error e) c' ∧
      oneSeatWorld.db.SameTables c'.state.db := by
  obtain ⟨ts, c, us, r, c', hrun, hsolo, htest⟩ := exists_solo_from oneSeatWorld []
    (.startCheckIn 1 ⟨10, 100⟩) (proceed 0 3 ++ [.act 0 { fault := true }]) (fun ts _ us r _ =>
      ts.isEmpty && !r.isOk && us.all fun t => (committed? t).isNone) (by decide +kernel)
  simp only [Bool.and_eq_true, List.isEmpty_iff, Bool.not_eq_true', List.all_eq_true,
    Option.isNone_iff_eq_none] at htest
  obtain ⟨⟨rfl, hr⟩, hnone⟩ := htest
  obtain rfl := hrun.eq_of_nil
  cases r with
  | ok reply => cases hr
  | error e =>
      have hcall : (Call.startCheckIn 1 ⟨10, 100⟩).WritesOnce {} := trivial
      refine ⟨us, e, c', hsolo, (rejected_unchanged_iff hcall hsolo).mpr ?_⟩
      rintro ⟨vs, t, vs', rfl, ⟨t', ht', hcommitted⟩, -⟩
      exact hcommitted (hnone t' (List.mem_append_left _ ht'))

/-- **A start whose hold key is not set throws, and the seat is held.** -/
theorem rejected_holdsSeat : ∃ us e c', oneSeatWorld.Seeded ∧
    (skyHigh {}).Solo (.init oneSeatWorld) (.startCheckIn 1 ⟨10, 100⟩) us (.error e) c' ∧
    us.countP (fun t => !faultless t) = 1 ∧
    (∃ seat, oneSeatWorld.db.seats.get? 100 = some seat ∧ seat.status = .available) ∧
    (∃ seat, c'.state.db.seats.get? 100 = some seat ∧ seat.status = .held) ∧
    ¬ oneSeatWorld.db.SameTables c'.state.db := by
  obtain ⟨ts, c, us, r, c', hrun, hsolo, htest⟩ := exists_solo_from oneSeatWorld []
    (.startCheckIn 1 ⟨10, 100⟩) (proceed 0 7 ++ [.act 0 { fault := true }] ++ proceed 0 1)
    (fun ts _ us r c' => ts.isEmpty && !r.isOk && decide (us.countP (fun t => !faultless t) = 1) &&
      (c'.state.db.seats.get? 100).any fun seat => seat.status = .held) (by decide +kernel)
  simp only [Bool.and_eq_true, List.isEmpty_iff, Bool.not_eq_true', decide_eq_true_eq,
    Option.any_eq_true] at htest
  obtain ⟨⟨⟨rfl, hr⟩, hfaults⟩, seat, hseat, hheld⟩ := htest
  obtain rfl := hrun.eq_of_nil
  cases r with
  | ok reply => cases hr
  | error e =>
      refine ⟨us, e, c', oneSeatWorld_seeded, hsolo, hfaults, ⟨_, rfl, rfl⟩,
        ⟨seat, hseat, hheld⟩, fun hsame => ?_⟩
      rw [hsame.1] at hseat
      obtain rfl := Option.some_inj.mp hseat
      cases hheld

end SkyHighCore
