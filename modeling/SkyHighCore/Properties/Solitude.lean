import SkyHighCore.Properties.Confirmation
import SkyHighCore.Properties.Positions

/-!
# Calls that run alone

A transaction that completes or cancels a check-in, or assigns a seat to an entry of a waitlist,
rests on a copy of a row that the call has read before.  In a sequential run nobody else writes in
between, so that the copy tells what the row contains, up to what the call itself has written:
`Action.Current` says how, and `run_current` that every committed transaction of a sequential run
finds the rows so.  For the same reason a join that runs alone writes the next position
(`run_writesNext`).
-/

namespace SkyHighCore

open Framework

/-! ## Copies -/

/-- The copy that the transaction rests on is current.  A confirmation whose declared weight is over
the limit has paused the row itself. -/
def Action.Current (cfg : Settings) : Action → World → Prop
  | .complete checkIn weight _, w =>
      ∃ row, w.db.bookings.checkIn checkIn.id = some row ∧
        row.status = if cfg.maxBaggageKg < weight then .awaitingPayment else checkIn.status
  | .cancel checkIn _ _, w => w.db.bookings.checkIn checkIn.id = some checkIn
  | .assign entry _ _ _, w => w.db.queue entry.id = some entry ∧ entry.status = .waiting
  | _, _ => True

/-- The actions that rest on a copy. -/
def Action.copies : Action → Bool
  | .complete .. | .cancel .. | .assign .. => true
  | _ => false

lemma Action.current_of_copies {cfg : Settings} {a : Action} (h : a.copies = false) (w : World) :
    a.Current cfg w := by
  cases a with
  | complete | cancel | assign => cases h
  | _ => trivial

lemma Action.copies_of_harmless {a : Action} (h : a.harmless = true) : a.copies = false := by
  cases a with
  | complete | cancel | assign => cases h
  | _ => rfl

/-! ## The contract -/

/-- The tables that a call has read and that stay as they are while it is suspended. -/
def Call.SameView : Call → Database → Database → Prop
  | .processWaitlist .., db, db' | .joinWaitlist .., db, db' => db'.queue = db.queue
  | _, db, db' => db'.bookings = db.bookings

/-- Every call for itself, in a world where all actions meet their preconditions. -/
def solitary (cfg : Settings) : Protocol (skyHigh cfg) where
  admits a _ w := a.Pre cfg w
  inv w := w.db.bookings.Linked
  rely call w w' := call.SameView w.db w'.db
  guar call a w _ _ :=
    a.Current cfg w ∧ ∀ p f, call = .joinWaitlist p f → w.db.queue.Fresh f a

lemma Call.SameView.refl (call : Call) (db : Database) : call.SameView db db := by
  cases call <;> rfl

lemma Call.SameView.trans {call : Call} {db db' db'' : Database} (h : call.SameView db db')
    (h' : call.SameView db' db'') : call.SameView db db'' := by
  cases call <;> exact Eq.trans h' h

lemma solitary_lawful (cfg : Settings) : (solitary cfg).Lawful where
  rely_refl call w _ := .refl call w.db
  rely_trans _ _ _ _ h h' := h.trans h'
  inv_step := by
    rintro call a w r w' hlinked ⟨ch, hpre, h⟩ -
    exact exec_linked hlinked hpre h
  inv_tick _ _ h := h
  rely_tick call _ w _ := .refl call w.db

/-! ## Every call meets it -/

section Walks

open CheckInService WaitlistService

variable {cfg : Settings} {w : World} {call : Call} {α : Type}

/-- The action neither rests on a copy nor inserts an entry. -/
def Action.copyless (a : Action) : Prop :=
  a.copies = false ∧ ∀ f p n, a ≠ .insertWaitlist f p n

lemma Action.copyless_of_idle {a : Action} (h : a.idle = true) : a.copyless := by
  cases a with
  | complete | cancel | assign | insertWaitlist => cases h
  | _ => exact ⟨rfl, nofun⟩

lemma Action.copyless.guar {a : Action} (h : a.copyless) (call : Call) (w : World) :
    a.Current cfg w ∧ ∀ p f, call = .joinWaitlist p f → w.db.queue.Fresh f a :=
  ⟨Action.current_of_copies h.1 w, fun _ f _ p n ha => absurd ha (h.2 f p n)⟩

/-- A stretch of a call without a transaction that rests on a copy. -/
lemma meets_copyless {p : Program α} (hp : p.All Action.copyless) :
    p.Meets ((solitary cfg).contract call) w :=
  .of_guar (fun _ w₁ _ _ ha _ _ => ha.guar call w₁) hp

lemma solitary_tolerates_idle :
    ((solitary cfg).contract call).Tolerates fun a => a.idle = true := by
  rintro a w r w' ha - ⟨ch, -, he⟩
  have hspares : a.sparesDatabase = true := by
    cases a <;> first | rfl | cases ha
  have he : World.exec a ch w = (r, w') := he
  have hdb : w'.db = w.db := by
    rw [← World.exec_sparesDatabase hspares ch w, he]
  refine ⟨(Action.copyless_of_idle ha).guar call w, ?_⟩
  show call.SameView w.db w'.db
  rw [hdb]
  exact .refl call w.db

/-- Two calls on check-ins, which have the bookings to themselves. -/
lemma solitary_tolerant (hjoin : ∀ p f, call ≠ .joinWaitlist p f) (hcall : ∀ db db' : Database,
    db'.bookings = db.bookings → call.SameView db db') :
    Tolerant ((solitary cfg).contract call) where
  exec := by
    rintro a w r w' ⟨ch, -, he⟩
    exact ⟨ch, w, congrArg Prod.fst he⟩
  harmless := by
    rintro a w r w' ha hinv ⟨ch, hpre, he⟩
    refine ⟨⟨Action.current_of_copies (Action.copies_of_harmless ha) w,
      fun p f h => absurd h (hjoin p f)⟩, ?_⟩
    exact hcall _ _ (exec_quiet (Action.books_of_harmless ha) hpre he).1.1

/-- What is known of the bookings while they stay as they are. -/
lemma kept_view (P : Bookings → Prop) (hcall : ∀ db db' : Database,
    call.SameView db db' → db'.bookings = db.bookings) :
    Kept ((solitary cfg).contract call) fun w => P w.db.bookings := by
  intro w w' h hw
  rwa [← hcall w.db w'.db h] at hw

/-- The check-in is paused. -/
def Bookings.Paused (b : Bookings) (i : CheckInId) : Prop :=
  ∃ row, b.checkIn i = some row ∧ row.status = .awaitingPayment

lemma paused_awaitPayment {c : CheckIn} {weight fee : ℚ} {ch : Choice} {u : Unit} {w' : World}
    (hlinked : w.db.bookings.Linked) (hpre : (Action.awaitPayment c weight fee).Pre cfg w)
    (he : World.exec (.awaitPayment c weight fee) ch w = (.ok u, w')) :
    w'.db.bookings.Paused c.id := by
  rcases exec_commits hlinked hpre he with ⟨-, hcommits, -⟩ | ⟨hno, -⟩
  · generalize w'.db.bookings = b' at hcommits
    cases hcommits with
    | awaitPayment _ _ _ => exact ⟨_, Function.update_self .., rfl⟩
  · cases hno

/-- A confirmation reads the row it completes, and pauses it if the declared weight is over the
limit. -/
def solitaryOutline (cfg : Settings) (i : CheckInId) (p : PassengerId)
    (dto : UpdateCheckInRequestDto) :
    ConfirmOutline cfg ((solitary cfg).contract (.confirmCheckIn i p dto)) i p
      (declaredWeight dto) where
  before _ := True
  found c w := w.db.bookings.checkIn c.id = some c
  paused c w := w.db.bookings.Paused c.id
  paid c _ w := w.db.bookings.Paused c.id
  after _ := True
  kept_before _ _ _ h := h
  kept_found c := kept_view (fun b => b.checkIn c.id = some c) fun _ _ h => h
  kept_paused c := kept_view (fun b => b.Paused c.id) fun _ _ h => h
  kept_paid c _ := kept_view (fun b => b.Paused c.id) fun _ _ h => h
  kept_after _ _ _ h := h
  read := by
    rintro c w w' - - ⟨ch, -, he⟩ -
    obtain ⟨rfl, hrow, -⟩ := exec_findOneCheckIn he
    exact hrow
  complete := by
    rintro c w r w' - hw hwithin -
    exact ⟨⟨⟨c, hw, (if_neg (not_lt.mpr hwithin)).symm⟩, nofun⟩, trivial⟩
  pause := by
    rintro c w r w' hinv - - ⟨ch, hpre, he⟩
    refine ⟨⟨trivial, nofun⟩, ?_⟩
    cases r with
    | error e => trivial
    | ok u => exact paused_awaitPayment hinv hpre he
  pay := by
    rintro c w r w' - hw ⟨ch, -, he⟩
    have hdb : w'.db = w.db := (congrArg (fun out => out.2.db) he).symm
    have hw' : w'.db.bookings.Paused c.id := by rwa [hdb]
    refine ⟨⟨trivial, nofun⟩, ?_⟩
    cases r with
    | error e => exact hw'
    | ok response =>
        dsimp only
        split <;> exact hw'
  settle := by
    rintro c _ w r w' - ⟨row, hrow, hst⟩ hover -
    exact ⟨⟨⟨row, hrow, hst.trans (if_pos hover).symm⟩, nofun⟩, trivial⟩
  after_of_before _ := trivial
  after_of_found _ := trivial
  after_of_paused _ := trivial

lemma solitary_confirmCheckIn (i : CheckInId) (p : PassengerId) (dto : UpdateCheckInRequestDto) :
    (confirmCheckIn cfg i p dto).Meets ((solitary cfg).contract (.confirmCheckIn i p dto)) w :=
  (solitaryOutline cfg i p dto).wp_confirmCheckIn (solitary_tolerant nofun fun _ _ h => h) rfl
    trivial

lemma solitary_cancelCheckIn (i : CheckInId) (p : PassengerId) :
    (cancelCheckIn i p).Meets ((solitary cfg).contract (.cancelCheckIn i p)) w := by
  have hC : Tolerant ((solitary cfg).contract (.cancelCheckIn i p)) :=
    solitary_tolerant nofun fun _ _ h => h
  have hread : (findCheckInOrThrow i p).wp ((solitary cfg).contract (.cancelCheckIn i p))
      (fun r w' => ∀ c, r = .ok c → w'.db.bookings.checkIn c.id = some c) w := by
    refine Prog.wp_bind_ok (R := fun (found : Option CheckIn) w' => ∀ c, found = some c →
      w'.db.bookings.checkIn c.id = some c) ?_ fun found w₁ hw₁ => ?_
    · rintro w₁ - - r w₂ ⟨ch, -, he⟩
      refine ⟨⟨trivial, nofun⟩, ?_⟩
      rintro _ rfl c rfl
      obtain ⟨rfl, hrow, -⟩ := exec_findOneCheckIn he
      exact hrow
    · cases found with
      | none => exact fun _ h => nomatch h
      | some c =>
          rintro _ ⟨⟩
          exact hw₁ c rfl
  refine .bind_wp hread fun c w₁ hw₁ => ?_
  have hkept : Kept ((solitary cfg).contract (.cancelCheckIn i p))
      fun w => w.db.bookings.checkIn c.id = some c :=
    kept_view (fun b => b.checkIn c.id = some c) fun _ _ h => h
  have htolerates : ((solitary cfg).contract (.cancelCheckIn i p)).Tolerates
      fun a => a.harmless = true := fun _ _ _ _ ha hinv he => hC.harmless ha hinv he
  refine .bind_all htolerates hkept (harmless_act rfl) hw₁ fun flight w₂ hw₂ => ?_
  refine .bind_all htolerates hkept Prog.all_throwWhen hw₂ fun _ w₃ hw₃ => ?_
  refine .bind_all htolerates hkept (harmless_act rfl) hw₃ fun cancelledAt w₄ hw₄ => ?_
  refine .bind_perform (R := fun _ _ => True) hkept hw₄
    (fun w₅ r w₆ hw₅ _ _ => ⟨⟨hw₅, nofun⟩, fun _ _ => trivial⟩) fun _ w₅ _ => ?_
  refine .of_all htolerates (Prog.all_bind (harmless_dropHold c) fun _ => ?_)
  exact Prog.all_bind (harmless_act rfl) fun _ => trivial

lemma solitary_processWaitlistWithinLock (f : FlightId) (s : Option SeatId) :
    (processWaitlistWithinLock f s).Meets ((solitary cfg).contract (.processWaitlist f s)) w := by
  refine .bind_perform (F := fun _ => True) (R := fun next w' => ∀ e, next = some e →
    w'.db.queue e.id = some e ∧ e.status = .waiting) (fun _ _ _ h => h) trivial ?_
    fun next w₁ hw₁ => ?_
  · rintro w₁ r w₂ - - ⟨ch, -, he⟩
    refine ⟨⟨trivial, nofun⟩, ?_⟩
    rintro _ rfl e rfl
    obtain ⟨rfl, hrow, -, -, -, hst⟩ := HoldExpiryService.exec_findOneWaitlist he
    exact ⟨hrow, hst _ rfl⟩
  cases next with
  | none => trivial
  | some entry =>
      have hkeeps : ((solitary cfg).contract (.processWaitlist f s)).Keeps
          fun w => w.db.queue entry.id = some entry ∧ entry.status = .waiting := by
        intro w w' h hw
        have h : w'.db.queue = w.db.queue := h
        rwa [h]
      refine .bind_all solitary_tolerates_idle hkeeps (idle_act rfl) (hw₁ entry rfl)
        fun found w₂ hw₂ => ?_
      cases found with
      | none => trivial
      | some seat =>
          refine .bind_all solitary_tolerates_idle hkeeps (idle_act rfl) hw₂ fun heldAt w₃ hw₃ => ?_
          refine .bind_perform (R := fun _ _ => True) hkeeps hw₃
            (fun w₄ r w₅ hw₄ _ _ => ⟨⟨hw₄, nofun⟩, fun _ _ => trivial⟩) fun assigned w₄ _ => ?_
          refine meets_copyless ?_
          show Prog.All _ (if _ then _ else _)
          split
          · refine Prog.all_bind (Prog.all_perform ⟨rfl, nofun⟩) fun _ => ?_
            refine Prog.all_bind (Prog.all_perform ⟨rfl, nofun⟩) fun _ => ?_
            exact Prog.all_perform (a := Action.emit _) ⟨rfl, nofun⟩
          · trivial

lemma solitary_processWaitlist (f : FlightId) (s : Option SeatId) :
    (processWaitlist f s).Meets ((solitary cfg).contract (.processWaitlist f s)) w := by
  have hlock : ∀ {a : Action} {w : World}, a.idle = true →
      (act a).Meets ((solitary cfg).contract (.processWaitlist f s)) w :=
    fun h => .of_all solitary_tolerates_idle (idle_act h)
  refine (hlock (a := .acquireLock _) rfl).andThen fun r w₁ => ?_
  cases r with
  | error e => trivial
  | ok _ =>
      exact (solitary_processWaitlistWithinLock f s).tryFinally
        fun _ => hlock (a := .releaseLock _) rfl

/-- A join that runs alone writes the position after all that are taken. -/
lemma solitary_joinWaitlist (p : PassengerId) (f : FlightId) :
    (joinWaitlist p f).Meets ((solitary cfg).contract (.joinWaitlist p f)) w := by
  have htrue : ((solitary cfg).contract (.joinWaitlist p f)).Keeps fun _ => True :=
    fun _ _ _ h => h
  refine .bind_all solitary_tolerates_idle htrue (idle_act rfl) trivial fun flight w₁ _ => ?_
  cases flight with
  | none => trivial
  | some flight =>
      refine .bind_all solitary_tolerates_idle htrue (idle_act rfl) trivial fun existing w₂ _ => ?_
      refine .bind_all solitary_tolerates_idle htrue Prog.all_throwWhen trivial fun _ w₃ _ => ?_
      have hnext : (getNextPosition f).wp ((solitary cfg).contract (.joinWaitlist p f))
          (fun r w' => ∀ n, r = .ok n → ∀ m, w'.db.queue.Taken f m → m < n) w₃ := by
        refine Prog.wp_bind_ok (R := fun (m : Option ℕ) w' => ∀ n, w'.db.queue.Taken f n →
          n ≤ m.getD 0) ?_ fun m w₄ hmax => ?_
        · rintro w₄ - - r w₅ ⟨ch, -, he⟩
          refine ⟨(Action.copyless_of_idle rfl).guar _ _, ?_⟩
          rintro m rfl
          obtain ⟨rfl, -, hmax⟩ := exec_maxPosition he
          exact hmax
        · rintro _ ⟨⟩ n hn
          exact Nat.lt_succ_of_le (hmax n hn)
      refine .bind_wp hnext fun n w₄ hw₄ => ?_
      have hkeeps : ((solitary cfg).contract (.joinWaitlist p f)).Keeps
          fun w => ∀ m, w.db.queue.Taken f m → m < n := by
        intro w w' h hw
        have h : w'.db.queue = w.db.queue := h
        rwa [h]
      refine .bind_perform (R := fun _ _ => True) hkeeps hw₄ (fun w₅ r w₆ hw₅ _ _ => ?_)
        fun saved w₅ _ => ?_
      · refine ⟨⟨trivial, ?_⟩, fun _ _ => trivial⟩
        rintro _ _ ⟨⟩ _ _ ⟨⟩
        exact hw₅
      · refine meets_copyless (Prog.all_bind (Prog.all_perform ⟨rfl, nofun⟩) fun _ => ?_)
        trivial

/-- **Every call that runs alone rests on current copies.** -/
theorem solitary_program (cfg : Settings) (call : Call) (w : World) :
    (call.program cfg).Meets ((solitary cfg).contract call) w := by
  cases call with
  | confirmCheckIn i p dto => exact .map (solitary_confirmCheckIn i p dto)
  | cancelCheckIn i p => exact .map (solitary_cancelCheckIn i p)
  | processWaitlist f s => exact .map (solitary_processWaitlist f s)
  | joinWaitlist p f => exact .map (solitary_joinWaitlist p f)
  | startCheckIn | handleHoldExpired | releaseSeat | sweepExpiredHolds | leaveWaitlist
  | getSeatMap =>
      refine meets_copyless ((Call.all_uses cfg _).mono fun a ha => ?_)
      cases a with
      | complete | cancel | assign | insertWaitlist => cases ha
      | _ => exact ⟨rfl, nofun⟩

end Walks

/-! ## Sequential runs -/

variable {cfg : Settings} {w : World} {ts : List SkyTransition} {c : SkyConfig}

lemma run_solitary (hw : w.Seeded) (h : (skyHigh cfg).Run (.init w) ts c)
    (hseq : Sequential ts) : ∀ t ∈ ts, (solitary cfg).Guaranteed t :=
  h.sound_of_sequential (solitary_lawful cfg) (fun call w _ => solitary_program cfg call w)
    hw.linked hseq (run_admitted hw h)

/-- **In a sequential run, every committed transaction rests on a current copy.** -/
theorem run_current (hw : w.Seeded) (h : (skyHigh cfg).Run (.init w) ts c) (hseq : Sequential ts) :
    ∀ t ∈ ts, ∀ a, committed? t = some a → a.Current cfg t.pre.state := by
  intro t ht a hc
  obtain ⟨k, ch, call, cont, hl, hk⟩ := next_of_committed? hc
  exact (run_solitary hw h hseq t ht k ch hl call a cont hk).1

/-- **In a sequential run, every join writes the next position.** -/
theorem run_writesNext (hw : w.Seeded) (h : (skyHigh cfg).Run (.init w) ts c)
    (hseq : Sequential ts) (f : FlightId) : ∀ t ∈ ts, WritesNext f t := by
  intro t ht p n hre
  obtain ⟨k, ch, call, cont, hl, hk⟩ := next_of_requeued? hre
  obtain ⟨us, vs, -, hrun, -, -⟩ := h.mem_split ht
  have huses : call.uses (.insertWaitlist f p n) = true :=
    (hrun.all (P := fun call a => call.uses a = true) (Call.all_uses cfg) _
      (List.mem_of_getElem? hk)).1
  cases call with
  | joinWaitlist p' f' =>
      obtain rfl : f = f' := (run_warrant hw hrun hk).2 f' rfl
      exact (run_solitary hw h hseq t ht k ch hl _ _ cont hk).2 p' f rfl p n rfl
  | _ => cases huses

/-- In a sequential run, the positions of a flight are pairwise distinct. -/
lemma run_distinct (hw : w.Seeded) (h : (skyHigh cfg).Run (.init w) ts c) (hseq : Sequential ts)
    (f : FlightId) : c.state.db.queue.Distinct f :=
  (run_positions hw h f).2.mpr (run_writesNext hw h hseq f)

end SkyHighCore
