import SkyHighCore.Framework.Monitor
import SkyHighCore.Properties.EntryLifeCycle
import SkyHighCore.Properties.Releases
import SkyHighCore.Properties.Solitude

/-!
# Which entries of a waitlist are expired

`markWaitlistEntryExpired` looks for an ASSIGNED entry of the flight and the passenger of the hold
that has been released, and knows nothing of the hold that the entry stands for.  When calls are
issued one after the other, that is enough: an entry is ASSIGNED or EXPIRED exactly if it has been
assigned a seat, its passenger has booked that seat and no other of the flight, and an entry is
EXPIRED exactly if that seat has been released from the passenger.
-/

namespace SkyHighCore

open Framework

/-! ## Assignments and releases in a history -/

/-- Entry `i` has been assigned seat `s`. -/
def AssignedIn (ts : List SkyTransition) (i : WaitlistId) (s : SeatId) : Prop :=
  ∃ t ∈ ts, ∃ entry seat f heldAt, committed? t = some (.assign entry seat f heldAt) ∧
    entry.id = i ∧ seat.id = s

/-- The hold of `p` on seat `s` has been released because it had run out. -/
def ReleasedIn (ts : List SkyTransition) (s : SeatId) (p : PassengerId) : Prop :=
  ∃ t ∈ ts, ∃ seat, committed? t = some (.release seat) ∧ seat.id = s ∧ seat.heldBy = some p

/-- Every call that has released a seat has returned. -/
def ReleasesReturned (ts : List SkyTransition) (c : SkyConfig) : Prop :=
  ∀ t ∈ ts, ∀ k ch seat, t.label = .act k ch → committed? t = some (.release seat) →
    ∃ v, outcome? c k = some (.ok v)

/-- Passenger `p` has booked seat `s` of flight `f`. -/
def Bookings.Booked (b : Bookings) (p : PassengerId) (s : SeatId) (f : FlightId) : Prop :=
  ∃ i c, b.checkIn i = some c ∧ c.passengerId = p ∧ c.flightId = f ∧ c.seatId = some s

/-- The entry has been assigned a seat: it is ASSIGNED, or EXPIRED since. -/
def Waitlist.Served (e : Waitlist) : Prop := e.status = .assigned ∨ e.status = .expired

lemma AssignedIn.concat {ts : List SkyTransition} {t : SkyTransition} {i : WaitlistId} {s : SeatId}
    (h : AssignedIn (ts ++ [t]) i s) : AssignedIn ts i s ∨ ∃ entry seat f heldAt,
      committed? t = some (.assign entry seat f heldAt) ∧ entry.id = i ∧ seat.id = s := by
  obtain ⟨t', ht', hassign⟩ := h
  rcases List.mem_append.mp ht' with ht' | ht'
  · exact .inl ⟨t', ht', hassign⟩
  · rw [List.mem_singleton.mp ht'] at hassign
    exact .inr hassign

lemma AssignedIn.mono {ts us : List SkyTransition} {i : WaitlistId} {s : SeatId}
    (h : AssignedIn ts i s) (hsub : ts ⊆ us) : AssignedIn us i s := by
  obtain ⟨t, ht, hassign⟩ := h
  exact ⟨t, hsub ht, hassign⟩

namespace Bookings

variable {b b' : Bookings} {p : PassengerId} {s s' : SeatId} {f : FlightId}

lemma Booked.evolves (h : b.Evolves b') (hb : b.Booked p s f) : b'.Booked p s f := by
  obtain ⟨i, c, hc, hp, hf, hs⟩ := hb
  obtain ⟨c', hc', hsame⟩ := h.checkIn i c hc
  exact ⟨i, c', hc', hsame.1.trans hp, hsame.2.1.trans hf, hsame.2.2.trans hs⟩

/-- A passenger has booked one seat of a flight at most. -/
lemma Booked.eq (hlinked : b.Linked) (h : b.Booked p s f) (h' : b.Booked p s' f) : s = s' := by
  obtain ⟨i, c, hc, hp, hf, hs⟩ := h
  obtain ⟨i', c', hc', hp', hf', hs'⟩ := h'
  obtain rfl := hlinked.unique i c i' c' hc hc' (hp.trans hp'.symm) (hf.trans hf'.symm)
  obtain rfl : c = c' := Option.some_inj.mp (hc.symm.trans hc')
  exact Option.some_inj.mp (hs.symm.trans hs')

lemma Booked.flight_eq {p' : PassengerId} {f' : FlightId} (hlinked : b.Linked)
    (h : b.Booked p s f) (h' : b.Booked p' s f') : f = f' := by
  have hon : ∀ {p f}, b.Booked p s f → b.SeatOn s f := by
    rintro p f ⟨i, c, hc, -, rfl, hs⟩
    obtain ⟨s', seat, hs', hseat, hf⟩ := hlinked.seatOf i c hc
    obtain rfl : s' = s := Option.some_inj.mp (hs'.symm.trans hs)
    exact ⟨seat, hseat, hf⟩
  obtain ⟨seat, hseat, rfl⟩ := hon h
  obtain ⟨seat', hseat', rfl⟩ := hon h'
  rw [Option.some_inj.mp (hseat.symm.trans hseat')]

/-- Nobody who has booked a seat of the flight gets another check-in on it. -/
lemma Acquirable.not_booked {seat : Seat} {c : CheckIn} (h : b.Acquirable s seat c) :
    ¬ b.Booked c.passengerId s' c.flightId := by
  rintro ⟨i, d, hd, hp, hf, -⟩
  exact h.unique i d hd ⟨hp, hf⟩

lemma Acquirable.booked {seat : Seat} {c : CheckIn} {t : Time} (h : b.Acquirable s seat c) :
    (b.acquired s seat c t).Booked c.passengerId s c.flightId :=
  ⟨c.id, c, Function.update_self .., rfl, rfl, h.seatId⟩

end Bookings

/-! ## The shape of a release -/

section Shape

open HoldExpiryService

variable {σ : Type} {C : SkyContract σ} {x : σ}

/-- Before a release has written anything, it only reads. -/
lemma meets_releaseSeat (hidle : ∀ a x, a.idle = true → (act a).Meets C x)
    (hrelease : ∀ seat x, (do
      let updateResult ← release seat
      if updateResult then afterRelease seat else return false : Program Bool).Meets C x)
    (s : SeatId) : (releaseSeat s).Meets C x := by
  refine .andThen (hidle (.acquireLock _) _ rfl) fun r _ => ?_
  cases r with
  | error e => trivial
  | ok _ =>
      refine .tryFinally ?_ fun _ => hidle (.releaseLock _) _ rfl
      refine .bind (hidle _ _ rfl) fun found _ => ?_
      cases found with
      | none => trivial
      | some seat =>
          show Prog.Meets _ (if _ then _ else _) _
          split
          · trivial
          refine .bind (hidle _ _ rfl) fun now _ => ?_
          show Prog.Meets _ (if _ then _ else _) _
          split
          · trivial
          · exact hrelease seat _

lemma meets_sweepExpiredHolds (hidle : ∀ a x, a.idle = true → (act a).Meets C x)
    (hrelease : ∀ s x, (releaseSeat s).Meets C x) : sweepExpiredHolds.Meets C x := by
  refine .bind (hidle _ _ rfl) fun now _ => .bind (hidle _ _ rfl) fun seats _ => ?_
  refine Prog.wp_forEach (F := fun _ => True) (fun seat _ x _ => ?_) trivial
  exact Prog.Meets.bind (hrelease seat.id x) fun _ _ => trivial

end Shape

/-! ## Writes to entries that run alone -/

/-- Every call for itself: nobody else writes to the waitlist while it is suspended. -/
def saving (cfg : Settings) : Protocol (skyHigh cfg) where
  admits _ _ _ := True
  inv _ := True
  rely _ w w' := w'.db.queue = w.db.queue
  guar _ a w _ _ := ∀ entry, a = .saveWaitlist entry → w.db.queue.Expects entry.id entry.status

lemma saving_lawful (cfg : Settings) : (saving cfg).Lawful where
  rely_refl _ _ _ := rfl
  rely_trans _ _ _ _ h h' := h'.trans h
  inv_step _ _ _ _ _ _ _ _ := trivial
  inv_tick _ _ _ := trivial
  rely_tick _ _ _ _ := rfl

section Walks

open HoldExpiryService

variable {cfg : Settings} {call : Call} {w : World} {α : Type}

/-- The action does not save an entry. -/
def Action.saveless : Action → Bool
  | .saveWaitlist _ => false
  | _ => true

lemma saving_saveless {p : Program α} (hp : p.All fun a => a.saveless = true) :
    p.Meets ((saving cfg).contract call) w := by
  refine .of_guar (fun a _ _ _ ha _ _ => ?_) hp
  rintro entry rfl
  cases ha

lemma saving_act {a : Action} (ha : a.saveless = true) :
    (act a).Meets ((saving cfg).contract call) w :=
  saving_saveless (Prog.all_perform ha)

/-- An entry that is read before it is saved. -/
lemma saving_read {q : WaitlistWhere} {k : Option Waitlist → Program α}
    (hk : ∀ found w', (∀ e, found = some e → w'.db.queue e.id = some e ∧
      ∀ st ∈ q.status, e.status = st) → (k found).Meets ((saving cfg).contract call) w') :
    (findOneWaitlist q >>= k).Meets ((saving cfg).contract call) w := by
  refine .bind_perform (F := fun _ => True) (fun _ _ _ h => h) trivial (fun w₁ r w₂ _ _ he => ?_) hk
  obtain ⟨ch, -, he⟩ := he
  refine ⟨nofun, ?_⟩
  rintro _ rfl e rfl
  obtain ⟨rfl, hrow, -, -, -, hst⟩ := exec_findOneWaitlist he
  exact ⟨hrow, hst⟩

/-- An entry that is saved as it has been read, with its next status. -/
lemma saving_saveWaitlist {e : Waitlist} {st : WaitlistStatus} (he : w.db.queue e.id = some e)
    (hst : e.status = st.before) :
    (saveWaitlist { e with status := st }).Meets ((saving cfg).contract call) w := by
  intro w₁ hw₁ _ r w₂ _
  refine ⟨?_, trivial⟩
  rintro _ ⟨⟩ row hrow
  have hw₁ : w₁.db.queue = w.db.queue := hw₁
  rw [hw₁] at hrow
  obtain rfl : e = row := Option.some_inj.mp (he.symm.trans hrow)
  exact .inl hst

lemma saving_afterRelease (seat : Seat) :
    (afterRelease seat).Meets ((saving cfg).contract call) w := by
  have hmark : (markWaitlistEntryExpired seat.flightId seat.heldBy).Meets
      ((saving cfg).contract call) w := by
    unfold markWaitlistEntryExpired
    split
    · trivial
    · refine saving_read fun found w' hfound => ?_
      cases found with
      | none => trivial
      | some e =>
          obtain ⟨he, hst⟩ := hfound e rfl
          exact saving_saveWaitlist he (hst _ rfl)
  refine hmark.bind fun _ _ => saving_saveless ?_
  refine Prog.all_bind (Prog.all_perform rfl) fun _ => ?_
  exact Prog.all_bind (Prog.all_perform rfl) fun _ => trivial

lemma Action.saveless_of_idle {a : Action} (h : a.idle = true) : a.saveless = true := by
  cases a with
  | saveWaitlist => cases h
  | _ => rfl

lemma saving_releaseSeat (s : SeatId) :
    (releaseSeat s).Meets ((saving cfg).contract call) w := by
  refine meets_releaseSeat (fun a _ ha => saving_act (Action.saveless_of_idle ha))
    (fun seat _ => ?_) s
  refine .bind (saving_act rfl) fun affected _ => ?_
  show Prog.Meets _ (if _ then _ else _) _
  split
  · exact saving_afterRelease seat
  · trivial

lemma saving_leaveWaitlist (i : WaitlistId) (p : PassengerId) :
    (WaitlistService.leaveWaitlist i p).Meets ((saving cfg).contract call) w := by
  refine saving_read fun found w' hfound => ?_
  cases found with
  | none => trivial
  | some e =>
      refine Prog.wp_bind (Prog.wp_throwWhen (fun _ => trivial) fun hst => ?_)
      refine Prog.Meets.bind (saving_saveWaitlist (hfound e rfl).1 ?_) fun _ _ => trivial
      exact not_not.mp hst

/-- **Every call that runs alone saves what it has read**, with its next status. -/
theorem saving_program (call : Call) (w : World) :
    (call.program cfg).Meets ((saving cfg).contract call) w := by
  cases call with
  | handleHoldExpired s => exact .map ((saving_releaseSeat s).bind fun _ _ => trivial)
  | releaseSeat s => exact .map (saving_releaseSeat s)
  | sweepExpiredHolds =>
      exact .map (meets_sweepExpiredHolds
        (fun a _ ha => saving_act (Action.saveless_of_idle ha)) fun s _ => saving_releaseSeat s)
  | leaveWaitlist i p => exact .map (saving_leaveWaitlist i p)
  | _ =>
      refine saving_saveless ((Call.all_uses cfg _).mono fun a ha => ?_)
      cases a with
      | saveWaitlist => cases ha
      | _ => rfl

end Walks

/-! ## Entries and their assignments -/

section Runs

variable {cfg : Settings} {w : World} {ts us : List SkyTransition} {c c' : SkyConfig}

/-- In a sequential run, an entry that is saved has the status that its call has read, or has the
new one already. -/
lemma run_expects (h : (skyHigh cfg).Run (.init w) ts c) (hseq : Sequential ts) :
    ∀ t ∈ ts, ∀ snap, requeued? t = some (.saveWaitlist snap) →
      t.pre.state.db.queue.Expects snap.id snap.status := by
  intro t ht snap hre
  obtain ⟨k, ch, call, cont, hl, hk⟩ := next_of_requeued? hre
  have hguar := h.sound_of_sequential (saving_lawful cfg) (fun call w _ => saving_program call w)
    trivial hseq (fun _ _ _ _ _ _ _ _ _ => trivial) t ht
  exact hguar k ch hl call _ cont hk snap rfl

/-- A committed assignment inserts a check-in of the passenger, who had none on the flight. -/
lemma Justified.assign {t : SkyTransition} (ht : Justified cfg t) {entry : Waitlist} {seat : Seat}
    {f : FlightId} {heldAt : Time} (hc : committed? t = some (.assign entry seat f heldAt)) :
    t.post.state.db.bookings.Booked entry.passengerId seat.id f ∧
      ∀ s, ¬ t.pre.state.db.bookings.Booked entry.passengerId s f := by
  cases ht.effect with
  | quiet hnone _ => cases hnone.symm.trans hc
  | commit hc' _ hwrite _ =>
      obtain rfl := Option.some_inj.mp (hc'.symm.trans hc)
      generalize t.post.state.db.bookings = b' at hwrite
      cases hwrite with
      | assign hacq hp hf => exact hp ▸ hf ▸ ⟨hacq.booked, fun s => hacq.not_booked⟩

/-- The entries that have been assigned a seat are those that are ASSIGNED or EXPIRED, and the
passenger of such an entry has booked the seat. -/
structure Assignments (ts : List SkyTransition) (db : Database) : Prop where
  served : ∀ i s, AssignedIn ts i s → ∃ e, db.queue i = some e ∧ e.Served ∧
    db.bookings.Booked e.passengerId s e.flightId
  origin : ∀ i e, db.queue i = some e → e.Served → ∃ s, AssignedIn ts i s

/-- A transition without an assignment keeps the entries that have been assigned a seat. -/
lemma Assignments.keep {t : SkyTransition} {db db' : Database} (h : Assignments ts db)
    (hbookings : db.bookings.Evolves db'.bookings)
    (hnone : ∀ entry seat f heldAt, committed? t ≠ some (.assign entry seat f heldAt))
    (hforward : ∀ i e, db.queue i = some e → e.Served →
      ∃ e', db'.queue i = some e' ∧ e'.Served ∧ e.SameEntry e')
    (hbackward : ∀ i e', db'.queue i = some e' → e'.Served → ∃ e, db.queue i = some e ∧ e.Served) :
    Assignments (ts ++ [t]) db' where
  served i s hassigned := by
    rcases hassigned.concat with hassigned | ⟨entry, seat, f, heldAt, hc, -⟩
    · obtain ⟨e, he, hserved, hbooked⟩ := h.served i s hassigned
      obtain ⟨e', he', hserved', hf, hp, -⟩ := hforward i e he hserved
      exact ⟨e', he', hserved', hp ▸ hf ▸ hbooked.evolves hbookings⟩
    · exact absurd hc (hnone entry seat f heldAt)
  origin i e' he' hserved' := by
    obtain ⟨e, he, hserved⟩ := hbackward i e' he' hserved'
    obtain ⟨s, hassigned⟩ := h.origin i e he hserved
    exact ⟨s, hassigned.mono (List.subset_append_left _ _)⟩

/-- An entry is written that is served if it has been. -/
lemma Assignments.update {t : SkyTransition} {db db' : Database} {i : WaitlistId} {e' : Waitlist}
    (h : Assignments ts db) (hbookings : db.bookings.Evolves db'.bookings)
    (hnone : ∀ entry seat f heldAt, committed? t ≠ some (.assign entry seat f heldAt))
    (hqueue : db'.queue = Function.update db.queue i (some e'))
    (hforward : ∀ e, db.queue i = some e → e.SameEntry e' ∧ (e.Served → e'.Served))
    (hbackward : e'.Served → ∃ e, db.queue i = some e ∧ e.Served) :
    Assignments (ts ++ [t]) db' := by
  refine h.keep hbookings hnone (fun j d hd hserved => ?_) fun j d' hd' hserved' => ?_
  · by_cases hj : j = i
    · subst hj
      obtain ⟨hsame, hkeeps⟩ := hforward d hd
      exact ⟨e', by rw [hqueue, Function.update_self], hkeeps hserved, hsame⟩
    · exact ⟨d, by rw [hqueue, Function.update_of_ne hj, hd], hserved, .rfl⟩
  · rw [hqueue] at hd'
    rcases Bookings.update_eq_some_iff.mp hd' with ⟨rfl, rfl⟩ | ⟨-, hd'⟩
    · exact hbackward hserved'
    · exact ⟨d', hd', hserved'⟩

/-- An entry that has been saved as it was read is served if it was. -/
lemma served_marked_iff {q : Queue} {i : WaitlistId} {st : WaitlistStatus} {e : Waitlist}
    (hexpects : q.Expects i st) (hst : st = .cancelled ∨ st = .expired) (he : q i = some e) :
    ({ e with status := st } : Waitlist).Served ↔ e.Served := by
  rcases hst with rfl | rfl <;> rcases hexpects e he with hbefore | hbefore <;>
    simp [Waitlist.Served, hbefore, WaitlistStatus.before]

lemma Waitlist.not_served {e : Waitlist} (h : e.status = .waiting) : ¬ e.Served := by
  rintro (hassigned | hexpired)
  · cases h.symm.trans hassigned
  · cases h.symm.trans hexpired

/-- A WAITING entry is assigned a seat, which its passenger has booked from now on. -/
lemma Assignments.assigned {t : SkyTransition} {db db' : Database} {e : Waitlist} {seat : Seat}
    {heldAt : Time} (h : Assignments ts db) (hbookings : db.bookings.Evolves db'.bookings)
    (hc : committed? t = some (.assign e seat e.flightId heldAt)) (he : db.queue e.id = some e)
    (hwaiting : e.status = .waiting) (hqueue : db'.queue = db.queue.marked e.id e .assigned)
    (hbooked : db'.bookings.Booked e.passengerId seat.id e.flightId) :
    Assignments (ts ++ [t]) db' := by
  have hassigned : AssignedIn (ts ++ [t]) e.id seat.id :=
    ⟨t, List.mem_append_right _ List.mem_cons_self, e, seat, _, heldAt, hc, rfl, rfl⟩
  constructor
  · intro i s hin
    rw [hqueue]
    rcases hin.concat with hin | ⟨entry, seat', f', heldAt', hc', rfl, rfl⟩
    · obtain ⟨d, hd, hserved, hbooked⟩ := h.served i s hin
      have hne : i ≠ e.id := by
        rintro rfl
        rw [Option.some_inj.mp (hd.symm.trans he)] at hserved
        exact Waitlist.not_served hwaiting hserved
      exact ⟨d, (Function.update_of_ne hne ..).trans hd, hserved, hbooked.evolves hbookings⟩
    · cases Option.some_inj.mp (hc.symm.trans hc')
      exact ⟨_, Function.update_self .., .inl rfl, hbooked⟩
  · intro i d' hd' hserved'
    rw [hqueue] at hd'
    rcases Bookings.update_eq_some_iff.mp hd' with ⟨rfl, -⟩ | ⟨-, hd'⟩
    · exact ⟨seat.id, hassigned⟩
    · obtain ⟨s, hin⟩ := h.origin i d' hd' hserved'
      exact ⟨s, hin.mono (List.subset_append_left _ _)⟩

lemma assignments_nil {db : Database} (h : ∀ i, db.queue i = none) : Assignments [] db := by
  constructor
  · intro i s hin
    obtain ⟨t, ht, -⟩ := hin
    exact absurd ht List.not_mem_nil
  · intro i e he
    cases (h i).symm.trans he

/-- **In a sequential run, an entry is ASSIGNED or EXPIRED exactly if it has been assigned a
seat.** -/
theorem run_assignments (hw : w.Seeded) (h : (skyHigh cfg).Run (.init w) ts c)
    (hseq : Sequential ts) : Assignments ts c.state.db := by
  induction h with
  | nil =>
      apply assignments_nil
      intro i
      simp [Config.init, Database.queue, hw.waitlist]
  | @snoc ts c l c' hrun hstep ih =>
      have ih := ih fun t ht => hseq t (List.mem_append_left _ ht)
      have hmem : (⟨c, l, c'⟩ : SkyTransition) ∈ ts ++ [⟨c, l, c'⟩] := by simp
      have hjust : Justified cfg ⟨c, l, c'⟩ := run_justified hw (hrun.snoc hstep) _ hmem
      have hevolves := hjust.progress.bookings
      have hno : ∀ {a : Action}, requeued? (⟨c, l, c'⟩ : SkyTransition) = some a →
          (∀ entry seat f heldAt, a ≠ .assign entry seat f heldAt) →
          ∀ entry seat f heldAt, committed? (⟨c, l, c'⟩ : SkyTransition) ≠
            some (.assign entry seat f heldAt) := by
        intro a ha hne entry seat f heldAt hc
        exact hne entry seat f heldAt
          (Option.some_inj.mp (ha.symm.trans (requeued?_assign_iff.mpr hc)))
      cases step_requeues hw hrun hstep with
      | same hnone heq =>
          have hqueue : c'.state.db.queue = c.state.db.queue := congrArg Table.get? heq
          refine ih.keep hevolves (fun entry seat f heldAt hc => ?_) (fun i e he hserved => ?_)
            fun i e' he' hserved' => ?_
          · cases hnone.symm.trans (requeued?_assign_iff.mpr hc)
          · exact ⟨e, hqueue ▸ he, hserved, .rfl⟩
          · exact ⟨e', hqueue ▸ he', hserved'⟩
      | @write a hsome hwarrant hwrite =>
          generalize hq : c'.state.db.queue = q' at hwrite
          cases hwrite with
          | @save snap e he _ =>
              have hiff := served_marked_iff (run_expects (hrun.snoc hstep) hseq _ hmem snap hsome)
                hwarrant.2 he
              refine ih.update hevolves (hno hsome fun _ _ _ _ h => by cases h) hq (fun d hd => ?_)
                fun hserved => ⟨e, he, hiff.mp hserved⟩
              rw [← Option.some_inj.mp (he.symm.trans hd)]
              exact ⟨.rfl, hiff.mpr⟩
          | @insert f p n e hfresh _ _ _ hst _ =>
              refine ih.update hevolves (hno hsome fun _ _ _ _ h => by cases h) hq (fun d hd => ?_)
                fun hserved => absurd hserved (Waitlist.not_served hst)
              cases hfresh.symm.trans hd
          | @assign snap seat f heldAt e he _ =>
              have hc := requeued?_assign_iff.mp hsome
              obtain ⟨hsnap, hwaiting⟩ := run_current hw (hrun.snoc hstep) hseq _ hmem _ hc
              obtain rfl : snap = e := Option.some_inj.mp (hsnap.symm.trans he)
              obtain rfl : snap.flightId = f := hwarrant.2.2
              exact ih.assigned hevolves hc he hwaiting hq (hjust.assign hc).1

end Runs

/-! ## Expired entries and released holds -/

/-- The flight and the passenger of the hold that a call has released last: it expires the entry of
no other. -/
def expiryMonitor : Monitor Action Action.Res AppException (Option (FlightId × PassengerId)) where
  start := none
  allows hold a := ∀ entry, a = .saveWaitlist entry → entry.status = .expired →
    hold = some (entry.flightId, entry.passengerId)
  next hold a r := match a with
    | .release seat =>
        if Action.committed (.release seat) r then seat.heldBy.map fun p => (seat.flightId, p)
        else hold
    | _ => hold
  final _ := True

section Walks

open HoldExpiryService

variable {cfg : Settings} {hold : Option (FlightId × PassengerId)} {α : Type}

/-- The call obeys the monitor from the hold on that it has released. -/
abbrev ObeysExpiry (cfg : Settings) (p : Program α) (hold : Option (FlightId × PassengerId)) :
    Prop :=
  p.Meets (expiryMonitor.contract (skyHigh cfg)) hold

/-- A program that expires no entry. -/
lemma obeysExpiry_of_all {p : Program α}
    (hp : p.All fun a => ∀ entry, a = .saveWaitlist entry → entry.status ≠ .expired) :
    ObeysExpiry cfg p hold :=
  .of_guar (fun _ _ _ _ ha _ _ entry he hst => absurd hst (ha entry he)) hp

lemma obeysExpiry_saveless {p : Program α} (hp : p.All fun a => a.saveless = true) :
    ObeysExpiry cfg p hold := by
  refine obeysExpiry_of_all (hp.mono fun a ha => ?_)
  rintro entry rfl
  cases ha

lemma obeysExpiry_act {a : Action} (ha : a.saveless = true) : ObeysExpiry cfg (act a) hold :=
  obeysExpiry_saveless (Prog.all_perform ha)

lemma obeysExpiry_markWaitlistEntryExpired (f : FlightId) (p : Option PassengerId) :
    ObeysExpiry cfg (markWaitlistEntryExpired f p) (p.map fun p => (f, p)) := by
  cases p with
  | none => trivial
  | some p =>
      refine .bind_perform (F := fun hold => hold = some (f, p))
        (R := fun found hold => hold = some (f, p) ∧
          ∀ e, found = some e → e.flightId = f ∧ e.passengerId = p)
        (fun _ _ h hs => h ▸ hs) rfl ?_ ?_
      · rintro _ r hold' rfl - ⟨⟨ch, w, he⟩, rfl⟩
        refine ⟨nofun, ?_⟩
        rintro _ rfl
        refine ⟨rfl, ?_⟩
        rintro e rfl
        have hread : World.exec (.findOneWaitlist
            { flightId := some f, passengerId := some p, status := some .assigned }) ch w =
            (.ok (some e), _) := Prod.ext he rfl
        obtain ⟨-, -, -, hf, hp, -⟩ := exec_findOneWaitlist hread
        exact ⟨hf f rfl, hp p rfl⟩
      · rintro found _ ⟨rfl, hfound⟩
        cases found with
        | none => trivial
        | some e =>
            obtain ⟨rfl, rfl⟩ := hfound e rfl
            rintro _ rfl - r hold' -
            refine ⟨?_, trivial⟩
            rintro _ ⟨⟩ -
            rfl

lemma obeysExpiry_afterRelease (seat : Seat) :
    ObeysExpiry cfg (afterRelease seat) (seat.heldBy.map fun p => (seat.flightId, p)) := by
  refine (obeysExpiry_markWaitlistEntryExpired _ _).bind fun _ _ => ?_
  refine (obeysExpiry_act rfl).bind fun _ _ => ?_
  exact (obeysExpiry_act rfl).bind fun _ _ => trivial

lemma obeysExpiry_releaseSeat (s : SeatId) : ObeysExpiry cfg (releaseSeat s) hold := by
  refine meets_releaseSeat (fun a _ ha => obeysExpiry_act (Action.saveless_of_idle ha))
    (fun seat _ => ?_) s
  refine .bind_perform (F := fun _ => True) (R := fun (affected : Bool) hold =>
    affected = true → hold = seat.heldBy.map fun p => (seat.flightId, p))
    (fun _ _ _ h => h) trivial ?_ fun affected hold haffected => ?_
  · rintro hold₁ r hold₂ - - ⟨-, rfl⟩
    refine ⟨nofun, ?_⟩
    rintro _ rfl rfl
    rfl
  · show Prog.Meets _ (if _ then _ else _) _
    split
    · rw [haffected ‹_›]
      exact obeysExpiry_afterRelease seat
    · trivial

lemma obeysExpiry_leaveWaitlist (i : WaitlistId) (p : PassengerId) :
    ObeysExpiry cfg (WaitlistService.leaveWaitlist i p) hold := by
  refine .bind (obeysExpiry_act rfl) fun found _ => ?_
  cases found with
  | none => trivial
  | some e =>
      refine .bind (obeysExpiry_of_all Prog.all_throwWhen) fun _ _ => ?_
      refine .bind (obeysExpiry_of_all (Prog.all_perform ?_)) fun _ _ => trivial
      rintro _ ⟨⟩
      exact nofun

/-- **A call expires no other entry than that of the hold it has released.** -/
theorem obeys_expiryMonitor (call : Call) :
    expiryMonitor.Obeys (skyHigh cfg) hold ((skyHigh cfg).start call) := by
  have hsaveless : (∀ a : Action, call.uses a = true → a.saveless = true) →
      ObeysExpiry cfg (call.program cfg) hold := fun h =>
    obeysExpiry_saveless ((call.all_uses cfg).mono h)
  cases call with
  | handleHoldExpired s =>
      exact Prog.Meets.map ((obeysExpiry_releaseSeat s).bind fun _ _ => trivial)
  | releaseSeat s => exact Prog.Meets.map (obeysExpiry_releaseSeat s)
  | sweepExpiredHolds =>
      exact Prog.Meets.map (meets_sweepExpiredHolds
        (fun a _ ha => obeysExpiry_act (Action.saveless_of_idle ha))
        fun s _ => obeysExpiry_releaseSeat s)
  | leaveWaitlist i p => exact Prog.Meets.map (obeysExpiry_leaveWaitlist i p)
  | _ =>
      refine hsaveless fun a ha => ?_
      cases a with
      | saveWaitlist => cases ha
      | _ => rfl

end Walks

section Runs

variable {cfg : Settings} {w : World} {ts us : List SkyTransition} {c c' : SkyConfig}
  {f : FlightId} {p : PassengerId} {s : SeatId}

/-- The hold that the monitor has in mind has been released. -/
lemma released_of_states (h : (skyHigh cfg).Run (.init w) ts c) {k : ℕ}
    (hk : expiryMonitor.states (skyHigh cfg) (fun _ => none) ts k = some (f, p)) :
    ∃ t ∈ ts, ∃ seat, committed? t = some (.release seat) ∧ seat.flightId = f ∧
      seat.heldBy = some p := by
  induction h generalizing k with
  | nil => cases hk
  | @snoc ts c l c' hrun hstep ih =>
      have hearlier : expiryMonitor.states (skyHigh cfg) (fun _ => none) ts k = some (f, p) →
          ∃ t ∈ ts ++ [⟨c, l, c'⟩], ∃ seat, committed? t = some (.release seat) ∧
            seat.flightId = f ∧ seat.heldBy = some p := by
        intro hk
        obtain ⟨t, ht, hreleased⟩ := ih hk
        exact ⟨t, List.mem_append_left _ ht, hreleased⟩
      rw [Monitor.states_concat] at hk
      rcases (skyHigh cfg).step_cases hstep with ⟨call, rfl, rfl⟩ | ⟨ms, rfl, rfl⟩ |
        ⟨j, ch, call, a, cont, rfl, hj, rfl⟩
      · rw [Monitor.advance_invoke] at hk
        by_cases hkn : k = c.threads.length
        · rw [hkn, Function.update_self] at hk
          cases hk
        · rw [Function.update_of_ne hkn] at hk
          exact hearlier hk
      · exact hearlier hk
      · rw [Monitor.advance_act hj] at hk
        by_cases hkj : k = j
        swap
        · rw [Function.update_of_ne hkj] at hk
          exact hearlier hk
        rw [hkj, Function.update_self] at hk
        by_cases hrelease : ∃ seat, a = .release seat ∧
            Action.committed (.release seat) (World.exec (.release seat) ch c.state).1 = true
        · obtain ⟨seat, rfl, hyes⟩ := hrelease
          have hhold : (seat.heldBy.map fun q => (seat.flightId, q)) = some (f, p) := by
            rw [← hk]
            exact (if_pos hyes).symm
          obtain ⟨q, hq, hpair⟩ := Option.map_eq_some_iff.mp hhold
          obtain ⟨rfl, rfl⟩ := Prod.mk.inj hpair
          exact ⟨_, List.mem_append_right _ List.mem_cons_self, seat,
            by simp [committed?, hj, hyes], rfl, hq⟩
        · refine hearlier (hkj ▸ hk ▸ ?_)
          cases a with
          | release seat =>
              have hno := fun hyes => hrelease ⟨seat, rfl, hyes⟩
              exact (if_neg hno).symm
          | _ => rfl

/-- An entry that is EXPIRED is that of a hold that has been released. -/
lemma run_expired (hw : w.Seeded) (h : (skyHigh cfg).Run (.init w) ts c) {i : WaitlistId}
    {e : Waitlist} (he : c.state.db.queue i = some e) (hst : e.status = .expired) :
    ∃ t ∈ ts, ∃ seat, committed? t = some (.release seat) ∧ seat.flightId = e.flightId ∧
      seat.heldBy = some e.passengerId := by
  induction h generalizing e with
  | nil => simp [Config.init, Database.queue, hw.waitlist] at he
  | @snoc ts c l c' hrun hstep ih =>
      have hearlier : ∀ d, c.state.db.queue i = some d → d.status = .expired → d.SameEntry e →
          ∃ t ∈ ts ++ [⟨c, l, c'⟩], ∃ seat, committed? t = some (.release seat) ∧
            seat.flightId = e.flightId ∧ seat.heldBy = some e.passengerId := by
        intro d hd hexpired hsame
        obtain ⟨t, ht, seat, hc, hflight, hholder⟩ := ih hd hexpired
        exact ⟨t, List.mem_append_left _ ht, seat, hc, hflight.trans hsame.1.symm,
          hsame.2.1 ▸ hholder⟩
      cases step_requeues hw hrun hstep with
      | same _ heq =>
          have hqueue : c'.state.db.queue = c.state.db.queue := congrArg Table.get? heq
          exact hearlier e (hqueue ▸ he) hst .rfl
      | @write a hsome hwarrant hwrite =>
          generalize c'.state.db.queue = q' at hwrite he
          cases hwrite with
          | @assign snap seat f heldAt d hd _ =>
              rcases Bookings.update_eq_some_iff.mp he with ⟨-, rfl⟩ | ⟨-, he⟩
              · cases hst
              · exact hearlier e he hst .rfl
          | @insert f p n d _ _ _ _ hwaiting _ =>
              rcases Bookings.update_eq_some_iff.mp he with ⟨-, rfl⟩ | ⟨-, he⟩
              · cases hwaiting.symm.trans hst
              · exact hearlier e he hst .rfl
          | @save snap d hd hsame =>
              rcases Bookings.update_eq_some_iff.mp he with ⟨rfl, rfl⟩ | ⟨-, he⟩
              swap
              · exact hearlier e he hst .rfl
              -- the call that expires the entry has released the hold of its passenger
              obtain ⟨k, ch, call, cont, -, hk⟩ := next_of_requeued? hsome
              have htracked : expiryMonitor.Tracked (skyHigh cfg) c
                  (expiryMonitor.states (skyHigh cfg) (fun _ => none) ts) :=
                Monitor.run_tracked hrun (.init w) fun _ _ call _ => obeys_expiryMonitor call
              have hhold := (htracked.act hk ch).1 snap rfl hst
              obtain ⟨t, ht, seat, hc, hflight, hholder⟩ := released_of_states hrun hhold
              exact ⟨t, List.mem_append_left _ ht, seat, hc, hflight.trans hsame.1.symm,
                hsame.2.1 ▸ hholder⟩

/-- A released seat has been held by the passenger, who has booked it and does not hold it again. -/
lemma run_released (hw : w.Seeded) (h : (skyHigh cfg).Run (.init w) ts c) {t : SkyTransition}
    (ht : t ∈ ts) {seat : Seat} (hc : committed? t = some (.release seat))
    (hp : seat.heldBy = some p) :
    (∃ row, t.pre.state.db.bookings.seat seat.id = some row ∧ row.heldBy = some p ∧
      row.flightId = seat.flightId) ∧
    c.state.db.bookings.Booked p seat.id seat.flightId ∧
    ∀ row, c.state.db.bookings.seat seat.id = some row → row.heldBy ≠ some p := by
  obtain ⟨us, vs, rfl, hpre, hstep, hpost⟩ := h.mem_split ht
  have hjust := run_justified hw h t ht
  cases hjust.effect with
  | quiet hnone _ => cases hnone.symm.trans hc
  | commit hc' hhold hwrite _ =>
      obtain rfl := Option.some_inj.mp (hc'.symm.trans hc)
      obtain ⟨q, held, hhold, -⟩ := hhold
      obtain ⟨row, hrow, hflight, -⟩ := hhold.row
      generalize hb : t.post.state.db.bookings = b' at hwrite
      cases hwrite with
      | @release _ row' _ hrow' _ howner hsnap =>
          obtain rfl : row = row' := Option.some_inj.mp (hrow.symm.trans hrow')
          obtain rfl : p = _ := Option.some_inj.mp (hp.symm.trans hsnap)
          obtain ⟨i, d, hd, hdp, hdf, hds⟩ := hjust.linked.holder _ row p hrow howner
          have hlater := (run_progress hw (hpre.snoc hstep) hpost).bookings
          have hbooked : t.post.state.db.bookings.Booked p seat.id seat.flightId :=
            .evolves hjust.progress.bookings ⟨i, d, hd, hdp, hdf.trans hflight, hds⟩
          refine ⟨⟨row, hrow, howner, hflight⟩, hbooked.evolves hlater,
            fun row₁ hrow₁ hholder => ?_⟩
          have hon : c.state.db.bookings.SeatOn seat.id seat.flightId :=
            .evolves (hjust.progress.bookings.trans hlater) ⟨row, hrow, hflight⟩
          obtain ⟨row₂, hrow₂, hflight₂⟩ := hon
          obtain rfl : row₁ = row₂ := Option.some_inj.mp (hrow₁.symm.trans hrow₂)
          -- whoever has booked the seat has held it ever since, but it has been freed
          obtain ⟨i', d', hd', hdp', hdf', -⟩ := hbooked
          obtain ⟨row₃, hrow₃, hholder₃, -⟩ := hlater.hold seat.id row₁ p hrow₁ hholder
            ⟨i', d', hd', hdp', hdf'.trans hflight₂.symm⟩
          rw [hb] at hrow₃
          rcases Bookings.update_eq_some_iff.mp hrow₃ with ⟨-, rfl⟩ | ⟨hne, -⟩
          · cases hholder₃
          · exact hne rfl

/-- **An expired entry has been assigned a seat, and its passenger's hold on that seat has been
released.** -/
theorem run_expired_assigned (hw : w.Seeded) (h : (skyHigh cfg).Run (.init w) ts c)
    (hseq : Sequential ts) {i : WaitlistId} {e : Waitlist} (he : c.state.db.queue i = some e)
    (hst : e.status = .expired) : ∃ s, AssignedIn ts i s ∧ ReleasedIn ts s e.passengerId := by
  have hall := run_assignments hw h hseq
  obtain ⟨s, hassigned⟩ := hall.origin i e he (.inr hst)
  obtain ⟨e', he', -, hbooked⟩ := hall.served i s hassigned
  obtain rfl : e = e' := Option.some_inj.mp (he.symm.trans he')
  obtain ⟨t, ht, seat, hc, hflight, hholder⟩ := run_expired hw h he hst
  have hbooked' := (run_released hw h ht hc hholder).2.1
  rw [hflight] at hbooked'
  exact ⟨s, hassigned, t, ht, seat, hc, hbooked'.eq (run_linked hw h) hbooked, hholder⟩

/-- What is committed while a call runs alone is an action of that call. -/
lemma uses_of_solo {call : Call} {r : Except AppException Reply} {vs : List SkyTransition}
    (h : (skyHigh cfg).Run (.init w) ts c) (hsolo : (skyHigh cfg).Solo c call vs r c')
    {t : SkyTransition} (ht : t ∈ vs) {a : Action} (hc : committed? t = some a) :
    call.uses a = true := by
  obtain ⟨k, ch, call', cont, hl, hk⟩ := next_of_committed? hc
  obtain ⟨us, th, hpre, hsub, hth, hrunning, -⟩ := hsolo.run.before_act ht hl
  have honly := hpre.only (fun t ht => hsolo.closed t (hsub ht)) (hsolo.quiet.only _)
  obtain rfl := honly k th hth hrunning
  obtain ⟨q, hq⟩ := hpre.thread List.getElem?_concat_length
  obtain ⟨rfl, -⟩ : call = call' ∧ q = .act a cont := by
    simpa using Option.some_inj.mp (hq.symm.trans hk)
  have hstep : (skyHigh cfg).step (.invoke call) c =
      some { c with threads := c.threads ++ [⟨call, call.program cfg⟩] } := rfl
  exact (((h.snoc hstep).append hpre).all (P := fun call a => call.uses a = true)
    (Call.all_uses cfg) _ (List.mem_of_getElem? hk)).1

/-- Whoever has booked a seat of the flight and has no ASSIGNED entry on it gets none any more. -/
lemma run_unassigned (hw : w.Seeded) (h : (skyHigh cfg).Run (.init w) ts c)
    (hrun : (skyHigh cfg).Run c us c') (hbooked : c.state.db.bookings.Booked p s f)
    (hnone : c.state.db.queue.Unassigned f p) : c'.state.db.queue.Unassigned f p := by
  induction hrun with
  | nil => exact hnone
  | @snoc us c₁ l c₂ hrun hstep ih =>
      have hjust : Justified cfg ⟨c₁, l, c₂⟩ :=
        run_justified hw ((h.append hrun).snoc hstep) _ (by simp)
      intro i e he hf hp hst
      cases step_requeues hw (h.append hrun) hstep with
      | same _ heq =>
          have hqueue : c₂.state.db.queue = c₁.state.db.queue := congrArg Table.get? heq
          exact ih i e (hqueue ▸ he) hf hp hst
      | @write a hsome hwarrant hwrite =>
          generalize c₂.state.db.queue = q' at hwrite he
          cases hwrite with
          | @save snap d _ _ =>
              rcases Bookings.update_eq_some_iff.mp he with ⟨-, rfl⟩ | ⟨-, he⟩
              · rcases hwarrant.2 with hcancelled | hexpired
                · cases hcancelled.symm.trans hst
                · cases hexpired.symm.trans hst
              · exact ih i e he hf hp hst
          | @insert _ _ _ d _ _ _ _ hwaiting _ =>
              rcases Bookings.update_eq_some_iff.mp he with ⟨-, rfl⟩ | ⟨-, he⟩
              · cases hwaiting.symm.trans hst
              · exact ih i e he hf hp hst
          | @assign snap seat f' heldAt d hd hsame =>
              rcases Bookings.update_eq_some_iff.mp he with ⟨-, rfl⟩ | ⟨-, he⟩
              · -- nobody is assigned a second seat of the flight
                have hfree := (hjust.assign (requeued?_assign_iff.mp hsome)).2 s
                have hbooked₁ := hbooked.evolves (run_progress hw h hrun).bookings
                obtain rfl : snap.flightId = f' := hwarrant.2.2
                rw [← hsame.1, ← hsame.2.1, hf, hp] at hfree
                exact hfree hbooked₁
              · exact ih i e he hf hp hst

/-- **A hold that has been released leaves no ASSIGNED entry behind**, if the call that has released
it has returned. -/
lemma run_releasedIn (hw : w.Seeded) (h : (skyHigh cfg).Run (.init w) ts c) (hseq : Sequential ts)
    (hquiet : c.quiescent) (hreturned : ReleasesReturned ts c) (hin : ReleasedIn ts s p)
    (hbooked : c.state.db.bookings.Booked p s f) : c.state.db.queue.Unassigned f p := by
  obtain ⟨t, ht, seat, hc, rfl, hp⟩ := hin
  obtain rfl : seat.flightId = f :=
    (run_released hw h ht hc hp).2.1.flight_eq (run_linked hw h) hbooked
  obtain ⟨k, ch, -, -, hl, -⟩ := next_of_committed? hc
  obtain ⟨us, vs, ws, c₁, c₂, call, r, hus, hsolo, hws, hmem, hk⟩ :=
    h.exists_solo_of_act hseq hquiet ht hl
  -- the call has returned
  obtain ⟨v, rfl⟩ : ∃ v, r = .ok v := by
    obtain ⟨v, hv⟩ := hreturned t ht k ch seat hl hc
    obtain ⟨call', hend⟩ := outcome?_eq_some hv
    have hend' := hws.ended_stays hsolo.done rfl
    rw [hk, hend] at hend'
    cases hend'
    exact ⟨v, rfl⟩
  have hclears := clears_of_solo (run_linked hw hus) (run_sole hw hus)
    (uses_of_solo hus hsolo hmem hc) hsolo
  -- what the passenger has booked and held when the seat was released is from before the call
  have hstep : (skyHigh cfg).step (.invoke call) c₁ =
      some { c₁ with threads := c₁.threads ++ [⟨call, call.program cfg⟩] } := rfl
  have hrun₁ := hus.snoc hstep
  have hrun₂ := hrun₁.append hsolo.run
  obtain ⟨⟨row, hrow, hholder, hflight⟩, hbooked₂, hfreed⟩ :=
    run_released hw hrun₂ (List.mem_append_right _ hmem) hc hp
  obtain ⟨us', vs', -, hpre, -, -⟩ := hsolo.run.mem_split hmem
  have ⟨i, d', hd', hdp', hdf', _⟩ := hbooked₂
  obtain ⟨d, hd, hsame⟩ := hclears.checkIn i d' hd'
  have hevolves := (run_progress hw hrun₁ hpre).bookings
  obtain ⟨row₁, hrow₁, hholder₁, -⟩ := hevolves.hold seat.id row p hrow hholder
    ⟨i, d, hd, hsame.1.symm.trans hdp', (hsame.2.1.symm.trans hdf').trans hflight.symm⟩
  have hflight₁ : row₁.flightId = seat.flightId := by
    obtain ⟨row', hrow', hsame'⟩ := hevolves.seat seat.id row₁ hrow₁
    obtain rfl : row = row' := Option.some_inj.mp (hrow.symm.trans hrow')
    exact hsame'.symm.trans hflight
  rcases hclears.seat seat.id row₁ p hrow₁ hholder₁ with hrow₂ | hnone
  · exact absurd hholder₁ (hfreed row₁ hrow₂)
  rw [hflight₁] at hnone
  exact run_unassigned hw hrun₂ hws hbooked₂ hnone

/-- **Which entries are expired.**  After complete operations whose releases have returned, an entry
is EXPIRED exactly if it has been assigned a seat and its passenger's hold on that seat has been
released. -/
theorem run_expired_iff (hw : w.Seeded) (h : (skyHigh cfg).Run (.init w) ts c)
    (hseq : Sequential ts) (hquiet : c.quiescent) (hreturned : ReleasesReturned ts c)
    {i : WaitlistId} {e : Waitlist} (he : c.state.db.queue i = some e) :
    e.status = .expired ↔ ∃ s, AssignedIn ts i s ∧ ReleasedIn ts s e.passengerId := by
  refine ⟨run_expired_assigned hw h hseq he, ?_⟩
  rintro ⟨s, hassigned, hreleased⟩
  obtain ⟨e', he', hserved, hbooked⟩ := (run_assignments hw h hseq).served i s hassigned
  obtain rfl : e = e' := Option.some_inj.mp (he.symm.trans he')
  refine hserved.resolve_left ?_
  exact run_releasedIn hw h hseq hquiet hreturned hreleased hbooked i e he rfl rfl

end Runs

end SkyHighCore
