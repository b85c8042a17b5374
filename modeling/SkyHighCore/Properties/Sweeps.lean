import SkyHighCore.Properties.ClosedBookings
import SkyHighCore.Properties.HoldKeys
import SkyHighCore.Properties.Releases

/-!
# The sweep

Two mechanisms end a hold that has run out.  The keyspace event calls `releaseSeat` when the key has
lapsed, and the sweep calls it for every seat that its query returns.  The query compares `held_at`
with a cutoff in SQL, the release compares dates in memory, and the key lapses 120 seconds after it
has been set, which is not before the seat has been held.  All three come to the same seats,
`Bookings.Stale`; and after a sweep there are none, whatever is issued next.
-/

namespace SkyHighCore

open Framework

/-! ## The query -/

/-- The rows of the seats that are stale at `t`, each once. -/
structure Bookings.Selects (b : Bookings) (t : Time) (L : List Seat) : Prop where
  nodup : (L.map Seat.id).Nodup
  row : ∀ seat ∈ L, b.seat seat.id = some seat
  mem_iff : ∀ s, s ∈ L.map Seat.id ↔ b.Stale t s

/-- The rows that meet a condition, in any order. -/
lemma selects_of_filter {db : Database} {t : Time} (r : Seat → Seat → Prop) [DecidableRel r]
    (p : Seat → Prop) [DecidablePred p]
    (hp : ∀ seat, db.bookings.seat seat.id = some seat → (p seat ↔ db.bookings.Stale t seat.id)) :
    db.bookings.Selects t ((db.seats.rows.filter fun seat => p seat).insertionSort r) := by
  have hmem : ∀ seat, seat ∈ (db.seats.rows.filter fun seat => p seat).insertionSort r ↔
      db.bookings.seat seat.id = some seat ∧ db.bookings.Stale t seat.id := by
    intro seat
    rw [List.mem_insertionSort, List.mem_filter, Table.mem_rows_iff, decide_eq_true_eq]
    exact and_congr_right fun hseat => hp seat hseat
  refine ⟨?_, fun seat h => ((hmem seat).mp h).1, fun s => ?_⟩
  · refine ((List.perm_insertionSort r _).map Seat.id).nodup_iff.mpr ?_
    exact (List.filter_sublist.map Seat.id).nodup db.seats.nodup
  · rw [List.mem_map]
    constructor
    · rintro ⟨seat, h, rfl⟩
      exact ((hmem seat).mp h).2
    · intro hstale
      have ⟨seat, h, hseat, hrest⟩ := hstale
      obtain rfl : seat.id = s := Table.key_of_get? hseat
      exact ⟨seat, (hmem seat).mpr ⟨hseat, hstale⟩, rfl⟩

lemma World.exec_findStaleSeats {t : Time} {ch : Choice} {w : World} (hch : ch.fault = false) :
    ∃ L, World.exec (.findStaleSeats ((t : ℤ) - seatHoldTtl * 1000)) ch w = (.ok L, w) ∧
      w.db.bookings.Selects t L := by
  refine ⟨_, World.query_ok hch _, selects_of_filter _ _ fun seat hseat => ?_⟩
  have hcutoff : ∀ h : Time, (h : ℤ) ≤ (t : ℤ) - seatHoldTtl * 1000 ↔ h + 120 * 1000 ≤ t := by
    have harith : ∀ a b : ℕ, (a : ℤ) ≤ (b : ℤ) - 120 * 1000 ↔ a + 120 * 1000 ≤ b := by omega
    exact fun h => harith h t
  constructor
  · rintro ⟨hheld, hany⟩
    cases hat : seat.heldAt with
    | none => simp [hat] at hany
    | some h => exact ⟨seat, h, hseat, hheld, hat, (hcutoff h).mp (by simpa [hat] using hany)⟩
  · rintro ⟨seat', h, hseat', hheld, hat, hle⟩
    obtain rfl : seat = seat' := Option.some_inj.mp (hseat.symm.trans hseat')
    exact ⟨hheld, by simpa [hat] using (hcutoff h).mpr hle⟩

/-! ## The loop -/

/-- The seats have been freed one after the other, and nothing else. -/
structure World.Swept (w w' : World) (L : List Seat) : Prop where
  freed : ∀ seat ∈ L, w'.db.bookings.seat seat.id = some seat.freed
  others : ∀ s, s ∉ L.map Seat.id → w'.db.bookings.seat s = w.db.bookings.seat s
  auditLog : w'.db.auditLog = w.db.auditLog ++ L.map releaseRow
  events : w'.events =
    w.events ++ L.map fun seat => .waitlistProcess seat.flightId (some seat.id)

section Walks

open HoldExpiryService

variable {cfg : Settings} {t : Time}

lemma Bookings.Stale.mono {b : Bookings} {s : SeatId} {t' : Time} (h : b.Stale t s) (ht : t ≤ t') :
    b.Stale t' s := by
  obtain ⟨seat, held, hseat, hheld, hat, hle⟩ := h
  exact ⟨seat, held, hseat, hheld, hat, hle.trans ht⟩

/-- The loop over seats that are stale. -/
lemma wp_sweep (L : List Seat) {w : World} (hnodup : (L.map Seat.id).Nodup)
    (hrow : ∀ seat ∈ L, w.db.bookings.seat seat.id = some seat)
    (hstale : ∀ seat ∈ L, w.db.bookings.Stale t seat.id) (ht : t ≤ w.now)
    (hwf : ∀ s seat, w.db.bookings.seat s = some seat → seat.WellFormed) :
    (Prog.forEach L fun seat => do
      let _ ← releaseSeat seat.id
      return () : Program Unit).wp (unhindered cfg)
      (fun r w' => r = .ok () ∧ w.Swept w' L ∧ t ≤ w'.now) w := by
  induction L generalizing w with
  | nil => exact ⟨rfl, ⟨by simp, fun _ _ => rfl, by simp, by simp⟩, ht⟩
  | cons seat L ih =>
      rw [List.map_cons, List.nodup_cons] at hnodup
      have hseat := hrow seat List.mem_cons_self
      refine Prog.wp_bind (Prog.wp_bind (Prog.wp_mono (fun r w₁ hw₁ => ?_)
        (wp_releaseSeat_alone (hwf seat.id))))
      obtain ⟨t', ht', hnow, hdecides⟩ := hw₁
      have hstale' : w.db.bookings.Stale t' seat.id :=
        (hstale seat List.mem_cons_self).mono (ht.trans ht')
      rcases hdecides with ⟨-, rfl, seat', hseat', hreleased⟩ | ⟨hnot, -⟩
      swap
      · exact absurd hstale' hnot
      obtain rfl : seat = seat' := Option.some_inj.mp (hseat.symm.trans hseat')
      have hrows : w₁.db.bookings.seat =
          Function.update w.db.bookings.seat seat.id (some seat.freed) :=
        congrArg Bookings.seat hreleased.bookings
      have hother : ∀ s, s ≠ seat.id → w₁.db.bookings.seat s = w.db.bookings.seat s :=
        fun s hs => (congrFun hrows s).trans (Function.update_of_ne hs ..)
      have hne : ∀ d ∈ L, d.id ≠ seat.id := fun d hd heq =>
        hnodup.1 (heq ▸ List.mem_map_of_mem hd)
      -- the seats that are left are as they were
      show Prog.wp _ (Prog.forEach L _) _ w₁
      refine Prog.wp_mono (fun r w₂ hw₂ => ?_) (ih hnodup.2 (fun d hd => ?_) (fun d hd => ?_)
        ((ht.trans ht').trans hnow) fun s d hd => ?_)
      · obtain ⟨hr, hswept, hnow₂⟩ := hw₂
        refine ⟨hr, ⟨fun d hd => ?_, fun s hs => ?_, ?_, ?_⟩, hnow₂⟩
        · rcases List.mem_cons.mp hd with rfl | hd
          · rw [hswept.others _ hnodup.1, hrows, Function.update_self]
          · exact hswept.freed d hd
        · rw [List.map_cons, List.mem_cons, not_or] at hs
          rw [hswept.others s hs.2, hother s hs.1]
        · rw [hswept.auditLog, hreleased.auditLog, List.map_cons, List.append_assoc,
            List.singleton_append]
        · rw [hswept.events, hreleased.events, List.map_cons, List.append_assoc,
            List.singleton_append]
      · rw [hother _ (hne d hd)]
        exact hrow d (List.mem_cons_of_mem _ hd)
      · obtain ⟨d', h, hd', hrest⟩ := hstale d (List.mem_cons_of_mem _ hd)
        exact ⟨d', h, (hother _ (hne d hd)).trans hd', hrest⟩
      · rw [hrows] at hd
        rcases Bookings.update_eq_some_iff.mp hd with ⟨-, rfl⟩ | ⟨-, hd⟩
        · exact Bookings.wellFormed_freed seat
        · exact hwf s d hd

/-- **A sweep that runs alone and without faults.** -/
theorem wp_sweepExpiredHolds_alone {w : World}
    (hwf : ∀ s seat, w.db.bookings.seat s = some seat → seat.WellFormed) :
    sweepExpiredHolds.wp (unhindered cfg) (fun r w' => r = .ok () ∧ ∃ t L, w.now ≤ t ∧ t ≤ w'.now ∧
      w.db.bookings.Selects t L ∧ w.Swept w' L) w := by
  have hlast : (skyHigh cfg).Lasting w.SameData := w.lasting_sameData
  refine unhindered_ok (R := fun t w' => w.SameData w' ∧ w.now ≤ t ∧ t ≤ w'.now) hlast (.refl w)
    (fun ch w₁ _ hw₁ => ⟨_, _, rfl, hw₁, hw₁.now, le_rfl⟩) ?_
  rintro t w₁ ⟨hw₁, ht, htle⟩
  have hlast' : (skyHigh cfg).Lasting fun w' => w.SameData w' ∧ t ≤ w'.now :=
    fun e w' h => ⟨hlast e w' h.1, h.2.trans (Nat.le_add_right _ e)⟩
  refine unhindered_ok (R := fun L w' => (w.SameData w' ∧ t ≤ w'.now) ∧
    w.db.bookings.Selects t L) hlast' ⟨hw₁, htle⟩ (fun ch w₂ hch hw₂ => ?_) ?_
  · obtain ⟨L, he, hL⟩ := World.exec_findStaleSeats (t := t) (w := w₂) hch
    rw [hw₂.1.db] at hL
    exact ⟨L, w₂, he, hw₂, hL⟩
  rintro L w₂ ⟨⟨hw₂, hnow⟩, hL⟩
  have hb : w₂.db.bookings = w.db.bookings := congrArg _ hw₂.db
  refine Prog.wp_mono (fun r w₃ hw₃ => ?_) (wp_sweep (t := t) L hL.nodup (by rw [hb]; exact hL.row)
    (fun seat hseat => ?_) hnow (by rw [hb]; exact hwf))
  · obtain ⟨hr, hswept, hnow₃⟩ := hw₃
    refine ⟨hr, t, L, ht, hnow₃, hL, ⟨hswept.freed, fun s hs => ?_, ?_, ?_⟩⟩
    · rw [hswept.others s hs, hb]
    · rw [hswept.auditLog, hw₂.db]
    · rw [hswept.events, hw₂.events]
  · rw [hb]
    exact (hL.mem_iff _).mp (List.mem_map_of_mem hseat)

end Walks

/-! ## After a sweep -/

/-- What the action acquires is held since `t` or later. -/
def Action.AcquiresSince (t : Time) : Action → Prop
  | .holdSeat _ _ _ heldAt | .assign _ _ _ heldAt => t ≤ heldAt
  | _ => True

lemma Action.acquiresSince_of_keyless {a : Action} (h : a.keyless = true) (t : Time) :
    a.AcquiresSince t := by
  cases a with
  | holdSeat | assign => cases h
  | _ => trivial

lemma Commits.not_stale {b b' : Bookings} {a : Action} {t : Time} (h : Commits b a b')
    (ha : a.AcquiresSince t) {s : SeatId} (hs : ¬ b.Stale t s) : ¬ b'.Stale t s := by
  rintro ⟨seat', held, hseat', hheld, hat, hle⟩
  have hkept : b.seat s = some seat' → False := fun hseat =>
    hs ⟨seat', held, hseat, hheld, hat, hle⟩
  cases h with
  | holdSeat h _ _ | assign h _ _ =>
      rcases Bookings.update_eq_some_iff.mp hseat' with ⟨-, rfl⟩ | ⟨-, hseat⟩
      · have ha : t ≤ held := (Option.some_inj.mp hat) ▸ ha
        exact (Nat.lt_add_of_pos_right (by decide)).not_ge (hle.trans ha)
      · exact hkept hseat
  | release _ _ _ _ | cancel _ _ _ _ _ | complete _ _ _ _ _ =>
      rcases Bookings.update_eq_some_iff.mp hseat' with ⟨-, rfl⟩ | ⟨-, hseat⟩
      · cases hheld
      · exact hkept hseat
  | awaitPayment _ _ _ => exact hkept hseat'

/-- Every call, from an instant `t` on at which no seat is stale. -/
def sweeping (cfg : Settings) (t : Time) : Protocol (skyHigh cfg) where
  admits a _ w := a.Pre cfg w
  inv w := w.db.bookings.Linked ∧ t ≤ w.now ∧ ∀ s, ¬ w.db.bookings.Stale t s
  rely _ _ _ := True
  guar _ a _ _ _ := a.AcquiresSince t

lemma sweeping_lawful (cfg : Settings) (t : Time) : (sweeping cfg t).Lawful where
  rely_refl _ _ _ := trivial
  rely_trans _ _ _ _ _ _ := trivial
  inv_step := by
    rintro call a w r w' ⟨hlinked, ht, hfresh⟩ ⟨ch, hpre, he⟩ ha
    refine ⟨exec_linked hlinked hpre he, ht.trans (exec_progress hlinked hpre he).now, fun s => ?_⟩
    rcases exec_commits hlinked hpre he with ⟨-, hcommits, -⟩ | ⟨-, hquiet⟩
    · exact hcommits.not_stale ha (hfresh s)
    · rw [hquiet.1]
      exact hfresh s
  inv_tick e _ h := ⟨h.1, h.2.1.trans (Nat.le_add_right _ e), h.2.2⟩
  rely_tick _ _ _ _ := trivial

section Programs

variable {cfg : Settings} {t : Time} {call : Call} {w : World} {α : Type}

lemma sweeping_keep {p : Program α} (hp : p.All (Action.AcquiresSince t)) :
    p.Meets ((sweeping cfg t).contract call) w :=
  .of_guar (fun _ _ _ _ ha _ _ => ha) hp

lemma sweeping_keyless {p : Program α} (hp : Keyless p) :
    p.Meets ((sweeping cfg t).contract call) w :=
  sweeping_keep (hp.mono fun _ ha => Action.acquiresSince_of_keyless ha t)

lemma sweeping_act {a : Action} (ha : a.AcquiresSince t) :
    (act a).Meets ((sweeping cfg t).contract call) w :=
  sweeping_keep (Prog.all_perform ha)

/-- The instant of an acquisition is read off the clock. -/
lemma sweeping_dateNow {k : Time → Program α}
    (hk : ∀ heldAt w', t ≤ heldAt → (k heldAt).Meets ((sweeping cfg t).contract call) w') :
    (dateNow >>= k).Meets ((sweeping cfg t).contract call) w := by
  refine .bind_perform (F := fun _ => True) (R := fun heldAt _ => t ≤ heldAt)
    (fun _ _ _ _ => trivial) trivial ?_ hk
  rintro w₁ r w₂ - ⟨-, ht, -⟩ ⟨ch, -, he⟩
  obtain ⟨rfl, -⟩ := Prod.mk.inj he
  refine ⟨trivial, ?_⟩
  rintro _ ⟨⟩
  exact ht

lemma sweeping_startCheckIn (p : PassengerId) (dto : StartCheckInRequestDto) :
    (CheckInService.startCheckIn p dto).Meets ((sweeping cfg t).contract call) w := by
  refine .bind (sweeping_keyless (CheckInService.idle_validateFlightExists _).keyless) fun _ _ => ?_
  refine .bind (sweeping_keyless
    (CheckInService.idle_validateSeatBelongsToFlight _ _).keyless) fun _ _ => ?_
  refine .bind (sweeping_keyless
    (CheckInService.idle_validateNoActiveCheckIn _ _).keyless) fun _ _ => ?_
  refine .tryCatch ?_ fun e _ => sweeping_keyless (CheckInService.idle_countAndRethrow _ e).keyless
  refine .bind (sweeping_keyless (keyless_act rfl)) fun _ _ => ?_
  refine .tryFinally ?_ fun _ => sweeping_keyless (keyless_act rfl)
  refine .bind (sweeping_keyless (keyless_act rfl)) fun seat _ => ?_
  refine .bind (sweeping_keyless Prog.all_throwWhen) fun _ _ => ?_
  refine sweeping_dateNow fun heldAt _ hheldAt => ?_
  refine .bind (sweeping_act hheldAt) fun _ _ => sweeping_keep ?_
  exact Prog.all_bind (Prog.all_perform trivial) fun _ =>
    Prog.all_bind (Prog.all_perform trivial) fun _ => trivial

lemma sweeping_processWaitlist (f : FlightId) (s : Option SeatId) :
    (WaitlistService.processWaitlist f s).Meets ((sweeping cfg t).contract call) w := by
  refine .andThen (sweeping_keyless (p := acquireLock _) (keyless_act rfl)) fun r _ => ?_
  cases r with
  | error e => trivial
  | ok _ =>
      refine .tryFinally ?_ fun _ => sweeping_keyless (keyless_act rfl)
      refine .bind (sweeping_keyless (keyless_act rfl)) fun next _ => ?_
      cases next with
      | none => trivial
      | some entry =>
          refine .bind (sweeping_keyless (keyless_act rfl)) fun found _ => ?_
          cases found with
          | none => trivial
          | some seat =>
              refine sweeping_dateNow fun heldAt _ hheldAt => ?_
              refine .bind (sweeping_act hheldAt) fun assigned _ => ?_
              show Prog.Meets _ (if _ then _ else _) _
              split
              · refine sweeping_keep (Prog.all_bind (Prog.all_perform trivial) fun _ => ?_)
                exact Prog.all_bind (Prog.all_perform trivial) fun _ => Prog.all_perform trivial
              · trivial

/-- **No call that is issued from `t` on acquires a seat for an earlier instant.** -/
theorem sweeping_program (call : Call) (w : World) :
    (call.program cfg).Meets ((sweeping cfg t).contract call) w := by
  cases call with
  | startCheckIn p dto => exact (sweeping_startCheckIn p dto).map
  | processWaitlist f s => exact (sweeping_processWaitlist f s).map
  | _ =>
      refine sweeping_keep ((Call.all_uses cfg _).mono fun a ha => ?_)
      cases a with
      | holdSeat | assign => cases ha
      | _ => trivial

end Programs

/-! ## Runs -/

section Runs

variable {cfg : Settings} {w : World} {ts us : List SkyTransition} {c c' : SkyConfig} {t : Time}
  {s : SeatId} {p : PassengerId}

/-- The key that the acquirer of the hold has set has lapsed at `t`, by the lifetime it was
given. -/
def KeyLapsed (ts : List SkyTransition) (s : SeatId) (p : PassengerId) (t : Time) : Prop :=
  ∃ (i j k : ℕ) (t₁ t₂ : SkyTransition) (ttl : ℕ), i < j ∧ ts[i]? = some t₁ ∧ ts[j]? = some t₂ ∧
    acquirer? s p t₁ = some k ∧ executed? t₂ = some (k, .setSeatHold s p ttl) ∧
    t₂.pre.state.now + ttl * 1000 ≤ t

/-- A passenger who has booked a seat and holds it has held it ever since. -/
lemma run_heldBefore (hw : w.Seeded) (h : (skyHigh cfg).Run (.init w) ts c)
    (hrun : (skyHigh cfg).Run c us c') (hbooked : c.state.db.bookings.HasBooked p s) {seat : Seat}
    (hseat : c'.state.db.bookings.seat s = some seat) (hheld : seat.status = .held)
    (hp : seat.heldBy = some p) : c.state.db.bookings.seat s = some seat := by
  induction hrun with
  | nil => exact hseat
  | @snoc us c₁ l c₂ hrun hstep ih =>
      have hjust : Justified cfg ⟨c₁, l, c₂⟩ :=
        run_justified hw ((h.append hrun).snoc hstep) _ (by simp)
      cases hjust.effect with
      | quiet _ hquiet => exact ih (hquiet.1 ▸ hseat)
      | commit _ _ hwrite _ =>
          rcases hwrite.hold hseat hheld hp with hsame | ⟨-, _, d, hacq, rfl⟩
          · exact ih hsame
          · exact absurd (hbooked.evolves (run_progress hw h hrun).bookings)
              (hacq.not_hasBooked hjust.linked)

/-- **A hold whose key has lapsed is stale.** -/
lemma run_stale_of_keyLapsed (hw : w.Seeded) (h : (skyHigh cfg).Run (.init w) ts c)
    (hlapsed : KeyLapsed ts s p t) {seat : Seat} (hseat : c.state.db.bookings.seat s = some seat)
    (hheld : seat.status = .held) (hp : seat.heldBy = some p) :
    c.state.db.bookings.Stale t s := by
  obtain ⟨i, j, k, t₁, t₂, ttl, hij, hi, hj, hacq, hexec, hle⟩ := hlapsed
  obtain ⟨hpre, hstep, hpost⟩ := h.at_index hj
  have hrun := (System.Run.single hstep).append hpost
  have hmem : t₁ ∈ ts.take j :=
    List.mem_of_getElem? ((List.getElem?_take_of_lt hij).trans hi)
  obtain ⟨g, -, hacquired⟩ := run_acquired hw hpre
  have hbooked := (hacquired t₁ hmem s p k hacq).2
  have hseat₂ := run_heldBefore hw hpre hrun hbooked hseat hheld hp
  obtain ⟨held, hat⟩ : ∃ held, seat.heldAt = some held := by
    refine Option.ne_none_iff_exists'.mp fun hnone => ?_
    have hwf := (run_linked hw h).wellFormed s seat hseat
    exact hwf.held hheld (hwf.paired.mpr hnone)
  have hpast := (run_holdsOpen hw hpre).past s seat held hseat₂ hat
  obtain ⟨ch, call, cont, -, hk, -⟩ := executed?_eq_some hexec
  have hwarrant := (run_warrant hw hpre hk).1
  obtain rfl : ttl = seatHoldTtl := hwarrant.1
  exact ⟨seat, held, hseat, hheld, hat, (Nat.add_le_add_right hpast _).trans hle⟩

/-- **Nothing gets stale for an earlier instant.** -/
lemma run_not_stale (hw : w.Seeded) (h : (skyHigh cfg).Run (.init w) ts c) (hquiet : c.quiescent)
    (ht : t ≤ c.state.now) (hfresh : ∀ s, ¬ c.state.db.bookings.Stale t s)
    (hrun : (skyHigh cfg).Run c us c') (s : SeatId) : ¬ c'.state.db.bookings.Stale t s := by
  have hadm : ∀ x ∈ us, (sweeping cfg t).Admitted x :=
    fun x hx => run_admitted hw (h.append hrun) x (List.mem_append_right _ hx)
  exact (hrun.sound_of_quiescent (sweeping_lawful cfg t) (fun call w _ => sweeping_program call w)
    (fun _ _ _ _ _ _ _ _ _ => trivial) hquiet ⟨run_linked hw h, ht, hfresh⟩ hadm).1.2.2 s

lemma Bookings.Selects.not_stale {L : List Seat} {w w' : World}
    (hL : w.db.bookings.Selects t L) (hswept : w.Swept w' L) (s : SeatId) :
    ¬ w'.db.bookings.Stale t s := by
  rintro ⟨seat, held, hseat, hheld, hat, hle⟩
  by_cases hs : s ∈ L.map Seat.id
  · obtain ⟨seat', hmem, rfl⟩ := List.mem_map.mp hs
    rw [hswept.freed seat' hmem] at hseat
    obtain rfl := Option.some_inj.mp hseat
    cases hheld
  · rw [hswept.others s hs] at hseat
    exact hs ((hL.mem_iff s).mpr ⟨seat, held, hseat, hheld, hat, hle⟩)

/-- **The two mechanisms agree, and a sweep leaves no stale hold.**  Let no call be in flight.  For
every instant `t`, the query of the sweep returns the seats that are stale at `t`, each once.  A
release that is run alone decides by whether its seat is stale when it looks at the clock, and every
seat that is still in the hold whose key has lapsed is stale.  A sweep that is run alone frees what
is stale when it looks at the clock, seat by seat, with one row and one event for each, and no other
seat; and at no later moment of any run is there a seat that was stale then. -/
theorem sweep_agrees (hw : w.Seeded) (h : (skyHigh cfg).Run (.init w) ts c) (hquiet : c.quiescent) :
    (∀ (t : Time) ch, ch.fault = false → ∃ L,
      World.exec (.findStaleSeats ((t : ℤ) - seatHoldTtl * 1000)) ch c.state = (.ok L, c.state) ∧
        c.state.db.bookings.Selects t L) ∧
    (∀ s, Completes cfg c (.releaseSeat s) fun r w' => ∃ t, c.state.now ≤ t ∧ t ≤ w'.now ∧
      ∃ released, r = .ok (.released released) ∧
        (released = true ↔ c.state.db.bookings.Stale t s)) ∧
    (∀ s p t seat, c.state.db.bookings.seat s = some seat → seat.status = .held →
      seat.heldBy = some p → KeyLapsed ts s p t → c.state.db.bookings.Stale t s) ∧
    (∃ us r c', (skyHigh cfg).Solo c .sweepExpiredHolds us r c' ∧ ∀ x ∈ us, Faultless x) ∧
    ∀ us r c', (skyHigh cfg).Solo c .sweepExpiredHolds us r c' → (∀ x ∈ us, Faultless x) →
      r = .ok .void ∧ ∃ t L, c.state.now ≤ t ∧ t ≤ c'.state.now ∧
        c.state.db.bookings.Selects t L ∧ c.state.Swept c'.state L ∧
        ∀ vs d, (skyHigh cfg).Run c' vs d → ∀ s, ¬ d.state.db.bookings.Stale t s := by
  have hwf := (run_linked hw h).wellFormed
  have hsweep : Completes cfg c .sweepExpiredHolds fun r w' => r = .ok .void ∧
      ∃ t L, c.state.now ≤ t ∧ t ≤ w'.now ∧ c.state.db.bookings.Selects t L ∧
        c.state.Swept w' L := by
    refine completes_of_wp hquiet (fun r e w' hw' => ?_) (Prog.wp_map
      (Prog.wp_mono (fun r w' hw' => ?_) (wp_sweepExpiredHolds_alone hwf)))
    · obtain ⟨hr, t, L, ht, htle, hL, hswept⟩ := hw'
      exact ⟨hr, t, L, ht, htle.trans (Nat.le_add_right _ e), hL,
        ⟨hswept.freed, hswept.others, hswept.auditLog, hswept.events⟩⟩
    · obtain ⟨rfl, hpost⟩ := hw'
      exact ⟨rfl, hpost⟩
  refine ⟨fun t ch hch => World.exec_findStaleSeats hch, fun s => ?_,
    fun s p t seat hseat hheld hp hlapsed => run_stale_of_keyLapsed hw h hlapsed hseat hheld hp,
    hsweep.1, fun us r c' hsolo hfaultless => ?_⟩
  · refine completes_of_wp hquiet (fun r e w' hw' => ?_) (Prog.wp_map
      (Prog.wp_mono (fun r w' hw' => ?_) (wp_releaseSeat_alone (hwf s))))
    · obtain ⟨t, ht, htle, hreleased⟩ := hw'
      exact ⟨t, ht, htle.trans (Nat.le_add_right _ e), hreleased⟩
    · obtain ⟨t, ht, htle, ⟨hstale, rfl, -⟩ | ⟨hnot, rfl, -⟩⟩ := hw'
      · exact ⟨t, ht, htle, true, rfl, iff_of_true rfl hstale⟩
      · exact ⟨t, ht, htle, false, rfl, iff_of_false (by simp) hnot⟩
  · obtain ⟨hr, t, L, ht, htle, hL, hswept⟩ := hsweep.2 us r c' hsolo hfaultless
    obtain ⟨ts', hrun', -⟩ := hsolo.after h
    exact ⟨hr, t, L, ht, htle, hL, hswept, fun vs d hrun s =>
      run_not_stale hw hrun' hsolo.quiescent htle (hL.not_stale hswept) hrun s⟩

end Runs

/-- A flight of three seats. -/
def threeSeatWorld : World :=
  { twoSeatWorld with db := { twoSeatWorld.db with
      seats := ⟨twoSeatWorld.db.seats.rows ++ [⟨102, 10, 1, "C", .available, none, none⟩],
        by decide⟩ } }

lemma threeSeatWorld_seeded : threeSeatWorld.Seeded :=
  { twoSeatWorld_seeded with seats := by decide }

/-- Passengers 1 and 2 hold a seat each, passenger 3 holds one since a minute later, and two minutes
after the first hold the sweep comes. -/
def threeHolds : List SkyLabel :=
  start ++ [.invoke (.startCheckIn 2 ⟨10, 101⟩)] ++ proceed 1 10 ++
  [.tick 60000, .invoke (.startCheckIn 3 ⟨10, 102⟩)] ++ proceed 2 10 ++ [.tick 60000]

/-- The sweep frees the two seats that are stale at the very instant, and not the third. -/
theorem sweep_agrees_threeHolds : ∃ ts c us r c',
    (skyHigh {}).Run (.init threeSeatWorld) ts c ∧
    (skyHigh {}).Solo c .sweepExpiredHolds us r c' ∧
    ∃ L, 100 ∈ L.map Seat.id ∧ 101 ∈ L.map Seat.id ∧ 102 ∉ L.map Seat.id ∧
      c.state.Swept c'.state L ∧
      ∀ vs d, (skyHigh {}).Run c' vs d → ∀ s, ¬ d.state.db.bookings.Stale 120000 s := by
  obtain ⟨ts, c, us, r, c', hrun, hsolo, htest⟩ := exists_solo_from threeSeatWorld threeHolds
    .sweepExpiredHolds (proceed 3 18) (fun _ c us _ c' => us.all faultless && ended c &&
      decide (c.state.db.seats.get? 100 = some ⟨100, 10, 1, "A", .held, some 1, some 0⟩) &&
      decide (c.state.db.seats.get? 101 = some ⟨101, 10, 1, "B", .held, some 2, some 0⟩) &&
      decide (c.state.db.seats.get? 102 = some ⟨102, 10, 1, "C", .held, some 3, some 60000⟩) &&
      decide (c.state.now = 120000 ∧ c'.state.now = 120000)) (by decide +kernel)
  simp only [Bool.and_eq_true, decide_eq_true_eq] at htest
  obtain ⟨⟨⟨⟨⟨hfaultless, hended⟩, hseat₀⟩, hseat₁⟩, hseat₂⟩, hnow, hnow'⟩ := htest
  obtain ⟨-, -, -, -, hsweep⟩ := sweep_agrees threeSeatWorld_seeded hrun (quiescent_of_ended hended)
  obtain ⟨-, t, L, hle, hle', hL, hswept, hlater⟩ :=
    hsweep us r c' hsolo (faultless_of_all hfaultless)
  obtain rfl : t = 120000 := le_antisymm (hle'.trans hnow'.le) (hnow.ge.trans hle)
  have hfresh : ¬ c.state.db.bookings.Stale 120000 102 := by
    rintro ⟨seat, held, hseat, -, hat, hstale⟩
    obtain rfl := Option.some_inj.mp (hseat₂.symm.trans hseat)
    rw [← Option.some_inj.mp hat] at hstale
    exact absurd hstale (by decide)
  refine ⟨ts, c, us, r, c', hrun, hsolo, L, ?_, ?_, ?_, hswept, hlater⟩
  · exact (hL.mem_iff 100).mpr ⟨_, 0, hseat₀, rfl, rfl, le_rfl⟩
  · exact (hL.mem_iff 101).mpr ⟨_, 0, hseat₁, rfl, rfl, le_rfl⟩
  · exact mt (hL.mem_iff 102).mp hfresh

/-! ## The columns of a hold -/

/-- The two columns of a hold are set in a HELD seat, empty in an AVAILABLE one, and never one
without the other. -/
structure Seat.HoldColumns (seat : Seat) : Prop where
  held : seat.status = .held → seat.heldBy ≠ none ∧ seat.heldAt ≠ none
  available : seat.status = .available → seat.heldBy = none ∧ seat.heldAt = none
  both : seat.heldBy = none ↔ seat.heldAt = none

lemma Seat.WellFormed.holdColumns {seat : Seat} (h : seat.WellFormed) : seat.HoldColumns where
  held hst := ⟨h.held hst, fun hnone => h.held hst (h.paired.mpr hnone)⟩
  available hst := ⟨h.available hst, h.paired.mp (h.available hst)⟩
  both := h.paired

/-- The query of a sweep returns every HELD seat whose `held_at` is not after the cutoff. -/
lemma World.mem_findStaleSeats {w : World} {ch : Choice} (hch : ch.fault = false) {s : SeatId}
    {seat : Seat} (hseat : w.db.seats.get? s = some seat) (hheld : seat.status = .held) {t : Time}
    (hat : seat.heldAt = some t) {cutoff : ℤ} (hle : (t : ℤ) ≤ cutoff) :
    ∃ L, World.exec (.findStaleSeats cutoff) ch w = (.ok L, w) ∧ seat ∈ L := by
  refine ⟨_, World.query_ok hch _, ?_⟩
  rw [List.mem_insertionSort, List.mem_filter]
  refine ⟨Table.mem_of_get? hseat, ?_⟩
  simp [hheld, hat, hle]

/-- **Hold fields are well formed.**  In every reachable state, whatever the interleaving, the two
columns of a hold are set in every HELD seat, empty in every AVAILABLE one, and never one without
the other.  Hence the query of a sweep returns every HELD seat from the cutoff on that is its
`held_at`, and every release that is performed names a holder. -/
theorem hold_columns (hw : w.Seeded) (h : (skyHigh cfg).Run (.init w) ts c) :
    (∀ s seat, c.state.db.seats.get? s = some seat → seat.HoldColumns) ∧
    (∀ s seat, c.state.db.seats.get? s = some seat → seat.status = .held →
      ∃ t, seat.heldAt = some t ∧ ∀ cutoff : ℤ, (t : ℤ) ≤ cutoff → ∀ ch, ch.fault = false →
        ∃ L, World.exec (.findStaleSeats cutoff) ch c.state = (.ok L, c.state) ∧ seat ∈ L) ∧
    ∀ t ∈ ts, ∀ k ch call seat cont, t.label = .act k ch →
      t.pre.threads[k]? = some ⟨call, .act (.release seat) cont⟩ → seat.heldBy ≠ none := by
  have hwf := (run_linked hw h).wellFormed
  refine ⟨fun s seat hseat => (hwf s seat hseat).holdColumns, fun s seat hseat hheld => ?_,
    fun t ht k ch call seat cont _ hk hnone => ?_⟩
  · obtain ⟨t, hat⟩ := Option.ne_none_iff_exists'.mp ((hwf s seat hseat).holdColumns.held hheld).2
    exact ⟨t, hat, fun cutoff hle ch hch => World.mem_findStaleSeats hch hseat hheld hat hle⟩
  · obtain ⟨us, vs, -, hpre, -, -⟩ := h.mem_split ht
    obtain ⟨p, held, hhold, -⟩ := run_pre hw hpre hk
    cases hnone.symm.trans hhold.heldBy

theorem hold_columns_startThenWait : ∃ ts c seat, (skyHigh {}).Run (.init oneSeatWorld) ts c ∧
    c.state.db.seats.get? 100 = some seat ∧ seat.status = .held ∧ seat.HoldColumns ∧
    ∃ L, World.exec (.findStaleSeats 0) {} c.state = (.ok L, c.state) ∧ seat ∈ L := by
  let seat : Seat := ⟨100, 10, 1, "A", .held, some 1, some 0⟩
  obtain ⟨ts, c, hrun, htest⟩ := exists_run startThenWait
    (fun _ c => decide (c.state.db.seats.get? 100 = some seat)) (by decide +kernel)
  have hseat := of_decide_eq_true htest
  obtain ⟨hcolumns, hfound, -⟩ := hold_columns oneSeatWorld_seeded hrun
  obtain ⟨t, hat, hselected⟩ := hfound 100 seat hseat rfl
  obtain rfl : 0 = t := Option.some_inj.mp hat
  exact ⟨ts, c, seat, hrun, hseat, rfl, hcolumns 100 seat hseat, hselected 0 le_rfl {} rfl⟩

end SkyHighCore
