import SkyHighCore.Properties.Warrants

/-!
# Flights do not interfere

Most statements select their rows by a seat id or a check-in id, not by flight.  That a step of a
call on one flight leaves every other flight alone rests on the links between the tables: the seat
of a check-in is on the flight of the check-in, and the rows that a call has read still have the
flight they had.
-/

namespace SkyHighCore

open Framework

/-! ## The frame -/

/-- Flight `g` is in `w'` as it is in `w`: its seats, with their hold keys, its check-ins, its
waitlist and its cached map. -/
structure World.SameFlight (g : FlightId) (w w' : World) : Prop where
  seat : ∀ s seat, seat.flightId = g →
    (w'.db.bookings.seat s = some seat ↔ w.db.bookings.seat s = some seat)
  checkIn : ∀ i c, c.flightId = g →
    (w'.db.bookings.checkIn i = some c ↔ w.db.bookings.checkIn i = some c)
  waitlist : ∀ i e, e.flightId = g → (w'.db.queue i = some e ↔ w.db.queue i = some e)
  seatHold : ∀ s, w.db.bookings.SeatOn s g → w'.seatHolds s = w.seatHolds s
  seatMap : w'.seatMapCache g = w.seatMapCache g

/-- A write to a row that is not in `P`, before and after, is not seen by the rows in `P`. -/
lemma update_frame {κ ρ : Type} [DecidableEq κ] {q : κ → Option ρ} {k : κ} {r' : ρ} (P : ρ → Prop)
    (hold : ∀ r, q k = some r → ¬ P r) (hnew : ¬ P r') (i : κ) (x : ρ) (hx : P x) :
    Function.update q k (some r') i = some x ↔ q i = some x := by
  rw [Bookings.update_eq_some_iff]
  constructor
  · rintro (⟨-, rfl⟩ | ⟨-, hi⟩)
    · exact absurd hx hnew
    · exact hi
  · intro hi
    by_cases hk : i = k
    · subst hk
      exact absurd hx (hold x hi)
    · exact .inr ⟨hk, hi⟩

/-- The bookings of flight `g` are the same. -/
structure Bookings.SameFlight (g : FlightId) (b b' : Bookings) : Prop where
  seat : ∀ s seat, seat.flightId = g → (b'.seat s = some seat ↔ b.seat s = some seat)
  checkIn : ∀ i c, c.flightId = g → (b'.checkIn i = some c ↔ b.checkIn i = some c)

namespace Bookings

variable {b : Bookings} {f g : FlightId} {s : SeatId} {seat seat' : Seat} {i : CheckInId}
  {c c' : CheckIn}

lemma seat_frame (hseat : b.seat s = some seat) (hf : seat.flightId = f) (hf' : seat'.flightId = f)
    (hg : g ≠ f) (s₁ : SeatId) (seat₁ : Seat) (h₁ : seat₁.flightId = g) :
    Function.update b.seat s (some seat') s₁ = some seat₁ ↔ b.seat s₁ = some seat₁ := by
  refine update_frame (fun r => r.flightId = g) (fun r hr => ?_) ?_ s₁ seat₁ h₁
  · rw [← Option.some_inj.mp (hseat.symm.trans hr), hf]
    exact hg.symm
  · rw [hf']
    exact hg.symm

lemma checkIn_frame (hc : ∀ d, b.checkIn i = some d → d.flightId = f) (hf' : c'.flightId = f)
    (hg : g ≠ f) (i₁ : CheckInId) (c₁ : CheckIn) (h₁ : c₁.flightId = g) :
    Function.update b.checkIn i (some c') i₁ = some c₁ ↔ b.checkIn i₁ = some c₁ := by
  refine update_frame (fun r => r.flightId = g) (fun r hr => ?_) ?_ i₁ c₁ h₁
  · rw [hc r hr]
    exact hg.symm
  · rw [hf']
    exact hg.symm

lemma SameFlight.acquired {t : Time} (h : b.Acquirable s seat c) (hf : c.flightId = f)
    (hg : g ≠ f) : b.SameFlight g (b.acquired s seat c t) where
  seat := seat_frame h.row (h.flight.symm.trans hf) (h.flight.symm.trans hf) hg
  checkIn := checkIn_frame (fun d hd => by cases h.fresh.symm.trans hd) hf hg

/-- The check-ins of a seat that is released are on its flight. -/
lemma SameFlight.released (hlinked : b.Linked) (hseat : b.seat s = some seat)
    (hf : seat.flightId = f) (hg : g ≠ f) : b.SameFlight g (b.released s seat) where
  seat := seat_frame hseat hf hf hg
  checkIn i c hc := by
    have hsame : ∀ d, b.checkIn i = some d → d.flightId = g → d.releasedFrom s = d := by
      intro d hd hdg
      refine if_neg fun hcond => hg ?_
      obtain ⟨s', seat', hs', hseat', hflight⟩ := hlinked.seatOf i d hd
      obtain rfl : s = s' := Option.some_inj.mp (hcond.1.symm.trans hs')
      obtain rfl : seat = seat' := Option.some_inj.mp (hseat.symm.trans hseat')
      rw [← hdg, ← hflight, hf]
    show (b.checkIn i).map _ = _ ↔ _
    rw [Option.map_eq_some_iff]
    constructor
    · rintro ⟨d, hd, rfl⟩
      have hdg : d.flightId = g := (d.sameBooking_releasedFrom s).2.1.symm.trans hc
      rw [hsame d hd hdg]
      exact hd
    · exact fun hrow => ⟨c, hrow, hsame c hrow hc⟩

/-- A write to a check-in and to its seat. -/
lemma SameFlight.row (hlinked : b.Linked) (hc : b.checkIn i = some c) (hs : c.seatId = some s)
    (hseat : b.seat s = some seat) (hsame : c.SameBooking c')
    (hkeeps : seat'.flightId = seat.flightId) (hf : c.flightId = f) (hg : g ≠ f) :
    b.SameFlight g
      ⟨Function.update b.seat s (some seat'), Function.update b.checkIn i (some c')⟩ := by
  obtain ⟨s₁, seat₁, hs₁, hseat₁, hflight⟩ := hlinked.seatOf i c hc
  obtain rfl : s = s₁ := Option.some_inj.mp (hs.symm.trans hs₁)
  obtain rfl : seat = seat₁ := Option.some_inj.mp (hseat.symm.trans hseat₁)
  have hrow : ∀ d, b.checkIn i = some d → d.flightId = f := fun d hd =>
    (congrArg CheckIn.flightId (Option.some_inj.mp (hd.symm.trans hc))).trans hf
  exact ⟨seat_frame hseat (hflight.trans hf) (hkeeps.trans (hflight.trans hf)) hg,
    checkIn_frame hrow (hsame.2.1.trans hf) hg⟩

end Bookings

/-! ## One action -/

variable {cfg : Settings} {w w' : World} {a : Action} {ch : Choice}
  {r : Except AppException a.Res} {f g : FlightId}

/-- A write of an action on flight `f` leaves the bookings of other flights alone. -/
lemma Commits.sameFlight (hlinked : w.db.bookings.Linked) (hpre : a.Pre cfg w)
    (hlocal : a.Local f w) (hg : g ≠ f) {b' : Bookings} (h : Commits w.db.bookings a b') :
    w.db.bookings.SameFlight g b' := by
  cases h with
  | holdSeat h _ hf | assign h _ hf => exact .acquired h (hf.trans hlocal) hg
  | @release seat₀ seat p hseat _ _ _ =>
      obtain ⟨p, h, hhold, -⟩ := hpre
      obtain ⟨row, hrow, hflight, -⟩ := hhold.row
      obtain rfl : seat = row := Option.some_inj.mp (hseat.symm.trans hrow)
      exact .released hlinked hseat (hflight.trans hlocal) hg
  | cancel hc hsame _ hs hseat | complete hc hsame _ hs hseat =>
      exact .row hlinked hc hs hseat .rfl rfl (hsame.2.1.trans hlocal) hg
  | awaitPayment hc hsame _ =>
      refine ⟨fun _ _ _ => Iff.rfl, Bookings.checkIn_frame (f := f) (fun d hd => ?_) ?_ hg⟩
      · rw [← Option.some_inj.mp (hc.symm.trans hd)]
        exact hsame.2.1.trans hlocal
      · exact hsame.2.1.trans hlocal

/-- A write of an action on flight `f` leaves the waitlists of other flights alone. -/
lemma Requeues.sameFlight (hwarrant : a.Warrant w) (hlocal : a.Local f w) (hg : g ≠ f) {q' : Queue}
    (h : Requeues w.db.queue a q') (i : WaitlistId) (e : Waitlist) (he : e.flightId = g) :
    q' i = some e ↔ w.db.queue i = some e := by
  have hmarked : ∀ {snap row : Waitlist} (st : WaitlistStatus), w.db.queue snap.id = some row →
      snap.SameEntry row → snap.flightId = f →
      (w.db.queue.marked snap.id row st i = some e ↔ w.db.queue i = some e) := by
    intro snap row st hrow hsame hf
    have hne : row.flightId ≠ g := by
      rw [hsame.1, hf]
      exact hg.symm
    refine update_frame (fun d => d.flightId = g) (fun d hd => ?_) hne i e he
    rw [← Option.some_inj.mp (hrow.symm.trans hd)]
    exact hne
  cases h with
  | assign hrow hsame => exact hmarked _ hrow hsame (hwarrant.2.2.trans hlocal)
  | save hrow hsame => exact hmarked _ hrow hsame hlocal
  | insert hfresh hf _ _ _ _ =>
      refine update_frame (fun d => d.flightId = g) (fun d hd => ?_) ?_ i e he
      · cases hfresh.symm.trans hd
      · rw [hf, show _ = f from hlocal]
        exact hg.symm

/-- A seat is on one flight. -/
lemma Bookings.SeatOn.unique {b : Bookings} {s : SeatId} (h : b.SeatOn s f) (h' : b.SeatOn s g) :
    f = g := by
  obtain ⟨seat, hseat, rfl⟩ := h
  obtain ⟨seat', hseat', rfl⟩ := h'
  rw [Option.some_inj.mp (hseat.symm.trans hseat')]

/-- **An action on flight `f` leaves every other flight alone.** -/
theorem exec_sameFlight (hlinked : w.db.bookings.Linked) (hpre : a.Pre cfg w)
    (hwarrant : a.Warrant w) (hlocal : a.Local f w) (hg : g ≠ f)
    (h : World.exec a ch w = (r, w')) : w.SameFlight g w' := by
  have hbookings : w.db.bookings.SameFlight g w'.db.bookings := by
    rcases exec_commits hlinked hpre h with ⟨-, hcommits, -⟩ | ⟨-, hquiet, -⟩
    · exact hcommits.sameFlight hlinked hpre hlocal hg
    · rw [hquiet]
      exact ⟨fun _ _ _ => Iff.rfl, fun _ _ _ => Iff.rfl⟩
  obtain rfl : (World.exec a ch w).2 = w' := congrArg Prod.snd h
  refine ⟨hbookings.seat, hbookings.checkIn, fun i e he => ?_, fun s hs => ?_, ?_⟩
  · rcases exec_requeues hlinked hpre hwarrant h with ⟨-, hq⟩ | ⟨-, hq⟩
    · exact hq.sameFlight hwarrant hlocal hg i e he
    · rw [Database.queue, hq, Database.queue]
  · refine World.exec_seatHolds_of w ch ?_ ?_
    · rintro p ttl rfl
      exact hg (hs.unique hlocal)
    · rintro rfl
      exact hg (hs.unique hlocal)
  · refine World.exec_seatMapCache_of w ch ?_ ?_
    · rintro data ttl rfl
      exact hg hlocal
    · rintro rfl
      exact hg hlocal

/-! ## Runs -/

/-- **Flights do not interfere.**  In every run, each step of a call that is addressed to flight
`f` leaves every other flight as it is. -/
theorem run_sameFlight {ts : List SkyTransition} {c : SkyConfig} (hw : w.Seeded)
    (h : (skyHigh cfg).Run (.init w) ts c) :
    ∀ t ∈ ts, ∀ k ch th, t.label = .act k ch → t.pre.threads[k]? = some th →
      ∀ f, th.call.AddressedTo f t.pre.state →
        ∀ g, g ≠ f → t.pre.state.SameFlight g t.post.state := by
  intro t ht k ch th hl hth f hto g hg
  obtain ⟨us, vs, -, hrun, hstep, -⟩ := h.mem_split ht
  rw [hl] at hstep
  rcases (skyHigh cfg).step_cases hstep with ⟨_, hl', -⟩ | ⟨_, hl', -⟩ |
    ⟨k', ch', call, a, cont, hl', hk, hpost⟩
  · cases hl'
  · cases hl'
  · cases hl'
    obtain rfl := Option.some_inj.mp (hth.symm.trans hk)
    obtain ⟨hwarrant, hlocal⟩ := run_warrant hw hrun hk
    rw [hpost]
    exact exec_sameFlight (run_linked hw hrun) (run_pre hw hrun hk) hwarrant (hlocal f hto) hg
      (Prod.mk.eta).symm

/-- Flights 10 and 11 with a seat each. -/
def twoFlightWorld : World :=
  { oneSeatWorld with
    db := { oneSeatWorld.db with
      flights := ⟨[⟨10, "A320", 86400000, .scheduled⟩, ⟨11, "A320", 86400000, .scheduled⟩],
        by decide⟩
      seats := ⟨[⟨100, 10, 1, "A", .available, none, none⟩,
        ⟨101, 11, 1, "A", .available, none, none⟩], by decide⟩ } }

lemma twoFlightWorld_seeded : twoFlightWorld.Seeded where
  seats := by decide
  checkIns := rfl
  waitlist := rfl
  auditLog := rfl
  seatHolds := fun _ => rfl
  payments := rfl
  events := rfl

/-- The transition commits a write of a `startCheckIn` on flight `f`. -/
def startsOn (f : FlightId) (t : SkyTransition) : Bool :=
  match t.label with
  | .act k _ => (committed? t).isSome && (t.pre.threads[k]?).any fun th =>
      match th.call with
      | .startCheckIn _ dto => dto.flightId = f
      | _ => false
  | _ => false

lemma startsOn_spec {t : SkyTransition} (h : startsOn f t = true) :
    ∃ k ch th, t.label = .act k ch ∧ t.pre.threads[k]? = some th ∧
      th.call.AddressedTo f t.pre.state := by
  unfold startsOn at h
  split at h
  · rename_i k ch hl
    rw [Bool.and_eq_true, Option.any_eq_true] at h
    obtain ⟨-, th, hth, hcall⟩ := h
    refine ⟨k, ch, th, hl, hth, ?_⟩
    split at hcall
    · rename_i p dto hstart
      rw [hstart]
      exact (of_decide_eq_true hcall : dto.flightId = f)
    · cases hcall
  · cases h

/-- Passenger 1 takes the seat of flight 10. -/
theorem sameFlight_start : ∃ ts c, (skyHigh {}).Run (.init twoFlightWorld) ts c ∧
    ∃ t ∈ ts, startsOn 10 t = true ∧ t.pre.state.SameFlight 11 t.post.state := by
  have htest : (((skyHigh {}).execute start (.init twoFlightWorld)).any fun out =>
      out.1.any (startsOn 10)) = true := by decide +kernel
  obtain ⟨ts, c, hrun, hany⟩ :=
    System.exists_run_of_execute (fun ts _ => ts.any (startsOn 10)) htest
  obtain ⟨t, ht, hstarts⟩ := List.any_eq_true.mp hany
  obtain ⟨k, ch, th, hl, hth, hto⟩ := startsOn_spec hstarts
  exact ⟨ts, c, hrun, t, ht, hstarts,
    run_sameFlight twoFlightWorld_seeded hrun t ht k ch th hl hth 10 hto 11 (by decide)⟩

end SkyHighCore
