import SkyHighCore.Properties.Flights
import SkyHighCore.Properties.Grounds

/-!
# Requests of a passenger

`ApiRequest.receive` turns a request into a call in the name of the passenger whom its token names.
Whatever the interleaving, the steps of this call leave the check-ins and the waitlist entries of
all other passengers as they are.
-/

namespace SkyHighCore

open Framework

/-- The check-ins and the waitlist entries of all passengers but `p` are the same. -/
structure World.LeavesOthers (p : PassengerId) (w w' : World) : Prop where
  checkIn : ∀ i c, c.passengerId ≠ p →
    (w'.db.bookings.checkIn i = some c ↔ w.db.bookings.checkIn i = some c)
  waitlist : ∀ i e, e.passengerId ≠ p → (w'.db.queue i = some e ↔ w.db.queue i = some e)

/-- The call that a route issues for a passenger. -/
def Call.RequestedBy (p : PassengerId) (call : Call) : Prop :=
  call.caller? = some p ∨ ∃ f, call = .getSeatMap f

/-! ## The token -/

section Token

variable {verify : String → Option JwtPayload} {req : ApiRequest} {call : Call}

lemma Route.handler_requestedBy {route : Route} {p : PassengerId}
    (h : route.handler p = .ok call) : call.RequestedBy p := by
  cases route with
  | postCheckIns body =>
      cases body with
      | error e => cases h
      | ok dto =>
          cases h
          exact .inl rfl
  | patchCheckIn id body =>
      cases id with
      | error e => cases h
      | ok i =>
          cases body with
          | error e => cases h
          | ok dto =>
              cases h
              exact .inl rfl
  | deleteCheckIn id | deleteWaitlist id =>
      cases id with
      | error e => cases h
      | ok i =>
          cases h
          exact .inl rfl
  | postWaitlist flightId =>
      cases flightId with
      | error e => cases h
      | ok f =>
          cases h
          exact .inl rfl
  | getSeats flightId =>
      cases flightId with
      | error e => cases h
      | ok f =>
          cases h
          exact .inr ⟨f, rfl⟩

/-- The guard lets a request pass with the claims of a verified token. -/
lemma canActivate_ok {authorization : Option String} {payload : JwtPayload}
    (h : JwtAuthGuard.canActivate verify authorization = .ok payload) :
    ∃ token, JwtAuthGuard.extractTokenFromHeader authorization = some token ∧
      verify token = some payload := by
  unfold JwtAuthGuard.canActivate at h
  split at h
  · cases h
  · rename_i token htoken
    split at h
    · rename_i payload' hverify
      cases h
      exact ⟨token, htoken, hverify⟩
    · cases h

/-- A call is issued in the name of the passenger of a verified token. -/
lemma receive_ok (h : req.receive verify = .ok call) : ∃ token payload,
    JwtAuthGuard.extractTokenFromHeader req.authorization = some token ∧
      verify token = some payload ∧ call.RequestedBy payload.sub := by
  unfold ApiRequest.receive at h
  cases huser : JwtAuthGuard.canActivate verify req.authorization with
  | error e =>
      rw [huser] at h
      cases h
  | ok payload =>
      rw [huser] at h
      obtain ⟨token, htoken, hverify⟩ := canActivate_ok huser
      exact ⟨token, payload, htoken, hverify, Route.handler_requestedBy h⟩

end Token

/-! ## One step -/

/-- The passenger on whose row an action writes. -/
def Action.subject? : Action → Option PassengerId
  | .holdSeat p .. | .insertWaitlist _ p _ => some p
  | .awaitPayment snap _ _ | .complete snap _ _ => some snap.passengerId
  | .cancel snap _ _ => some snap.passengerId
  | .saveWaitlist entry => some entry.passengerId
  | _ => none

section Steps

variable {cfg : Settings} {p : PassengerId} {call : Call} {tr : SkyRecord} {a : Action}

/-- A request of `p` writes on rows of `p` only. -/
lemma subject_of_writes (hcall : call.RequestedBy p) (hwrites : call.Writes tr a)
    (ha : a.writesRows = true) : a.subject? = some p := by
  unfold Call.Writes at hwrites
  rcases hcall with hcaller | ⟨f, rfl⟩
  · split at hwrites
    all_goals simp_all [Call.caller?, Action.subject?]
  · simp [ha] at hwrites

lemma Commits.writesRows {b b' : Bookings} (h : Commits b a b') : a.writesRows = true := by
  cases h <;> rfl

lemma Requeues.writesRows {q q' : Queue} (h : Requeues q a q') : a.writesRows = true := by
  cases h <;> rfl

/-- What a request of `p` writes to the check-ins. -/
lemma Commits.leavesOthers (hsubject : a.subject? = some p) {b b' : Bookings}
    (h : Commits b a b') (i : CheckInId) (c : CheckIn) (hc : c.passengerId ≠ p) :
    b'.checkIn i = some c ↔ b.checkIn i = some c := by
  have hrow : ∀ {snap row row' : CheckIn}, b.checkIn snap.id = some row → snap.SameBooking row →
      snap.passengerId = p → row'.passengerId = row.passengerId →
      (Function.update b.checkIn snap.id (some row') i = some c ↔ b.checkIn i = some c) := by
    intro snap row row' hsnap hsame hp hp'
    have hrow : row.passengerId = p := hsame.1.trans hp
    refine update_frame (fun r => r.passengerId ≠ p) (fun r hr => ?_) ?_ i c hc
    · rw [← Option.some_inj.mp (hsnap.symm.trans hr)]
      exact fun hne => hne hrow
    · exact fun hne => hne (hp'.trans hrow)
  cases h with
  | holdSeat h hp _ =>
      refine update_frame (fun r => r.passengerId ≠ p) (fun r hr => ?_) (fun hne => ?_) i c hc
      · cases h.fresh.symm.trans hr
      · exact hne (hp.trans (Option.some_inj.mp hsubject))
  | assign | release => cases hsubject
  | cancel hsnap hsame _ _ _ | complete hsnap hsame _ _ _ | awaitPayment hsnap hsame _ =>
      exact hrow hsnap hsame (Option.some_inj.mp hsubject) rfl

/-- What a request of `p` writes to the waitlist. -/
lemma Requeues.leavesOthers (hsubject : a.subject? = some p) {q q' : Queue}
    (h : Requeues q a q') (i : WaitlistId) (e : Waitlist) (he : e.passengerId ≠ p) :
    q' i = some e ↔ q i = some e := by
  cases h with
  | assign => cases hsubject
  | @save snap row hrow hsame =>
      have hp : row.passengerId = p := hsame.2.1.trans (Option.some_inj.mp hsubject)
      refine update_frame (fun r => r.passengerId ≠ p) (fun r hr => ?_) (fun hne => hne hp) i e he
      rw [← Option.some_inj.mp (hrow.symm.trans hr)]
      exact fun hne => hne hp
  | insert hfresh _ hp _ _ _ =>
      refine update_frame (fun r => r.passengerId ≠ p) (fun r hr => ?_) (fun hne => ?_) i e he
      · cases hfresh.symm.trans hr
      · exact hne (hp.trans (Option.some_inj.mp hsubject))

end Steps

/-! ## Runs -/

section Runs

variable {cfg : Settings} {w : World} {ts : List SkyTransition} {c : SkyConfig} {k : ℕ}
  {call : Call} {p : PassengerId}

/-- An action of a request of `p` in a run. -/
lemma subject_of_run {q : Program Reply} (h : (skyHigh cfg).Run (.init w) ts c)
    (hk : c.threads[k]? = some ⟨call, q⟩) (hcall : call.RequestedBy p) {t : SkyTransition}
    (ht : t ∈ ts) {call' : Call} {a : Action}
    {cont : Except AppException a.Res → Program Reply}
    (hk' : t.pre.threads[k]? = some ⟨call', .act a cont⟩) (ha : a.writesRows = true) :
    a.subject? = some p := by
  obtain ⟨us, vs, rfl, hpre, hstep, hpost⟩ := h.mem_split ht
  obtain ⟨q', hq'⟩ := ((System.Run.single hstep).append hpost).thread hk'
  obtain ⟨rfl, -⟩ : call' = call ∧ q' = q := by simpa using hq'.symm.trans hk
  exact subject_of_writes hcall (run_writes hpre hk') ha

/-- **A request touches the rows of its passenger only.**  A call that a request has issued carries
the passenger of a verified token, and none of its steps changes a check-in or a waitlist entry of
another passenger. -/
theorem run_ownership {verify : String → Option JwtPayload} {req : ApiRequest}
    {q : Program Reply} (hw : w.Seeded) (h : (skyHigh cfg).Run (.init w) ts c)
    (hreceived : req.receive verify = .ok call) (hk : c.threads[k]? = some ⟨call, q⟩) :
    ∃ token payload, JwtAuthGuard.extractTokenFromHeader req.authorization = some token ∧
      verify token = some payload ∧ call.RequestedBy payload.sub ∧
      ∀ t ∈ ts, ∀ ch, t.label = .act k ch → t.pre.state.LeavesOthers payload.sub t.post.state := by
  obtain ⟨token, payload, htoken, hverify, hcall⟩ := receive_ok hreceived
  refine ⟨token, payload, htoken, hverify, hcall, fun t ht ch hl => ⟨?_, ?_⟩⟩
  · cases (run_justified hw h t ht).effect with
    | quiet _ hquiet =>
        intro i row _
        rw [hquiet.1]
    | @commit a hcommits _ hwrite _ =>
        obtain ⟨k', ch', call', cont, hl', hk'⟩ := next_of_committed? hcommits
        obtain ⟨rfl, -⟩ : k = k' ∧ ch = ch' := by simpa using hl.symm.trans hl'
        exact hwrite.leavesOthers (subject_of_run h hk hcall ht hk' hwrite.writesRows)
  · cases run_requeues hw h t ht with
    | same _ heq =>
        intro i row _
        rw [show t.post.state.db.queue = t.pre.state.db.queue from congrArg Table.get? heq]
    | @write a hsome _ hwrite =>
        obtain ⟨k', ch', call', cont, hl', hk'⟩ := next_of_requeued? hsome
        obtain ⟨rfl, -⟩ : k = k' ∧ ch = ch' := by simpa using hl.symm.trans hl'
        exact hwrite.leavesOthers (subject_of_run h hk hcall ht hk' hwrite.writesRows)

end Runs

/-- A verifier that knows the token of passenger 1. -/
def knownToken (token : String) : Option JwtPayload :=
  if token = "t1" then some { sub := 1, iat := 0, exp := 3600 } else none

/-- `POST /check-ins` with this token. -/
def postSeat : ApiRequest where
  authorization := some "Bearer t1"
  url := "/api/v1/check-ins"
  route := .postCheckIns (.ok ⟨10, 100⟩)

lemma postSeat_received : postSeat.receive knownToken = .ok (.startCheckIn 1 ⟨10, 100⟩) := rfl

theorem ownership_start : ∃ ts c, ∃ payload : JwtPayload,
    (skyHigh {}).Run (.init oneSeatWorld) ts c ∧
    postSeat.receive knownToken = .ok (.startCheckIn 1 ⟨10, 100⟩) ∧ payload.sub = 1 ∧
    ∀ t ∈ ts, ∀ ch, t.label = .act 0 ch → t.pre.state.LeavesOthers payload.sub t.post.state := by
  obtain ⟨ts, c, hrun, hcalls, -⟩ := exists_run_calls start (fun _ _ => true) (by decide +kernel)
  have hcall : c.calls[0]? = some (.startCheckIn 1 ⟨10, 100⟩) := by
    rw [hcalls]
    rfl
  obtain ⟨q, hk⟩ := exists_thread hcall
  obtain ⟨token, payload, htoken, hverify, hby, hspares⟩ :=
    run_ownership oneSeatWorld_seeded hrun postSeat_received hk
  refine ⟨ts, c, payload, hrun, postSeat_received, ?_, hspares⟩
  rcases hby with hby | ⟨f, hby⟩
  · exact (Option.some_inj.mp hby).symm
  · cases hby

end SkyHighCore
