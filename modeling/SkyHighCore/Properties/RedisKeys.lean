import SkyHighCore.Construction.Redis
import SkyHighCore.Properties.Locks
import SkyHighCore.Properties.RateLimit

/-!
# One keyspace for everything

The seat holds, the seat maps, the locks and the sorted sets of the rate limiter are maps of their
own in the model, and strings under which Redis keeps one map in the deployment.  `run_keyspace`
says that this makes no difference: whatever the services, Redlock and the rate limiter send, in
any order, the one map has what the model's maps have, every answer is the one that the model
gives, and what the expiry subscriber makes of a lapsed key is the hold of the seat that the key
is for.
-/

namespace SkyHighCore

open Framework

variable {uuid : Uuid → String}

/-! ## Spelled keys -/

/-- The prefixes with their colons. -/
def RedisKey.prefixes : List String :=
  ["lock:seat" ++ ":", "lock:waitlist" ++ ":", "hold" ++ ":", "seatmap" ++ ":", "ratelimit" ++ ":"]

lemma RedisKey.prefixFree_prefixes : PrefixFree RedisKey.prefixes := by decide

lemma RedisKey.keyPrefix_mem (key : RedisKey) : key.keyPrefix ++ ":" ∈ RedisKey.prefixes := by
  cases key <;> simp [RedisKey.keyPrefix, RedisKey.prefixes]

/-- No two keys are spelled alike. -/
lemma RedisKey.spell_injective (huuid : Function.Injective uuid) :
    Function.Injective (RedisKey.spell uuid) := by
  intro key key' heq
  obtain ⟨hstart, hname⟩ :=
    RedisKey.prefixFree_prefixes.append_inj key.keyPrefix_mem key'.keyPrefix_mem heq
  cases key <;> cases key' <;> simp [RedisKey.keyPrefix] at hstart
  case rateLimit.rateLimit => exact congrArg _ hname
  all_goals exact congrArg _ (huuid hname)

namespace RedisKeyExpirySubscriber

/-- The subscriber takes what follows the prefix for the id of a seat. -/
lemma handleExpiredKey_eq_some_iff (key : String) (e : SeatHoldExpiredEvent) :
    handleExpiredKey key = some e ↔ ∃ name, key = holdPrefix ++ name ∧ e = ⟨name, key⟩ := by
  unfold handleExpiredKey
  constructor
  · intro h
    split at h
    · rename_i hstart
      obtain ⟨rest, hrest⟩ := List.isPrefixOf_iff_prefix.mp hstart
      obtain rfl := Option.some_inj.mp h
      refine ⟨String.ofList rest, ?_, ?_⟩
      · rw [← String.toList_inj, String.toList_append, String.toList_ofList, hrest]
      · rw [← hrest, List.drop_left]
    · cases h
  · rintro ⟨name, rfl, rfl⟩
    have hstart : holdPrefix.toList.isPrefixOf (holdPrefix ++ name).toList = true := by
      rw [String.toList_append]
      exact List.isPrefixOf_iff_prefix.mpr (List.prefix_append _ _)
    rw [if_pos hstart, String.toList_append, List.drop_left, String.ofList_toList]

/-- Of the keys that there are, it takes those of seat holds. -/
lemma onMessage_spell_iff (key : RedisKey) (e : SeatHoldExpiredEvent) :
    onMessage expiredChannel (key.spell uuid) = some e ↔
      ∃ s, key = .seatHold s ∧ e = ⟨uuid s, key.spell uuid⟩ := by
  rw [onMessage, if_neg (not_not.mpr rfl), handleExpiredKey_eq_some_iff]
  constructor
  · rintro ⟨name, hname, rfl⟩
    have hmem : holdPrefix ∈ RedisKey.prefixes := RedisKey.keyPrefix_mem (.seatHold 0)
    obtain ⟨hstart, rfl⟩ :=
      RedisKey.prefixFree_prefixes.append_inj key.keyPrefix_mem hmem hname
    cases key with
    | seatHold s => exact ⟨s, rfl, rfl⟩
    | _ => simp [RedisKey.keyPrefix, holdPrefix] at hstart
  · rintro ⟨s, rfl, rfl⟩
    exact ⟨uuid s, rfl, rfl⟩

end RedisKeyExpirySubscriber

/-! ## The model's maps as one -/

/-- What the services, Redlock and the rate limiter take Redis to have. -/
def redisContents (w : World) (T : Leases LockKey) (σ : RateLimitState) :
    Keyspace RedisKey RedisValue
  | .seatLock seatId => (T (.seatLock seatId)).map (Prod.map .lock id)
  | .waitlistLock flightId => (T (.waitlistLock flightId)).map (Prod.map .lock id)
  | .seatHold seatId => (w.seatHolds seatId).map (Prod.map .passengerId id)
  | .seatMapCache flightId => (w.seatMapCache flightId).map (Prod.map .seatMap id)
  | .rateLimit ip => (σ.sets (rateLimitKey ip)).map (Prod.map .sortedSet id)

section Contents

variable {w w' : World} {T : Leases LockKey} {σ : RateLimitState}

lemma redisContents_resource (key : LockKey) :
    redisContents w T σ key.resource = (T key).map (Prod.map .lock id) := by
  cases key <;> rfl

/-- Worlds with the same Redis have the same contents. -/
lemma redisContents_congr (hholds : w'.seatHolds = w.seatHolds)
    (hcache : w'.seatMapCache = w.seatMapCache) :
    redisContents w' T σ = redisContents w T σ := by
  funext key
  cases key <;> simp only [redisContents, hholds, hcache]

lemma redisContents_sets {σ' : RateLimitState} (h : σ'.sets = σ.sets) :
    redisContents w T σ' = redisContents w T σ := by
  funext key
  cases key <;> simp only [redisContents, h]

lemma update_seatHold (s : SeatId) (v : Option (PassengerId × Time)) :
    Function.update (redisContents w T σ) (.seatHold s) (v.map (Prod.map .passengerId id)) =
      redisContents { w with seatHolds := Function.update w.seatHolds s v } T σ := by
  funext key
  cases key with
  | seatHold s' =>
      by_cases hs : s' = s
      · simp [redisContents, hs]
      · simp [redisContents, Function.update_of_ne, hs]
  | _ => simp [redisContents]

lemma update_seatMapCache (f : FlightId) (v : Option (SeatMapResponseDto × Time)) :
    Function.update (redisContents w T σ) (.seatMapCache f) (v.map (Prod.map .seatMap id)) =
      redisContents { w with seatMapCache := Function.update w.seatMapCache f v } T σ := by
  funext key
  cases key with
  | seatMapCache f' =>
      by_cases hf : f' = f
      · simp [redisContents, hf]
      · simp [redisContents, Function.update_of_ne, hf]
  | _ => simp [redisContents]

lemma update_resource (lock : LockKey) (v : Option (ℕ × ℕ)) :
    Function.update (redisContents w T σ) lock.resource (v.map (Prod.map .lock id)) =
      redisContents w (Function.update T lock v) σ := by
  funext key
  cases lock <;> cases key <;> simp [redisContents, LockKey.resource, Function.update_apply]
  all_goals split <;> rfl

lemma update_rateLimit (ip : String) (v : Option (SortedSet String ℤ × ℕ)) :
    Function.update (redisContents w T σ) (.rateLimit ip) (v.map (Prod.map .sortedSet id)) =
      redisContents w T { σ with sets := Function.update σ.sets (rateLimitKey ip) v } := by
  funext key
  cases key with
  | rateLimit ip' =>
      by_cases hip : ip' = ip
      · simp [redisContents, hip]
      · simp [redisContents, Function.update_of_ne, hip, rateLimitKey_injective.ne hip]
  | _ => simp [redisContents]

end Contents

/-! ## Actions and their commands -/

section Commands

variable {cfg : Settings} {T : Leases LockKey} {σ : RateLimitState} {c c' : SkyConfig} {k : ℕ}
  {ch : Choice} {call : Call} {a : Action} {cont : Except AppException a.Res → Program Reply}

/-- A live value is the live value of the model's map. -/
lemma live_eq_map {ρ : Keyspace RedisKey RedisValue} {w : World} {α : Type} {f : α → RedisValue}
    {key : RedisKey} {entry : Option (α × Time)} (h : ρ key = entry.map (Prod.map f id)) :
    ρ.live w.now key = (w.live entry).map f := by
  unfold Keyspace.live World.live
  rw [h]
  cases entry with
  | none => rfl
  | some e =>
      simp only [Option.map_some, Option.bind_some, Prod.map, id_eq]
      split <;> rfl

/-- A key without a lease is not there. -/
lemma World.live_eq_none {α : Type} {w : World} {entry : Option (α × Time)}
    (h : ∀ e ∈ entry, e.2 ≤ w.now) : w.live entry = none := by
  cases entry with
  | none => rfl
  | some e => simp [World.live, h e rfl]

lemma World.live_eq_some {α : Type} {w : World} {entry : Option (α × Time)} {e : α × Time}
    (he : e ∈ entry) (hlasts : w.now < e.2) : w.live entry = some e.1 := by
  rw [Option.mem_def.mp he]
  simp [World.live, hlasts]

/-- An action that sends nothing changes nothing in Redis. -/
lemma contents_of_commandless (hk : c.threads[k]? = some ⟨call, .act a cont⟩)
    (hnone : a.command? k = none) :
    redisContents (World.exec a ch c.state).2 ((redlock cfg).lease T ⟨c, .act k ch, c'⟩) σ =
      redisContents c.state T σ := by
  have hop : (redlock cfg).op a = .other := by
    cases a with
    | acquireLock | releaseLock => cases hnone
    | _ => rfl
  rw [Locking.lease_other hk hop]
  apply redisContents_congr
  · funext s
    apply World.exec_seatHolds_of
    · rintro p ttl rfl
      cases hnone
    · rintro rfl
      cases hnone
  · funext f
    apply World.exec_seatMapCache_of
    · rintro data ttl rfl
      cases hnone
    · rintro rfl
      cases hnone

/-- Nor does an action that fails. -/
lemma contents_of_fault (hk : c.threads[k]? = some ⟨call, .act a cont⟩) (hfault : ch.fault = true) :
    redisContents (World.exec a ch c.state).2 ((redlock cfg).lease T ⟨c, .act k ch, c'⟩) σ =
      redisContents c.state T σ := by
  cases hcmd : a.command? k with
  | none => exact contents_of_commandless hk hcmd
  | some cmd =>
      have hworld : (World.exec a ch c.state).2 = c.state := by
        cases a with
        | setSeatHold | existsSeatHold | delSeatHold | getSeatMapCache | setSeatMapCache
        | delSeatMapCache | acquireLock | releaseLock => simp [World.exec, World.redis, hfault]
        | _ => cases hcmd
      have hlease : (redlock cfg).lease T ⟨c, .act k ch, c'⟩ = T := by
        rw [Locking.lease, Locking.operation?_act hk]
        cases a with
        | acquireLock | releaseLock =>
            simp [redlock, Action.lockOp, skyHigh, World.exec, hfault, Except.isOk, Except.toBool]
        | setSeatHold | existsSeatHold | delSeatHold | getSeatMapCache | setSeatMapCache
        | delSeatMapCache => rfl
        | _ => cases hcmd
      rw [hworld, hlease]

/-- **The command that an action sends does in Redis what the action does in the model**, and its
answer is read as the result of the action. -/
lemma contents_of_command (σ : RateLimitState) (hk : c.threads[k]? = some ⟨call, .act a cont⟩)
    (hfault : ch.fault = false) (hpermits : (redlock cfg).Permits T ⟨c, .act k ch, c'⟩)
    {cmd : RedisCommand RedisKey} (hcmd : a.command? k = some cmd) :
    a.reads ((redisContents c.state T σ).exec c.state.now cmd).1 =
        some (World.exec a ch c.state).1 ∧
      ((redisContents c.state T σ).exec c.state.now cmd).2 =
        redisContents (World.exec a ch c.state).2
          ((redlock cfg).lease T ⟨c, .act k ch, c'⟩) σ := by
  cases a with
  | setSeatHold s p ttl =>
      obtain rfl := Option.some_inj.mp hcmd
      rw [Locking.lease_other hk rfl]
      simp only [World.exec, World.redis, hfault]
      exact ⟨rfl, update_seatHold s (c.state.expiring p ttl)⟩
  | delSeatHold s =>
      obtain rfl := Option.some_inj.mp hcmd
      rw [Locking.lease_other hk rfl]
      simp only [World.exec, World.redis, hfault]
      exact ⟨rfl, update_seatHold s none⟩
  | existsSeatHold s =>
      obtain rfl := Option.some_inj.mp hcmd
      rw [Locking.lease_other hk rfl]
      have hlive : (redisContents c.state T σ).live c.state.now (.seatHold s) =
          (c.state.live (c.state.seatHolds s)).map .passengerId := live_eq_map rfl
      simp only [RedisService.existsKey, Keyspace.exec, World.exec, World.redis, hfault, hlive]
      cases c.state.live (c.state.seatHolds s) <;> exact ⟨rfl, rfl⟩
  | setSeatMapCache f data ttl =>
      obtain rfl := Option.some_inj.mp hcmd
      rw [Locking.lease_other hk rfl]
      simp only [World.exec, World.redis, hfault]
      exact ⟨rfl, update_seatMapCache f (c.state.expiring data ttl)⟩
  | delSeatMapCache f =>
      obtain rfl := Option.some_inj.mp hcmd
      rw [Locking.lease_other hk rfl]
      simp only [World.exec, World.redis, hfault]
      exact ⟨rfl, update_seatMapCache f none⟩
  | getSeatMapCache f =>
      obtain rfl := Option.some_inj.mp hcmd
      rw [Locking.lease_other hk rfl]
      have hlive : (redisContents c.state T σ).live c.state.now (.seatMapCache f) =
          (c.state.live (c.state.seatMapCache f)).map .seatMap := live_eq_map rfl
      simp only [RedisService.getSeatMapCache, Keyspace.exec, World.exec, World.redis, hfault,
        hlive]
      cases c.state.live (c.state.seatMapCache f) <;> exact ⟨rfl, rfl⟩
  | acquireLock key =>
      obtain rfl := Option.some_inj.mp hcmd
      have hop : (redlock cfg).operation? ⟨c, .act k ch, c'⟩ = some (k, .acquire key, true) := by
        rw [Locking.operation?_act hk]
        simp [redlock, Action.lockOp, skyHigh, World.exec, hfault, Except.isOk, Except.toBool]
      simp only [Locking.Permits, hop] at hpermits
      have hfree : (redisContents c.state T σ).live c.state.now key.resource = none := by
        rw [live_eq_map (redisContents_resource key), Option.map_eq_none_iff]
        exact World.live_eq_none hpermits
      simp only [RedisService.acquireLock, Keyspace.exec, World.exec, hfault, hfree, Locking.lease,
        hop]
      exact ⟨rfl, update_resource key (some (k, c.state.now + key.ttlMs))⟩
  | releaseLock key =>
      obtain rfl := Option.some_inj.mp hcmd
      have hop : (redlock cfg).operation? ⟨c, .act k ch, c'⟩ = some (k, .release key, true) := by
        rw [Locking.operation?_act hk]
        simp [redlock, Action.lockOp, skyHigh, World.exec, hfault, Except.isOk, Except.toBool]
      simp only [Locking.Permits, hop] at hpermits
      have hheld : (redisContents c.state T σ).live c.state.now key.resource = some (.lock k) := by
        obtain ⟨lease, hlease, rfl, hlasts⟩ := hpermits
        rw [live_eq_map (redisContents_resource key), World.live_eq_some hlease hlasts]
        rfl
      simp only [RedisService.releaseLock, Keyspace.exec, World.exec, hfault, hheld, Locking.lease,
        hop]
      exact ⟨rfl, update_resource key none⟩
  | _ => cases hcmd

end Commands

/-! ## Requests that the rate limiter counts -/

section Arrivals

variable {rcfg : RateLimitConfig} {w : World} {T : Leases LockKey} {σ : RateLimitState}
  {x : Arrival}

/-- The pipeline of a request. -/
def Arrival.command (rcfg : RateLimitConfig) (x : Arrival) : RedisCommand RedisKey :=
  RedisService.addRateLimitEntry (.rateLimit x.clientIp) x.nowMs rcfg.windowMs

lemma members_rateLimit (ip : String) (now : ℕ) :
    RedisValue.members ((redisContents w T σ).live now (.rateLimit ip)) =
      some (σ.live (rateLimitKey ip) now) := by
  simp only [Keyspace.live, RateLimitState.live, redisContents]
  cases σ.sets (rateLimitKey ip) with
  | none => rfl
  | some e =>
      simp only [Option.map_some, Option.bind_some, Prod.map, id_eq]
      split <;> rfl

/-- **The pipeline of a request does in Redis what the middleware does in the model.** -/
lemma contents_of_arrival (rcfg : RateLimitConfig) (w : World) (T : Leases LockKey)
    (σ : RateLimitState) (hfails : x.pipelineFails = false) :
    ((redisContents w T σ).exec x.nowMs (x.command rcfg)).1 =
        .count (σ.addRateLimitEntry false (rateLimitKey x.clientIp) x.nowMs rcfg.windowMs).1 ∧
      ((redisContents w T σ).exec x.nowMs (x.command rcfg)).2 =
        redisContents w T (RateLimiterMiddleware.use rcfg σ x).2 := by
  have hsets : redisContents w T (RateLimiterMiddleware.use rcfg σ x).2 =
      redisContents w T (σ.addRateLimitEntry false (rateLimitKey x.clientIp) x.nowMs
        rcfg.windowMs).2 := by
    apply redisContents_sets
    rw [use_sets, hfails]
  rw [hsets, Arrival.command, RedisService.addRateLimitEntry, Keyspace.exec, members_rateLimit]
  exact ⟨rfl, update_rateLimit x.clientIp (some (_, x.nowMs + rcfg.windowMs))⟩

end Arrivals

/-! ## Runs -/

/-- A use of Redis, or a step of the services that does not use it. -/
inductive RedisUse where
  | transition (t : SkyTransition)
  | arrival (x : Arrival)

namespace RedisUse

def transition? : RedisUse → Option SkyTransition
  | .transition t => some t
  | .arrival _ => none

def arrival? : RedisUse → Option Arrival
  | .transition _ => none
  | .arrival x => some x

/-- The steps of the services among the uses. -/
def transitions (uses : List RedisUse) : List SkyTransition := uses.filterMap transition?

/-- The requests that the rate limiter counts. -/
def arrivals (uses : List RedisUse) : List Arrival := uses.filterMap arrival?

variable {uses : List RedisUse}

lemma transitions_transition (t : SkyTransition) :
    transitions (uses ++ [.transition t]) = transitions uses ++ [t] :=
  List.filterMap_append

lemma transitions_arrival (x : Arrival) :
    transitions (uses ++ [.arrival x]) = transitions uses :=
  List.filterMap_append.trans (List.append_nil _)

lemma arrivals_transition (t : SkyTransition) :
    arrivals (uses ++ [.transition t]) = arrivals uses :=
  List.filterMap_append.trans (List.append_nil _)

lemma arrivals_arrival (x : Arrival) : arrivals (uses ++ [.arrival x]) = arrivals uses ++ [x] :=
  List.filterMap_append

/-- The command that is sent, with the instant at which Redis executes it. -/
def command? (rcfg : RateLimitConfig) : RedisUse → Option (ℕ × RedisCommand RedisKey)
  | .transition t =>
      (executed? t).bind fun e => (e.2.command? e.1).map fun cmd => (t.pre.state.now, cmd)
  | .arrival x => if x.pipelineFails then none else some (x.nowMs, x.command rcfg)

/-- The command as it is sent. -/
def sent? (uuid : Uuid → String) (rcfg : RateLimitConfig) (u : RedisUse) :
    Option (ℕ × RedisCommand String) :=
  (u.command? rcfg).map fun cmd => (cmd.1, cmd.2.mapKey (RedisKey.spell uuid))

/-- If the use sends a command to the keyspace `ρ`, the answer is the one that the model gives:
read by the services, it is the result of the action, and for the middleware it is the count. -/
def Answered (uuid : Uuid → String) (rcfg : RateLimitConfig) (ρ : Keyspace String RedisValue)
    (arrivals : List Arrival) (u : RedisUse) : Prop :=
  ∀ cmd ∈ u.sent? uuid rcfg, match u with
    | .transition t => ∀ k ch call a cont, t.label = .act k ch →
        t.pre.threads[k]? = some ⟨call, .act a cont⟩ →
        a.reads (ρ.exec cmd.1 cmd.2).1 = some (World.exec a ch t.pre.state).1
    | .arrival x =>
        (ρ.exec cmd.1 cmd.2).1 = .count (RateLimiterMiddleware.count rcfg arrivals x)

end RedisUse

section Runs

variable {cfg : Settings} {rcfg : RateLimitConfig} {w : World} {uses : List RedisUse}
  {c : SkyConfig} {ρ : Keyspace String RedisValue}

/-- Redis after the uses. -/
def redisAfter (uuid : Uuid → String) (rcfg : RateLimitConfig) (ρ : Keyspace String RedisValue)
    (uses : List RedisUse) : Keyspace String RedisValue :=
  ρ.execAll (uses.filterMap (RedisUse.sent? uuid rcfg))

lemma redisAfter_append (us vs : List RedisUse) :
    redisAfter uuid rcfg ρ (us ++ vs) = redisAfter uuid rcfg (redisAfter uuid rcfg ρ us) vs := by
  rw [redisAfter, List.filterMap_append, Keyspace.execAll_append]
  rfl

lemma redisAfter_silent {u : RedisUse} (h : u.sent? uuid rcfg = none) :
    redisAfter uuid rcfg ρ [u] = ρ := by
  rw [redisAfter, List.filterMap_cons_none h]
  rfl

lemma redisAfter_sent {u : RedisUse} {cmd : ℕ × RedisCommand String}
    (h : u.sent? uuid rcfg = some cmd) :
    redisAfter uuid rcfg ρ [u] = (ρ.exec cmd.1 cmd.2).2 := by
  rw [redisAfter, List.filterMap_cons_some h]
  rfl

variable {T : Leases LockKey} {arrivals : List Arrival}

/-- A step that sends nothing. -/
lemma represents_silent {t : SkyTransition}
    (h : ρ.Represents (RedisKey.spell uuid)
      (redisContents t.pre.state T (RateLimiterMiddleware.after rcfg arrivals)))
    (hnone : (RedisUse.transition t).sent? uuid rcfg = none)
    (hsame : ∀ σ, redisContents t.post.state ((redlock cfg).lease T t) σ =
      redisContents t.pre.state T σ) :
    (RedisUse.transition t).Answered uuid rcfg ρ arrivals ∧
      (redisAfter uuid rcfg ρ [.transition t]).Represents (RedisKey.spell uuid)
        (redisContents t.post.state ((redlock cfg).lease T t)
          (RateLimiterMiddleware.after rcfg arrivals)) := by
  constructor
  · intro cmd hcmd
    rw [hnone] at hcmd
    cases hcmd
  · rw [redisAfter_silent hnone, hsame]
    exact h

/-- What one transition does. -/
lemma represents_transition {t : SkyTransition}
    (h : ρ.Represents (RedisKey.spell uuid)
      (redisContents t.pre.state T (RateLimiterMiddleware.after rcfg arrivals)))
    (huuid : Function.Injective uuid)
    (hstep : (skyHigh cfg).step t.label t.pre = some t.post)
    (hpermits : (redlock cfg).Permits T t) :
    (RedisUse.transition t).Answered uuid rcfg ρ arrivals ∧
      (redisAfter uuid rcfg ρ [.transition t]).Represents (RedisKey.spell uuid)
        (redisContents t.post.state ((redlock cfg).lease T t)
          (RateLimiterMiddleware.after rcfg arrivals)) := by
  obtain ⟨c, l, c'⟩ := t
  dsimp only at h hstep
  rcases (skyHigh cfg).step_cases hstep with ⟨call, rfl, rfl⟩ | ⟨ms, rfl, rfl⟩ |
    ⟨k, ch, call, a, cont, rfl, hk, rfl⟩
  · exact represents_silent h rfl fun σ => rfl
  · exact represents_silent h rfl fun σ => redisContents_congr rfl rfl
  · cases hfault : ch.fault with
    | true =>
        refine represents_silent h ?_ fun σ => contents_of_fault hk hfault
        simp [RedisUse.sent?, RedisUse.command?, executed?, hk, hfault]
    | false =>
        cases hcmd : a.command? k with
        | none =>
            refine represents_silent h ?_ fun σ => contents_of_commandless hk hcmd
            simp [RedisUse.sent?, RedisUse.command?, executed?, hk, hfault, hcmd]
        | some cmd =>
            have hsent : ∀ c', (RedisUse.transition ⟨c, .act k ch, c'⟩).sent? uuid rcfg =
                some (c.state.now, cmd.mapKey (RedisKey.spell uuid)) := by
              simp [RedisUse.sent?, RedisUse.command?, executed?, hk, hfault, hcmd]
            obtain ⟨hreads, hcontents⟩ := contents_of_command
              (RateLimiterMiddleware.after rcfg arrivals) hk hfault hpermits hcmd
            obtain ⟨hanswer, hrep⟩ := h.exec (RedisKey.spell_injective huuid) c.state.now cmd
            constructor
            · intro sent hmem k' ch' call' a' cont' hl hk'
              obtain rfl := Option.some_inj.mp ((hsent _).symm.trans hmem)
              obtain ⟨rfl, rfl⟩ := Label.act.inj hl
              obtain ⟨rfl, hact⟩ := Thread.mk.inj (Option.some_inj.mp (hk.symm.trans hk'))
              obtain ⟨rfl, -⟩ := Prog.act.inj hact
              rw [hanswer, hreads]
            · rw [redisAfter_sent (hsent _)]
              rw [hcontents] at hrep
              exact hrep

/-- What one request does. -/
lemma represents_arrival {x : Arrival} {w : World}
    (h : ρ.Represents (RedisKey.spell uuid)
      (redisContents w T (RateLimiterMiddleware.after rcfg arrivals)))
    (huuid : Function.Injective uuid) :
    (RedisUse.arrival x).Answered uuid rcfg ρ arrivals ∧
      (redisAfter uuid rcfg ρ [.arrival x]).Represents (RedisKey.spell uuid)
        (redisContents w T
          (RateLimiterMiddleware.use rcfg (RateLimiterMiddleware.after rcfg arrivals) x).2) := by
  cases hfails : x.pipelineFails with
  | true =>
      have hsent : (RedisUse.arrival x).sent? uuid rcfg = none := by
        simp [RedisUse.sent?, RedisUse.command?, hfails]
      constructor
      · intro cmd hcmd
        rw [hsent] at hcmd
        cases hcmd
      · rw [redisAfter_silent hsent]
        rw [redisContents_sets]
        · exact h
        · rw [use_sets, hfails]
          rfl
  | false =>
      have hsent : (RedisUse.arrival x).sent? uuid rcfg =
          some (x.nowMs, (x.command rcfg).mapKey (RedisKey.spell uuid)) := by
        simp [RedisUse.sent?, RedisUse.command?, hfails]
      obtain ⟨hcount, hcontents⟩ :=
        contents_of_arrival rcfg w T (RateLimiterMiddleware.after rcfg arrivals) hfails
      obtain ⟨hanswer, hrep⟩ := h.exec (RedisKey.spell_injective huuid) x.nowMs (x.command rcfg)
      constructor
      · intro cmd hcmd
        obtain rfl := Option.some_inj.mp (hsent.symm.trans hcmd)
        dsimp only
        rw [hanswer, hcount, RateLimiterMiddleware.count, hfails]
      · rw [redisAfter_sent hsent]
        rw [hcontents] at hrep
        exact hrep

/-- Before any use, nothing is leased and no request has been counted; the seat holds and the seat
maps that there are, are there under their keys. -/
abbrev StartsAs (uuid : Uuid → String) (w : World) (ρ : Keyspace String RedisValue) : Prop :=
  ρ.Represents (RedisKey.spell uuid) (redisContents w (fun _ => none) .empty)

/-- **The one map represents the model's maps** after every list of uses. -/
theorem run_represents (rcfg : RateLimitConfig) (huuid : Function.Injective uuid)
    (h₀ : StartsAs uuid w ρ)
    (h : (skyHigh cfg).Run (.init w) (RedisUse.transitions uses) c)
    (hlocks : (redlock cfg).Respected (RedisUse.transitions uses)) :
    (redisAfter uuid rcfg ρ uses).Represents (RedisKey.spell uuid)
      (redisContents c.state ((redlock cfg).leases (RedisUse.transitions uses))
        (RateLimiterMiddleware.after rcfg (RedisUse.arrivals uses))) := by
  induction uses using List.reverseRecOn generalizing c with
  | nil =>
      rw [h.eq_of_nil]
      exact h₀
  | append_singleton us u ih =>
      rw [redisAfter_append]
      cases u with
      | transition t =>
          rw [RedisUse.transitions_transition] at h hlocks ⊢
          rw [RedisUse.arrivals_transition, Locking.leases_concat]
          obtain ⟨hrun, hstep, hend⟩ := h.at_transition
          obtain ⟨hrespected, hpermits⟩ := hlocks.concat
          rw [hend.eq_of_nil]
          exact (represents_transition (ih hrun hrespected) huuid hstep hpermits).2
      | arrival x =>
          rw [RedisUse.transitions_arrival] at h hlocks ⊢
          rw [RedisUse.arrivals_arrival, RateLimiterMiddleware.after, List.foldl_append]
          exact (represents_arrival (ih h hlocks) huuid).2

/-- **Every command is answered as the model has it.** -/
theorem run_answered (huuid : Function.Injective uuid) (h₀ : StartsAs uuid w ρ)
    (h : (skyHigh cfg).Run (.init w) (RedisUse.transitions uses) c)
    (hlocks : (redlock cfg).Respected (RedisUse.transitions uses)) {us vs : List RedisUse}
    {u : RedisUse} (huses : uses = us ++ u :: vs) :
    u.Answered uuid rcfg (redisAfter uuid rcfg ρ us) (RedisUse.arrivals us) := by
  rw [huses, List.append_cons] at h hlocks
  rw [RedisUse.transitions, List.filterMap_append] at h hlocks
  obtain ⟨c', h, -⟩ := h.split
  have hlocks := hlocks.prefix
  cases u with
  | transition t =>
      rw [← RedisUse.transitions, RedisUse.transitions_transition] at h hlocks
      obtain ⟨hrun, hstep, -⟩ := h.at_transition
      obtain ⟨hrespected, hpermits⟩ := hlocks.concat
      exact (represents_transition (run_represents rcfg huuid h₀ hrun hrespected) huuid hstep
        hpermits).1
  | arrival x =>
      rw [← RedisUse.transitions, RedisUse.transitions_arrival] at h hlocks
      exact (represents_arrival (run_represents rcfg huuid h₀ h hlocks) huuid).1

/-- **Redis with its one keyspace does what the model's maps do**, and a lapsed key is handed on
exactly if it is that of a seat hold. -/
theorem run_keyspace (rcfg : RateLimitConfig) (huuid : Function.Injective uuid)
    (h₀ : StartsAs uuid w ρ)
    (h : (skyHigh cfg).Run (.init w) (RedisUse.transitions uses) c)
    (hlocks : (redlock cfg).Respected (RedisUse.transitions uses)) :
    (redisAfter uuid rcfg ρ uses).Represents (RedisKey.spell uuid)
      (redisContents c.state ((redlock cfg).leases (RedisUse.transitions uses))
        (RateLimiterMiddleware.after rcfg (RedisUse.arrivals uses))) ∧
    (∀ us u vs, uses = us ++ u :: vs →
      u.Answered uuid rcfg (redisAfter uuid rcfg ρ us) (RedisUse.arrivals us)) ∧
    ∀ key e, redisAfter uuid rcfg ρ uses key ≠ none →
      (RedisKeyExpirySubscriber.onMessage RedisKeyExpirySubscriber.expiredChannel key = some e ↔
        ∃ s, key = RedisKey.spell uuid (.seatHold s) ∧ c.state.seatHolds s ≠ none ∧
          e = ⟨uuid s, key⟩) := by
  have hrep := run_represents rcfg huuid h₀ h hlocks
  refine ⟨hrep, fun us u vs huses => run_answered huuid h₀ h hlocks huses, ?_⟩
  intro key e hkey
  obtain ⟨key, rfl⟩ := hrep.only key hkey
  rw [RedisKeyExpirySubscriber.onMessage_spell_iff]
  constructor
  · rintro ⟨s, rfl, rfl⟩
    rw [hrep.under] at hkey
    exact ⟨s, rfl, fun hnone => hkey (by simp [redisContents, hnone]), rfl⟩
  · rintro ⟨s, hs, -, rfl⟩
    exact ⟨s, RedisKey.spell_injective huuid hs, rfl⟩

/-- A client whose address is spelled like the hold of a seat, and then a start. -/
def lookalike : Arrival := ⟨⟨some "hold:100", none, "/flights/10/seatmap", "GET"⟩, 0, false, false⟩

theorem keyspace_lookalike : ∃ ts c, (skyHigh {}).Run (.init oneSeatWorld) ts c ∧
    redisAfter toString {} (fun _ => none) (.arrival lookalike :: ts.map .transition) "hold:100" =
      some (.passengerId 1, 120000) ∧
    RedisKeyExpirySubscriber.onMessage RedisKeyExpirySubscriber.expiredChannel "hold:100" =
      some ⟨"100", "hold:100"⟩ := by
  obtain ⟨ts, c, hrun, htest⟩ := exists_run start
    (fun ts c => decide ((redlock {}).Respected ts) &&
      decide (c.state.seatHolds 100 = some (1, 120000))) (by decide +kernel)
  simp only [Bool.and_eq_true, decide_eq_true_eq] at htest
  obtain ⟨hlocks, hhold⟩ := htest
  have htransitions : RedisUse.transitions (.arrival lookalike :: ts.map .transition) = ts := by
    rw [RedisUse.transitions, List.filterMap_cons_none rfl, List.filterMap_map]
    exact List.filterMap_some
  have h₀ : StartsAs toString oneSeatWorld fun _ => none :=
    ⟨fun key => by cases key <;> rfl, fun key hkey => absurd rfl hkey⟩
  rw [← htransitions] at hrun hlocks
  obtain ⟨hrep, -, hexpired⟩ := run_keyspace {} toString_injective h₀ hrun hlocks
  have hspell : RedisKey.spell toString (.seatHold 100) = "hold:100" := by decide
  have hunder := hrep.under (.seatHold 100)
  rw [hspell, redisContents, hhold] at hunder
  refine ⟨ts, c, htransitions ▸ hrun, hunder, (hexpired _ _ ?_).mpr ⟨100, hspell.symm, ?_, rfl⟩⟩
  · rw [hunder]
    exact Option.some_ne_none _
  · rw [hhold]
    exact Option.some_ne_none _

end Runs

end SkyHighCore
