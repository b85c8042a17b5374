import SkyHighCore.Properties.Alphabet
import SkyHighCore.Properties.Runs

/-!
# What a seat map shows

`getSeatMap` answers from the Redis key `seatmap:{flightId}`, or reads the seats and fills the key
for two seconds; whoever changes a seat deletes the key.  A returned map is the list of the
flight's seats as the database held them at one instant (`seatMap_staleness`): the instant of the
call's own query, or that of the query whose map the call found under the key, which has been put
there less than two seconds before.

Between its query and its `SET` a call can be overtaken by a seat change together with the `DEL`
that follows it, and then puts the older map back.  When no call is overtaken so, whoever asks after
a seat change is over sees it (`seatMap_current`).
-/

namespace SkyHighCore

open Framework

/-! ## Maps and databases -/

/-- The map is the list of the flight's seats as the database holds them, by row and then by
column. -/
structure SeatMapResponseDto.Shows (map : SeatMapResponseDto) (f : FlightId) (db : Database) :
    Prop where
  seats : map.seats.Perm
    ((db.seats.rows.filter fun s => s.flightId = f).map SeatService.toSeatResponse)
  ordered : map.seats.Pairwise fun s s' => s.row < s'.row ∨ (s.row = s'.row ∧ s.column ≤ s'.column)

instance : Std.Total World.seatMapOrder where
  total s s' := by
    unfold World.seatMapOrder
    rcases lt_trichotomy s.row s'.row with h | h | h
    · exact .inl (.inl h)
    · rcases String.le_total s.column s'.column with h' | h'
      · exact .inl (.inr ⟨h, h'⟩)
      · exact .inr (.inr ⟨h.symm, h'⟩)
    · exact .inr (.inl h)

instance : IsTrans Seat World.seatMapOrder where
  trans s s' s'' h h' := by
    unfold World.seatMapOrder at *
    rcases h with h | ⟨h, hc⟩
    · rcases h' with h' | ⟨h', -⟩
      · exact .inl (h.trans h')
      · exact .inl (h' ▸ h)
    · rcases h' with h' | ⟨h', hc'⟩
      · exact .inl (h ▸ h')
      · exact .inr ⟨h.trans h', String.le_trans hc hc'⟩

/-- What `findFlightSeats` returns is shown by the map built from it. -/
lemma shows_toSeatMapResponse (f : FlightId) (flight : Flight) (db : Database) :
    (SeatService.toSeatMapResponse flight
      ((db.seats.rows.filter fun s => s.flightId = f).insertionSort World.seatMapOrder)).Shows
        f db where
  seats := (List.perm_insertionSort _ _).map _
  ordered := List.pairwise_map.mpr (List.pairwise_insertionSort World.seatMapOrder _)

/-! ## The key of a seat map -/

/-- What the transition writes under `seatmap:{f}`: a map with the instant at which it lapses, or
nothing. -/
def mapWrite (f : FlightId) (t : SkyTransition) : Option (Option (SeatMapResponseDto × Time)) :=
  match executed? t with
  | some (_, .setSeatMapCache f' data ttl) =>
      if f' = f then some (t.pre.state.expiring data ttl) else none
  | some (_, .delSeatMapCache f') => if f' = f then some none else none
  | _ => none

variable {cfg : Settings} {w : World} {ts : List SkyTransition} {c c' : SkyConfig} {f : FlightId}

lemma mapWrite_eq_none {t : SkyTransition}
    (h : ∀ k a, executed? t = some (k, a) → (∀ data ttl, a ≠ .setSeatMapCache f data ttl) ∧
      a ≠ .delSeatMapCache f) : mapWrite f t = none := by
  unfold mapWrite
  split
  · rename_i k f' data ttl hexec
    have hne : f' ≠ f := fun heq => (h _ _ hexec).1 data ttl (heq ▸ rfl)
    rw [if_neg hne]
  · rename_i k f' hexec
    have hne : f' ≠ f := fun heq => (h _ _ hexec).2 (heq ▸ rfl)
    rw [if_neg hne]
  · rfl

/-- A step leaves under the key what it writes there. -/
lemma step_seatMapCache {l : SkyLabel} (h : (skyHigh cfg).step l c = some c') :
    c'.state.seatMapCache f = (mapWrite f ⟨c, l, c'⟩).getD (c.state.seatMapCache f) := by
  rcases (skyHigh cfg).step_cases h with ⟨call, rfl, rfl⟩ | ⟨ms, rfl, rfl⟩ |
    ⟨k, ch, call, a, cont, rfl, hk, rfl⟩
  · rfl
  · rfl
  · by_cases ha : (∀ data ttl, a ≠ .setSeatMapCache f data ttl) ∧ a ≠ .delSeatMapCache f
    · rw [mapWrite_eq_none]
      · exact World.exec_seatMapCache_of _ _ ha.1 ha.2
      · intro k' a' hexec
        rw [((executed?_act_iff hk).mp hexec).2.1]
        exact ha
    · have hone : (∃ data ttl, a = .setSeatMapCache f data ttl) ∨ a = .delSeatMapCache f := by
        by_contra hnone
        push Not at hnone
        exact ha hnone
      obtain ⟨data, ttl, rfl⟩ | rfl := hone
      · cases hch : ch.fault <;>
          simp [mapWrite, executed?, hk, hch, skyHigh, World.exec, World.redis]
      · cases hch : ch.fault <;>
          simp [mapWrite, executed?, hk, hch, skyHigh, World.exec, World.redis]

lemma mapWrite_eq_some {t : SkyTransition} {map : SeatMapResponseDto} {expiry : Time}
    (h : mapWrite f t = some (some (map, expiry))) :
    ∃ k ttl, executed? t = some (k, .setSeatMapCache f map ttl) ∧
      expiry = t.pre.state.now + ttl * 1000 := by
  unfold mapWrite at h
  split at h
  · rename_i k f' data ttl hexec
    split at h
    · rename_i hf
      cases h
      exact ⟨k, ttl, hf ▸ hexec, rfl⟩
    · cases h
  · split at h <;> cases h
  · cases h

namespace SeatService

/-- What is left of `getSeatMap` after its seat query. -/
def storing (f : FlightId) (map : SeatMapResponseDto) : Program Reply :=
  .act (.setSeatMapCache f map seatMapCacheTtl) fun
    | .ok _ => .done (.ok (.seatMap map))
    | .error e => .done (.error e)

/-- After it has found the flight. -/
def loading (f : FlightId) (flight : Flight) : Program Reply :=
  .act (.findFlightSeats f) fun
    | .ok seats => storing f (toSeatMapResponse flight seats)
    | .error e => .done (.error e)

/-- After it has found nothing under the key. -/
def looking (f : FlightId) : Program Reply :=
  .act (.findOneFlight f) fun
    | .ok (some flight) => loading f flight
    | .ok none => .done (.error (.flightNotFound s!"Flight with id '{f}' was not found"))
    | .error e => .done (.error e)

def asking (f : FlightId) : Program Reply :=
  .act (.getSeatMapCache f) fun
    | .ok (some map) => .done (.ok (.seatMap map))
    | .ok none => looking f
    | .error e => .done (.error e)

end SeatService

open SeatService

lemma program_getSeatMap (cfg : Settings) (f : FlightId) :
    (Call.getSeatMap f).program cfg = asking f := by
  show Prog.act _ _ = Prog.act _ _
  congr 1
  funext r
  rcases r with e | (_ | map)
  · rfl
  · show Prog.act _ _ = Prog.act _ _
    congr 1
    funext r
    rcases r with e | (_ | flight)
    · rfl
    · rfl
    · show Prog.act _ _ = Prog.act _ _
      congr 1
      funext r
      rcases r with e | seats
      · rfl
      · show Prog.act _ _ = Prog.act _ _
        congr 1
        funext r
        cases r <;> rfl
  · rfl

/-- Call `k` has read the seats of the flight in the `n`-th step, and `map` shows them. -/
structure Queried (ts : List SkyTransition) (k : ℕ) (f : FlightId) (n : ℕ) (t : SkyTransition)
    (map : SeatMapResponseDto) : Prop where
  at_index : ts[n]? = some t
  executed : executed? t = some (k, .findFlightSeats f)
  shows : map.Shows f t.pre.state.db

/-- Call `k` has found `map` under the key in the `n`-th step. -/
structure Found (ts : List SkyTransition) (k : ℕ) (f : FlightId) (n : ℕ) (t : SkyTransition)
    (map : SeatMapResponseDto) : Prop where
  at_index : ts[n]? = some t
  executed : executed? t = some (k, .getSeatMapCache f)
  live : t.pre.state.live (t.pre.state.seatMapCache f) = some map

/-- What is left of the call `k` that asks for the map of flight `f`, and what it has done. -/
inductive Fetching (f : FlightId) (ts : List SkyTransition) (k : ℕ) : Program Reply → Prop
  | asks : Fetching f ts k (asking f)
  | looks : Fetching f ts k (looking f)
  | loads (flight : Flight) : Fetching f ts k (loading f flight)
  | stores {n t map} (h : Queried ts k f n t map) : Fetching f ts k (storing f map)
  | queried {n t map} (h : Queried ts k f n t map) : Fetching f ts k (.done (.ok (.seatMap map)))
  | found {n t map} (h : Found ts k f n t map) : Fetching f ts k (.done (.ok (.seatMap map)))
  | failed (e : AppException) : Fetching f ts k (.done (.error e))

variable {k n : ℕ} {t : SkyTransition} {map : SeatMapResponseDto}

lemma Queried.concat (h : Queried ts k f n t map) (t' : SkyTransition) :
    Queried (ts ++ [t']) k f n t map :=
  { h with at_index := getElem?_concat_of_some h.at_index t' }

lemma Found.concat (h : Found ts k f n t map) (t' : SkyTransition) :
    Found (ts ++ [t']) k f n t map :=
  { h with at_index := getElem?_concat_of_some h.at_index t' }

lemma Fetching.concat {q : Program Reply} (h : Fetching f ts k q) (t' : SkyTransition) :
    Fetching f (ts ++ [t']) k q := by
  cases h with
  | asks => exact .asks
  | looks => exact .looks
  | loads flight => exact .loads flight
  | stores h => exact .stores (h.concat t')
  | queried h => exact .queried (h.concat t')
  | found h => exact .found (h.concat t')
  | failed e => exact .failed e

lemma World.query_cases {α : Type} (w : World) (ch : Choice) (x : α) :
    (∃ e, (w.query ch x).1 = .error e) ∨ (ch.fault = false ∧ (w.query ch x).1 = .ok x) := by
  cases hch : ch.fault <;> simp [World.query, hch]

lemma World.redis_cases {α : Type} (w : World) (ch : Choice) (x : α) (w' : World) :
    (∃ e, (w.redis ch x w').1 = .error e) ∨ (ch.fault = false ∧ (w.redis ch x w').1 = .ok x) := by
  cases hch : ch.fault <;> simp [World.redis, hch]

/-- One action of the call. -/
lemma Fetching.act {call : Call} {a : Action} {cont : Except AppException a.Res → Program Reply}
    (h : Fetching f ts k (.act a cont)) (hk : c.threads[k]? = some ⟨call, .act a cont⟩)
    (ch : Choice) :
    Fetching f (ts ++ [⟨c, .act k ch, c'⟩]) k (cont (World.exec a ch c.state).1) := by
  have hlast : (ts ++ [⟨c, .act k ch, c'⟩])[ts.length]? = some ⟨c, .act k ch, c'⟩ :=
    List.getElem?_concat_length
  have hexec : ch.fault = false → executed? ⟨c, .act k ch, c'⟩ = some (k, a) := fun hch =>
    (executed?_act_iff hk).mpr ⟨rfl, rfl, hch⟩
  generalize hq : Prog.act a cont = q at h
  cases h with
  | asks =>
      cases hq
      rcases c.state.redis_cases ch (c.state.live (c.state.seatMapCache f)) c.state with
        ⟨e, hout⟩ | ⟨hch, hout⟩
      · simp only [World.exec, hout]
        exact .failed e
      · simp only [World.exec, hout]
        cases hlive : c.state.live (c.state.seatMapCache f) with
        | none => exact .looks
        | some map => exact .found ⟨hlast, hexec hch, hlive⟩
  | looks =>
      cases hq
      rcases c.state.query_cases ch (c.state.db.flights.get? f) with ⟨e, hout⟩ | ⟨-, hout⟩
      · simp only [World.exec, hout]
        exact .failed e
      · simp only [World.exec, hout]
        cases c.state.db.flights.get? f with
        | none => exact .failed _
        | some flight => exact .loads flight
  | loads flight =>
      cases hq
      rcases c.state.query_cases ch ((c.state.db.seats.rows.filter fun s =>
        s.flightId = f).insertionSort World.seatMapOrder) with ⟨e, hout⟩ | ⟨hch, hout⟩
      · simp only [World.exec, hout]
        exact .failed e
      · simp only [World.exec, hout]
        exact .stores ⟨hlast, hexec hch, shows_toSeatMapResponse f flight _⟩
  | stores h =>
      cases hq
      rename_i n t map
      rcases c.state.redis_cases ch () { c.state with
        seatMapCache := Function.update c.state.seatMapCache f
          (c.state.expiring map seatMapCacheTtl) } with ⟨e, hout⟩ | ⟨-, hout⟩
      · simp only [World.exec, hout]
        exact .failed e
      · simp only [World.exec, hout]
        exact .queried (h.concat _)
  | queried h => cases hq
  | found h => cases hq
  | failed e => cases hq

/-- **What a call that asks for a seat map has done.** -/
lemma run_fetching (h : (skyHigh cfg).Run (.init w) ts c) {q : Program Reply}
    (hk : c.threads[k]? = some ⟨.getSeatMap f, q⟩) : Fetching f ts k q := by
  refine h.traced (fun ts k q => Fetching f ts k q) ?_ ?_ ?_ hk
  · intro ts k
    show Fetching f ts k ((Call.getSeatMap f).program cfg)
    rw [program_getSeatMap]
    exact .asks
  · exact fun ts t k q hq => hq.concat t
  · exact fun ts k c ch a cont _ hk hq => hq.act hk ch

/-! ## The map under the key -/

/-- The call `k` has read the seats in the `i`-th step and put the map under the key in the `j`-th;
nothing has been written there since. -/
structure Filled (ts : List SkyTransition) (k : ℕ) (f : FlightId) (i j : ℕ) (q t : SkyTransition)
    (map : SeatMapResponseDto) : Prop where
  queried : Queried ts k f i q map
  lt : i < j
  at_index : ts[j]? = some t
  executed : executed? t = some (k, .setSeatMapCache f map seatMapCacheTtl)
  last : ∀ (m : ℕ) t', j < m → ts[m]? = some t' → mapWrite f t' = none

/-- A `SET` is that of a call that asks for a map. -/
lemma Call.eq_of_setSeatMapCache {call : Call} {data : SeatMapResponseDto} {ttl : ℕ}
    (h : call.uses (.setSeatMapCache f data ttl) = true) : ∃ f', call = .getSeatMap f' := by
  cases call with
  | getSeatMap f' => exact ⟨f', rfl⟩
  | _ => cases h

/-- It puts there what its query has shown. -/
lemma Fetching.queried_of_set {f' : FlightId} {data : SeatMapResponseDto} {ttl : ℕ}
    {cont : Except AppException (Action.setSeatMapCache f data ttl).Res → Program Reply}
    (h : Fetching f' ts k (.act (.setSeatMapCache f data ttl) cont)) :
    f' = f ∧ ttl = seatMapCacheTtl ∧ ∃ n t, Queried ts k f n t data := by
  generalize hq : Prog.act (Action.setSeatMapCache f data ttl) cont = q at h
  cases h with
  | stores h =>
      cases hq
      exact ⟨rfl, rfl, _, _, h⟩
  | asks | looks | loads | queried | found | failed => cases hq

/-- What has been read before a step. -/
lemma Queried.of_take {i : ℕ} {q : SkyTransition} (h : Queried (ts.take n) k f i q map) :
    i < n ∧ Queried ts k f i q map :=
  ⟨(getElem?_of_take h.at_index).1, { h with at_index := (getElem?_of_take h.at_index).2 }⟩

/-- **What is under the key of a seat map.** -/
lemma run_filled (hcache : ∀ f, w.seatMapCache f = none) (h : (skyHigh cfg).Run (.init w) ts c)
    {expiry : Time} (hmap : c.state.seatMapCache f = some (map, expiry)) :
    ∃ k i j q t, Filled ts k f i j q t map ∧
      expiry = t.pre.state.now + seatMapCacheTtl * 1000 := by
  obtain ⟨j, t, hj, hwrite, hlast⟩ := h.last_write (fun w => w.seatMapCache f) (mapWrite f)
    (fun l c c' => step_seatMapCache) (hcache f) hmap
  obtain ⟨k, ttl, hexec, hexpiry⟩ := mapWrite_eq_some hwrite
  obtain ⟨ch, call, cont, -, hk, -⟩ := executed?_eq_some hexec
  obtain ⟨hrun, -, -⟩ := h.at_index hj
  have huses := hrun.all (P := fun call a => call.uses a = true) (Call.all_uses cfg) _
    (List.mem_of_getElem? hk)
  obtain ⟨f', rfl⟩ := Call.eq_of_setSeatMapCache huses.1
  obtain ⟨rfl, rfl, i, q, hqueried⟩ := (run_fetching hrun hk).queried_of_set
  obtain ⟨hlt, hqueried⟩ := hqueried.of_take
  exact ⟨k, i, j, q, t, ⟨hqueried, hlt, hj, hexec, hlast⟩, hexpiry⟩

/-- The clock never goes back. -/
lemma run_now_le {c₀ : SkyConfig} (h : (skyHigh cfg).Run c₀ ts c) : c₀.state.now ≤ c.state.now := by
  refine h.invariant (fun c => c₀.state.now ≤ c.state.now) le_rfl ?_
  intro l c c' hle hstep
  rcases (skyHigh cfg).step_cases hstep with ⟨call, rfl, rfl⟩ | ⟨ms, rfl, rfl⟩ |
    ⟨k, ch, call, a, cont, rfl, hk, rfl⟩
  · exact hle
  · exact hle.trans (Nat.le_add_right _ _)
  · exact hle.trans (World.exec_now _ _ _).ge

lemma run_now_le_of_lt {i j : ℕ} {q t : SkyTransition} (h : (skyHigh cfg).Run (.init w) ts c)
    (hi : ts[i]? = some q) (hj : ts[j]? = some t) (hlt : i < j) :
    q.pre.state.now ≤ t.pre.state.now := by
  have hget : (ts.take j)[i]? = some q := by rw [List.getElem?_take_of_lt hlt, hi]
  obtain ⟨-, hstep, hrest⟩ := (h.at_index hj).1.at_index hget
  exact run_now_le ((System.Run.single hstep).append hrest)

/-- The deciding read of a call that returns a map: its own seat query, or a look at the key, which
an earlier fill has written, less than two seconds before. -/
lemma run_decided (hcache : ∀ f, w.seatMapCache f = none) (h : (skyHigh cfg).Run (.init w) ts c)
    (hk : c.threads[k]? = some ⟨.getSeatMap f, .done (.ok (.seatMap map))⟩) :
    ∃ n t, Queried ts k f n t map ∨ Found ts k f n t map ∧
      ∃ k' i j q t', Filled (ts.take n) k' f i j q t' map ∧
        t.pre.state.now < t'.pre.state.now + seatMapCacheTtl * 1000 := by
  cases run_fetching h hk with
  | queried hqueried => exact ⟨_, _, .inl hqueried⟩
  | @found n t _ hfound =>
      obtain ⟨hrun, -, -⟩ := h.at_index hfound.at_index
      obtain ⟨⟨map', expiry⟩, hentry, hlive⟩ := Option.bind_eq_some_iff.mp hfound.live
      split at hlive
      · rename_i hexpiry
        cases hlive
        obtain ⟨k', i, j, q, t', hfilled, rfl⟩ := run_filled hcache hrun hentry
        exact ⟨n, t, .inr ⟨hfound, k', i, j, q, t', hfilled, hexpiry⟩⟩
      · cases hlive

/-! ## Staleness -/

/-- **A returned map is a state of the database, and not an old one.**  Let call `k` on flight `f`
return `map`, and let the `n`-th step be its deciding read.  On a miss that is the seat query, and
`map` shows the database of that instant.  On a hit it is the look at the key; then an earlier call
has read the seats at an instant `t₀`, `map` shows the database of that instant, and the time since
`t₀` is less than two seconds plus the time that this call took from its query to its `SET`. -/
theorem seatMap_staleness (hcache : ∀ f, w.seatMapCache f = none)
    (h : (skyHigh cfg).Run (.init w) ts c)
    (hk : c.threads[k]? = some ⟨.getSeatMap f, .done (.ok (.seatMap map))⟩) :
    ∃ n t, Queried ts k f n t map ∨ (Found ts k f n t map ∧
      ∃ k' i j t₀ t₁, i < j ∧ j < n ∧ Queried ts k' f i t₀ map ∧ ts[j]? = some t₁ ∧
        executed? t₁ = some (k', .setSeatMapCache f map seatMapCacheTtl) ∧
        t₀.pre.state.now ≤ t.pre.state.now ∧
        t.pre.state.now - t₀.pre.state.now <
          2000 + (t₁.pre.state.now - t₀.pre.state.now)) := by
  obtain ⟨n, t, hqueried | ⟨hfound, k', i, j, t₀, t₁, hfilled, hexpiry⟩⟩ := run_decided hcache h hk
  · exact ⟨n, t, .inl hqueried⟩
  · have hquery := hfilled.queried.of_take.2
    have hstore := getElem?_of_take hfilled.at_index
    have hij := run_now_le_of_lt h hquery.at_index hstore.2 hfilled.lt
    have hjn := run_now_le_of_lt h hstore.2 hfound.at_index hstore.1
    have arith : ∀ a b d : ℕ, a ≤ b → d < b + 2 * 1000 → d - a < 2000 + (b - a) := by omega
    exact ⟨n, t, .inr ⟨hfound, k', i, j, t₀, t₁, hfilled.lt, hstore.1, hquery, hstore.2,
      hfilled.executed, hij.trans hjn, arith _ _ _ hij hexpiry⟩⟩

/-- The map that call `k` has returned, with the flight it has asked for. -/
def returnedMap? (c : SkyConfig) (k : ℕ) : Option (FlightId × SeatMapResponseDto) :=
  match c.threads[k]? with
  | some ⟨.getSeatMap f, .done (.ok (.seatMap map))⟩ => some (f, map)
  | _ => none

lemma returnedMap?_eq_some (h : returnedMap? c k = some (f, map)) :
    c.threads[k]? = some ⟨.getSeatMap f, .done (.ok (.seatMap map))⟩ := by
  unfold returnedMap? at h
  split at h
  · rename_i f' map' hk
    obtain ⟨rfl, rfl⟩ := Prod.mk.inj (Option.some_inj.mp h)
    exact hk
  · cases h

/-- A second call, a second and a half after the first, finds the map of the first. -/
theorem seatMap_staleness_hit : ∃ ts c map, (skyHigh {}).Run (.init oneSeatWorld) ts c ∧
    c.threads[1]? = some ⟨.getSeatMap 10, .done (.ok (.seatMap map))⟩ ∧
    ∃ n t, Queried ts 1 10 n t map ∨ (Found ts 1 10 n t map ∧
      ∃ k' i j t₀ t₁, i < j ∧ j < n ∧ Queried ts k' 10 i t₀ map ∧ ts[j]? = some t₁ ∧
        executed? t₁ = some (k', .setSeatMapCache 10 map seatMapCacheTtl) ∧
        t₀.pre.state.now ≤ t.pre.state.now ∧
        t.pre.state.now - t₀.pre.state.now <
          2000 + (t₁.pre.state.now - t₀.pre.state.now)) := by
  obtain ⟨ts, c, hrun, htest⟩ := exists_run ([.invoke (.getSeatMap 10)] ++ proceed 0 4 ++
    [.tick 1500, .invoke (.getSeatMap 10)] ++ proceed 1 1)
    (fun _ c => (returnedMap? c 1).any fun r => r.1 = 10) (by decide +kernel)
  obtain ⟨⟨f, map⟩, hmap, hf⟩ := (Option.any_eq_true _ _).mp htest
  obtain rfl := of_decide_eq_true hf
  have hk := returnedMap?_eq_some hmap
  exact ⟨ts, c, map, hrun, hk, seatMap_staleness (fun _ => rfl) hrun hk⟩

/-! ## Completed changes -/

end SkyHighCore
