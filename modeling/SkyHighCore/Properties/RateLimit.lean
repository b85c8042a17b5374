import SkyHighCore.Construction.RateLimiter

/-!
# What the rate limiter counts

Requests of any number of clients arrive in the order of their milliseconds.  `pruned_after` is
the invariant: what is left of a client's sorted set once it is pruned at `t` is one member for
each millisecond in `(t - windowMs, t]` at which a request of that client was recorded.  The
lapse of the key takes nothing from it, since a set lapses when all of its members are due, and
the keys of two clients differ.

Hence the count is a number of milliseconds.  It never exceeds the number of requests, so nobody
is throttled for the requests of others (`rateLimit_sparesOthers`); it falls short of it when
requests share a millisecond, and then the limit is not enforced (`rateLimit_enforced_iff`).
-/

namespace SkyHighCore

open Framework RateLimiterMiddleware

/-! ## Windows of arrivals -/

/-- The requests arrive in the order of their milliseconds. -/
def InOrder (xs : List Arrival) : Prop := xs.Pairwise fun x y => x.nowMs ≤ y.nowMs

instance : DecidablePred InOrder := fun _ => by
  unfold InOrder; infer_instance

lemma InOrder.of_concat {xs : List Arrival} {x : Arrival} (h : InOrder (xs ++ [x])) :
    InOrder xs := (List.pairwise_append.mp h).1

lemma InOrder.le_last {xs : List Arrival} {x : Arrival} (h : InOrder (xs ++ [x])) :
    ∀ y ∈ xs ++ [x], y.nowMs ≤ x.nowMs := by
  intro y hy
  rcases List.mem_append.mp hy with hy | hy
  · exact (List.pairwise_append.mp h).2.2 y hy x (by simp)
  · rw [List.mem_singleton.mp hy]

/-- The request arrived in `(t - windowMs, t]`. -/
def Arrival.Within (windowMs : ℕ) (t : ℕ) (x : Arrival) : Prop :=
  x.nowMs ≤ t ∧ t < x.nowMs + windowMs

instance (windowMs : ℕ) (t : ℕ) : DecidablePred (Arrival.Within windowMs t) := fun _ => by
  unfold Arrival.Within; infer_instance

/-- The requests of `ip` that arrived in `(t - windowMs, t]`, rejected ones included. -/
def arrivedIn (windowMs : ℕ) (ip : String) (t : ℕ) (xs : List Arrival) : List Arrival :=
  xs.filter fun x => x.clientIp = ip ∧ x.Within windowMs t

/-- The milliseconds of those of them that Redis recorded. -/
def recordedIn (windowMs : ℕ) (ip : String) (t : ℕ) (xs : List Arrival) : List ℕ :=
  ((arrivedIn windowMs ip t xs).filter fun x => ¬ x.pipelineFails).map Arrival.nowMs

lemma mem_arrivedIn_iff {windowMs : ℕ} {ip : String} {t : ℕ} {xs : List Arrival}
    {x : Arrival} :
    x ∈ arrivedIn windowMs ip t xs ↔ x ∈ xs ∧ x.clientIp = ip ∧ x.Within windowMs t := by
  simp [arrivedIn]

lemma mem_recordedIn_iff {windowMs : ℕ} {ip : String} {t u : ℕ} {xs : List Arrival} :
    u ∈ recordedIn windowMs ip t xs ↔
      ∃ x ∈ xs, (x.clientIp = ip ∧ x.Within windowMs t) ∧ x.pipelineFails = false ∧
        x.nowMs = u := by
  simp [recordedIn, mem_arrivedIn_iff, and_assoc]

lemma length_dedup_recordedIn_le (windowMs : ℕ) (ip : String) (t : ℕ) (xs : List Arrival) :
    (recordedIn windowMs ip t xs).dedup.length ≤ (arrivedIn windowMs ip t xs).length := by
  calc (recordedIn windowMs ip t xs).dedup.length
      ≤ (recordedIn windowMs ip t xs).length := (List.dedup_sublist _).length_le
    _ ≤ (arrivedIn windowMs ip t xs).length := by
        rw [recordedIn, List.length_map]
        exact List.length_filter_le _ _

lemma recordedIn_of_executed {windowMs : ℕ} {ip : String} {t : ℕ} {xs : List Arrival}
    (h : ∀ x ∈ xs, x.pipelineFails = false) :
    recordedIn windowMs ip t xs = (arrivedIn windowMs ip t xs).map Arrival.nowMs := by
  rw [recordedIn, List.filter_eq_self.mpr]
  intro x hx
  simp [h x (mem_arrivedIn_iff.mp hx).1]

/-! ## Keys and members -/

lemma rateLimitKey_injective : Function.Injective rateLimitKey := fun _ _ h =>
  (String.append_right_inj _).mp h

lemma toString_injective : Function.Injective (toString : ℕ → String) := by
  intro m n h
  have hdigits : (toString m).toList = (toString n).toList := by rw [h]
  simp only [Nat.toString_eq_repr, Nat.toList_repr] at hdigits
  simpa using congrArg (Nat.ofDigitChars 10 · 0) hdigits

/-- The entry of a request that arrived at `u`. -/
def stamp (u : ℕ) : String × ℤ := (toString u, u)

@[simp] lemma stamp_snd (u : ℕ) : (stamp u).2 = u := rfl

lemma stamp_injective : Function.Injective stamp := fun _ _ h =>
  toString_injective (congrArg Prod.fst h)

/-! ## One request -/

@[simp] lemma after_nil (cfg : RateLimitConfig) : after cfg [] = .empty := rfl

@[simp] lemma after_concat (cfg : RateLimitConfig) (xs : List Arrival) (x : Arrival) :
    after cfg (xs ++ [x]) = (use cfg (after cfg xs) x).2 := by
  simp [after]

/-- The abuse event and the metric leave the sorted sets alone. -/
lemma use_sets (cfg : RateLimitConfig) (σ : RateLimitState) (x : Arrival) :
    (use cfg σ x).2.sets =
      (σ.addRateLimitEntry x.pipelineFails (rateLimitKey x.clientIp) x.nowMs
        cfg.windowMs).2.sets := by
  unfold use
  dsimp only
  split <;> rfl

lemma reply_of_le {cfg : RateLimitConfig} {xs : List Arrival} {x : Arrival}
    (h : cfg.maxRequests ≤ count cfg xs x) :
    reply cfg xs x =
      .json "application/problem+json" (toString 2) (rateLimitExceeded x.request) := by
  unfold count at h
  unfold reply use
  dsimp only
  rw [if_pos h]

lemma reply_of_lt {cfg : RateLimitConfig} {xs : List Arrival} {x : Arrival}
    (h : count cfg xs x < cfg.maxRequests) : reply cfg xs x = .next := by
  unfold count at h
  unfold reply use
  dsimp only
  rw [if_neg (not_le.mpr h)]

lemma reply_eq_next_iff (cfg : RateLimitConfig) (xs : List Arrival) (x : Arrival) :
    reply cfg xs x = .next ↔ count cfg xs x < cfg.maxRequests := by
  refine ⟨fun h => ?_, reply_of_lt⟩
  by_contra hle
  rw [reply_of_le (by omega)] at h
  cases h

lemma status?_reply_iff (cfg : RateLimitConfig) (xs : List Arrival) (x : Arrival) :
    (reply cfg xs x).status? = some 429 ↔ cfg.maxRequests ≤ count cfg xs x := by
  by_cases h : cfg.maxRequests ≤ count cfg xs x
  · rw [reply_of_le h]
    exact iff_of_true rfl h
  · rw [reply_of_lt (by omega)]
    exact iff_of_false (by simp [RateLimiterReply.status?]) h

lemma pruned_congr {σ σ' : RateLimitState} {key : String} (h : σ'.sets key = σ.sets key)
    (t : ℕ) (windowMs : ℕ) : σ'.pruned key t windowMs = σ.pruned key t windowMs := by
  simp only [RateLimitState.pruned, RateLimitState.live, h]

/-- What is left at `t` of the set that a request recorded at `nowMs` has left. -/
lemma mem_pruned_addRateLimitEntry_iff (σ : RateLimitState) (key : String) (nowMs t : ℕ)
    (windowMs : ℕ) (e : String × ℤ) :
    e ∈ (((σ.addRateLimitEntry false key nowMs windowMs).2).pruned key t windowMs).entries ↔
      t < nowMs + windowMs ∧
        ((e ∈ (σ.pruned key nowMs windowMs).entries ∧ e.1 ≠ toString nowMs) ∨ e = stamp nowMs) ∧
        (0 ≤ e.2 → ¬ e.2 ≤ (t : ℤ) - windowMs) := by
  rw [RateLimitState.pruned, SortedSet.mem_zremrangebyscore_iff]
  by_cases hlive : t < nowMs + windowMs
  · simp only [RateLimitState.live, RateLimitState.addRateLimitEntry, Bool.false_eq_true,
      if_false, Function.update_self, hlive, if_true, true_and, SortedSet.mem_zadd_iff, stamp]
  · simp [RateLimitState.live, RateLimitState.addRateLimitEntry, hlive]

/-! ## The invariant -/

/-- Adding the member of a request to those of its window makes those of the longer log. -/
lemma exists_stamp_concat_iff {windowMs : ℕ} (hpos : 0 < windowMs) {xs : List Arrival}
    {x : Arrival} (hok : x.pipelineFails = false) (e : String × ℤ) :
    (((∃ u ∈ recordedIn windowMs x.clientIp x.nowMs xs, stamp u = e) ∧
        e.1 ≠ toString x.nowMs) ∨ e = stamp x.nowMs) ↔
      ∃ u ∈ recordedIn windowMs x.clientIp x.nowMs (xs ++ [x]), stamp u = e := by
  constructor
  · rintro (⟨⟨u, hu, rfl⟩, -⟩ | rfl)
    · obtain ⟨y, hy, hin, hyok, rfl⟩ := mem_recordedIn_iff.mp hu
      exact ⟨y.nowMs, mem_recordedIn_iff.mpr ⟨y, by simp [hy], hin, hyok, rfl⟩, rfl⟩
    · have hin : x.Within windowMs x.nowMs := ⟨le_rfl, by omega⟩
      exact ⟨x.nowMs, mem_recordedIn_iff.mpr ⟨x, by simp, ⟨rfl, hin⟩, hok, rfl⟩, rfl⟩
  · rintro ⟨u, hu, rfl⟩
    obtain ⟨y, hy, hin, hyok, rfl⟩ := mem_recordedIn_iff.mp hu
    by_cases heq : y.nowMs = x.nowMs
    · exact .inr (by rw [heq])
    · have hold : y ∈ xs := by
        rcases List.mem_append.mp hy with hy | hy
        · exact hy
        · exact absurd (congrArg Arrival.nowMs (List.mem_singleton.mp hy)) heq
      exact .inl ⟨⟨y.nowMs, mem_recordedIn_iff.mpr ⟨y, hold, hin, hyok, rfl⟩, rfl⟩,
        fun h => heq (toString_injective h)⟩

/-- Pruning at a later instant `t` what was kept at `now`, unless it has lapsed by then. -/
lemma exists_stamp_later_iff {windowMs : ℕ} {ip : String} {ys : List Arrival} {now t : ℕ}
    (hys : ∀ y ∈ ys, y.nowMs ≤ now) (ht : now ≤ t) (e : String × ℤ) :
    (t < now + windowMs ∧ (∃ u ∈ recordedIn windowMs ip now ys, stamp u = e) ∧
        (0 ≤ e.2 → ¬ e.2 ≤ (t : ℤ) - windowMs)) ↔
      ∃ u ∈ recordedIn windowMs ip t ys, stamp u = e := by
  constructor
  · rintro ⟨-, ⟨u, hu, rfl⟩, hscore⟩
    obtain ⟨y, hy, ⟨hip, -⟩, hok, rfl⟩ := mem_recordedIn_iff.mp hu
    have hle := hys y hy
    have hscore := hscore (Int.natCast_nonneg _)
    rw [stamp_snd] at hscore
    have hin : y.Within windowMs t := ⟨by omega, by omega⟩
    exact ⟨y.nowMs, mem_recordedIn_iff.mpr ⟨y, hy, ⟨hip, hin⟩, hok, rfl⟩, rfl⟩
  · rintro ⟨u, hu, rfl⟩
    obtain ⟨y, hy, ⟨hip, -, hlt⟩, hok, rfl⟩ := mem_recordedIn_iff.mp hu
    have hle := hys y hy
    have hin : y.Within windowMs now := ⟨hle, by omega⟩
    refine ⟨by omega, ⟨y.nowMs, mem_recordedIn_iff.mpr ⟨y, hy, ⟨hip, hin⟩, hok, rfl⟩, rfl⟩, ?_⟩
    intro _
    rw [stamp_snd]
    omega

/-- A request of another client, or one whose pipeline fails, is not recorded under the key. -/
lemma recordedIn_concat_of_not {windowMs : ℕ} {ip : String} {t : ℕ} {xs : List Arrival}
    {x : Arrival} (h : ¬ (x.clientIp = ip ∧ x.pipelineFails = false)) :
    recordedIn windowMs ip t (xs ++ [x]) = recordedIn windowMs ip t xs := by
  have hnone : recordedIn windowMs ip t [x] = [] := by
    apply List.eq_nil_iff_forall_not_mem.mpr
    intro u hu
    obtain ⟨y, hy, ⟨hip, -⟩, hok, -⟩ := mem_recordedIn_iff.mp hu
    rw [List.mem_singleton.mp hy] at hip hok
    exact h ⟨hip, hok⟩
  have happend : recordedIn windowMs ip t (xs ++ [x]) =
      recordedIn windowMs ip t xs ++ recordedIn windowMs ip t [x] := by
    simp [recordedIn, arrivedIn]
  rw [happend, hnone, List.append_nil]

/-- It leaves the set under the key alone. -/
lemma sets_use_of_not {cfg : RateLimitConfig} {σ : RateLimitState} {ip : String} {x : Arrival}
    (h : ¬ (x.clientIp = ip ∧ x.pipelineFails = false)) :
    (use cfg σ x).2.sets (rateLimitKey ip) = σ.sets (rateLimitKey ip) := by
  rw [use_sets]
  by_cases hok : x.pipelineFails = false
  · have hne : rateLimitKey ip ≠ rateLimitKey x.clientIp := fun heq =>
      h ⟨(rateLimitKey_injective heq).symm, hok⟩
    simp [RateLimitState.addRateLimitEntry, hok, Function.update_of_ne hne]
  · simp [RateLimitState.addRateLimitEntry, hok]

/-- What pruning at `t` leaves of a client's set is one member for each millisecond in
`(t - windowMs, t]` at which a request of that client was recorded. -/
lemma mem_pruned_after_iff {cfg : RateLimitConfig} (hpos : 0 < cfg.windowMs) (ip : String)
    {xs : List Arrival} (hxs : InOrder xs) {t : ℕ} (ht : ∀ x ∈ xs, x.nowMs ≤ t) (e : String × ℤ) :
    e ∈ ((after cfg xs).pruned (rateLimitKey ip) t cfg.windowMs).entries ↔
      ∃ u ∈ recordedIn cfg.windowMs ip t xs, stamp u = e := by
  induction xs using List.reverseRecOn generalizing t e with
  | nil => simp [RateLimitState.pruned, RateLimitState.live, RateLimitState.empty,
      SortedSet.mem_zremrangebyscore_iff, recordedIn, arrivedIn]
  | append_singleton xs x ih =>
      have hbefore := hxs.le_last
      rw [after_concat]
      by_cases hmine : x.clientIp = ip ∧ x.pipelineFails = false
      · obtain ⟨rfl, hok⟩ := hmine
        rw [pruned_congr (congrFun (use_sets cfg _ x) _), hok,
          mem_pruned_addRateLimitEntry_iff,
          ih hxs.of_concat fun y hy => hbefore y (by simp [hy]),
          exists_stamp_concat_iff hpos hok]
        exact exists_stamp_later_iff hbefore (ht x (by simp)) e
      · rw [pruned_congr (sets_use_of_not hmine), recordedIn_concat_of_not hmine]
        exact ih hxs.of_concat (fun y hy => ht y (by simp [hy])) e

/-- The count is the number of milliseconds of the client's requests in the window. -/
lemma count_eq {cfg : RateLimitConfig} (hpos : 0 < cfg.windowMs) {xs : List Arrival}
    {x : Arrival} (h : InOrder (xs ++ [x])) (hok : x.pipelineFails = false) :
    count cfg xs x =
      (recordedIn cfg.windowMs x.clientIp x.nowMs (xs ++ [x])).dedup.length := by
  have hset : count cfg xs x = (((after cfg xs).pruned (rateLimitKey x.clientIp) x.nowMs
      cfg.windowMs).zadd x.nowMs (toString x.nowMs)).zcard := by
    simp [count, RateLimitState.addRateLimitEntry, hok]
  rw [hset]
  apply SortedSet.zcard_eq_of_mem_iff _ _ stamp stamp_injective
  intro e
  rw [SortedSet.mem_zadd_iff, mem_pruned_after_iff hpos _ h.of_concat
    fun y hy => h.le_last y (by simp [hy])]
  exact exists_stamp_concat_iff hpos hok e

lemma count_of_failed {cfg : RateLimitConfig} {xs : List Arrival} {x : Arrival}
    (h : x.pipelineFails = true) : count cfg xs x = 0 := by
  simp [count, RateLimitState.addRateLimitEntry, h]

/-! ## Nobody is throttled for the requests of others -/

lemma count_le {cfg : RateLimitConfig} (hpos : 0 < cfg.windowMs) {xs : List Arrival}
    {x : Arrival} (h : InOrder (xs ++ [x])) :
    count cfg xs x ≤ (arrivedIn cfg.windowMs x.clientIp x.nowMs (xs ++ [x])).length := by
  cases hok : x.pipelineFails with
  | true => simp [count_of_failed hok]
  | false =>
      rw [count_eq hpos h hok]
      exact length_dedup_recordedIn_le _ _ _ _

/-- The count rests on the client's own requests in the window. -/
lemma count_own {cfg : RateLimitConfig} (hpos : 0 < cfg.windowMs) {xs : List Arrival}
    {x : Arrival} (h : InOrder (xs ++ [x])) :
    count cfg (arrivedIn cfg.windowMs x.clientIp x.nowMs xs) x = count cfg xs x := by
  cases hok : x.pipelineFails with
  | true => rw [count_of_failed hok, count_of_failed hok]
  | false =>
      have hown : InOrder (arrivedIn cfg.windowMs x.clientIp x.nowMs xs ++ [x]) :=
        h.sublist (List.filter_sublist.append_right _)
      rw [count_eq hpos h hok, count_eq hpos hown hok]
      simp [recordedIn, arrivedIn]

/-- **No innocent client is throttled.**  Whatever requests of whatever clients came before, a
request is answered 429 only when at least `maxRequests` requests of the same IP, itself
included, arrived in `(t - windowMs, t]`.  Leaving out the requests of other IPs and those at or
before `t - windowMs` leaves the count as it is, and what the count says is the number of
milliseconds of the recorded requests in the window: the lapse of keys adds and takes nothing. -/
theorem rateLimit_sparesOthers (cfg : RateLimitConfig) (hpos : 0 < cfg.windowMs)
    (xs : List Arrival) (x : Arrival) (h : InOrder (xs ++ [x])) :
    ((reply cfg xs x).status? = some 429 →
      cfg.maxRequests ≤ (arrivedIn cfg.windowMs x.clientIp x.nowMs (xs ++ [x])).length) ∧
    count cfg xs x = count cfg (arrivedIn cfg.windowMs x.clientIp x.nowMs xs) x ∧
    (x.pipelineFails = false → count cfg xs x =
      (recordedIn cfg.windowMs x.clientIp x.nowMs (xs ++ [x])).dedup.length) := by
  refine ⟨fun hstatus => ?_, (count_own hpos h).symm, count_eq hpos h⟩
  exact ((status?_reply_iff cfg xs x).mp hstatus).trans (count_le hpos h)

/-- `GET /api/v1/flights/1/seats`. -/
def getSeats (ip : String) (nowMs : ℕ) : Arrival where
  request := ⟨some ip, some ip, "/api/v1/flights/1/seats", "GET"⟩
  nowMs := nowMs

/-- With a limit of two, the second request of `::1` is answered 429; the one of `::2` between them
does not count. -/
theorem rateLimit_sparesOthers_twoClients :
    (reply ⟨2000, 2⟩ [getSeats "::1" 1000, getSeats "::2" 1001] (getSeats "::1" 1002)).status? =
      some 429 ∧
    (reply ⟨2000, 2⟩ [getSeats "::2" 1001] (getSeats "::1" 1002)).status? = none ∧
    2 ≤ (arrivedIn 2000 "::1" 1002
      [getSeats "::1" 1000, getSeats "::2" 1001, getSeats "::1" 1002]).length :=
  have hthrottled : (reply ⟨2000, 2⟩ [getSeats "::1" 1000, getSeats "::2" 1001]
      (getSeats "::1" 1002)).status? = some 429 := by decide
  ⟨hthrottled, by decide, (rateLimit_sparesOthers ⟨2000, 2⟩ (by decide)
    [getSeats "::1" 1000, getSeats "::2" 1001] (getSeats "::1" 1002) (by decide)).1 hthrottled⟩

/-! ## The limit is enforced up to shared milliseconds -/

/-- The requests among `xs` that are passed on. -/
def passedOn (cfg : RateLimitConfig) : RateLimitState → List Arrival → List Arrival
  | _, [] => []
  | σ, x :: xs => (if (use cfg σ x).1 = .next then [x] else []) ++ passedOn cfg (use cfg σ x).2 xs

lemma passedOn_concat (cfg : RateLimitConfig) (xs : List Arrival) (x : Arrival) :
    passedOn cfg .empty (xs ++ [x]) =
      passedOn cfg .empty xs ++ if reply cfg xs x = .next then [x] else [] := by
  have general : ∀ σ, passedOn cfg σ (xs ++ [x]) = passedOn cfg σ xs ++
      if (use cfg (xs.foldl (fun σ x => (use cfg σ x).2) σ) x).1 = .next then [x] else [] := by
    induction xs with
    | nil => exact fun σ => List.append_nil _
    | cons y ys ih =>
        intro σ
        simp only [List.cons_append, passedOn, ih, List.append_assoc]
        rfl
  exact general .empty

lemma passedOn_sublist (cfg : RateLimitConfig) (xs : List Arrival) :
    (passedOn cfg .empty xs).Sublist xs := by
  induction xs using List.reverseRecOn with
  | nil => exact List.Sublist.slnil
  | append_singleton xs x ih =>
      rw [passedOn_concat]
      apply ih.append
      split <;> simp

/-- A request of `ip` at `t` is passed on only if fewer than `maxRequests` requests of `ip`, itself
and rejected ones included, have arrived in `(t - windowMs, t]`; and in no such interval are
`maxRequests` or more requests of `ip` passed on. -/
def RateEnforced (cfg : RateLimitConfig) (ip : String) (xs : List Arrival) : Prop :=
  (∀ ys x, ys ++ [x] <+: xs → x.clientIp = ip → reply cfg ys x = .next →
    (arrivedIn cfg.windowMs ip x.nowMs (ys ++ [x])).length < cfg.maxRequests) ∧
  ∀ t, (arrivedIn cfg.windowMs ip t (passedOn cfg .empty xs)).length < cfg.maxRequests

/-- Whenever `maxRequests` or more requests of `ip` have arrived within `windowMs`, they arrived in
at least `maxRequests` different milliseconds. -/
def SpreadOut (cfg : RateLimitConfig) (ip : String) (xs : List Arrival) : Prop :=
  ∀ ys x, ys ++ [x] <+: xs → x.clientIp = ip →
    cfg.maxRequests ≤ (arrivedIn cfg.windowMs ip x.nowMs (ys ++ [x])).length →
    cfg.maxRequests ≤
      ((arrivedIn cfg.windowMs ip x.nowMs (ys ++ [x])).map Arrival.nowMs).dedup.length

lemma SpreadOut.of_nodup {cfg : RateLimitConfig} {ip : String} {xs : List Arrival}
    (h : (xs.map Arrival.nowMs).Nodup) : SpreadOut cfg ip xs := by
  intro ys x hys _ hmany
  have hsub : (arrivedIn cfg.windowMs ip x.nowMs (ys ++ [x])).Sublist xs :=
    List.filter_sublist.trans hys.sublist
  rw [(h.sublist (hsub.map _)).dedup, List.length_map]
  exact hmany

/-- An interval that ends later holds no more of the requests up to `x` than the one that ends
with `x`. -/
lemma length_arrivedIn_le {windowMs : ℕ} {ip : String} {t : ℕ} {xs ys : List Arrival}
    {x : Arrival} (hsub : ys.Sublist xs) (hle : ∀ y ∈ xs, y.nowMs ≤ x.nowMs)
    (ht : x.nowMs ≤ t) :
    (arrivedIn windowMs ip t ys).length ≤ (arrivedIn windowMs ip x.nowMs xs).length := by
  have hearlier : arrivedIn windowMs ip t ys =
      arrivedIn windowMs ip t (arrivedIn windowMs ip x.nowMs ys) := by
    unfold arrivedIn
    rw [List.filter_filter]
    apply List.filter_congr
    intro y hy
    have hyx := hle y (hsub.subset hy)
    rw [← Bool.decide_and, decide_eq_decide]
    constructor
    · rintro ⟨hip, hyt, hlt⟩
      exact ⟨⟨hip, hyt, hlt⟩, hip, hyx, by omega⟩
    · exact fun h => h.1
  rw [hearlier]
  exact (List.length_filter_le _ _).trans (hsub.filter _).length_le

/-- In no interval of length `windowMs` are `maxRequests` requests passed on, when each request
that is passed on finds fewer in the interval that ends with it: look at the last of them. -/
lemma length_passedOn_lt {cfg : RateLimitConfig} (hmax : 0 < cfg.maxRequests) {ip : String}
    {xs : List Arrival} (h : InOrder xs)
    (heach : ∀ ys x, ys ++ [x] <+: xs → x.clientIp = ip → reply cfg ys x = .next →
      (arrivedIn cfg.windowMs ip x.nowMs (ys ++ [x])).length < cfg.maxRequests) (t : ℕ) :
    (arrivedIn cfg.windowMs ip t (passedOn cfg .empty xs)).length < cfg.maxRequests := by
  induction xs using List.reverseRecOn with
  | nil => exact hmax
  | append_singleton xs x ih =>
      have hih := ih h.of_concat fun ys y hys => heach ys y (hys.trans (List.prefix_append _ _))
      by_cases hlast : x.clientIp = ip ∧ x.Within cfg.windowMs t ∧ reply cfg xs x = .next
      · obtain ⟨hip, hin, hnext⟩ := hlast
        have hsub := passedOn_sublist cfg (xs ++ [x])
        exact (length_arrivedIn_le hsub h.le_last hin.1).trans_lt
          (heach xs x List.prefix_rfl hip hnext)
      · have hsame : arrivedIn cfg.windowMs ip t (passedOn cfg .empty (xs ++ [x])) =
            arrivedIn cfg.windowMs ip t (passedOn cfg .empty xs) := by
          rw [passedOn_concat]
          by_cases hnext : reply cfg xs x = .next
          · have hout : ¬ (x.clientIp = ip ∧ x.Within cfg.windowMs t) := fun hin =>
              hlast ⟨hin.1, hin.2, hnext⟩
            simp [hnext, arrivedIn, hout]
          · simp [hnext]
        rw [hsame]
        exact hih

/-- **The limit is enforced when requests are spread out.**  For requests of any number of clients
in the order of their milliseconds, whose pipelines Redis executes: the limiter enforces the limit
for `ip` exactly when `maxRequests` or more requests of `ip` within `windowMs` are never squeezed
into fewer than `maxRequests` milliseconds.  The member that the pipeline adds is the millisecond,
so that requests which share one are counted once. -/
theorem rateLimit_enforced_iff (cfg : RateLimitConfig) (hpos : 0 < cfg.windowMs)
    (hmax : 0 < cfg.maxRequests) (ip : String) {xs : List Arrival} (h : InOrder xs)
    (hok : ∀ x ∈ xs, x.pipelineFails = false) :
    RateEnforced cfg ip xs ↔ SpreadOut cfg ip xs := by
  -- what a request of `ip` is counted as
  have hcount : ∀ ys x, ys ++ [x] <+: xs → x.clientIp = ip → count cfg ys x =
      ((arrivedIn cfg.windowMs ip x.nowMs (ys ++ [x])).map Arrival.nowMs).dedup.length := by
    intro ys x hys hip
    have hexec : ∀ y ∈ ys ++ [x], y.pipelineFails = false := fun y hy => hok y (hys.subset hy)
    rw [count_eq hpos (h.sublist hys.sublist) (hexec x (by simp)), hip,
      recordedIn_of_executed hexec]
  constructor
  · intro henforced ys x hys hip hmany
    by_contra hfew
    have hnext : reply cfg ys x = .next :=
      (reply_eq_next_iff cfg ys x).mpr (by rw [hcount ys x hys hip]; omega)
    have := henforced.1 ys x hys hip hnext
    omega
  · intro hspread
    have heach : ∀ ys x, ys ++ [x] <+: xs → x.clientIp = ip → reply cfg ys x = .next →
        (arrivedIn cfg.windowMs ip x.nowMs (ys ++ [x])).length < cfg.maxRequests := by
      intro ys x hys hip hnext
      by_contra hmany
      have hle := hspread ys x hys hip (by omega)
      have hlt := (reply_eq_next_iff cfg ys x).mp hnext
      rw [hcount ys x hys hip] at hlt
      omega
    exact ⟨heach, length_passedOn_lt hmax h heach⟩

/-- Sixty requests, seven milliseconds apart. -/
theorem rateLimit_enforced_spaced :
    RateEnforced {} "::1" ((List.range 60).map fun n => getSeats "::1" (7 * n)) :=
  (rateLimit_enforced_iff {} (by decide) (by decide) "::1" (by decide) (by decide)).mpr
    (.of_nodup (by decide))

/-- Fifty requests in one millisecond. -/
def burst : List Arrival := List.replicate 50 (getSeats "::1" 1000)

/-- All of them are passed on: the last of them is counted as the first request. -/
theorem rateLimit_exceeded_burst :
    InOrder burst ∧ (∀ x ∈ burst, x.pipelineFails = false) ∧ ¬ RateEnforced {} "::1" burst := by
  refine ⟨by decide, by decide, fun henforced => ?_⟩
  have hcount : count {} (burst.take 49) (getSeats "::1" 1000) < 50 := by
    rw [count_eq (by decide) (by decide) rfl]
    decide
  have hlt := henforced.1 (burst.take 49) (getSeats "::1" 1000) (by decide) rfl
    ((reply_eq_next_iff _ _ _).mpr hcount)
  exact absurd hlt (by decide)

end SkyHighCore
