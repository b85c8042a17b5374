import SkyHighCore.Construction.FlightService

/-!
# Reading the list of flights page by page

A client that asks for page `1`, page `2` and so on up to `totalPages` makes one query for each, and
`readAll` is what it has in the end.  The query that picks a page orders flights of one departure
time by primary key, so all pages are pages of one list, and the client has the list of all flights,
each once, whatever the limit and however many flights depart together (`readsAll`).
-/

namespace SkyHighCore

open Framework

namespace FlightService

variable {flights : Table ListedFlight} {findAndCount : (skip take : ℕ) → List ListedFlight × ℕ}

/-- The number of pages that the first page tells. -/
def totalPages (findAndCount : (skip take : ℕ) → List ListedFlight × ℕ)
    (query : PaginationQueryDto) : ℕ :=
  (findAll findAndCount (query.goto 1 le_rfl)).meta.totalPages

/-- The data of the pages `1 .. totalPages` one after the other. -/
def readAll (findAndCount : (skip take : ℕ) → List ListedFlight × ℕ)
    (query : PaginationQueryDto) : List FlightResponseDto :=
  (List.range (totalPages findAndCount query)).flatMap fun k =>
    (findAll findAndCount (query.goto (k + 1) (Nat.le_add_left 1 k))).data

/-- The pages hold every flight once, in the order of departure, and there is nothing after the
last one; each of them tells the number of flights and of pages. -/
structure ReadsAll (flights : Table ListedFlight)
    (findAndCount : (skip take : ℕ) → List ListedFlight × ℕ) (query : PaginationQueryDto) :
    Prop where
  once : (readAll findAndCount query).Perm (flights.rows.map toFlightResponse)
  sorted : (readAll findAndCount query).Pairwise fun r r' => r.departureTime ≤ r'.departureTime
  beyond : ∀ k (h : 1 ≤ k), totalPages findAndCount query < k →
    (findAll findAndCount (query.goto k h)).data = []
  told : ∀ k (h : 1 ≤ k), k ≤ totalPages findAndCount query →
    (findAll findAndCount (query.goto k h)).meta =
      ⟨k, query.limit, flights.rows.length, totalPages findAndCount query⟩

/-- No two flights have one place in the order of a page. -/
lemma pageOrder_injOn (flights : Table ListedFlight) :
    Set.InjOn ListedFlight.pageOrder {r | r ∈ flights.rows} := by
  intro r hr r' hr' horder
  have hid : r.id = r'.id := congrArg (fun place => (ofLex place).2) horder
  exact flights.eq_of_key_eq hr hr' hid

lemma departureTime_le_of_pageOrder_le {r r' : ListedFlight} (h : r.pageOrder ≤ r'.pageOrder) :
    r.departureTime ≤ r'.departureTime := by
  rcases Prod.Lex.le_iff.mp h with hlt | ⟨heq, -⟩
  · exact hlt.le
  · exact heq.le

namespace PagesByDeparture

/-- Every page is a page of the same list. -/
lemma perm_page (h : PagesByDeparture flights findAndCount)
    (answer : OrderedBy ListedFlight.pageOrder flights.rows) (limit k : ℕ) :
    (findAndCount (k * limit) limit).1.Perm (page limit k answer.list) := by
  obtain ⟨answer', hperm⟩ := h.picked (k * limit) limit
  rwa [answer'.list_eq (pageOrder_injOn flights) answer] at hperm

end PagesByDeparture

lemma data_goto (query : PaginationQueryDto) {k : ℕ} (h : 1 ≤ k) :
    (findAll findAndCount (query.goto k h)).data =
      (findAndCount ((k - 1) * query.limit) query.limit).1.map toFlightResponse := rfl

lemma totalPages_eq (h : PagesByDeparture flights findAndCount) (query : PaginationQueryDto) :
    totalPages findAndCount query = flights.rows.length ⌈/⌉ query.limit := by
  have hcount := h.count ((1 - 1) * query.limit) query.limit (by simp)
  exact congrArg (· ⌈/⌉ query.limit) hcount

/-- The pages have room for every flight. -/
lemma length_le_totalPages (h : PagesByDeparture flights findAndCount)
    (query : PaginationQueryDto) :
    flights.rows.length ≤ totalPages findAndCount query * query.limit := by
  rw [totalPages_eq h, Nat.mul_comm]
  exact (ceilDiv_le_iff_le_mul query.one_le_limit).mp le_rfl

/-- Each page begins before the last flight. -/
lemma lt_length_of_lt_totalPages (h : PagesByDeparture flights findAndCount)
    (query : PaginationQueryDto) {k : ℕ} (hk : k < totalPages findAndCount query) :
    k * query.limit < flights.rows.length := by
  rw [totalPages_eq h] at hk
  by_contra hnot
  have hle := (ceilDiv_le_iff_le_mul query.one_le_limit).mpr
    ((not_lt.mp hnot).trans_eq (Nat.mul_comm k query.limit))
  omega

lemma readAll_eq (query : PaginationQueryDto) :
    readAll findAndCount query = ((List.range (totalPages findAndCount query)).flatMap fun k =>
      (findAndCount (k * query.limit) query.limit).1).map toFlightResponse := by
  rw [readAll, List.map_flatMap]
  rfl

/-- **Paging loses and repeats nothing.**  Whatever the flights, some of which may depart together,
and whatever the limit, the pages `1 .. totalPages` hold every flight exactly once and in the order
of departure, and the pages beyond are empty. -/
theorem readsAll (h : PagesByDeparture flights findAndCount) (query : PaginationQueryDto) :
    ReadsAll flights findAndCount query := by
  let answer := OrderedBy.insertionSort ListedFlight.pageOrder flights.rows
  have hpage := PagesByDeparture.perm_page h answer query.limit
  refine ⟨?_, ?_, ?_, ?_⟩
  · have hroom : answer.list.length ≤ totalPages findAndCount query * query.limit := by
      rw [answer.perm.length_eq]
      exact length_le_totalPages h query
    have hperm := flatMap_pages_perm hpage (totalPages findAndCount query)
    rw [List.take_of_length_le hroom] at hperm
    rw [readAll_eq]
    exact (hperm.trans answer.perm).map _
  · rw [readAll_eq, List.pairwise_map]
    apply flatMap_pages_pairwise hpage
    · intro k
      exact h.sorted _ _
    · exact answer.sorted.imp departureTime_le_of_pageOrder_le
  · intro k hk hlast
    have hpast : answer.list.length ≤ (k - 1) * query.limit := by
      rw [answer.perm.length_eq]
      apply (length_le_totalPages h query).trans
      exact Nat.mul_le_mul_right _ (Nat.le_sub_one_of_lt hlast)
    have hnil := hpage (k - 1)
    rw [page_eq_nil hpast] at hnil
    rw [data_goto, hnil.eq_nil, List.map_nil]
  · intro k hk hlast
    have hbefore := lt_length_of_lt_totalPages h query (k := k - 1) (by omega)
    have hcount := h.count _ query.limit hbefore.le
    rw [totalPages_eq h]
    change PaginationMeta.mk k query.limit (findAndCount ((k - 1) * query.limit) query.limit).2
      ((findAndCount ((k - 1) * query.limit) query.limit).2 ⌈/⌉ query.limit) = _
    rw [hcount]

/-- Three flights, two of which depart together. -/
def departTogether : Table ListedFlight where
  rows := [⟨2, "SH2", ⟨1, "A320", 30, "A,B,C,D,E,F"⟩, 5, .scheduled⟩,
    ⟨1, "SH1", ⟨1, "A320", 30, "A,B,C,D,E,F"⟩, 5, .scheduled⟩,
    ⟨3, "SH3", ⟨1, "A320", 30, "A,B,C,D,E,F"⟩, 4, .scheduled⟩]
  nodup := by decide

/-- The query answered by sorting the table. -/
def sortAndCount (flights : Table ListedFlight) (skip take : ℕ) : List ListedFlight × ℕ :=
  let sorted := OrderedBy.insertionSort ListedFlight.pageOrder flights.rows
  ((sorted.list.drop skip).take take, flights.rows.length)

lemma pagesByDeparture_sortAndCount (flights : Table ListedFlight) :
    PagesByDeparture flights (sortAndCount flights) where
  picked _ _ := ⟨_, List.Perm.refl _⟩
  sorted skip take := by
    have hsorted := (OrderedBy.insertionSort ListedFlight.pageOrder flights.rows).sorted.imp
      departureTime_le_of_pageOrder_le
    exact hsorted.sublist ((List.take_sublist take _).trans (List.drop_sublist skip _))
  count _ _ _ := rfl

/-- Two pages of at most two flights: the boundary falls between the two that depart together. -/
theorem readsAll_departTogether :
    (readAll (sortAndCount departTogether) { limit := 2 }).map (·.id) = [3, 1, 2] ∧
      ReadsAll departTogether (sortAndCount departTogether) { limit := 2 } :=
  ⟨by decide, readsAll (pagesByDeparture_sortAndCount departTogether) { limit := 2 }⟩

end FlightService

end SkyHighCore
