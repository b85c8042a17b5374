import Mathlib.Algebra.Order.Floor.Div
import Mathlib.Data.Prod.Lex
import SkyHighCore.Construction.Entities
import SkyHighCore.Framework.Paging

/-!
# The list of flights

`FlightService.findAll` behind `GET /flights`.  The `findAndCount` of the repository is TypeORM's
and a parameter here; `PagesByDeparture` is what is relied on of it.
-/

namespace SkyHighCore

open Framework

/-- A row of `aircraft_type`. -/
structure AircraftType where
  id : Uuid
  name : String
  rows : ℕ
  columns : String
  deriving DecidableEq

/-- A row of `flight` with its aircraft type, as the list reads it. -/
structure ListedFlight where
  id : FlightId
  flightNumber : String
  aircraftType : AircraftType
  departureTime : Time
  status : FlightStatus
  deriving DecidableEq

instance : Keyed ListedFlight FlightId := ⟨ListedFlight.id⟩

@[simp] lemma key_listedFlight (r : ListedFlight) : key r = r.id := rfl

def defaultPage : ℕ := 1
def defaultLimit : ℕ := 10
def maxLimit : ℕ := 100

/-- A query that passed the checks of the DTO. -/
structure PaginationQueryDto where
  page : ℕ := defaultPage
  limit : ℕ := defaultLimit
  one_le_page : 1 ≤ page := by decide
  one_le_limit : 1 ≤ limit := by decide
  limit_le : limit ≤ maxLimit := by decide

/-- The same query for another page. -/
def PaginationQueryDto.goto (query : PaginationQueryDto) (page : ℕ) (h : 1 ≤ page) :
    PaginationQueryDto :=
  { query with page := page, one_le_page := h }

structure AircraftTypeResponseDto where
  id : Uuid
  name : String
  rows : ℕ
  columns : String
  deriving DecidableEq

structure FlightResponseDto where
  id : FlightId
  flightNumber : String
  departureTime : Time
  status : FlightStatus
  aircraftType : AircraftTypeResponseDto
  deriving DecidableEq

structure PaginationMeta where
  page : ℕ
  limit : ℕ
  totalItems : ℕ
  totalPages : ℕ
  deriving DecidableEq

structure PaginatedFlightsResponseDto where
  data : List FlightResponseDto
  «meta» : PaginationMeta
  deriving DecidableEq

/-- The place of a flight in the query that picks a page: the departure time, then the primary
key. -/
def ListedFlight.pageOrder (r : ListedFlight) : Time ×ₗ FlightId := toLex (r.departureTime, r.id)

/-- What `flightRepository.findAndCount` answers while the flights do not change, for
`relations: ['aircraftType']`, `order: { departureTime: 'ASC' }` and every `skip` and `take`.

A find that joins a relation and has a `skip` or a `take` runs two queries.  The first one picks the
primary keys of the page, in the order asked for and then by primary key; the second one reads the
rows of these keys, in the order asked for alone.  The count disregards `skip` and `take`; it is
asked for here up to the last row only. -/
structure PagesByDeparture (flights : Table ListedFlight)
    (findAndCount : (skip take : ℕ) → List ListedFlight × ℕ) : Prop where
  picked : ∀ skip take, ∃ answer : OrderedBy ListedFlight.pageOrder flights.rows,
    (findAndCount skip take).1.Perm ((answer.list.drop skip).take take)
  sorted : ∀ skip take, (findAndCount skip take).1.Pairwise fun r r' =>
    r.departureTime ≤ r'.departureTime
  count : ∀ skip take, skip ≤ flights.rows.length →
    (findAndCount skip take).2 = flights.rows.length

namespace FlightService

def toFlightResponse (flight : ListedFlight) : FlightResponseDto where
  id := flight.id
  flightNumber := flight.flightNumber
  departureTime := flight.departureTime
  status := flight.status
  aircraftType :=
    { id := flight.aircraftType.id
      name := flight.aircraftType.name
      rows := flight.aircraftType.rows
      columns := flight.aircraftType.columns }

/-- `findAll({ page, limit })`, with the `findAndCount` of its repository. -/
def findAll (findAndCount : (skip take : ℕ) → List ListedFlight × ℕ) (query : PaginationQueryDto) :
    PaginatedFlightsResponseDto :=
  let skip := (query.page - 1) * query.limit
  let (flights, totalItems) := findAndCount skip query.limit
  let totalPages := totalItems ⌈/⌉ query.limit
  { data := flights.map toFlightResponse
    «meta» := { page := query.page, limit := query.limit, totalItems, totalPages } }

end FlightService

end SkyHighCore
