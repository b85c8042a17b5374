import Mathlib.Data.List.Range
import SkyHighCore.Construction.FlightService
import SkyHighCore.Construction.System
import SkyHighCore.Framework.Inserts

/-!
# The seeds

`seeds/seed.ts` fills an empty database: three aircraft types, a flight with each, a seat in every
row and column of the flight's aircraft, ten passengers.  It does so in one transaction, and does
nothing if there is an aircraft type.

`SeedTables` are the tables with the columns that the seeds write; `SeedTables.world` is what the
services find when they start on them.
-/

namespace SkyHighCore

open Framework

/-! ## Tables -/

/-- A row of `flight`. -/
structure FlightRow where
  id : FlightId
  flightNumber : String
  aircraftTypeId : Uuid
  departureTime : Time
  status : FlightStatus
  deriving DecidableEq

structure Passenger where
  id : PassengerId
  firstName : String
  lastName : String
  email : String
  deriving DecidableEq

instance : Keyed AircraftType Uuid := ⟨AircraftType.id⟩
instance : Keyed FlightRow FlightId := ⟨FlightRow.id⟩
instance : Keyed Passenger PassengerId := ⟨Passenger.id⟩

@[simp] lemma key_aircraftType (r : AircraftType) : key r = r.id := rfl
@[simp] lemma key_flightRow (r : FlightRow) : key r = r.id := rfl
@[simp] lemma key_passenger (r : Passenger) : key r = r.id := rfl

structure SeedTables where
  aircraftTypes : Table AircraftType
  flights : Table FlightRow
  seats : Table Seat
  passengers : Table Passenger

/-! ## Seeds -/

structure AircraftTypeSeed where
  name : String
  rows : ℕ
  columns : String
  deriving DecidableEq

structure FlightSeed where
  flightNumber : String
  aircraftTypeName : String
  departureTime : Time
  deriving DecidableEq

structure PassengerSeed where
  firstName : String
  lastName : String
  email : String
  deriving DecidableEq

/-- `AIRCRAFT_TYPES`. -/
def aircraftTypeSeeds : List AircraftTypeSeed := [
  ⟨"A320", 30, "A,B,C,D,E,F"⟩,
  ⟨"B737", 33, "A,B,C,D,E,F"⟩,
  ⟨"A380", 50, "A,B,C,D,E,F,G,H,J,K"⟩]

/-- `FLIGHTS`, with what the three calls of `Date.now()` return. -/
def flightSeeds (now₁ now₂ now₃ : Time) : List FlightSeed := [
  ⟨"SH-1042", "A320", now₁ + 24 * 60 * 60 * 1000⟩,
  ⟨"SH-2085", "B737", now₂ + 48 * 60 * 60 * 1000⟩,
  ⟨"SH-3001", "A380", now₃ + 72 * 60 * 60 * 1000⟩]

/-- `PASSENGERS`. -/
def passengerSeeds : List PassengerSeed := [
  ⟨"Alice", "Johnson", "alice.johnson@example.com"⟩,
  ⟨"Bob", "Smith", "bob.smith@example.com"⟩,
  ⟨"Charlie", "Brown", "charlie.brown@example.com"⟩,
  ⟨"Diana", "Prince", "diana.prince@example.com"⟩,
  ⟨"Edward", "Norton", "edward.norton@example.com"⟩,
  ⟨"Fiona", "Apple", "fiona.apple@example.com"⟩,
  ⟨"George", "Miller", "george.miller@example.com"⟩,
  ⟨"Hannah", "Lee", "hannah.lee@example.com"⟩,
  ⟨"Ivan", "Petrov", "ivan.petrov@example.com"⟩,
  ⟨"Julia", "Roberts", "julia.roberts@example.com"⟩]

/-- `aircraftType.columns.split(",")`. -/
def AircraftType.columnList (aircraftType : AircraftType) : List String :=
  (aircraftType.columns.toList.splitOn ',').map String.ofList

/-- A seat without its generated columns. -/
structure NewSeat where
  flightId : FlightId
  row : ℕ
  column : String
  status : SeatStatus
  heldBy : Option PassengerId
  heldAt : Option Time
  deriving DecidableEq

/-- What `UQ_seat_flight_row_column` is about. -/
def NewSeat.spot (seat : NewSeat) : FlightId × ℕ × String := (seat.flightId, seat.row, seat.column)

def Seat.spot (seat : Seat) : FlightId × ℕ × String := (seat.flightId, seat.row, seat.column)

structure NewFlight where
  flightNumber : String
  aircraftTypeId : Uuid
  departureTime : Time
  status : FlightStatus
  deriving DecidableEq

def generateSeatsForFlight (flightId : FlightId) (aircraftType : AircraftType) : List NewSeat :=
  (List.range' 1 aircraftType.rows).flatMap fun row =>
    aircraftType.columnList.map fun col =>
      { flightId, row, column := col, status := .available, heldBy := none, heldAt := none }

/-! ## Statements -/

/-! The row of an entity under its generated id. -/

def AircraftTypeSeed.withId (e : AircraftTypeSeed) (id : Uuid) : AircraftType :=
  ⟨id, e.name, e.rows, e.columns⟩

def NewFlight.withId (e : NewFlight) (id : FlightId) : FlightRow :=
  ⟨id, e.flightNumber, e.aircraftTypeId, e.departureTime, e.status⟩

def NewSeat.withId (e : NewSeat) (id : SeatId) : Seat :=
  ⟨id, e.flightId, e.row, e.column, e.status, e.heldBy, e.heldAt⟩

def PassengerSeed.withId (e : PassengerSeed) (id : PassengerId) : Passenger :=
  ⟨id, e.firstName, e.lastName, e.email⟩

lemma AircraftTypeSeed.key_withId (e : AircraftTypeSeed) (id : Uuid) : key (e.withId id) = id := rfl
lemma NewFlight.key_withId (e : NewFlight) (id : FlightId) : key (e.withId id) = id := rfl
lemma NewSeat.key_withId (e : NewSeat) (id : SeatId) : key (e.withId id) = id := rfl
lemma PassengerSeed.key_withId (e : PassengerSeed) (id : PassengerId) : key (e.withId id) = id :=
  rfl

inductive SeedException where
  | error (message : String)
  | queryFailed (state : SqlState)
  deriving DecidableEq

/-- The body of the transaction. -/
abbrev SeedTx := StateT SeedTables (Except SeedException)

namespace SeedTx

def countAircraftTypes : SeedTx ℕ := fun db => .ok (db.aircraftTypes.rows.length, db)

/-- `aircraftTypeRepo.save`, with `varchar(50)` and `varchar(20)`. -/
def saveAircraftTypes (entities : List AircraftTypeSeed) : SeedTx (List AircraftType) := fun db =>
  if ∃ e ∈ entities, 50 < e.name.length ∨ 20 < e.columns.length then
    .error (.queryFailed .stringTooLong)
  else
    .ok (db.aircraftTypes.keyed AircraftTypeSeed.withId entities,
      { db with
        aircraftTypes :=
          db.aircraftTypes.insertAll AircraftTypeSeed.withId AircraftTypeSeed.key_withId entities })

/-- `flightRepo.save`, with `varchar(10)` and the foreign key. -/
def saveFlights (entities : List NewFlight) : SeedTx (List FlightRow) := fun db =>
  if ∃ e ∈ entities, 10 < e.flightNumber.length then
    .error (.queryFailed .stringTooLong)
  else if ∃ e ∈ entities, db.aircraftTypes.get? e.aircraftTypeId = none then
    .error (.queryFailed .foreignKeyViolation)
  else
    .ok (db.flights.keyed NewFlight.withId entities,
      { db with flights := db.flights.insertAll NewFlight.withId NewFlight.key_withId entities })

/-- `seatRepo.save`, with `varchar(1)`, `UQ_seat_flight_row_column` and the foreign key. -/
def saveSeats (entities : List NewSeat) : SeedTx (List Seat) := fun db =>
  if ∃ e ∈ entities, 1 < e.column.length then
    .error (.queryFailed .stringTooLong)
  else if ¬ (db.seats.rows.map Seat.spot ++ entities.map NewSeat.spot).Nodup then
    .error (.queryFailed .uniqueViolation)
  else if ∃ e ∈ entities, db.flights.get? e.flightId = none then
    .error (.queryFailed .foreignKeyViolation)
  else
    .ok (db.seats.keyed NewSeat.withId entities,
      { db with seats := db.seats.insertAll NewSeat.withId NewSeat.key_withId entities })

/-- `passengerRepo.save`, with the lengths of the columns and the unique `email`. -/
def savePassengers (entities : List PassengerSeed) : SeedTx (List Passenger) := fun db =>
  if ∃ e ∈ entities, 100 < e.firstName.length ∨ 100 < e.lastName.length ∨ 255 < e.email.length then
    .error (.queryFailed .stringTooLong)
  else if ¬ (db.passengers.rows.map Passenger.email ++ entities.map PassengerSeed.email).Nodup then
    .error (.queryFailed .uniqueViolation)
  else
    .ok (db.passengers.keyed PassengerSeed.withId entities,
      { db with
        passengers :=
          db.passengers.insertAll PassengerSeed.withId PassengerSeed.key_withId entities })

end SeedTx

/-! ## The transaction -/

/-- `aircraftTypeMap.get(name)`: of two entries with one name, a map keeps the later one. -/
def aircraftTypeNamed (savedAircraftTypes : List AircraftType) (name : String) :
    Option AircraftType :=
  savedAircraftTypes.reverse.find? fun at' => at'.name = name

/-- The entity of a flight. -/
def createFlight (savedAircraftTypes : List AircraftType) (f : FlightSeed) : SeedTx NewFlight :=
  match aircraftTypeNamed savedAircraftTypes f.aircraftTypeName with
  | none => throw (.error s!"Aircraft type {f.aircraftTypeName} not found")
  | some aircraftType => pure
      { flightNumber := f.flightNumber
        aircraftTypeId := aircraftType.id
        departureTime := f.departureTime
        status := .scheduled }

/-- The seats of a flight. -/
def seedSeats (savedAircraftTypes : List AircraftType) (flight : FlightRow) : SeedTx Unit :=
  match savedAircraftTypes.find? fun at' => at'.id = flight.aircraftTypeId with
  | none => throw (.error s!"Aircraft type not found for flight {flight.flightNumber}")
  | some aircraftType => do
      let _ ← SeedTx.saveSeats (generateSeatsForFlight flight.id aircraftType)

/-- The body of the transaction of `seed`. -/
def seedTransaction (now₁ now₂ now₃ : Time) : SeedTx Unit := do
  let existingAircraftTypes ← SeedTx.countAircraftTypes
  if 0 < existingAircraftTypes then return
  let savedAircraftTypes ← SeedTx.saveAircraftTypes aircraftTypeSeeds
  let flights ← (flightSeeds now₁ now₂ now₃).mapM (createFlight savedAircraftTypes)
  let savedFlights ← SeedTx.saveFlights flights
  savedFlights.forM (seedSeats savedAircraftTypes)
  let _ ← SeedTx.savePassengers passengerSeeds

/-- `seed`: commit, or roll back and throw. -/
def seed (fails : Bool) (now₁ now₂ now₃ : Time) (db : SeedTables) :
    Except SeedException Unit × SeedTables :=
  if fails then (.error (.queryFailed .connectionFailure), db)
  else match seedTransaction now₁ now₂ now₃ db with
    | .ok (_, db') => (.ok (), db')
    | .error e => (.error e, db)

/-! ## The services on the tables -/

namespace SeedTables

/-- A flight with the name of its aircraft type. -/
def joined (db : SeedTables) (flight : FlightRow) : Flight where
  id := flight.id
  aircraftTypeName := (db.aircraftTypes.get? flight.aircraftTypeId).elim "" AircraftType.name
  departureTime := flight.departureTime
  status := flight.status

/-- The tables as the services read them, without check-ins, waitlist entries or audit rows. -/
def database (db : SeedTables) : Database where
  passengers := db.passengers.rows.map Passenger.id
  flights :=
    { rows := db.flights.rows.map db.joined
      nodup := by
        rw [List.map_map]
        exact db.flights.nodup }
  seats := db.seats
  checkIns := Table.empty
  waitlist := Table.empty
  auditLog := []

/-- The world in which the services start. -/
def world (db : SeedTables) (now : Time) : World where
  db := db.database
  seatHolds := fun _ => none
  seatMapCache := fun _ => none
  now := now
  payments := []
  events := []
  seatContentionTotal := fun _ => 0

end SeedTables

end SkyHighCore
