import SkyHighCore.Construction.Seeds
import SkyHighCore.Properties.SeatMaps
import SkyHighCore.Properties.StaticData

/-!
# What the seeds leave, and what becomes of it

`seed` fills the tables or leaves them as they are (`seed_outcome`).  When it fills them, each
flight gets the cabin of its aircraft, seat by seat in rows and columns, and the services start
where `World.Seeded` says.  The cabins are never written to again, so that whatever the services do,
every seat map shows the whole cabin, each place once and in its order (`run_wholeCabin`).
-/

namespace SkyHighCore

open Framework

/-! ## Cabins -/

/-- The places of an aircraft, row by row. -/
def AircraftType.grid (aircraftType : AircraftType) : List (ℕ × String) :=
  (List.range' 1 aircraftType.rows).flatMap fun row =>
    aircraftType.columnList.map fun col => (row, col)

/-- The columns are single letters in alphabetical order. -/
structure AircraftType.WellLaid (aircraftType : AircraftType) : Prop where
  increasing : aircraftType.columnList.Pairwise (· < ·)
  single : ∀ col ∈ aircraftType.columnList, col.length ≤ 1

/-- Earlier in the cabin. -/
def Before (x y : ℕ × String) : Prop := x.1 < y.1 ∨ (x.1 = y.1 ∧ x.2 < y.2)

/-- Not later in the cabin. -/
def NotAfter (x y : ℕ × String) : Prop := x.1 < y.1 ∨ (x.1 = y.1 ∧ x.2 ≤ y.2)

lemma Before.notAfter {x y : ℕ × String} (h : Before x y) : NotAfter x y :=
  h.imp_right fun h => ⟨h.1, String.not_lt.mp (String.lt_asymm h.2)⟩

lemma NotAfter.antisymm {x y : ℕ × String} (h : NotAfter x y) (h' : NotAfter y x) : x = y := by
  rcases h with hlt | ⟨heq, hle⟩
  · rcases h' with hlt' | ⟨heq', -⟩
    · omega
    · omega
  · rcases h' with hlt' | ⟨-, hle'⟩
    · omega
    · exact Prod.ext heq (String.le_antisymm hle hle')

namespace AircraftType.WellLaid

variable {aircraftType : AircraftType}

lemma grid_pairwise (h : aircraftType.WellLaid) : aircraftType.grid.Pairwise Before := by
  rw [AircraftType.grid, List.pairwise_flatMap]
  constructor
  · intro row _
    rw [List.pairwise_map]
    exact h.increasing.imp fun hlt => .inr ⟨rfl, hlt⟩
  · apply (List.pairwise_lt_range' 1).imp
    intro row row' hlt x hx y hy
    obtain ⟨_, -, rfl⟩ := List.mem_map.mp hx
    obtain ⟨_, -, rfl⟩ := List.mem_map.mp hy
    exact .inl hlt

lemma grid_nodup (h : aircraftType.WellLaid) : aircraftType.grid.Nodup := by
  refine h.grid_pairwise.imp fun {x y} hbefore heq => ?_
  subst heq
  rcases hbefore with hlt | ⟨-, hlt⟩
  · exact lt_irrefl _ hlt
  · exact String.lt_irrefl _ hlt

end AircraftType.WellLaid

/-- A seat without its id. -/
def Seat.new (seat : Seat) : NewSeat where
  flightId := seat.flightId
  row := seat.row
  column := seat.column
  status := seat.status
  heldBy := seat.heldBy
  heldAt := seat.heldAt

/-- The place of a new seat. -/
def NewSeat.at (seat : NewSeat) : ℕ × String := (seat.row, seat.column)

section Generate

variable {f : FlightId} {aircraftType : AircraftType}

lemma map_at_generate (f : FlightId) (aircraftType : AircraftType) :
    (generateSeatsForFlight f aircraftType).map NewSeat.at = aircraftType.grid := by
  simp [generateSeatsForFlight, AircraftType.grid, List.map_flatMap, Function.comp_def, NewSeat.at]

lemma of_mem_generate {s : NewSeat} (h : s ∈ generateSeatsForFlight f aircraftType) :
    s.flightId = f ∧ s.status = .available ∧ s.heldBy = none ∧ s.heldAt = none ∧
      s.column ∈ aircraftType.columnList := by
  obtain ⟨row, -, hcol⟩ := List.mem_flatMap.mp h
  obtain ⟨col, hmem, rfl⟩ := List.mem_map.mp hcol
  exact ⟨rfl, rfl, rfl, rfl, hmem⟩

lemma nodup_spots_generate (h : aircraftType.WellLaid) (f : FlightId) :
    ((generateSeatsForFlight f aircraftType).map NewSeat.spot).Nodup := by
  have hspots : (generateSeatsForFlight f aircraftType).map NewSeat.spot =
      aircraftType.grid.map fun x => (f, x) := by
    rw [← map_at_generate f, List.map_map]
    refine List.map_congr_left fun s hs => ?_
    rw [NewSeat.spot, (of_mem_generate hs).1]
    rfl
  rw [hspots]
  exact h.grid_nodup.map fun x y heq => (Prod.mk.inj heq).2

end Generate

/-! ## The loop over the flights -/

namespace SeedTx

variable {α β : Type}

lemma run_bind (x : SeedTx α) (f : α → SeedTx β) (db : SeedTables) :
    (x >>= f) db = match x db with
      | .ok (a, db') => f a db'
      | .error e => .error e := by
  show StateT.bind x f db = _
  unfold StateT.bind
  cases x db <;> rfl

end SeedTx

/-- The aircraft type of a flight among the saved ones. -/
def typeOf? (types : List AircraftType) (flight : FlightRow) : Option AircraftType :=
  types.find? fun at' => at'.id = flight.aircraftTypeId

/-- The new seats of the flights. -/
def seatsOf (types : List AircraftType) (flights : List FlightRow) : List NewSeat :=
  flights.flatMap fun flight =>
    (typeOf? types flight).elim [] (generateSeatsForFlight flight.id)

/-- The tables can take the seats of the flight. -/
structure SeedTables.Awaits (db : SeedTables) (types : List AircraftType) (flight : FlightRow) :
    Prop where
  typed : ∃ at', typeOf? types flight = some at' ∧ at'.WellLaid
  saved : db.flights.get? flight.id ≠ none
  free : ∀ s ∈ db.seats.rows, s.flightId ≠ flight.id

section Loop

variable {db : SeedTables} {types : List AircraftType} {flight : FlightRow}

/-- The statement of one flight. -/
lemma saveSeats_ok {at' : AircraftType} {f : FlightId} (hlaid : at'.WellLaid)
    (hsaved : db.flights.get? f ≠ none)
    (hspots : (db.seats.rows.map Seat.spot ++
      (generateSeatsForFlight f at').map NewSeat.spot).Nodup) :
    SeedTx.saveSeats (generateSeatsForFlight f at') db =
      .ok (db.seats.keyed NewSeat.withId (generateSeatsForFlight f at'),
        { db with
          seats := db.seats.insertAll NewSeat.withId NewSeat.key_withId
            (generateSeatsForFlight f at') }) := by
  rw [SeedTx.saveSeats, if_neg, if_neg (not_not.mpr hspots), if_neg]
  · rintro ⟨s, hs, hnone⟩
    rw [(of_mem_generate hs).1] at hnone
    exact hsaved hnone
  · rintro ⟨s, hs, hlong⟩
    exact absurd (hlaid.single s.column (of_mem_generate hs).2.2.2.2) (Nat.not_le.mpr hlong)

/-- One flight. -/
lemma seedSeats_ok (h : db.Awaits types flight)
    (hspots : (db.seats.rows.map Seat.spot).Nodup) :
    ∃ seats : Table Seat,
      seedSeats types flight db = .ok ((), { db with seats := seats }) ∧
      seats.rows.map Seat.new = db.seats.rows.map Seat.new ++ seatsOf types [flight] ∧
      (seats.rows.map Seat.spot).Nodup := by
  obtain ⟨at', htype, hlaid⟩ := h.typed
  have hseats : seatsOf types [flight] = generateSeatsForFlight flight.id at' := by
    simp [seatsOf, htype]
  have hspots' : (db.seats.rows.map Seat.spot ++
      (generateSeatsForFlight flight.id at').map NewSeat.spot).Nodup := by
    refine List.nodup_append.mpr ⟨hspots, nodup_spots_generate hlaid flight.id, ?_⟩
    intro x hx y hy heq
    obtain ⟨s, hs, rfl⟩ := List.mem_map.mp hx
    obtain ⟨s', hs', rfl⟩ := List.mem_map.mp hy
    have hflight : s.flightId = s'.flightId := (Prod.mk.inj heq).1
    exact h.free s hs (hflight.trans (of_mem_generate hs').1)
  have hsave := saveSeats_ok hlaid h.saved hspots'
  refine ⟨db.seats.insertAll NewSeat.withId NewSeat.key_withId
    (generateSeatsForFlight flight.id at'), ?_, ?_, ?_⟩
  · unfold seedSeats
    rw [typeOf?] at htype
    rw [htype]
    show (SeedTx.saveSeats _ >>= fun _ => pure ()) db = _
    rw [SeedTx.run_bind, hsave]
    rfl
  · rw [Table.rows_insertAll, List.map_append, hseats]
    rw [Table.map_keyed (g := id)]
    · rw [List.map_id]
    · intro x k
      rfl
  · rw [Table.rows_insertAll, List.map_append]
    rw [Table.map_keyed (g := NewSeat.spot)]
    · exact hspots'
    · intro x k
      rfl

/-- A flight still awaits its seats after another one has got its own. -/
lemma SeedTables.Awaits.next {flight' : FlightRow} {seats : Table Seat}
    (h : db.Awaits types flight') (hne : flight'.id ≠ flight.id)
    (hseats : seats.rows.map Seat.new = db.seats.rows.map Seat.new ++ seatsOf types [flight]) :
    SeedTables.Awaits { db with seats := seats } types flight' := by
  refine ⟨h.typed, h.saved, fun s hs heq => ?_⟩
  have hnew : s.new ∈ db.seats.rows.map Seat.new ++ seatsOf types [flight] := by
    rw [← hseats]
    exact List.mem_map_of_mem hs
  rcases List.mem_append.mp hnew with hold | hnew
  · obtain ⟨s', hs', hs'new⟩ := List.mem_map.mp hold
    have hflight : s'.flightId = s.flightId := congrArg NewSeat.flightId hs'new
    exact h.free s' hs' (hflight.trans heq)
  · have hflight : s.flightId = flight.id := by
      rw [seatsOf, List.flatMap_singleton] at hnew
      cases htype : typeOf? types flight with
      | none =>
          rw [htype] at hnew
          cases hnew
      | some at' =>
          rw [htype] at hnew
          exact (of_mem_generate hnew).1
    exact hne (heq.symm.trans hflight)

/-- **The loop gives every flight its cabin.** -/
lemma seedLoop_ok (flights : List FlightRow) (hids : (flights.map FlightRow.id).Nodup)
    (h : ∀ flight ∈ flights, db.Awaits types flight)
    (hspots : (db.seats.rows.map Seat.spot).Nodup) :
    ∃ seats : Table Seat,
      flights.forM (seedSeats types) db = .ok ((), { db with seats := seats }) ∧
      seats.rows.map Seat.new = db.seats.rows.map Seat.new ++ seatsOf types flights := by
  induction flights generalizing db with
  | nil => exact ⟨db.seats, rfl, (List.append_nil _).symm⟩
  | cons flight flights ih =>
      obtain ⟨hflight, hids⟩ := List.nodup_cons.mp hids
      obtain ⟨seats, hfirst, hnew, hspots⟩ := seedSeats_ok (h flight List.mem_cons_self) hspots
      have hawaits : ∀ flight' ∈ flights,
          SeedTables.Awaits { db with seats := seats } types flight' := by
        intro flight' hmem
        refine (h flight' (List.mem_cons_of_mem _ hmem)).next ?_ hnew
        rintro heq
        exact hflight (heq ▸ List.mem_map_of_mem hmem)
      obtain ⟨seats', hrest, hnew'⟩ := ih hids hawaits hspots
      refine ⟨seats', ?_, ?_⟩
      · show (seedSeats types flight >>= fun _ => flights.forM (seedSeats types)) db = _
        rw [SeedTx.run_bind, hfirst]
        exact hrest
      · rw [hnew', hnew, List.append_assoc]
        simp [seatsOf]

end Loop

/-! ## The transaction -/

/-- The aircraft types as they are saved in an empty table. -/
def seededTypes : Table AircraftType where
  rows := [⟨1, "A320", 30, "A,B,C,D,E,F"⟩, ⟨2, "B737", 33, "A,B,C,D,E,F"⟩,
    ⟨3, "A380", 50, "A,B,C,D,E,F,G,H,J,K"⟩]
  nodup := by decide

/-- The entities of the flights. -/
def newFlights (now₁ now₂ now₃ : Time) : List NewFlight := [
  ⟨"SH-1042", 1, now₁ + 24 * 60 * 60 * 1000, .scheduled⟩,
  ⟨"SH-2085", 2, now₂ + 48 * 60 * 60 * 1000, .scheduled⟩,
  ⟨"SH-3001", 3, now₃ + 72 * 60 * 60 * 1000, .scheduled⟩]

/-- The flights as they are saved in an empty table. -/
def seededFlights (now₁ now₂ now₃ : Time) : Table FlightRow :=
  Table.empty.insertAll NewFlight.withId NewFlight.key_withId (newFlights now₁ now₂ now₃)

lemma seededTypes_wellLaid : ∀ at' ∈ seededTypes.rows, at'.WellLaid := by
  intro at' hat
  simp only [seededTypes, List.mem_cons, List.not_mem_nil, or_false] at hat
  rcases hat with rfl | rfl | rfl
  · exact ⟨by decide, by decide⟩
  · exact ⟨by decide, by decide⟩
  · exact ⟨by decide, by decide⟩

section Transaction

variable {now₁ now₂ now₃ : Time} {db : SeedTables}

lemma saveAircraftTypes_seeds (h : db.aircraftTypes = Table.empty) :
    SeedTx.saveAircraftTypes aircraftTypeSeeds db =
      .ok (seededTypes.rows, { db with aircraftTypes := seededTypes }) := by
  obtain ⟨types, flights, seats, passengers⟩ := db
  obtain rfl := h
  rfl

lemma createFlights_seeds : (flightSeeds now₁ now₂ now₃).mapM (createFlight seededTypes.rows) db =
    .ok (newFlights now₁ now₂ now₃, db) := rfl

lemma saveFlights_seeds (db : SeedTables) (htypes : db.aircraftTypes = seededTypes)
    (h : db.flights = Table.empty) :
    SeedTx.saveFlights (newFlights now₁ now₂ now₃) db =
      .ok ((seededFlights now₁ now₂ now₃).rows,
        { db with flights := seededFlights now₁ now₂ now₃ }) := by
  have hshort : ¬ ∃ e ∈ newFlights now₁ now₂ now₃, 10 < e.flightNumber.length := by
    simp [newFlights]
    decide
  have htyped : ¬ ∃ e ∈ newFlights now₁ now₂ now₃,
      db.aircraftTypes.get? e.aircraftTypeId = none := by
    rw [htypes]
    simp [newFlights]
    decide
  rw [SeedTx.saveFlights, if_neg hshort, if_neg htyped, h]
  rfl

/-- The emails of the seeds are not taken. -/
def SeedTables.EmailsFree (db : SeedTables) : Prop :=
  ∀ p ∈ db.passengers.rows, p.email ∉ passengerSeeds.map PassengerSeed.email

lemma savePassengers_seeds (db : SeedTables)
    (hemails : (db.passengers.rows.map Passenger.email).Nodup) :
    (db.EmailsFree → SeedTx.savePassengers passengerSeeds db =
      .ok (db.passengers.keyed PassengerSeed.withId passengerSeeds,
        { db with
          passengers := db.passengers.insertAll PassengerSeed.withId PassengerSeed.key_withId
            passengerSeeds })) ∧
    (¬ db.EmailsFree → SeedTx.savePassengers passengerSeeds db =
      .error (.queryFailed .uniqueViolation)) := by
  have hfree : (db.passengers.rows.map Passenger.email ++
      passengerSeeds.map PassengerSeed.email).Nodup ↔ db.EmailsFree := by
    rw [List.nodup_append]
    constructor
    · rintro ⟨-, -, hdisjoint⟩ p hp hmem
      exact hdisjoint _ (List.mem_map_of_mem hp) _ hmem rfl
    · intro hfree
      refine ⟨hemails, by decide, ?_⟩
      rintro x hx _ hy rfl
      obtain ⟨p, hp, rfl⟩ := List.mem_map.mp hx
      exact hfree p hp hy
  have hshort : ¬ ∃ e ∈ passengerSeeds,
      100 < e.firstName.length ∨ 100 < e.lastName.length ∨ 255 < e.email.length := by decide
  constructor
  · intro h
    rw [SeedTx.savePassengers, if_neg hshort, if_neg (not_not.mpr (hfree.mpr h))]
  · intro h
    rw [SeedTx.savePassengers, if_neg hshort, if_pos (fun hnodup => h (hfree.mp hnodup))]

/-- The foreign keys and the unique emails. -/
structure SeedTables.Consistent (db : SeedTables) : Prop where
  typed : ∀ f ∈ db.flights.rows, db.aircraftTypes.get? f.aircraftTypeId ≠ none
  seated : ∀ s ∈ db.seats.rows, db.flights.get? s.flightId ≠ none
  emails : (db.passengers.rows.map Passenger.email).Nodup

/-- Without aircraft types there are neither flights nor seats. -/
lemma SeedTables.Consistent.empty (h : db.Consistent) (hempty : db.aircraftTypes.rows = []) :
    db.aircraftTypes = Table.empty ∧ db.flights = Table.empty ∧ db.seats = Table.empty := by
  have htypes : db.aircraftTypes = Table.empty := Table.ext hempty
  have hflights : db.flights = Table.empty := by
    refine Table.ext (List.eq_nil_iff_forall_not_mem.mpr fun f hf => ?_)
    exact h.typed f hf (by rw [htypes, Table.get?_empty])
  refine ⟨htypes, hflights, Table.ext (List.eq_nil_iff_forall_not_mem.mpr fun s hs => ?_)⟩
  exact h.seated s hs (by rw [hflights, Table.get?_empty])

/-- The row of a flight is what the seeds say of it. -/
structure SeedTables.Schedules (db : SeedTables) (flight : FlightRow) (f : FlightSeed) : Prop where
  flightNumber : flight.flightNumber = f.flightNumber
  departureTime : flight.departureTime = f.departureTime
  status : flight.status = .scheduled
  aircraftType : ∃ at', typeOf? db.aircraftTypes.rows flight = some at' ∧ at'.WellLaid ∧
    at'.name = f.aircraftTypeName

/-- The rows without their ids. -/
def AircraftType.seed (r : AircraftType) : AircraftTypeSeed := ⟨r.name, r.rows, r.columns⟩
def Passenger.seed (r : Passenger) : PassengerSeed := ⟨r.firstName, r.lastName, r.email⟩

/-- What the seeds add to tables without aircraft types. -/
structure SeedTables.Filled (db db' : SeedTables) (now₁ now₂ now₃ : Time) : Prop where
  aircraftTypes : db'.aircraftTypes.rows.map AircraftType.seed = aircraftTypeSeeds
  flights : List.Forall₂ db'.Schedules db'.flights.rows (flightSeeds now₁ now₂ now₃)
  seats : db'.seats.rows.map Seat.new = seatsOf db'.aircraftTypes.rows db'.flights.rows
  passengers : ∃ added, db'.passengers.rows = db.passengers.rows ++ added ∧
    added.map Passenger.seed = passengerSeeds

lemma schedules_seededFlights (htypes : db.aircraftTypes = seededTypes) :
    List.Forall₂ db.Schedules (seededFlights now₁ now₂ now₃).rows
      (flightSeeds now₁ now₂ now₃) := by
  have hschedules : ∀ {flight : FlightRow} {f : FlightSeed} {at' : AircraftType},
      flight.flightNumber = f.flightNumber → flight.departureTime = f.departureTime →
      flight.status = .scheduled → typeOf? seededTypes.rows flight = some at' →
      at'.name = f.aircraftTypeName → db.Schedules flight f := by
    intro flight f at' hnumber htime hstatus htype hname
    exact ⟨hnumber, htime, hstatus, at', htypes ▸ htype,
      seededTypes_wellLaid at' (List.mem_of_find?_eq_some htype), hname⟩
  exact .cons (hschedules rfl rfl rfl rfl rfl) (.cons (hschedules rfl rfl rfl rfl rfl)
    (.cons (hschedules rfl rfl rfl rfl rfl) .nil))

lemma typed_seededFlights : ∀ flight ∈ (seededFlights now₁ now₂ now₃).rows,
    ∃ at', typeOf? seededTypes.rows flight = some at' ∧ at'.WellLaid := by
  intro flight hflight
  have hwellLaid : ∀ {at' : AircraftType}, typeOf? seededTypes.rows flight = some at' →
      ∃ at', typeOf? seededTypes.rows flight = some at' ∧ at'.WellLaid := fun {at'} htype =>
    ⟨at', htype, seededTypes_wellLaid at' (List.mem_of_find?_eq_some htype)⟩
  rcases hflight with _ | ⟨_, _ | ⟨_, _ | ⟨_, ⟨⟩⟩⟩⟩
  · exact hwellLaid rfl
  · exact hwellLaid rfl
  · exact hwellLaid rfl

/-- On tables without aircraft types. -/
lemma seedTransaction_empty (h : db.Consistent) (hempty : db.aircraftTypes.rows = [])
    (now₁ now₂ now₃ : Time) :
    (db.EmailsFree → ∃ db', seedTransaction now₁ now₂ now₃ db = .ok ((), db') ∧
      db.Filled db' now₁ now₂ now₃) ∧
    (¬ db.EmailsFree →
      seedTransaction now₁ now₂ now₃ db = .error (.queryFailed .uniqueViolation)) := by
  obtain ⟨htypes, hflights, hseats⟩ := h.empty hempty
  -- the tables when the loop starts
  let start : SeedTables :=
    { db with aircraftTypes := seededTypes, flights := seededFlights now₁ now₂ now₃ }
  have hids : ((seededFlights now₁ now₂ now₃).rows.map FlightRow.id).Nodup :=
    (seededFlights now₁ now₂ now₃).nodup
  have hawaits : ∀ flight ∈ (seededFlights now₁ now₂ now₃).rows,
      start.Awaits seededTypes.rows flight := by
    intro flight hflight
    refine ⟨typed_seededFlights flight hflight, ?_, fun s hs => ?_⟩
    · have hget : start.flights.get? flight.id = some flight :=
        (Table.mem_rows_iff _).mp hflight
      rw [hget]
      exact Option.some_ne_none _
    · have hs : s ∈ db.seats.rows := hs
      rw [hseats] at hs
      cases hs
  have hnone : start.seats.rows = [] := congrArg Table.rows hseats
  obtain ⟨seats, hloop, hnew⟩ := seedLoop_ok _ hids hawaits (by rw [hnone]; exact List.nodup_nil)
  rw [hnone] at hnew
  -- what is left after the loop
  have hrest : seedTransaction now₁ now₂ now₃ db =
      (SeedTx.savePassengers passengerSeeds >>= fun _ => pure ())
        { start with seats := seats } := by
    unfold seedTransaction
    rw [SeedTx.run_bind, SeedTx.countAircraftTypes, hempty]
    simp only [List.length_nil, Nat.lt_irrefl, if_false]
    rw [SeedTx.run_bind, saveAircraftTypes_seeds htypes]
    dsimp only
    rw [SeedTx.run_bind, createFlights_seeds]
    dsimp only
    rw [SeedTx.run_bind, saveFlights_seeds { db with aircraftTypes := seededTypes } rfl hflights]
    dsimp only
    rw [SeedTx.run_bind, hloop]
  have hemails := savePassengers_seeds { start with seats := seats } h.emails
  rw [hrest, SeedTx.run_bind]
  constructor
  · intro hfree
    rw [hemails.1 hfree]
    refine ⟨_, rfl, rfl, schedules_seededFlights rfl, hnew, _, rfl, ?_⟩
    rw [Table.map_keyed (g := id)]
    · rw [List.map_id]
    · intro x k
      rfl
  · intro hclash
    rw [hemails.2 hclash]

/-- With aircraft types, there is nothing to do. -/
lemma seedTransaction_skip (hsome : db.aircraftTypes.rows ≠ []) :
    seedTransaction now₁ now₂ now₃ db = .ok ((), db) := by
  unfold seedTransaction
  rw [SeedTx.run_bind, SeedTx.countAircraftTypes]
  simp only [if_pos (List.length_pos_iff.mpr hsome)]
  rfl

lemma seed_false : seed false now₁ now₂ now₃ db =
    match seedTransaction now₁ now₂ now₃ db with
    | .ok (_, db') => (.ok (), db')
    | .error e => (.error e, db) := rfl

/-- What `seed` does with tables that have aircraft types, and with tables that have none. -/
lemma seed_cases (h : db.Consistent) (fails : Bool) (now₁ now₂ now₃ : Time) :
    (∃ e, seed fails now₁ now₂ now₃ db = (.error e, db) ∧
      (fails = true ∨ db.aircraftTypes.rows = [] ∧ ¬ db.EmailsFree)) ∨
    (fails = false ∧ db.aircraftTypes.rows ≠ [] ∧ seed fails now₁ now₂ now₃ db = (.ok (), db)) ∨
    ∃ db', fails = false ∧ db.aircraftTypes.rows = [] ∧ db.EmailsFree ∧
      seed fails now₁ now₂ now₃ db = (.ok (), db') ∧ db.Filled db' now₁ now₂ now₃ := by
  cases fails with
  | true => exact .inl ⟨_, rfl, .inl rfl⟩
  | false =>
      rw [seed_false]
      by_cases hempty : db.aircraftTypes.rows = []
      · obtain ⟨hfills, hclashes⟩ := seedTransaction_empty h hempty now₁ now₂ now₃
        by_cases hfree : db.EmailsFree
        · obtain ⟨db', hrun, hfilled⟩ := hfills hfree
          rw [hrun]
          exact .inr (.inr ⟨db', rfl, hempty, hfree, rfl, hfilled⟩)
        · rw [hclashes hfree]
          exact .inl ⟨_, rfl, .inr ⟨hempty, hfree⟩⟩
      · rw [seedTransaction_skip hempty]
        exact .inr (.inl ⟨rfl, hempty, rfl⟩)

/-- A database without a row. -/
def emptyTables : SeedTables := ⟨Table.empty, Table.empty, Table.empty, Table.empty⟩

lemma emptyTables_consistent : emptyTables.Consistent where
  typed _ hf := absurd hf List.not_mem_nil
  seated _ hs := absurd hs List.not_mem_nil
  emails := List.nodup_nil

end Transaction

/-! ## Runs from the seeds -/

section Runs

variable {db db' : SeedTables} {now₁ now₂ now₃ : Time}

/-- Every seat is one of those that are generated for its flight. -/
lemma SeedTables.Filled.generated (h : db.Filled db' now₁ now₂ now₃) {s : Seat}
    (hs : s ∈ db'.seats.rows) : ∃ flight ∈ db'.flights.rows, ∃ at',
      s.new ∈ generateSeatsForFlight flight.id at' := by
  have hnew : s.new ∈ seatsOf db'.aircraftTypes.rows db'.flights.rows := by
    rw [← h.seats]
    exact List.mem_map_of_mem hs
  obtain ⟨flight, hflight, hgenerated⟩ := List.mem_flatMap.mp hnew
  cases htype : typeOf? db'.aircraftTypes.rows flight with
  | none =>
      rw [htype] at hgenerated
      cases hgenerated
  | some at' =>
      rw [htype] at hgenerated
      exact ⟨flight, hflight, at', hgenerated⟩

/-- **The services start from seeded tables.** -/
lemma SeedTables.Filled.seeded (h : db.Filled db' now₁ now₂ now₃) (now : Time) :
    (db'.world now).Seeded where
  seats s hs := by
    obtain ⟨flight, -, at', hgenerated⟩ := h.generated hs
    obtain ⟨-, hstatus, hheldBy, hheldAt, -⟩ := of_mem_generate hgenerated
    exact ⟨hstatus, hheldBy, hheldAt⟩
  checkIns := rfl
  waitlist := rfl
  auditLog := rfl
  seatHolds _ := rfl
  payments := rfl
  events := rfl

lemma flightId_of_mem_seats {types : List AircraftType} {flight : FlightRow} {s : NewSeat}
    (hs : s ∈ (typeOf? types flight).elim [] (generateSeatsForFlight flight.id)) :
    s.flightId = flight.id := by
  cases htype : typeOf? types flight with
  | none =>
      rw [htype] at hs
      cases hs
  | some at' =>
      rw [htype] at hs
      exact (of_mem_generate hs).1

/-- The seats of one flight among those of all. -/
lemma filter_seatsOf (types : List AircraftType) {flights : List FlightRow}
    (hids : (flights.map FlightRow.id).Nodup) {flight : FlightRow} (hflight : flight ∈ flights) :
    (seatsOf types flights).filter (fun s => s.flightId = flight.id) =
      (typeOf? types flight).elim [] (generateSeatsForFlight flight.id) := by
  have hothers : ∀ flights : List FlightRow, flight.id ∉ flights.map FlightRow.id →
      (seatsOf types flights).filter (fun s => s.flightId = flight.id) = [] := by
    intro flights hnot
    rw [List.filter_eq_nil_iff]
    intro s hs heq
    obtain ⟨flight', hflight', hs⟩ := List.mem_flatMap.mp hs
    have hid : flight'.id = flight.id := (flightId_of_mem_seats hs).symm.trans (by simpa using heq)
    exact hnot (hid ▸ List.mem_map_of_mem hflight')
  induction flights with
  | nil => cases hflight
  | cons flight' flights ih =>
      obtain ⟨hnot, hids⟩ := List.nodup_cons.mp hids
      rw [seatsOf, List.flatMap_cons, List.filter_append]
      rcases List.mem_cons.mp hflight with rfl | hmem
      · rw [← seatsOf, hothers flights hnot, List.append_nil, List.filter_eq_self]
        intro s hs
        simpa using flightId_of_mem_seats hs
      · rw [← seatsOf, ih hids hmem]
        have hhead : ∀ s ∈ (typeOf? types flight').elim [] (generateSeatsForFlight flight'.id),
            ¬ (decide (s.flightId = flight.id)) = true := by
          intro s hs heq
          have hid : flight'.id = flight.id :=
            (flightId_of_mem_seats hs).symm.trans (by simpa using heq)
          exact hnot (hid ▸ List.mem_map_of_mem hmem)
        rw [List.filter_eq_nil_iff.mpr hhead, List.nil_append]

/-- Every flight has its aircraft type. -/
lemma SeedTables.Filled.typed (h : db.Filled db' now₁ now₂ now₃) {flight : FlightRow}
    (hflight : flight ∈ db'.flights.rows) :
    ∃ at', typeOf? db'.aircraftTypes.rows flight = some at' ∧ at'.WellLaid := by
  have hall : ∀ {flights : List FlightRow} {fs : List FlightSeed},
      List.Forall₂ db'.Schedules flights fs → ∀ flight ∈ flights,
        ∃ f, db'.Schedules flight f := by
    intro flights fs hschedules
    induction hschedules with
    | nil => exact fun _ hmem => absurd hmem List.not_mem_nil
    | cons hhead _ ih =>
        intro flight hmem
        rcases List.mem_cons.mp hmem with rfl | hmem
        · exact ⟨_, hhead⟩
        · exact ih flight hmem
  obtain ⟨f, hf⟩ := hall h.flights flight hflight
  obtain ⟨at', htype, hlaid, -⟩ := hf.aircraftType
  exact ⟨at', htype, hlaid⟩

/-- The places of a flight in the table are the grid of its aircraft. -/
lemma SeedTables.Filled.cabin (h : db.Filled db' now₁ now₂ now₃) {flight : FlightRow}
    (hflight : flight ∈ db'.flights.rows) :
    ∃ at', typeOf? db'.aircraftTypes.rows flight = some at' ∧ at'.WellLaid ∧
      ((db'.seats.rows.filter fun s => s.flightId = flight.id).map fun s => (s.row, s.column)) =
        at'.grid := by
  obtain ⟨at', htype, hlaid⟩ := h.typed hflight
  refine ⟨at', htype, hlaid, ?_⟩
  have hnew : (db'.seats.rows.filter fun s => s.flightId = flight.id).map Seat.new =
      generateSeatsForFlight flight.id at' := by
    have hfilter := filter_seatsOf db'.aircraftTypes.rows db'.flights.nodup hflight
    rw [← h.seats, List.filter_map, htype] at hfilter
    exact hfilter
  calc (db'.seats.rows.filter fun s => s.flightId = flight.id).map (fun s => (s.row, s.column))
      = ((db'.seats.rows.filter fun s => s.flightId = flight.id).map Seat.new).map
          NewSeat.at := by rw [List.map_map]; rfl
    _ = at'.grid := by rw [hnew, map_at_generate]

/-- The places that a map lists. -/
def SeatMapResponseDto.places (map : SeatMapResponseDto) : List (ℕ × String) :=
  map.seats.map fun s => (s.row, s.column)

/-- A map that shows a database with the same cabins lists the grid. -/
lemma places_of_shows {map : SeatMapResponseDto} {f : FlightId} {d d' : Database}
    {aircraftType : AircraftType} (hlaid : aircraftType.WellLaid) (hsame : d.SameStatics d')
    (hcabin : (d.seats.rows.filter fun s => s.flightId = f).map (fun s => (s.row, s.column)) =
      aircraftType.grid)
    (hshows : map.Shows f d') :
    map.places = aircraftType.grid ∧ (map.seats.map SeatResponseDto.id).Nodup := by
  have hplaces : (d'.seats.rows.filter fun s => s.flightId = f).map (fun s => (s.row, s.column)) =
      aircraftType.grid := by
    rw [← hcabin]
    have hcabins := congrArg (fun l => (l.filter fun p => p.flightId = f).map
      fun p : Place => (p.row, p.column)) hsame.cabins
    simp only [Database.cabins, List.filter_map, List.map_map] at hcabins
    exact hcabins
  constructor
  · have hperm : map.places.Perm aircraftType.grid := by
      rw [← hplaces]
      have hseats := hshows.seats.map fun s : SeatResponseDto => (s.row, s.column)
      rw [List.map_map] at hseats
      exact hseats
    have hordered : map.places.Pairwise NotAfter := List.pairwise_map.mpr hshows.ordered
    have hgrid : aircraftType.grid.Pairwise NotAfter := hlaid.grid_pairwise.imp Before.notAfter
    exact List.Perm.eq_of_pairwise (fun x y _ _ => NotAfter.antisymm) hordered hgrid hperm
  · have hids : (map.seats.map SeatResponseDto.id).Perm
        ((d'.seats.rows.filter fun s => s.flightId = f).map Seat.id) := by
      have hseats := hshows.seats.map SeatResponseDto.id
      rw [List.map_map] at hseats
      exact hseats
    exact hids.nodup_iff.mpr (d'.seats.nodup.sublist (List.filter_sublist.map Seat.id))

/-- Whatever a returned map shows, it has been read in this run. -/
lemma run_queried {cfg : Settings} {w : World} {ts : List SkyTransition} {c : SkyConfig} {k : ℕ}
    {f : FlightId} {map : SeatMapResponseDto} (hcache : ∀ f, w.seatMapCache f = none)
    (h : (skyHigh cfg).Run (.init w) ts c)
    (hk : c.threads[k]? = some ⟨.getSeatMap f, .done (.ok (.seatMap map))⟩) :
    ∃ k' n t, Queried ts k' f n t map := by
  obtain ⟨n, t, hqueried | ⟨-, k', i, j, q, t', hfilled, -⟩⟩ := run_decided hcache h hk
  · exact ⟨k, n, t, hqueried⟩
  · exact ⟨k', i, q, hfilled.queried.of_take.2⟩

/-- **Every seat map shows the whole cabin.**  From the tables that the seeds have filled, whatever
the services do, a map that is returned for a flight lists the grid of the flight's aircraft: every
place once, row by row and in the order of the columns. -/
theorem run_wholeCabin {cfg : Settings} {ts : List SkyTransition} {c : SkyConfig} {fails : Bool}
    {now : Time} (hdb : db.Consistent) (hempty : db.aircraftTypes.rows = [])
    (hseed : seed fails now₁ now₂ now₃ db = (.ok (), db'))
    (h : (skyHigh cfg).Run (.init (db'.world now)) ts c) :
    (db'.world now).Seeded ∧
    ∀ flight ∈ db'.flights.rows, ∃ at', typeOf? db'.aircraftTypes.rows flight = some at' ∧
      ∀ (k : ℕ) (map : SeatMapResponseDto),
        c.threads[k]? = some ⟨.getSeatMap flight.id, .done (.ok (.seatMap map))⟩ →
          map.places = at'.grid ∧ (map.seats.map SeatResponseDto.id).Nodup := by
  obtain ⟨e, herror, -⟩ | ⟨-, hsome, -⟩ | ⟨filled, -, -, -, hok, hfilled⟩ :=
    seed_cases hdb fails now₁ now₂ now₃
  · rw [herror] at hseed
    cases (Prod.mk.inj hseed).1
  · exact absurd hempty hsome
  · obtain rfl : filled = db' := (Prod.mk.inj (hok.symm.trans hseed)).2
    refine ⟨hfilled.seeded now, fun flight hflight => ?_⟩
    obtain ⟨at', htype, hlaid, hcabin⟩ := hfilled.cabin hflight
    refine ⟨at', htype, fun k map hk => ?_⟩
    obtain ⟨_, n, t, hqueried⟩ := run_queried (fun _ => rfl) h hk
    have hsame := run_sameStatics (h.at_index hqueried.at_index).1
    exact places_of_shows hlaid hsame hcabin hqueried.shows

/-- A call that asks alone for the map of a flight gets it. -/
lemma exists_returnedMap {w : World} {f : FlightId} {flight : Flight}
    (hflight : w.db.flights.get? f = some flight) (hcache : w.seatMapCache f = none) :
    ∃ ts c map, (skyHigh {}).Run (.init w) ts c ∧
      c.threads[0]? = some ⟨.getSeatMap f, .done (.ok (.seatMap map))⟩ := by
  obtain ⟨ts, c, hrun, htest⟩ := exists_run_from w ([.invoke (.getSeatMap f)] ++ proceed 0 4)
    (fun _ c => (returnedMap? c 0).any fun x => x.1 = f) (by
      simp [System.execute, System.step, proceed, skyHigh, Config.init, program_getSeatMap,
        SeatService.asking, SeatService.looking, SeatService.loading, SeatService.storing,
        World.exec, World.query, World.redis, World.live, hflight, hcache, returnedMap?,
        List.replicate])
  obtain ⟨⟨f', map⟩, hmap, hf⟩ := (Option.any_eq_true _ _).mp htest
  obtain rfl : f' = f := by simpa using hf
  exact ⟨ts, c, map, hrun, returnedMap?_eq_some hmap⟩

theorem wholeCabin_emptyTables :
    ∃ (db' : SeedTables) (flight : FlightRow) (at' : AircraftType) (ts : List SkyTransition)
      (c : SkyConfig) (map : SeatMapResponseDto),
    db'.aircraftTypes.rows.map AircraftType.name = ["A320", "B737", "A380"] ∧
    flight ∈ db'.flights.rows ∧ typeOf? db'.aircraftTypes.rows flight = some at' ∧
    (skyHigh {}).Run (.init (db'.world 0)) ts c ∧
    c.threads[0]? = some ⟨.getSeatMap flight.id, .done (.ok (.seatMap map))⟩ ∧
    map.places = at'.grid := by
  obtain ⟨e, herror, hwhy⟩ | ⟨-, hsome, -⟩ | ⟨db', -, -, -, hok, hfilled⟩ :=
    seed_cases emptyTables_consistent false 0 0 0
  · rcases hwhy with hfails | ⟨-, hclash⟩
    · cases hfails
    · exact absurd (fun _ hp => absurd hp List.not_mem_nil) hclash
  · exact absurd rfl hsome
  · obtain ⟨flight, hflight⟩ : ∃ flight, flight ∈ db'.flights.rows := by
      apply List.exists_mem_of_ne_nil
      intro hnil
      have hflights := hfilled.flights
      rw [hnil] at hflights
      cases hflights
    have hget : (db'.world 0).db.flights.get? flight.id = some (db'.joined flight) :=
      (Table.get?_eq_some_iff _).mpr ⟨List.mem_map_of_mem hflight, rfl⟩
    obtain ⟨ts, c, map, hrun, hk⟩ := exists_returnedMap hget rfl
    obtain ⟨-, hcabins⟩ := run_wholeCabin emptyTables_consistent rfl hok hrun
    obtain ⟨at', htype, hmaps⟩ := hcabins flight hflight
    have hnames := congrArg (List.map AircraftTypeSeed.name) hfilled.aircraftTypes
    rw [List.map_map] at hnames
    exact ⟨db', flight, at', ts, c, map, hnames, hflight, htype, hrun, hk, (hmaps 0 map hk).1⟩

end Runs

end SkyHighCore
