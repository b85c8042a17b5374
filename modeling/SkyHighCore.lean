import SkyHighCore.Framework.Table
import SkyHighCore.Framework.Program
import SkyHighCore.Framework.Pool
import SkyHighCore.Framework.Leases
import SkyHighCore.Framework.Keyspace
import SkyHighCore.Properties.SeatAgreement
import SkyHighCore.Properties.Holds
import SkyHighCore.Properties.LifeCycle
import SkyHighCore.Properties.PaymentGate
import SkyHighCore.Properties.Cancellation
import SkyHighCore.Properties.Charges
import SkyHighCore.Properties.Fees
import SkyHighCore.Properties.Matching
import SkyHighCore.Properties.Flights
import SkyHighCore.Properties.EntryLifeCycle
import SkyHighCore.Properties.Positions
import SkyHighCore.Properties.HoldKeys
import SkyHighCore.Properties.SeatHistory
import SkyHighCore.Properties.Truthful
import SkyHighCore.Properties.MeasuredWeight
import SkyHighCore.Properties.QueueHead
import SkyHighCore.Properties.WalkIns
import SkyHighCore.Properties.FreedSeats
import SkyHighCore.Properties.RateLimit
import SkyHighCore.Properties.SeatMaps
import SkyHighCore.Properties.ClosedBookings
import SkyHighCore.Properties.Readmission
import SkyHighCore.Properties.Rejections
import SkyHighCore.Properties.Releases
import SkyHighCore.Properties.Sweeps
import SkyHighCore.Properties.Handovers
import SkyHighCore.Properties.Paging
import SkyHighCore.Properties.Retries
import SkyHighCore.Properties.SweepRounds
import SkyHighCore.Properties.LostRaces
import SkyHighCore.Properties.ChargeRecords
import SkyHighCore.Properties.Attempts
import SkyHighCore.Properties.Grounds
import SkyHighCore.Properties.StaticData
import SkyHighCore.Properties.Responses
import SkyHighCore.Properties.Ownership
import SkyHighCore.Properties.Restarts
import SkyHighCore.Properties.LiveSweeps
import SkyHighCore.Properties.Notices
import SkyHighCore.Properties.Locks
import SkyHighCore.Properties.Overtaking
import SkyHighCore.Properties.RedisKeys
import SkyHighCore.Properties.Seeds
import SkyHighCore.Properties.JoinSchedules
