import NodeVms.Request
import NodeVms.Store.Runs
import NodeVms.Services.Trips
import NodeVms.Services.Users
import NodeVms.Services.Assignments
import NodeVms.Services.Bookings
import NodeVms.Services.Branches
import NodeVms.Services.Drivers
import NodeVms.Services.Vehicles
import NodeVms.Services.Accounts
import NodeVms.Services.Alerts
import NodeVms.Services.Records
import NodeVms.System
import NodeVms.Frames
import NodeVms.Tenancy.Ownership
import NodeVms.Tenancy.People
import NodeVms.Tenancy.Fleet
import NodeVms.Tenancy.Records
import NodeVms.Tenancy.Isolation
import NodeVms.Calendar.Bookings
import NodeVms.Calendar.References
import NodeVms.Calendar.Scans
import NodeVms.Calendar.Assignments
import NodeVms.Calendar.OpenTrips
import NodeVms.Calendar.VehicleStatus
import NodeVms.Calendar.TripDrivers
import NodeVms.Store.Interleaving
import NodeVms.Store.Recheck
import NodeVms.Concurrency.Trips
import NodeVms.Concurrency.Bookings
import NodeVms.Concurrency.Creates
import NodeVms.Store.Expiry
import NodeVms.Store.LastWrite
import NodeVms.Store.Hiding
import NodeVms.Store.Like
import NodeVms.Store.History
import NodeVms.Store.Outbox
import NodeVms.Store.Picks
import NodeVms.Services.Tokens
import NodeVms.Http.Guards
import NodeVms.Http.Endpoints
import NodeVms.Http.World
import NodeVms.Http.Methods
import NodeVms.Http.Routes
import NodeVms.Http.Exceptions
import NodeVms.Http.Audit
import NodeVms.Http.AuditTrail
import NodeVms.Http.Keys
import NodeVms.Http.Gateway
import NodeVms.Access.Accounts
import NodeVms.Access.Tokens
import NodeVms.Access.Gates
import NodeVms.Access.Closed
import NodeVms.Access.Roles
import NodeVms.Access.Logout
import NodeVms.Access.Features
import NodeVms.Access.Modules
import NodeVms.Concurrency.Features
import NodeVms.Tenancy.Locations
import NodeVms.Tenancy.Unaware
import NodeVms.Tenancy.Availability
import NodeVms.Tenancy.Sockets
import NodeVms.Tenancy.Leaks
import NodeVms.Calendar.TripLife
import NodeVms.Calendar.OwnTrips
import NodeVms.Integrity.Indexes
import NodeVms.Integrity.Unique
import NodeVms.Integrity.Bills
import NodeVms.Concurrency.Workshop
import NodeVms.Js.Value
import NodeVms.Js.Text
import NodeVms.Http.Interceptors
import NodeVms.Http.Filtering
import NodeVms.Tracking.Latest
import NodeVms.Tracking.RateLimit
import NodeVms.Store.Sums
import NodeVms.Services.Reports
import NodeVms.Reports.ProfitLoss
import NodeVms.Reports.Agreement
import NodeVms.Integrity.Steps
import NodeVms.Integrity.Sourcing
import NodeVms.Calendar.Periods
import NodeVms.Reports.Money
import NodeVms.Calendar.Offline
import NodeVms.Calendar.OfflineAlerts
import NodeVms.Calendar.DailyScan
import NodeVms.Integrity.Memberships
import NodeVms.Integrity.PrimaryBranch
import NodeVms.Integrity.SourcedVehicles
import NodeVms.Store.Periods
import NodeVms.Calendar.Availability
import NodeVms.Integrity.BranchNames
import NodeVms.Calendar.OverlapTest
import NodeVms.Integrity.Odometer
import NodeVms.Integrity.BranchLinks
import NodeVms.Integrity.History
import NodeVms.Reports.Dashboards
import NodeVms.Store.Views
import NodeVms.Services.Reads
import NodeVms.Tenancy.Reads
import NodeVms.Tenancy.Undisturbed
import NodeVms.Integrity.Listings
import NodeVms.Access.Passwords
import NodeVms.Access.Sessions
import NodeVms.Store.Replay
import NodeVms.Calendar.BookingLife
import NodeVms.Tracking.Feed
import NodeVms.Reports.Journal
