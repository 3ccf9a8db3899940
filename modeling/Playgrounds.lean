import Playgrounds.Main
import Playgrounds.Worker.Crew
import Playgrounds.Proofs.Worker.Muster
import Playgrounds.Proofs.Worker.Exclusive
import Playgrounds.Proofs.Json.Grammar
import Playgrounds.Proofs.Instant.RoundTrip
import Playgrounds.Proofs.Json.Faithful
import Playgrounds.Proofs.Record.Faithful
import Playgrounds.Proofs.Store.Place
import Playgrounds.Proofs.Store.Quiet
import Playgrounds.Proofs.Store.Holdings
import Playgrounds.Proofs.Store.Simulation
import Playgrounds.Proofs.Store.Ownership
import Playgrounds.Proofs.Store.Clients
import Playgrounds.Proofs.Store.Orphans
import Playgrounds.Proofs.Store.Contents
import Playgrounds.Proofs.Store.Interference
import Playgrounds.Proofs.Store.Remains
import Playgrounds.Proofs.Worker.Attendance
import Playgrounds.Proofs.Worker.History
import Playgrounds.Proofs.Worker.Story
import Playgrounds.Proofs.Bus.Delivery
import Playgrounds.Proofs.Worker.Request
import Playgrounds.Proofs.Worker.Balance
import Playgrounds.Proofs.Worker.Apart
import Playgrounds.Proofs.Service.Creations
import Playgrounds.Proofs.Service.Exactness
import Playgrounds.Proofs.Worker.Expiry
import Playgrounds.Proofs.Instant.Difference
import Playgrounds.Proofs.Worker.Diary
import Playgrounds.Proofs.Worker.Pace
import Playgrounds.Proofs.Worker.Timetable
import Playgrounds.Proofs.Bus.Closing
import Playgrounds.Proofs.Service.Account
import Playgrounds.Proofs.Service.Endings
import Playgrounds.Proofs.Directory.Lookup
import Playgrounds.Proofs.Http.Terminals
import Playgrounds.Proofs.Service.Scan
import Playgrounds.Proofs.Service.Announcements
import Playgrounds.Proofs.Store.Spoilt
import Playgrounds.Proofs.Record.Layout
import Playgrounds.Proofs.Settings.Environment
import Playgrounds.Proofs.Http.Lookup
