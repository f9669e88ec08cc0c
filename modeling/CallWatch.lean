import CallWatch.Agent
import CallWatch.Dispatch.HttpClient
import CallWatch.Dispatch.Shift
import CallWatch.Main
import CallWatch.Naming.Graph
import CallWatch.Observation.Handler
import CallWatch.Rounds
import CallWatch.Proofs.Agent.Delivery
import CallWatch.Proofs.Agent.Run
import CallWatch.Proofs.Dispatch.Batches
import CallWatch.Proofs.Dispatch.Bodies
import CallWatch.Proofs.Dispatch.Conservation
import CallWatch.Proofs.Dispatch.Crew
import CallWatch.Proofs.Dispatch.Drain
import CallWatch.Proofs.Dispatch.Drops
import CallWatch.Proofs.Dispatch.ExactlyOnce
import CallWatch.Proofs.Dispatch.Flush
import CallWatch.Proofs.Dispatch.Journal
import CallWatch.Proofs.Dispatch.Letters
import CallWatch.Proofs.Dispatch.Mirror
import CallWatch.Proofs.Dispatch.Numbering
import CallWatch.Proofs.Dispatch.Offers
import CallWatch.Proofs.Dispatch.Outcomes
import CallWatch.Proofs.Dispatch.Report
import CallWatch.Proofs.Dispatch.Rest
import CallWatch.Proofs.Dispatch.Reworded
import CallWatch.Proofs.Dispatch.ShiftRun
import CallWatch.Proofs.Dispatch.Turns
import CallWatch.Proofs.Naming.Chains
import CallWatch.Proofs.Naming.Connection
import CallWatch.Proofs.Naming.Depth
import CallWatch.Proofs.Naming.Duty
import CallWatch.Proofs.Naming.Entries
import CallWatch.Proofs.Naming.Iterators
import CallWatch.Proofs.Naming.Preorder
import CallWatch.Proofs.Naming.Reports
import CallWatch.Proofs.Naming.ScanJobs
import CallWatch.Proofs.Naming.Scans
import CallWatch.Proofs.Naming.Tour
import CallWatch.Proofs.Naming.Truncation
import CallWatch.Proofs.Observation.Containment
import CallWatch.Proofs.Observation.Infrastructure
import CallWatch.Proofs.Observation.Latency
import CallWatch.Proofs.Observation.Leftover
import CallWatch.Proofs.Observation.Payloads
import CallWatch.Proofs.Observation.Play
import CallWatch.Proofs.Observation.RepositoryIds
import CallWatch.Proofs.Observation.RequestIds
import CallWatch.Proofs.Observation.Run
import CallWatch.Proofs.Observation.Separation
import CallWatch.Proofs.Observation.Unreadable
import CallWatch.Proofs.Observation.WellFormed
import CallWatch.Proofs.Number.Numeral
import CallWatch.Proofs.Reference.Forms
import CallWatch.Proofs.Reference.Hosts
import CallWatch.Proofs.Reference.NamingService
import CallWatch.Proofs.Reference.Progress
import CallWatch.Proofs.Reference.Truncation
import CallWatch.Proofs.Settings.Codes
import CallWatch.Proofs.Settings.Concatenation
import CallWatch.Proofs.Settings.Continuation
import CallWatch.Proofs.Settings.Effective
import CallWatch.Proofs.Settings.Folding
import CallWatch.Proofs.Settings.Joined
import CallWatch.Proofs.Settings.Resolution
import CallWatch.Proofs.Settings.Spelling
import CallWatch.Proofs.Settings.Writing
import CallWatch.Proofs.Text.Lines
import CallWatch.Proofs.Timetable.Rounds
import CallWatch.Proofs.Timetable.Run
import CallWatch.Proofs.Timetable.Safety
import CallWatch.Proofs.Timing.HandedOut
import CallWatch.Proofs.Timing.Sweeps
