import LiveConfig.Http
import LiveConfig.Main
import LiveConfig.Proofs.Ask
import LiveConfig.Session
import LiveConfig.Traffic
import LiveConfig.Service
import LiveConfig.Proofs.Course
import LiveConfig.Proofs.Flight
import LiveConfig.Proofs.Overlap
import LiveConfig.Proofs.Account
import LiveConfig.Proofs.SingleFlight
import LiveConfig.Proofs.Content
import LiveConfig.Proofs.Demand
import LiveConfig.Proofs.Queue
import LiveConfig.Proofs.Waiting
import LiveConfig.Proofs.News
import LiveConfig.Proofs.Outcome
import LiveConfig.Proofs.Absorption
import LiveConfig.Proofs.Cancellation
import LiveConfig.Proofs.Extension
import LiveConfig.Proofs.Fallback
import LiveConfig.Proofs.Agreement
import LiveConfig.Proofs.Decoding
import LiveConfig.Proofs.Registration
import LiveConfig.Proofs.Discovery
import LiveConfig.Proofs.Roster
import LiveConfig.Proofs.Notices
import LiveConfig.Proofs.Wiring
import LiveConfig.Proofs.Lifetime
import LiveConfig.Proofs.Entering
import LiveConfig.Proofs.Passage
import LiveConfig.Proofs.Seclusion
import LiveConfig.Proofs.Spelling
import LiveConfig.Proofs.Layout
import LiveConfig.Proofs.Rereading
import LiveConfig.Proofs.Storage
import LiveConfig.Proofs.Independence
import LiveConfig.Proofs.Errand
import LiveConfig.Proofs.Gathering
import LiveConfig.Proofs.Showing
import LiveConfig.Proofs.Masking
import LiveConfig.Proofs.Barrier
import LiveConfig.Proofs.Health
import LiveConfig.Proofs.Detection
import LiveConfig.Proofs.Paging
import LiveConfig.Proofs.Recovery
import LiveConfig.Proofs.Resolution
import LiveConfig.Proofs.Succession
import LiveConfig.Proofs.Closing
import LiveConfig.Proofs.Reporting
import LiveConfig.Proofs.Indifference
import LiveConfig.Proofs.Disclosure
import LiveConfig.Proofs.Shutdown
import LiveConfig.Proofs.Routing
import LiveConfig.Proofs.Fidelity
import LiveConfig.Proofs.Figures
