import GameHub.Agent.Report
import GameHub.Agent.Restart
import GameHub.Agent.Scripted
import GameHub.Hub.Wired
import GameHub.Main
import GameHub.Proofs.Restart.Exclusion
import GameHub.Proofs.Restart.Cooldown
import GameHub.Proofs.Admission.Refinement
import GameHub.Proofs.Hub.Custody
import GameHub.Proofs.Hub.Identity
import GameHub.Proofs.Hub.Departure
import GameHub.Proofs.Hub.Overbooking
import GameHub.Proofs.Ledger.Conservation
import GameHub.Proofs.Packet.RoundTrip
import GameHub.Proofs.Packet.Canonical
import GameHub.Proofs.Agent.Agreement
import GameHub.Proofs.Restart.Fairness
import GameHub.Proofs.Restart.Footprint
import GameHub.Proofs.Restart.RetryHint
import GameHub.Proofs.Agent.Monitoring
import GameHub.Proofs.Backend.Health
import GameHub.Proofs.Admission.Standing
import GameHub.Proofs.Hub.Isolation
import GameHub.Proofs.Agent.LateHub
import GameHub.Proofs.Agent.LateAnswers
import GameHub.Proofs.Admission.Indicator
import GameHub.Proofs.Hub.Delivery
import GameHub.Proofs.Hub.Justified
import GameHub.Proofs.Hub.Datagram
import GameHub.Proofs.Agent.RetryTime
import GameHub.Proofs.Admission.Places
import GameHub.Proofs.Admission.Draining
import GameHub.Proofs.Admission.Overtaking
import GameHub.Proofs.Restart.Sweep
import GameHub.Proofs.Json.Lossless
import GameHub.Proofs.Restart.Isolation
import GameHub.Proofs.Restart.Repetition
import GameHub.Proofs.Agent.Permission
import GameHub.Proofs.Agent.Completion
import GameHub.Proofs.Agent.Counting
import GameHub.Proofs.Ledger.Service
import GameHub.Proofs.Admission.Arrivals
import GameHub.Proofs.Backend.Sweep
import GameHub.Proofs.Backend.Catalogue
import GameHub.Proofs.Config.WellFormed
