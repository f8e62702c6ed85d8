import A4s.Go.Result
import A4s.Go.Table
import A4s.Go.Text
import A4s.Control.Types
import A4s.Control.Directory
import A4s.Control.Projection
import A4s.Control.Policy
import A4s.Control.Executor
import A4s.Control.Kernel
import A4s.Control.Effect
import A4s.Control.Ledger
import A4s.Control.Execution
import A4s.Control.Stateful
import A4s.Control.Replicas
import A4s.Control.Scope
import A4s.Control.Availability
import A4s.Control.Payload
import A4s.Go.Proc
import A4s.Node.Storage
import A4s.Node.Agents
import A4s.Node.Envelope
import A4s.Node.Runtime
import A4s.Node.Creation
import A4s.Control.Placement
import A4s.Node.Mounts
import A4s.Node.Contract
import A4s.Node.Draining
import A4s.Control.Totals
import A4s.Control.Fencing
import A4s.Control.Handoff
import A4s.Node.Snapshot
import A4s.Control.Approval
import A4s.Server.Decisions
import A4s.Control.Rollback
import A4s.Control.Agreement
import A4s.Control.Repeatable
import A4s.Node.Remote
import A4s.Go.Threads
import A4s.Server.Calls
import A4s.Server.Interleaving
import A4s.Control.Course
import A4s.Control.Provenance
import A4s.Control.Spread
import A4s.Control.Ceilings
import A4s.Go.Window
import A4s.Control.Disruptions
import A4s.Control.Lease
import A4s.Server.Coverage
import A4s.Node.Retention
import A4s.Control.Admission
import A4s.Server.Submission
import A4s.Eventlog.Chain
import A4s.Eventlog.Store
import A4s.Eventlog.Anchor
import A4s.Eventlog.Follower
import A4s.Eventlog.Witness
import A4s.Server.Standby
import A4s.Go.Json
import A4s.Go.JsonStruct
import A4s.Eventlog.Event
import A4s.Eventlog.Written
import A4s.Control.Keyset
import A4s.Server.Requests
import A4s.Control.Canary
import A4s.Node.Gateway
import A4s.Control.Readiness
import A4s.Server.Refresh
import A4s.Control.Proposers
import A4s.Node.Registry
import A4s.Control.Scaling
import A4s.Node.Retries
import A4s.Server.Fleet
import A4s.Server.Keys
import A4s.Control.Shape
import A4s.Control.Retirement
import A4s.Node.Delivery
import A4s.Node.Material
import A4s.Control.Pacing
import A4s.Server.Explain
