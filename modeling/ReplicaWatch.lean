import ReplicaWatch.Cluster.Call
import ReplicaWatch.Cluster.Error
import ReplicaWatch.Cluster.Form
import ReplicaWatch.Cluster.Record
import ReplicaWatch.Cluster.Scripted
import ReplicaWatch.Cluster.State
import ReplicaWatch.CommandLine
import ReplicaWatch.CommandLine.Flag
import ReplicaWatch.CommandLine.Reading
import ReplicaWatch.CommandLine.Running
import ReplicaWatch.CommandLine.Scan
import ReplicaWatch.Convergence.Clock
import ReplicaWatch.Convergence.Config
import ReplicaWatch.Convergence.Dialogue
import ReplicaWatch.Convergence.Error
import ReplicaWatch.Convergence.Operation
import ReplicaWatch.Convergence.Poll
import ReplicaWatch.Convergence.Rehearsal
import ReplicaWatch.Convergence.Rollout
import ReplicaWatch.Convergence.Session
import ReplicaWatch.Convergence.Slots
import ReplicaWatch.Convergence.Teardown
import ReplicaWatch.Convergence.Wait
import ReplicaWatch.Daemon.Client
import ReplicaWatch.Daemon.Config
import ReplicaWatch.Daemon.Payload
import ReplicaWatch.Daemon.Request
import ReplicaWatch.Duration
import ReplicaWatch.Duration.Reading
import ReplicaWatch.Duration.Writing
import ReplicaWatch.Json
import ReplicaWatch.Json.Entries
import ReplicaWatch.Json.Reading
import ReplicaWatch.Json.Writing
import ReplicaWatch.Main
import ReplicaWatch.Proofs.Clock.Race
import ReplicaWatch.Proofs.Dialogue.Conversation
import ReplicaWatch.Proofs.Wait.Turn
import ReplicaWatch.Settings
import ReplicaWatch.Settings.Environment
import ReplicaWatch.Settings.Form
import ReplicaWatch.Settings.Loading
import ReplicaWatch.Text.Blank
import ReplicaWatch.Text.Form
import ReplicaWatch.Text.Hexadecimal
import ReplicaWatch.Text.LowerCase
import ReplicaWatch.Text.Percent
import ReplicaWatch.Text.Punycode
import ReplicaWatch.Toml.Reading
import ReplicaWatch.Toml.Scalar
import ReplicaWatch.Toml.Table
import ReplicaWatch.Toml.Text
import ReplicaWatch.Url
import ReplicaWatch.Url.Domain
import ReplicaWatch.Url.Fault
import ReplicaWatch.Url.Host
import ReplicaWatch.Url.Reading
import ReplicaWatch.Proofs.Clock.Journal
import ReplicaWatch.Proofs.Clock.Pauses
import ReplicaWatch.Proofs.Wait.Timing
import ReplicaWatch.Proofs.Cluster.Reading
import ReplicaWatch.Proofs.Wait.Deadline
import ReplicaWatch.Proofs.Wait.Schedule
import ReplicaWatch.Proofs.Clock.Recording
import ReplicaWatch.Proofs.Clock.Retelling
import ReplicaWatch.Proofs.Wait.Forecast
import ReplicaWatch.Proofs.Wait.Recording
import ReplicaWatch.Proofs.Duration.Terms
import ReplicaWatch.Proofs.Duration.Language
import ReplicaWatch.Proofs.Duration.RoundTrip
import ReplicaWatch.Proofs.Session.Reports
import ReplicaWatch.Proofs.Slots.Champion
import ReplicaWatch.Proofs.Slots.Satisfaction
import ReplicaWatch.Proofs.Slots.Reordering
import ReplicaWatch.Proofs.Text.ByteOrder
import ReplicaWatch.Proofs.Text.PercentCodes
import ReplicaWatch.Proofs.Text.FormReading
import ReplicaWatch.Proofs.Json.Records
import ReplicaWatch.Proofs.Json.RoundTrip
import ReplicaWatch.Proofs.Slots.Resolution
import ReplicaWatch.Proofs.Wait.Soundness
import ReplicaWatch.Proofs.Clock.Rehearsing
import ReplicaWatch.Proofs.Cluster.Lifetime
import ReplicaWatch.Proofs.Wait.Conduct
import ReplicaWatch.Proofs.Wait.Pacing
import ReplicaWatch.Proofs.Teardown.Play
import ReplicaWatch.Proofs.Teardown.Removal
import ReplicaWatch.Proofs.Operation.Creation
import ReplicaWatch.Proofs.Clock.Growth
import ReplicaWatch.Proofs.Clock.Interruption
import ReplicaWatch.Proofs.Wait.Cancellation
import ReplicaWatch.Proofs.Wait.UpdateStatus
import ReplicaWatch.Proofs.Clock.Logging
import ReplicaWatch.Proofs.Dialogue.PollLog
import ReplicaWatch.Proofs.Wait.Course
import ReplicaWatch.Proofs.Teardown.Containers
import ReplicaWatch.Proofs.Teardown.Logging
import ReplicaWatch.Proofs.Teardown.Course
import ReplicaWatch.Proofs.Operation.Failure
import ReplicaWatch.Proofs.Cluster.Holding
import ReplicaWatch.Proofs.Teardown.Ledger
import ReplicaWatch.Proofs.Teardown.Failure
import ReplicaWatch.Proofs.Teardown.Rehearsed
import ReplicaWatch.Proofs.Teardown.Repetition
import ReplicaWatch.Proofs.Teardown.Interleaving
import ReplicaWatch.Proofs.Teardown.Concurrency
import ReplicaWatch.Proofs.Slots.Absorption
import ReplicaWatch.Proofs.Slots.NodeLoss
import ReplicaWatch.Proofs.Session.Numbering
import ReplicaWatch.Proofs.Session.Places
import ReplicaWatch.Proofs.Session.Done
import ReplicaWatch.Proofs.Session.Status
import ReplicaWatch.Proofs.Teardown.Idempotence
import ReplicaWatch.Proofs.Duration.Canonical
import ReplicaWatch.Proofs.Cluster.Containers
import ReplicaWatch.Proofs.Cluster.Finality
import ReplicaWatch.Proofs.Cluster.Script
import ReplicaWatch.Proofs.Cluster.Failures
import ReplicaWatch.Proofs.Settings.Blank
import ReplicaWatch.Proofs.Settings.Stored
import ReplicaWatch.Proofs.Success
import ReplicaWatch.Proofs.Settings.Layers
import ReplicaWatch.Proofs.Url.Joining
import ReplicaWatch.Proofs.Url.Domains
import ReplicaWatch.Proofs.Url.Parts
import ReplicaWatch.Proofs.Daemon.BaseUrl
import ReplicaWatch.Proofs.Daemon.Filters
import ReplicaWatch.Proofs.Daemon.Listing
import ReplicaWatch.Proofs.Cluster.Storing
import ReplicaWatch.Proofs.Settings.Storing
import ReplicaWatch.Proofs.Daemon.Addressing
