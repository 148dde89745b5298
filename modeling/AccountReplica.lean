import AccountReplica.Storage.Session
import AccountReplica.Scenario.Observation
import AccountReplica.Scenario.Poll
import AccountReplica.Wire.Exchange
import AccountReplica.Proofs.Storage.ServerLog
import AccountReplica.Proofs.Engine.Queue
import AccountReplica.Proofs.Engine.Start
import AccountReplica.Proofs.Replica.Basic
import AccountReplica.Proofs.Engine.Settled
import AccountReplica.Proofs.Engine.Report
import AccountReplica.Proofs.Engine.Command
import AccountReplica.Proofs.Engine.Groups
import AccountReplica.Proofs.Engine.Requeues
import AccountReplica.Proofs.Replica.Sound
import AccountReplica.Proofs.Replica.Turns
import AccountReplica.Proofs.Replica.Pushes
import AccountReplica.Proofs.Replica.Batches
import AccountReplica.Proofs.Replica.Chains
import AccountReplica.Proofs.Replica.Barrier
import AccountReplica.Proofs.Replica.SingleFlight
import AccountReplica.Proofs.Replica.Prompt
import AccountReplica.Proofs.Replica.Deliveries
import AccountReplica.Proofs.Replay.Verdicts
import AccountReplica.Proofs.Replay.Lines
import AccountReplica.Proofs.Replay.JointWalk
import AccountReplica.Proofs.Replay.LastWrites
import AccountReplica.Proofs.Replay.Coalescing
import AccountReplica.Proofs.Replay.Agreement
import AccountReplica.Proofs.Replica.Gaps
import AccountReplica.Proofs.Replica.Waiters
import AccountReplica.Proofs.Replay.Slices
import AccountReplica.Proofs.Storage.Arrivals
import AccountReplica.Proofs.Engine.Announcements
import AccountReplica.Proofs.Engine.Marks
import AccountReplica.Proofs.Engine.Work
import AccountReplica.Proofs.Engine.WorkTurn
import AccountReplica.Proofs.Replica.Commits
import AccountReplica.Proofs.Replica.Moves
import AccountReplica.Proofs.Replica.Callers
import AccountReplica.Proofs.Replica.CatchUp
import AccountReplica.Proofs.Listeners.Bag
import AccountReplica.Proofs.Listeners.Tokens
import AccountReplica.Proofs.Engine.Subscriptions
import AccountReplica.Proofs.Listeners.Webpages
import AccountReplica.Proofs.Storage.Atomic
import AccountReplica.Proofs.Replay.Sifting
import AccountReplica.Proofs.Replay.Ledger
import AccountReplica.Proofs.Replay.Redelivery
import AccountReplica.Proofs.Replay.Ties
import AccountReplica.Proofs.Replay.Overflows
import AccountReplica.Proofs.Replica.Rounds
import AccountReplica.Proofs.Engine.Restructuring
import AccountReplica.Proofs.Notifications.Partition
import AccountReplica.Proofs.Notifications.Collapse
import AccountReplica.Proofs.Replay.Separation
import AccountReplica.Proofs.Replay.Grouping
import AccountReplica.Proofs.Replica.Starting
import AccountReplica.Proofs.Engine.Identities
import AccountReplica.Proofs.Scenario.Scene
import AccountReplica.Proofs.Scenario.Simulation
