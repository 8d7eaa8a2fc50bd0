import PartitionConsumer.Event.Handles
import PartitionConsumer.Simulation.Report
import PartitionConsumer.Proofs.CloseHook
import PartitionConsumer.Proofs.Bench.Basic
import PartitionConsumer.Proofs.Bench.Steps
import PartitionConsumer.Proofs.Ownership
import PartitionConsumer.Proofs.Released
import PartitionConsumer.Proofs.Bench.Locks
import PartitionConsumer.Proofs.Session.Requests
import PartitionConsumer.Proofs.Session.Service
import PartitionConsumer.Proofs.Bench.Guards
import PartitionConsumer.Proofs.HookOrder
import PartitionConsumer.Proofs.AfterClose
import PartitionConsumer.Proofs.CutShort
import PartitionConsumer.Proofs.Statuses
import PartitionConsumer.Proofs.GivenUp
import PartitionConsumer.Proofs.Standstill
import PartitionConsumer.Proofs.LifeStory
import PartitionConsumer.Proofs.ClosedForGood
import PartitionConsumer.Proofs.Failures
import PartitionConsumer.Proofs.LateEvents
import PartitionConsumer.Proofs.LiveClients
import PartitionConsumer.Proofs.OpenFailures
import PartitionConsumer.Proofs.Epochs
import PartitionConsumer.Proofs.Grace
import PartitionConsumer.Proofs.Renewals
import PartitionConsumer.Proofs.Fanout
import PartitionConsumer.Proofs.Fanout.Isolation
import PartitionConsumer.Proofs.Overlap
import PartitionConsumer.Proofs.Draining
import PartitionConsumer.Proofs.Sequence
import PartitionConsumer.Proofs.Stream
import PartitionConsumer.Proofs.OpenSequence
import PartitionConsumer.Proofs.Waits
import PartitionConsumer.Proofs.Renewals.Timeline
import PartitionConsumer.Proofs.Deadline
import PartitionConsumer.Proofs.TailReports
import PartitionConsumer.Proofs.ConnectionSlot
import PartitionConsumer.Proofs.AttemptTokens
