import RuleBench.CommandLine.Files
import RuleBench.Desk.Loop
import RuleBench.Main
import RuleBench.Proofs.Desk.Alone
import RuleBench.Rule.Restored
import RuleBench.Trace.Record
import RuleBench.Validation.Assignment
import RuleBench.Proofs.Buffers
import RuleBench.Proofs.Buffers.History
import RuleBench.Proofs.Buffers.Snapshot
import RuleBench.Proofs.Data
import RuleBench.Proofs.Validation
import RuleBench.Proofs.Trace.ReadBack
import RuleBench.Proofs.Rule.Saved
import RuleBench.Proofs.Bench
import RuleBench.Proofs.Bench.Course
import RuleBench.Proofs.Desk.Act
import RuleBench.Proofs.Desk.Agreement
import RuleBench.Proofs.Desk.Delivery
import RuleBench.Proofs.Desk.Identity
import RuleBench.Proofs.Desk.Move
import RuleBench.Proofs.Desk.Order
import RuleBench.Proofs.Desk.Pacing
import RuleBench.Proofs.Desk.Quiet
import RuleBench.Proofs.Desk.Ready
import RuleBench.Proofs.Desk.Records
import RuleBench.Proofs.Desk.Restoring
import RuleBench.Proofs.Desk.Run
import RuleBench.Proofs.Desk.Saving
import RuleBench.Proofs.Desk.Sound
import RuleBench.Proofs.Desk.Stuck
import RuleBench.Proofs.Desk.Superseded
import RuleBench.Proofs.Desk.Track
import RuleBench.Proofs.Pacer.Latest
import RuleBench.Proofs.Pacer.Rate
import RuleBench.Proofs.Pacer.Traffic
import RuleBench.Proofs.Trial
import RuleBench.Proofs.Trial.Verdict
import RuleBench.Proofs.Script.Unplaced
import RuleBench.Proofs.Script.Places
import RuleBench.Proofs.Script.Blocks
import RuleBench.Proofs.Script.Trimmed
import RuleBench.Proofs.Script.Balanced
import RuleBench.Proofs.Script.Growth
import RuleBench.Proofs.Script.Fates
import RuleBench.Proofs.Script.Resolution
import RuleBench.Proofs.Script.Standing
import RuleBench.Proofs.Script.Shallow
import RuleBench.Proofs.Script.Reread
import RuleBench.Proofs.Script.Home
import RuleBench.Proofs.Script.Surroundings
import RuleBench.Proofs.Script.SameNames
import RuleBench.Proofs.Execution.Follows
import RuleBench.Proofs.Execution.Lowered
import RuleBench.Proofs.Execution.Lockstep
import RuleBench.Proofs.Execution.Shape
import RuleBench.Proofs.Execution.Scenes
import RuleBench.Proofs.Execution.Meaning
import RuleBench.Proofs.Script.Stripped
import RuleBench.Proofs.Script.Unremarked
import RuleBench.Proofs.Script.Writable
import RuleBench.Proofs.Script.Quiet
import RuleBench.Proofs.Trace.History
import RuleBench.Proofs.Sampling.Distinct
import RuleBench.Proofs.Desk.Refused
import RuleBench.Proofs.Bench.Sequence
import RuleBench.Proofs.Bench.Repeated
import RuleBench.Proofs.Trace.Read
import RuleBench.Proofs.Execution.Stage
import RuleBench.Proofs.CommandLine.Answer
import RuleBench.Proofs.Trace.Naming
import RuleBench.Proofs.Execution.Naming
