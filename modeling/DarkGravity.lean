import DarkGravity.CommandLine.Run
import DarkGravity.Json.Printer
import DarkGravity.Main
import DarkGravity.Replay.Builder
import DarkGravity.Subsidy
import DarkGravity.World.FileTree
import DarkGravity.Proofs.Check.Acceptance
import DarkGravity.Proofs.Check.Blame
import DarkGravity.Proofs.Check.Claim
import DarkGravity.Proofs.Check.Counted
import DarkGravity.Proofs.Check.Period
import DarkGravity.Proofs.Check.Relaxation
import DarkGravity.Proofs.Check.RequiredTarget
import DarkGravity.Proofs.Check.RequiredWord
import DarkGravity.Proofs.Check.TimeShift
import DarkGravity.Proofs.Check.Transition
import DarkGravity.Proofs.Compact.BestApproximation
import DarkGravity.Proofs.Compact.NormalForm
import DarkGravity.Proofs.Compact.Range
import DarkGravity.Proofs.Division.Check
import DarkGravity.Proofs.Header.Forms
import DarkGravity.Proofs.Json.Files
import DarkGravity.Proofs.Json.Records
import DarkGravity.Proofs.Json.RoundTrip
import DarkGravity.Proofs.Json.Tokens
import DarkGravity.Proofs.ProofOfWork.Batch
import DarkGravity.Proofs.ProofOfWork.Display
import DarkGravity.Proofs.Range.Bounds
import DarkGravity.Proofs.Range.Check
import DarkGravity.Proofs.Range.Replay
import DarkGravity.Proofs.Range.Retarget
import DarkGravity.Proofs.Replay.Ceiling
import DarkGravity.Proofs.Replay.ChainFile
import DarkGravity.Proofs.Replay.Counters
import DarkGravity.Proofs.Replay.History
import DarkGravity.Proofs.Replay.HonestChain
import DarkGravity.Proofs.Replay.Prefix
import DarkGravity.Proofs.Replay.Run
import DarkGravity.Proofs.Replay.Specification
import DarkGravity.Proofs.Replay.Unread
import DarkGravity.Proofs.Retarget.Average
import DarkGravity.Proofs.Retarget.BlockTimes
import DarkGravity.Proofs.Retarget.ClosedForm
import DarkGravity.Proofs.Retarget.Gap
import DarkGravity.Proofs.Retarget.MeanError
import DarkGravity.Proofs.Retarget.Monotone
import DarkGravity.Proofs.Retarget.Noninterference
import DarkGravity.Proofs.Retarget.Truncation
import DarkGravity.Proofs.Retarget.Visited
import DarkGravity.Proofs.Retarget.Walk
import DarkGravity.Proofs.Store.Inserts
import DarkGravity.Proofs.Store.Tip
import DarkGravity.Proofs.Subsidy.Schedule
