/-
Overseer.Store.Retention — what is deleted as it grows old.

One pass deletes, in this order: of every launch the lines beyond its newest
ones, lines that are too old, ended launches that failed and ended launches
that succeeded when they are too old, and last the lines whose launch is gone.
A running launch is never deleted. Ages are numbers of 64 bits; the moment
before which something is too old is computed in 64 bits with sign and wraps
around at the ends.
-/
import Overseer.Store.Basic

namespace Overseer

/-- How long things are kept, in seconds, and how many lines of a launch. -/
structure RetentionPolicy where
  logAge : Nat
  failedAge : Nat
  successAge : Nat
  maxLogs : Int
deriving DecidableEq, Repr

/-- A day for output and failed launches, four hours for successful ones. -/
def RetentionPolicy.standard : RetentionPolicy := ⟨86400, 86400, 14400, 10000⟩

/-- How many rows a pass deleted, by reason. -/
structure CleanupReport where
  logsOverCap : Nat
  expiredLogs : Nat
  failedLaunches : Nat
  successfulLaunches : Nat
  orphanLogs : Nat
deriving DecidableEq, Repr

/-- How many rows a pass deleted. -/
def CleanupReport.total (r : CleanupReport) : Nat :=
  r.logsOverCap + r.expiredLogs + r.failedLaunches + r.successfulLaunches + r.orphanLogs

namespace Store

/-- The moment that lies an age before now. -/
def cutoff (now : Int) (age : Nat) : Int :=
  ProcessRecord.wrap64 (now - ProcessRecord.wrap64 age)

/-- How often each launch came up. -/
abbrev Tally := List (Int × Nat)

/-- How often a launch came up. -/
def tallied (t : Tally) (launch : Int) : Nat := ((t.find? (·.1 == launch)).map (·.2)).getD 0

/-- Counts a launch once more. -/
def bump (launch : Int) : Tally → Tally
  | [] => [(launch, 1)]
  | e :: t => if e.1 = launch then (launch, e.2 + 1) :: t else e :: bump launch t

/-- The first `cap` lines of every launch, given how often each came up already. -/
def capOutput (cap : Int) (t : Tally) : List OutputRow → List OutputRow
  | [] => []
  | r :: rows =>
    if (tallied t r.launch : Int) + 1 ≤ cap then r :: capOutput cap (bump r.launch t) rows
    else capOutput cap (bump r.launch t) rows

/-- When a launch ended, or started if that is not known. -/
def endOrStart (r : LaunchRow) : Int := r.finish.getD r.start

/-- Ended, not known to have succeeded, and over before the moment. -/
def isStaleFailure (moment : Int) (r : LaunchRow) : Bool :=
  r.running == 0 && r.exitCode.getD (-1) != 0 && decide (endOrStart r < moment)

/-- Ended with success, and over before the moment. -/
def isStaleSuccess (moment : Int) (r : LaunchRow) : Bool :=
  r.running == 0 && r.exitCode == some 0 && decide (endOrStart r < moment)

/-- Deletes what the policy does not keep as of now. -/
def cleanup (s : Store) (now : Int) (policy : RetentionPolicy) : CleanupReport × Store :=
  let capped := capOutput policy.maxLogs [] s.output
  let recent := capped.filter fun r => decide (cutoff now policy.logAge ≤ r.time)
  let unfailed := s.launches.filter fun r => !isStaleFailure (cutoff now policy.failedAge) r
  let kept := unfailed.filter fun r => !isStaleSuccess (cutoff now policy.successAge) r
  let owned := recent.filter fun r => kept.any fun l => l.id == r.launch
  ({ logsOverCap := s.output.length - capped.length
     expiredLogs := capped.length - recent.length
     failedLaunches := s.launches.length - unfailed.length
     successfulLaunches := unfailed.length - kept.length
     orphanLogs := recent.length - owned.length },
   { s with launches := kept, output := owned })

end Store

end Overseer
