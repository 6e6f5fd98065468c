/-
Overseer.Proofs.Store.Operations — what each operation on a store does.

One equation for each operation that can be refused or that looks before it
writes: when it goes through, and what the store is then. Laws on histories are
proved from these and do not open the operations again.
-/
import Overseer.Store.Launches
import Overseer.Store.Output
import Overseer.Store.Retention

namespace Overseer

namespace LaunchRow

/-- The row of a launch that has just ended. -/
def endedWith (now code : Int) (r : LaunchRow) : LaunchRow :=
  { r with running := 0, finish := some now, exitCode := some code }

theorem isActive_eq_true_iff (r : LaunchRow) : r.isActive = true ↔ r.running = 1 := by
  simp [isActive]

theorem isActive_eq_false_iff (r : LaunchRow) : r.isActive = false ↔ r.running ≠ 1 := by
  simp [isActive]

@[simp] theorem isActive_endedWith (now code : Int) (r : LaunchRow) :
    (r.endedWith now code).isActive = false := rfl

end LaunchRow

namespace Store

/-! ## 1. Launches -/

/-- The row that `create` adds. -/
def newRow (s : Store) (now : Int) (key : ServiceKey) (command : String) (directory : Path)
    (port : Option Nat) : LaunchRow where
  id := s.lastLaunch + 1
  key := key
  command := command
  directory := directory
  pid := 0
  wrapperPid := none
  port := port.map fun p => (p : Int)
  start := now
  finish := none
  running := 1
  exitCode := none

/-- When a launch is recorded, with which number, and what the store is then. -/
theorem create_eq_ok_iff {s s' : Store} {now id : Int} {key : ServiceKey} {command : String}
    {directory : Path} {port : Option Nat} :
    s.create now key command directory port = .ok (id, s') ↔
      s.lastLaunch < lastNumber ∧ s.hasActive key = false ∧ id = s.lastLaunch + 1
        ∧ s' = { s with
            launches := s.newRow now key command directory port :: s.launches
            lastLaunch := s.lastLaunch + 1 } := by
  by_cases hfull : s.lastLaunch < lastNumber
  · cases hactive : s.hasActive key with
    | true =>
      simp [create, nextNumber, hfull, hactive, bind, Except.bind, throw, throwThe,
        MonadExceptOf.throw]
    | false =>
      simp [create, nextNumber, hfull, hactive, bind, Except.bind, pure, Except.pure, newRow,
        eq_comm]
  · simp [create, nextNumber, hfull, bind, Except.bind]

/-- A launch that runs is marked as ended. -/
theorem markExited_of_active {s : Store} {id : Int}
    (h : ∃ r ∈ s.launches, r.id = id ∧ r.isActive = true) (now code : Int) :
    s.markExited now id code = (true, s.updateLaunch id (LaunchRow.endedWith now code)) := by
  have hany : (s.launches.any fun r => r.id == id && r.isActive) = true := by
    simpa using h
  simp only [markExited, hany, if_true]
  rfl

/-- A launch that does not run is left as it is. -/
theorem markExited_of_not_active {s : Store} {id : Int}
    (h : ¬ ∃ r ∈ s.launches, r.id = id ∧ r.isActive = true) (now code : Int) :
    s.markExited now id code = (false, s) := by
  have hany : (s.launches.any fun r => r.id == id && r.isActive) = false := by
    simpa using h
  simp [markExited, hany]

/-- Retention drops no row that runs. -/
theorem isActive_kept {r : LaunchRow} (h : r.isActive = true) (moment moment' : Int) :
    (!isStaleFailure moment r && !isStaleSuccess moment' r) = true := by
  have hr := (LaunchRow.isActive_eq_true_iff r).mp h
  simp [isStaleFailure, isStaleSuccess, hr]

theorem cleanup_launches (s : Store) (now : Int) (policy : RetentionPolicy) :
    (s.cleanup now policy).2.launches = s.launches.filter fun r =>
      !isStaleFailure (cutoff now policy.failedAge) r
        && !isStaleSuccess (cutoff now policy.successAge) r := by
  simp only [cleanup, List.filter_filter, Bool.and_comm]

/-! ## 2. Lines -/

/-- When a line is written, with which number, and what the store is then. -/
theorem append_eq_ok_iff {s s' : Store} {now launch id : Int} {key : ServiceKey} {line : Int}
    {content : String} {type : LogType} :
    s.append now launch key line content type = .ok (id, s') ↔
      s.lastOutput < lastNumber ∧ id = s.lastOutput + 1
        ∧ s' = { s with
            output := ⟨s.lastOutput + 1, launch, key, line, content, type.text, now⟩ :: s.output
            lastOutput := s.lastOutput + 1 } := by
  by_cases hfull : s.lastOutput < lastNumber
  · simp [append, nextNumber, hfull, bind, Except.bind, pure, Except.pure, eq_comm]
  · simp [append, nextNumber, hfull, bind, Except.bind]

theorem capOutput_sublist (cap : Int) (t : Tally) (rows : List OutputRow) :
    (capOutput cap t rows).Sublist rows := by
  induction rows generalizing t with
  | nil => exact List.Sublist.refl _
  | cons r rows ih =>
    unfold capOutput
    split
    · exact (ih _).cons_cons r
    · exact (ih _).cons r

/-- Retention takes lines out and changes none. -/
theorem cleanup_output_sublist (s : Store) (now : Int) (policy : RetentionPolicy) :
    (s.cleanup now policy).2.output.Sublist s.output := by
  simp only [cleanup]
  exact (List.filter_sublist.trans List.filter_sublist).trans (capOutput_sublist _ _ _)

theorem markExited_output (s : Store) (now id code : Int) :
    (s.markExited now id code).2.output = s.output
      ∧ (s.markExited now id code).2.lastOutput = s.lastOutput := by
  unfold markExited
  split <;> exact ⟨rfl, rfl⟩

theorem updatePid_output {s s' : Store} {id : Int} {pid : Nat} (h : s.updatePid id pid = .ok s') :
    s'.output = s.output ∧ s'.lastOutput = s.lastOutput := by
  unfold updatePid at h
  split at h
  · cases h
  · cases h
    exact ⟨rfl, rfl⟩

end Store

end Overseer
