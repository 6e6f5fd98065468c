/-
Overseer.Proofs.Supervisor.Crowd — a platform with other parties.

What others do with the store is laid down in turns. They take the next one
whenever a process is asked about and whenever the supervisor waits, so that they
come between any two of its steps. Who is alive does not change.
-/
import Overseer.Proofs.Store.History
import Overseer.Proofs.Supervisor.Triple

namespace Overseer.Supervisor

open Store (Operation)

variable {alive : Nat → Bool} {s : Store} {turns : List (List Operation)}

/-- The next thing that the other parties have in mind. -/
def takeTurn : StateM (World (List (List Operation))) Unit := fun w =>
  match w.outside with
  | [] => ((), w)
  | deeds :: rest => ((), { w with store := w.store.run deeds, outside := rest })

/-- A platform with other parties, who act while it is asked about a process and
while it waits, one turn at a time and until they are done. -/
def crowdPlatform (alive : Nat → Bool) : Platform (List (List Operation)) where
  isAlive pid := do
    takeTurn
    return alive pid
  signal _ _ := pure true
  killTree _ _ := pure true
  portIsFree _ := pure true
  spawn _ _ := pure ⟨40⟩
  exited? _ := pure none
  sleep _ := takeTurn

/-! ## What happens -/

theorem takeTurn_of_done {w : World (List (List Operation))} (h : w.outside = []) :
    takeTurn.run w = ((), w) := by
  simp [takeTurn, StateT.run, h]

/-- Nothing happens but that the others use the store. -/
theorem takeTurn_within {R : World (List (List Operation)) → World (List (List Operation)) → Prop}
    (same : ∀ w, R w w)
    (turn : ∀ w deeds rest, w.outside = deeds :: rest →
      R w { w with store := w.store.run deeds, outside := rest })
    (w : World (List (List Operation))) : R w (takeTurn.run w).2 := by
  rcases hturns : w.outside with _ | ⟨deeds, rest⟩
  · rw [takeTurn_of_done hturns]
    exact same w
  · rw [show takeTurn.run w = ((), { w with store := w.store.run deeds, outside := rest }) by
      simp [takeTurn, StateT.run, hturns]]
    exact turn w deeds rest hturns

theorem crowdPlatform_within
    {R : World (List (List Operation)) → World (List (List Operation)) → Prop}
    (same : ∀ w, R w w)
    (turn : ∀ w deeds rest, w.outside = deeds :: rest →
      R w { w with store := w.store.run deeds, outside := rest }) :
    (crowdPlatform alive).Within R where
  isAlive _ := takeTurn_within same turn
  signal _ _ := same
  killTree _ _ := same
  portIsFree _ := same
  exited? _ := same
  sleep _ := takeTurn_within same turn
  others := same

/-- The others have taken some of these turns, and have the rest before them. -/
def Underway (s : Store) (turns : List (List Operation)) (w : World (List (List Operation))) :
    Prop :=
  ∃ taken, taken ++ w.outside = turns ∧ w.store = s.run taken.flatten

theorem underway_start (s : Store) (turns : List (List Operation)) (now : Int)
    (journal : List Event) : Underway s turns ⟨s, now, journal, turns⟩ :=
  ⟨[], rfl, rfl⟩

theorem crowdPlatform_underway :
    (crowdPlatform alive).Within fun w w' => Underway s turns w → Underway s turns w' := by
  refine crowdPlatform_within (fun _ h => h) ?_
  rintro w deeds rest hturns ⟨taken, hall, hstore⟩
  refine ⟨taken ++ [deeds], by rw [← hall, hturns]; simp, ?_⟩
  simp only [hstore, List.flatten_append, List.flatten_singleton, Store.run_append]

/-! ## Who lives -/

/-- A launch whose child is alive is. -/
theorem isRecordAlive_crowd {r : ProcessRecord} (h : r.childPid?.any alive = true)
    (settings : Settings) (w : World (List (List Operation))) :
    ((isRecordAlive (crowdPlatform alive) settings r).run w).1 = true := by
  obtain ⟨pid, hpid, halive⟩ := (Option.any_eq_true alive r.childPid?).mp h
  rw [isRecordAlive, hpid]
  show (alive pid || _ || _) = true
  rw [halive, Bool.true_or, Bool.true_or]

end Overseer.Supervisor
