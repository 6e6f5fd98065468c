/-
Overseer.Proofs.Supervisor.Cast — a platform made of a list of processes.

The laws on the supervisor ask of the platform what any system gives: that only
wrappers act on the store, that nobody else does, that who is dead stays dead.
Here is a platform for which this can be checked: its processes react to signals
as they are listed to, and a wrapper that is started does the operations on the
store that are laid down for its payload.
-/
import Overseer.Proofs.Store.History
import Overseer.Proofs.Supervisor.Triple
import Overseer.Rehearsal.Processes

namespace Overseer.Supervisor

open Rehearsal (Actor Cast askAlive bury deliver dies living? setLeaving)
open Store (Operation)

/-- Does something with the processes of a world. -/
def onCast {α : Type} (f : StateM Cast α) : StateM (World Cast) α := fun w =>
  let (a, cast) := f.run w.outside
  (a, { w with outside := cast })

/-- The platform of listed processes. A wrapper is done with its deeds when it
has been started, and has the given pid. -/
def castPlatform (wrapperPid : Nat) (deeds : Launch.Payload → List Operation) : Platform Cast where
  isAlive pid := onCast (askAlive pid)
  signal pid s := onCast (deliver pid s)
  killTree pid s := onCast (deliver pid s)
  portIsFree _ := pure true
  spawn _ payload := fun w => (.ok ⟨wrapperPid⟩, { w with store := w.store.run (deeds payload) })
  exited? _ := pure none
  sleep _ := pure ()

variable {wrapperPid : Nat} {deeds : Launch.Payload → List Operation}

/-- Nothing but the processes changes. -/
theorem castPlatform_within {R : World Cast → World Cast → Prop} (same : ∀ w, R w w)
    (asked : ∀ pid w, R w { w with outside := ((askAlive pid).run w.outside).2 })
    (signalled : ∀ pid s w, R w { w with outside := ((deliver pid s).run w.outside).2 }) :
    (castPlatform wrapperPid deeds).Within R where
  isAlive := asked
  signal := signalled
  killTree := signalled
  portIsFree _ := same
  exited? _ := same
  sleep _ := same
  others := same

theorem castPlatform_spawnsWithin {R : World Cast → World Cast → Prop}
    (h : ∀ payload w, R w { w with store := w.store.run (deeds payload) }) :
    (castPlatform wrapperPid deeds).SpawnsWithin R :=
  fun _ payload w => h payload w

/-! ## Who lives -/

/-- The process is listed and alive. -/
def isLiving (cast : Cast) (pid : Nat) : Bool := (living? pid cast).isSome

variable {cast : Cast} {pid : Nat}

theorem isLiving_eq_false_iff :
    isLiving cast pid = false ↔ ∀ a ∈ cast, a.pid = pid → a.alive = false := by
  simp [isLiving, living?]

theorem isLiving_bury_of_mem {pids : List Nat} (h : pid ∈ pids) :
    isLiving (bury pids cast) pid = false := by
  rw [isLiving_eq_false_iff]
  intro a ha hpid
  obtain ⟨b, _, rfl⟩ := List.mem_map.mp ha
  by_cases hb : b.pid ∈ pids
  · simp [hb]
  · have hsame : b.pid = pid := by simpa [hb] using hpid
    exact absurd (hsame ▸ h) hb

/-- A change that wakes nobody leaves the dead dead. -/
theorem isLiving_map {f : Actor → Actor} (hpid : ∀ a, (f a).pid = a.pid)
    (hdead : ∀ a : Actor, a.alive = false → (f a).alive = false)
    (h : isLiving cast pid = false) : isLiving (cast.map f) pid = false := by
  rw [isLiving_eq_false_iff] at h ⊢
  intro a ha hsame
  obtain ⟨b, hb, rfl⟩ := List.mem_map.mp ha
  exact hdead b (h b hb ((hpid b).symm.trans hsame))

theorem isLiving_setLeaving (other left : Nat) :
    isLiving (setLeaving other left cast) pid = isLiving cast pid := by
  simp only [isLiving, living?, List.isSome_find?, setLeaving, List.any_map]
  congr 1
  funext a
  simp only [Function.comp]
  split <;> rfl

theorem isLiving_dies (other : Nat) (h : isLiving cast pid = false) :
    isLiving (dies other cast) pid = false := by
  unfold dies
  split
  · exact h
  · refine isLiving_map (fun a => ?_) (fun a ha => ?_) h
    · split <;> rfl
    · split
      · rfl
      · exact ha

/-- Asking lets no dead process rise. -/
theorem isLiving_askAlive (other : Nat) (h : isLiving cast pid = false) :
    isLiving ((askAlive other).run cast).2 pid = false := by
  simp only [askAlive, StateT.run]
  split
  · exact h
  · split
    · exact h
    · exact isLiving_dies other h
    · exact (isLiving_setLeaving other _).trans h

theorem isLiving_deliver (other : Nat) (s : Signal) (h : isLiving cast pid = false) :
    isLiving ((deliver other s).run cast).2 pid = false := by
  simp only [deliver, StateT.run]
  split
  · exact h
  · split
    · exact isLiving_dies other h
    · exact h
    · exact (isLiving_setLeaving other _).trans h
    · exact h
    · exact h

/-- The answer is what is so afterwards: one who dies slowly may die of being asked. -/
theorem askAlive_eq (pid : Nat) (cast : Cast) :
    ((askAlive pid).run cast).1 = isLiving ((askAlive pid).run cast).2 pid := by
  rcases hliving : living? pid cast with _ | a
  · have hrun : (askAlive pid).run cast = (false, cast) := by
      simp only [askAlive, StateT.run, hliving]
    rw [hrun, isLiving, hliving]
    rfl
  rcases hleaving : a.leaving with _ | _ | n
  · have hrun : (askAlive pid).run cast = (true, cast) := by
      simp only [askAlive, StateT.run, hliving, hleaving]
    rw [hrun, isLiving, hliving]
    rfl
  · have hrun : (askAlive pid).run cast = (false, bury (pid :: a.takes) cast) := by
      simp only [askAlive, StateT.run, hliving, hleaving, dies]
    rw [hrun]
    exact (isLiving_bury_of_mem List.mem_cons_self).symm
  · have hrun : (askAlive pid).run cast = (true, setLeaving pid n cast) := by
      simp only [askAlive, StateT.run, hliving, hleaving]
    rw [hrun, isLiving_setLeaving, isLiving, hliving]
    rfl

end Overseer.Supervisor
