/-
Overseer.Proofs.Console.Configuring — the command that adds a service.

The files that the command leaves are those that the call leaves
(`Project.addService_keeps_setups` says which), whatever it prints; and if the variables
of the service cannot be read there is no call, and the files are as they were.
-/
import Overseer.Proofs.Console.Starting
import Overseer.Proofs.Service.Adding

namespace Overseer.Console

open Launch (Environment)

variable {σ : Type}

/-- The service that is asked for, with its variables. -/
def NewService.config (new : NewService) (environment : Environment) : ServiceConfig :=
  ⟨new.name, new.shell, new.root.map Path.mk, environment, new.isDefault, new.wantsPort⟩

/-- The variables that are asked for, if they can be read. -/
def environment? : Option String → Option Environment
  | none => some .empty
  | some text => (Json.parse? text).bind Environment.ofJson?

theorem readEnvironment_run (text : Option String) (shell : Shell σ) :
    (readEnvironment (σ := σ) text).run.run shell = match environment? text with
      | none => (.error (.told "--env must be a JSON object of strings"), shell)
      | some environment => (.ok environment, shell) := by
  cases text with
  | none => rfl
  | some text =>
    rw [readEnvironment, environment?]
    cases (Json.parse? text).bind Environment.ofJson? <;> rfl

/-- What is done to the files is done, whether it goes through or not. -/
theorem onFiles_run {α : Type} (a : ExceptT Fault (StateM FileTree) α) (shell : Shell σ) :
    (onFiles a).run.run shell
      = ((a.run.run shell.tree).1.mapError .fault, { shell with tree := (a.run.run shell.tree).2 })
    := by
  have hrun : (onFiles a).run.run shell = (orFail (σ := σ) (a.run.run shell.tree).1).run.run
      { shell with tree := (a.run.run shell.tree).2 } := rfl
  rw [hrun]
  cases (a.run.run shell.tree).1 <;> rfl

/-- Telling of a success prints and does nothing else. -/
theorem succeed_tree (message : String) (data : Json.Value) (shell : Shell σ) :
    ((succeed message data).run.run shell).2.tree = shell.tree := by
  rw [succeed, tell, run_bind]
  change ((if shell.json = true then _ else _ : Cmd σ Unit).run.run shell).2.tree = shell.tree
  split <;> rfl

/-- **What the command does to the files**: what the call does, if there is one. -/
theorem performAddService_tree (new : NewService) (shell : Shell σ) :
    ((performAddService new).run.run shell).2.tree = match environment? new.environment with
      | none => shell.tree
      | some environment =>
        Project.treeAfter shell.tree ⟨new.directory, new.config environment⟩ := by
  rw [performAddService, run_bind, readEnvironment_run]
  cases environment? new.environment with
  | none => rfl
  | some environment =>
    dsimp only
    rw [run_bind, onFiles_run, ← NewService.config, Project.treeAfter]
    generalize (Project.insertService new.directory (new.config environment)).run.run shell.tree
      = left
    obtain ⟨fault | file, after⟩ := left
    · rfl
    · exact succeed_tree _ _ _

end Overseer.Console
