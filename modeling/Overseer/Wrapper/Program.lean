/-
Overseer.Wrapper.Program — the wrapper as a program of its own.

The program reads its payload, looks the launch up and does the task with the
usual options. How it ends is told by its exit code alone.
-/
import Overseer.Wrapper.Run

namespace Overseer.Wrapper

/-- The task of a payload; its launch has to be in the store. -/
def Task.ofText (store : Store) (text : String) : Except Fault Task :=
  match Launch.Payload.ofText text with
  | .error cause => .error (.badPayload cause)
  | .ok payload =>
    match store.launch? payload.launch with
    | none => .error (.noProcess (.launch payload.launch))
    | some record => .ok ⟨payload, record.key, .standard⟩

/-- The exit code of the program, of which eight bits count. -/
def exitCode : Except Fault Int → Nat
  | .ok code => (code % 256).toNat
  | .error (.startFailed _) => 127
  | .error _ => 1

end Overseer.Wrapper
