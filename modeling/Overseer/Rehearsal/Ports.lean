/-
Overseer.Rehearsal.Ports — ports whose answers are laid down beforehand.

A port that is listed answers each binding as it is told; any other port can be
bound. A listed port may become free: its last failing attempt is counted.
-/
import Overseer.Port

namespace Overseer.Rehearsal

open Port (Binding)

/-- A port and what it answers. With `freesAfter` above 0 that many attempts to
bind by the older protocol are answered so, and then the port is free. -/
structure PortEntry where
  port : Nat
  first : Binding
  second : Binding
  freesAfter : Nat
deriving DecidableEq

/-- The ports that are listed. -/
abbrev PortTable := List PortEntry

/-- A port used by both protocols. -/
def PortEntry.used (port : Nat) : PortEntry := ⟨port, .inUse, .inUse, 0⟩

/-- What is left of an entry after an attempt. -/
def PortEntry.afterAttempt (e : PortEntry) : Option PortEntry :=
  if e.freesAfter = 1 then none else some { e with freesAfter := e.freesAfter - 1 }

/-- Counts an attempt on a port. -/
def countAttempt (port : Nat) (t : PortTable) : PortTable :=
  t.filterMap fun e => if e.port = port then e.afterAttempt else some e

/-- Binds by the older protocol. -/
def bindFirst (port : Nat) : StateM PortTable Binding := fun t =>
  match t.find? (·.port == port) with
  | none => (.bound, t)
  | some e => (e.first, countAttempt port t)

/-- Binds by the newer protocol. -/
def bindSecond (port : Nat) : StateM PortTable Binding := fun t =>
  match t.find? (·.port == port) with
  | none => (.bound, t)
  | some e => (e.second, t)

/-- Nobody uses the port. -/
def portIsFree (port : Nat) : StateM PortTable Bool := Port.isFree bindFirst bindSecond port

end Overseer.Rehearsal
