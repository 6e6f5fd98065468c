/-
Overseer.Port — finding a port that nobody uses.

A port is free if it can be bound. The older protocol is asked first and every
refusal counts; of the newer one only "address in use" counts, because a host
without it refuses for reasons of its own. A port is allocated by probing the
unused ports of a range in ascending order.
-/
import Overseer.Fault

namespace Overseer.Port

/-- What binding a port answers. -/
inductive Binding where
  | bound
  | inUse
  | denied
  | notAvailable
deriving DecidableEq, Repr

/-- Nobody uses the port: both bindings are asked for, the second if the first succeeds. -/
def isFree {m : Type → Type} [Monad m] (bind4 bind6 : Nat → m Binding) (port : Nat) :
    m Bool := do
  if (← bind4 port) ≠ .bound then return false
  return (← bind6 port) ≠ .inUse

/-- The first port that passes the probe. -/
def firstPassing {m : Type → Type} [Monad m] (probe : Nat → m Bool) :
    List Nat → m (Option Nat)
  | [] => return none
  | port :: rest => do
    if ← probe port then return some port
    firstPassing probe rest

/-- The ports from the first to the last. -/
def range (first last : Nat) : List Nat := (List.range (last + 1 - first)).map (first + ·)

/-- The first port of a range that is not used and passes the probe. -/
def allocateFrom {m : Type → Type} [Monad m] (first last : Nat) (used : List Nat)
    (probe : Nat → m Bool) : ExceptT Fault m Nat := do
  let candidates := (range first last).filter fun port => !used.contains port
  match ← ExceptT.lift (firstPassing probe candidates) with
  | some port => return port
  | none => throw (.portsExhausted first last)

/-- The first port that is handed out. -/
def firstPort : Nat := 3001

/-- The last port that is handed out. -/
def lastPort : Nat := 4000

/-- How often something is looked at that is polled until a time is over. -/
def looks (limit interval : Nat) : Nat := (limit + interval - 1) / interval

/-- Polls until the port is free; `left` counts the looks that remain after the next one. -/
def pollFree {m : Type → Type} [Monad m] (probe : Nat → m Bool) (sleep : Nat → m Unit)
    (port : Nat) : Nat → m Bool
  | 0 => probe port
  | left + 1 => do
    if ← probe port then return true
    sleep 100
    pollFree probe sleep port left

/-- Waits until the port is free, for at most the given number of milliseconds. -/
def waitFree {m : Type → Type} [Monad m] (probe : Nat → m Bool) (sleep : Nat → m Unit)
    (port limit : Nat) : m Bool :=
  pollFree probe sleep port (looks limit 100)

end Overseer.Port
