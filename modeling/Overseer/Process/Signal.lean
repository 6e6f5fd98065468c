/-
Overseer.Process.Signal — signals and how processes end.
-/

namespace Overseer

/-- A signal, by its number. -/
structure Signal where
  number : Nat
deriving DecidableEq, Repr, Inhabited

namespace Signal

/-- Asks to restart the child in place. -/
def usr1 : Signal := ⟨10⟩

/-- Interrupts, as from a keyboard. -/
def int : Signal := ⟨2⟩

/-- Ends a process that does nothing about it. -/
def term : Signal := ⟨15⟩

/-- Ends any process. -/
def kill : Signal := ⟨9⟩

/-- Tells a process of the end of a child. -/
def chld : Signal := ⟨17⟩

/-- Has a stopped process go on. -/
def cont : Signal := ⟨18⟩

/-- Has a process stop. -/
def stop : Signal := ⟨19⟩

/-- The names of the signals, from number 1 on. -/
def names : List String :=
  ["HUP", "INT", "QUIT", "ILL", "TRAP", "ABRT", "BUS", "FPE", "KILL", "USR1", "SEGV", "USR2",
   "PIPE", "ALRM", "TERM", "STKFLT", "CHLD", "CONT", "STOP", "TSTP", "TTIN", "TTOU", "URG",
   "XCPU", "XFSZ", "VTALRM", "PROF", "WINCH", "IO", "PWR", "SYS"]

/-- The full name of the signal. -/
def name (s : Signal) : String := "SIG" ++ (names[s.number - 1]?.getD (toString s.number))

/-- The signal of a name, with or without `SIG` in front. -/
def ofName? (name : String) : Option Signal :=
  let short := if name.startsWith "SIG" then (name.drop 3).toString else name
  (names.findIdx? (· == short)).map fun i => ⟨i + 1⟩

/-- Whether a process that does nothing about the signal goes on. -/
def isHarmless (s : Signal) : Bool := [17, 18, 19, 20, 21, 22, 23, 28].contains s.number

end Signal

/-- How a process ended. -/
inductive ExitStatus where
  | code (n : Nat)
  | signal (s : Signal)
deriving DecidableEq, Repr, Inhabited

/-- One number for how a process ended: its code, or 128 and the signal's number. -/
def ExitStatus.number : ExitStatus → Int
  | .code n => n
  | .signal s => 128 + s.number

end Overseer
