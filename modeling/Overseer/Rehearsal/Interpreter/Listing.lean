/-
Overseer.Rehearsal.Interpreter.Listing — what a shell shows of itself.

Variables, aliases and traps are shown in a form that a shell can read in again.
Names stand in the order of their characters, signals in the order of their numbers.
-/
import Overseer.Rehearsal.Interpreter.Basic
import Overseer.Rehearsal.Programs.Modes

namespace Overseer.Rehearsal

open Shell

/-! ## 1. Texts and variables -/

mutual

/-- The rest of a text behind an opening quote. -/
def quotedRest : List Char → List Char
  | [] => ['\'']
  | c :: cs => if c = '\'' then '\'' :: '"' :: '\'' :: quotedQuotes cs else c :: quotedRest cs

/-- The rest of a text behind quotes that stand in double quotes. -/
def quotedQuotes : List Char → List Char
  | [] => ['"']
  | c :: cs => if c = '\'' then '\'' :: quotedQuotes cs else '"' :: '\'' :: c :: quotedRest cs

end

/-- A text in quotes, within which quotes themselves stand in double ones. -/
def quotedText (text : String) : String := String.ofList ('\'' :: quotedRest text.toList)

/-- A variable as it is set. -/
def settingText (x : Variable) : String :=
  x.name ++ ((x.value.map fun v => "=" ++ quotedText v).getD "")

/-- Variables in the order of their names, each behind a text. -/
def variableLines (front : String) (settings : List Variable) : List String :=
  (settings.mergeSort fun a b => decide (a.name ≤ b.name)).map fun x => front ++ settingText x

/-- An alias as it is set. -/
def aliasText (a : String × String) : String := a.1 ++ "=" ++ quotedText a.2

/-! ## 2. Signals -/

/-- What a shell calls a signal. -/
def shellSignalName (number : Nat) : String :=
  if [16, 32, 33].contains number then toString number else signalName number

/-- The signal that a text means to a shell. -/
def shellSignal? (text : String) : Option Signal :=
  let upper := String.ofList (text.toList.map Char.toUpper)
  match text.toNat? with
  | some n => if n ≤ 64 then some ⟨n⟩ else none
  | none => ((List.range 65).find? fun n => shellSignalName n == upper).map Signal.mk

/-- What is done about signals, as commands that have it done. -/
def trapLines (traps : List (Nat × String)) : List String :=
  (traps.mergeSort fun a b => decide (a.1 ≤ b.1)).map fun t =>
    "trap -- " ++ quotedText t.2 ++ " " ++ shellSignalName t.1

/-- What is said of a signal that ends a process. -/
def signalText (signal : Signal) : String :=
  let n := signal.number
  let texts : List (Nat × String) :=
    [(1, "Hangup"), (2, "Interrupt"), (3, "Quit"), (4, "Illegal instruction"),
     (5, "Trace/breakpoint trap"), (6, "Aborted"), (7, "Bus error"),
     (8, "Floating point exception"),
     (9, "Killed"), (10, "User defined signal 1"), (11, "Segmentation fault"),
     (12, "User defined signal 2"), (13, "Broken pipe"), (14, "Alarm clock"), (15, "Terminated"),
     (16, "Stack fault"), (24, "CPU time limit exceeded"), (25, "File size limit exceeded"),
     (26, "Virtual timer expired"), (27, "Profiling timer expired"), (29, "I/O possible"),
     (30, "Power failure"), (31, "Bad system call")]
  match texts.lookup n with
  | some text => text
  | none => if n < 34 then s!"Unknown signal {n}" else s!"Real-time signal {n - 34}"

/-- How background processes are doing, in the words of a list of them. -/
def Job.stateText (j : Job) : String :=
  if j.ends.length < j.pids.length then "Running"
  else match j.ends.lookup (j.pids.getLastD 0) with
    | some (.code 0) | none => "Done"
    | some (.code n) => s!"Done({n})"
    | some (.signal signal) => signalText signal

/-- A line of a list of background processes; `mark` tells the latest ones. -/
def Job.line (j : Job) (mark : Char) : String :=
  let front := s!"[{j.number}] {mark} {j.stateText}"
  let pipes := String.join (List.replicate (j.pids.length - 1) " | ")
  front ++ "".pushn ' ' (33 - front.length) ++ pipes

end Overseer.Rehearsal
