/-
Overseer.Supervisor.Wait — waiting until a service says something.

Only the current launch counts: what is searched begins at the last line that
marks a start. Among the last lines of the service that mark may be missing,
because the launch has written too much since; then the launch is read from its
first line, page by page. After that new lines are looked for at intervals,
until the message appears, the launch ends or the time is over.
-/
import Overseer.Supervisor.Inspect
import Overseer.Text.Decimal
import Overseer.Text.Pieces
import Overseer.Word

namespace Overseer.Supervisor

open Log (Cursor)

/-- How a wait ended. -/
inductive WaitOutcome where
  | found (line : LogRecord)
  | exited (code : Option Int)
  | notStarted
  | timedOut
deriving DecidableEq, Inhabited

/-! ## 1. Searching lines -/

/-- A text occurs in another. -/
def occursIn (needle : List Char) : List Char → Bool
  | [] => needle.isEmpty
  | c :: cs => needle.isPrefixOf (c :: cs) || occursIn needle cs

/-- The line marks a start. -/
def isStart (r : LogRecord) : Bool := r.type == .started

/-- The number of 32 bits with sign that stands after the last blank. -/
def lastNumber? (content : String) : Option Int :=
  ((Text.pieces (· == ' ') content.toList).getLast?).bind fun word =>
    Text.decimalWithin? (Word.least 32) (Word.greatest 32) (String.ofList word)

/-- What the first line decides that decides anything: the end of the launch, or the message. -/
def scan (message : String) : List LogRecord → Option WaitOutcome
  | [] => none
  | r :: rest =>
    if r.type == .exited then some (.exited (lastNumber? r.content))
    else if !r.type.isMarker && occursIn message.toList r.content.toList then some (.found r)
    else scan message rest

/-- The lines from the last start on; none if no start is marked. -/
def fromLastStart? : List LogRecord → Option (List LogRecord)
  | [] => none
  | r :: rest =>
    match fromLastStart? rest with
    | some lines => some lines
    | none => if isStart r then some (r :: rest) else none

/-! ## 2. Waiting -/

variable {σ : Type} (p : Platform σ) (settings : Settings)

/-- How many lines are searched at once. -/
def pageSize : Int := 1000

/-- What is known after one more page: a start forgets what came before it. -/
def afterPage (message : String) (found : Option WaitOutcome) (page : List LogRecord) :
    Option WaitOutcome :=
  match fromLastStart? page with
  | some lines => scan message lines
  | none => found.or (scan message page)

/-- More pages than can be read: every page but the last one takes the cursor to a
higher number. -/
def pagesAtMost : Nat := lastNumber.toNat + 1

/-- Reads pages until one is empty. -/
def scanPages (message : String) :
    Nat → Cursor → Option WaitOutcome → Act σ (Option WaitOutcome × Cursor)
  | 0, cursor, found => return (found, cursor)
  | fuel + 1, cursor, found => do
    let (page, cursor) ← readOn p cursor cursor.limit
    if page.isEmpty then return (found, cursor)
    scanPages message fuel cursor (afterPage message found page)

/-- One look after the first: new lines, and without any whether the launch has ended. -/
def lookAgain (key : ServiceKey) (message : String) (cursor : Cursor) :
    Act σ (Option WaitOutcome × Cursor) := do
  let (rows, cursor) ← readOn p cursor none
  match scan message rows with
  | some outcome => return (some outcome, cursor)
  | none =>
    if !rows.isEmpty then return (none, cursor)
    let _ ← sweep p settings
    match ← look p fun s => s.latest? key with
    | some record =>
      return (if record.running then none else some (.exited record.exitCode), cursor)
    | none => return (none, cursor)

/-- Looks at intervals, so many times. -/
def pollLines (key : ServiceKey) (message : String) (interval : Nat) :
    Nat → Cursor → Act σ WaitOutcome
  | 0, _ => return .timedOut
  | left + 1, cursor => do
    p.sleep interval
    match ← lookAgain p settings key message cursor with
    | (some outcome, _) => return outcome
    | (none, cursor) => pollLines key message interval left cursor

/-- The first look, and where to read on if it decides nothing. -/
def firstLook (key : ServiceKey) (message : String) : Act σ (Option WaitOutcome × Cursor) := do
  let (rows, cursor) ← readOn p (.tailing (.service key) (some pageSize)) (some pageSize)
  match fromLastStart? rows with
  | some lines => return (scan message lines, cursor)
  | none =>
    match ← look p fun s => s.active? key with
    | none => return (some .notStarted, cursor)
    | some record =>
      scanPages p message pagesAtMost (.fromStart (.launch record.id) (some pageSize)) none

/-- Waits until the current launch of a service prints a message; times are in milliseconds. -/
def waitForLog (key : ServiceKey) (message : String) (limit interval : Nat) :
    Act σ WaitOutcome := do
  match ← firstLook p key message with
  | (some outcome, _) => return outcome
  | (none, cursor) =>
    let interval := max interval 1
    pollLines p settings key message interval (Port.looks limit interval) cursor

end Overseer.Supervisor
