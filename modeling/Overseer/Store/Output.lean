/-
Overseer.Store.Output — the operations on lines of output.

A query names its rows by a selector, a time and a number after which they
come. A limit keeps the first of them or, on demand, the last; the answer is by
rising number either way. A negative limit is none.
-/
import Overseer.Store.Basic

namespace Overseer

/-- Whose output is meant. -/
inductive Selector where
  | service (key : ServiceKey)
  | launch (id : Int)
deriving DecidableEq, Inhabited

/-- The row is meant. -/
def Selector.matches : Selector → OutputRow → Bool
  | .service key, r => r.key == key
  | .launch id, r => r.launch == id

/-- Which rows are asked for. -/
structure OutputQuery where
  selector : Selector
  since : Option Int
  after : Option Int
  limit : Option Int
  newest : Bool
deriving DecidableEq

/-- The row is asked for, limits aside. -/
def OutputQuery.admits (q : OutputQuery) (r : OutputRow) : Bool :=
  q.selector.matches r && q.since.all (fun t => decide (t ≤ r.time))
    && decide (q.after.getD 0 < r.id)

/-- The first rows within a limit. -/
def withinLimit {α : Type} (limit : Option Int) (rows : List α) : List α :=
  match limit with
  | none => rows
  | some n => if n < 0 then rows else rows.take n.toNat

namespace Store

/-- Adds a line and gives its number. -/
def append (s : Store) (now launch : Int) (key : ServiceKey) (line : Int) (content : String)
    (type : LogType) : Except StoreFault (Int × Store) := do
  let id ← nextNumber s.lastOutput
  let row : OutputRow := ⟨id, launch, key, line, content, type.text, now⟩
  return (id, { s with output := row :: s.output, lastOutput := id })

/-- Stores a row as it is, with its own number or the next one. -/
def insertOutput (s : Store) (number? : Option Int) (row : OutputRow) :
    Except StoreFault (Int × Store) := do
  let id ← match number? with
    | some id => pure id
    | none => nextNumber s.lastOutput
  if s.output.any fun r => r.id == id then throw (.keyTaken "process_output.id")
  return (id, { s with
    output := insertRow OutputRow.id { row with id } s.output
    lastOutput := max s.lastOutput id })

/-- The lines asked for, by rising number. -/
def query (s : Store) (q : OutputQuery) : Except StoreFault (List LogRecord) := do
  let rows := s.output.filter (OutputQuery.admits q)
  if q.newest then return (← (withinLimit q.limit rows).mapM (·.record)).reverse
  else (withinLimit q.limit rows.reverse).mapM (·.record)

/-- The last line of a type in a launch. -/
def lastOfType (s : Store) (launch : Int) (type : LogType) :
    Except StoreFault (Option LogRecord) :=
  match s.output.find? fun r => r.launch == launch && r.type == type.text with
  | none => .ok none
  | some r => r.record.map some

/-- Deletes the lines of a service and tells how many there were. -/
def clear (s : Store) (key : ServiceKey) : Nat × Store :=
  ((s.output.filter fun r => r.key == key).length,
    { s with output := s.output.filter fun r => r.key != key })

/-- How many lines are meant. -/
def count (s : Store) (selector : Selector) : Nat :=
  (s.output.filter selector.matches).length

end Store

end Overseer
