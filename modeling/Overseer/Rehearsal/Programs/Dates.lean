/-
Overseer.Rehearsal.Programs.Dates — dates that are written.

A date is the time on the scene, or a number of seconds that is told. It is written in UTC, as a
format says.
-/
import Overseer.Rehearsal.Programs.Digest
import Overseer.Time.Calendar

namespace Overseer.Rehearsal.Dates

open Time (Moment)

/-- The part of a date that a letter stands for. -/
def partText (seconds : Int) (letter : Char) : List Char :=
  let m := Moment.ofSeconds seconds
  match letter with
  | 'Y' => (Time.yearText m.year).toList
  | 'm' => (Time.padded 2 m.month).toList
  | 'd' => (Time.padded 2 m.day).toList
  | 'H' => (Time.padded 2 m.hour).toList
  | 'M' => (Time.padded 2 m.minute).toList
  | 'S' => (Time.padded 2 m.second).toList
  | 's' => (toString seconds).toList
  | '%' => ['%']
  | c => ['%', c]

/-- A format with the parts of a date filled in. -/
def written (seconds : Int) : List Char → List Char
  | '%' :: c :: cs => partText seconds c ++ written seconds cs
  | c :: cs => c :: written seconds cs
  | [] => []

/-- Writes the date that it is now, or the one of a number of seconds behind an at sign. -/
def answer (now : Int) (args : List String) : Except Refusal Outcome := do
  let given ← readOptions "date" (optionSet "u" "d") args 1
  let told? (text : String) : Option Int :=
    match text.toList with
    | '@' :: digits => Text.decimal? digits
    | _ => none
  match (given.value? 'd').map fun text => (text, told? text), given.operands with
  | some (text, none), _ => .error ⟨[s!"date: invalid date '{text}'"], 1⟩
  | told, [format] =>
    let seconds := (told.bind (·.2)).getD now
    .ok (answerLines [String.ofList (written seconds (format.toList.dropWhile (· == '+')))])
  | _, _ => refuseArguments "date" "missing format" 1

end Overseer.Rehearsal.Dates
