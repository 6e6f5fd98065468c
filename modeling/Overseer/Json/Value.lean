/-
Overseer.Json.Value — documents and the tokens they are written with.

Setup files, launch payloads and reports are JSON documents. A string may be
well formed and still no text: an escape can name half of a surrogate pair.
Such a string is kept as `none`, because it is allowed wherever its value is
not looked at. Of numbers only integers are ever looked at; any other number
is kept as it is spelled. Fields keep their order and may repeat.
-/

namespace Overseer.Json

/-- A string of a document; `none` if its escapes spell no text. -/
abbrev Label := Option String

/-- A document. -/
inductive Value where
  | null
  | bool (b : Bool)
  | int (i : Int)
  | real (spelling : String)
  | str (s : Label)
  | arr (items : List Value)
  | obj (fields : List (Label × Value))
deriving Inhabited

/-- The smallest units of a document's text. -/
inductive Token where
  | openList
  | closeList
  | openObject
  | closeObject
  | colon
  | comma
  | str (s : Label)
  | atom (v : Value)

/-- A string with a text. -/
def Value.text (s : String) : Value := .str (some s)

/-- An object with the given fields. -/
def Value.object (fields : List (String × Value)) : Value :=
  .obj (fields.map fun f => (some f.1, f.2))

/-- `null` for nothing. -/
def Value.ofOption {α : Type} (f : α → Value) : Option α → Value
  | none => .null
  | some a => f a

end Overseer.Json
