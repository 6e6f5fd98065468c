/-
Overseer.Json.Printer — documents as text, on one line or laid out.

Both forms come from one list of pieces: tokens with gaps between them. The
compact text leaves the gaps out; the laid out text starts a line for every
item and indents it by two blanks for each level. Lists and objects without
content stay closed on their line.
-/
import Overseer.Json.Quoted

namespace Overseer.Json

/-- A string with its quotes; half a pair is written as the escape of a half. -/
def quote : Label → List Char
  | some s => '"' :: (escape s.toList ++ ['"'])
  | none => '"' :: (unitEscape 0xD800 ++ ['"'])

/-- What a token looks like. -/
def Token.chars : Token → List Char
  | .openList => ['[']
  | .closeList => [']']
  | .openObject => [Char.ofNat 0x7b]
  | .closeObject => [Char.ofNat 0x7d]
  | .colon => [':']
  | .comma => [',']
  | .str s => quote s
  | .atom .null => "null".toList
  | .atom (.bool b) => (toString b).toList
  | .atom (.int i) => (toString i).toList
  | .atom (.real spelling) => spelling.toList
  | .atom (.str s) => quote s
  | .atom (.arr _) => ['[', ']']
  | .atom (.obj _) => [Char.ofNat 0x7b, Char.ofNat 0x7d]

/-- A token or a gap: one blank, or a new line at a level of indentation. -/
inductive Piece where
  | token (t : Token)
  | blank
  | line (level : Nat)

/-- What a piece looks like. -/
def Piece.chars : Piece → List Char
  | .token t => t.chars
  | .blank => [' ']
  | .line level => '\n' :: List.replicate (2 * level) ' '

/-- Is a token. -/
def Piece.isToken : Piece → Bool
  | .token _ => true
  | _ => false

mutual

/-- A document as pieces, at a level of indentation. -/
def Value.pieces (level : Nat) : Value → List Piece
  | .arr [] => [.token .openList, .token .closeList]
  | .arr (v :: vs) =>
    .token .openList :: .line (level + 1) :: v.pieces (level + 1)
      ++ itemPieces (level + 1) vs ++ [.line level, .token .closeList]
  | .obj [] => [.token .openObject, .token .closeObject]
  | .obj (f :: fs) =>
    .token .openObject :: .line (level + 1) :: fieldPieces (level + 1) f
      ++ otherPieces (level + 1) fs ++ [.line level, .token .closeObject]
  | .str s => [.token (.str s)]
  | .null => [.token (.atom .null)]
  | .bool b => [.token (.atom (.bool b))]
  | .int i => [.token (.atom (.int i))]
  | .real spelling => [.token (.atom (.real spelling))]

/-- The items after the first. -/
def itemPieces (level : Nat) : List Value → List Piece
  | [] => []
  | v :: vs => .token .comma :: .line level :: v.pieces level ++ itemPieces level vs

/-- One field. -/
def fieldPieces (level : Nat) : Label × Value → List Piece
  | (key, v) => .token (.str key) :: .token .colon :: .blank :: v.pieces level

/-- The fields after the first. -/
def otherPieces (level : Nat) : List (Label × Value) → List Piece
  | [] => []
  | f :: fs => .token .comma :: .line level :: fieldPieces level f ++ otherPieces level fs

end

mutual

/-- The document with the fields of every object in the order of their names. -/
def Value.sorted : Value → Value
  | .arr items => .arr (sortedItems items)
  | .obj fields => .obj ((sortedFields fields).mergeSort fun a b =>
      decide (a.1.getD "" ≤ b.1.getD ""))
  | v => v

/-- Sorts every item. -/
def sortedItems : List Value → List Value
  | [] => []
  | v :: vs => v.sorted :: sortedItems vs

/-- Sorts every field's value. -/
def sortedFields : List (Label × Value) → List (Label × Value)
  | [] => []
  | (key, v) :: fs => (key, v.sorted) :: sortedFields fs

end

/-- The document on one line, without blanks. -/
def Value.compact (v : Value) : String :=
  String.ofList (((v.pieces 0).filter Piece.isToken).flatMap Piece.chars)

/-- The document laid out. -/
def Value.pretty (v : Value) : String := String.ofList ((v.pieces 0).flatMap Piece.chars)

end Overseer.Json
