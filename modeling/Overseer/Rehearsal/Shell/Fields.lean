/-
Overseer.Rehearsal.Shell.Fields — from glyphs to the texts that commands get.

What was not quoted is cut at separators. Blank separators count once however
many stand together; any other one ends a text, even an empty one. A text that
holds a pattern stands for the files whose names match it, if there are any; a
name that begins with a dot matches only a pattern that does.
-/
import Overseer.FileTree
import Overseer.Rehearsal.Shell.Expansion

namespace Overseer.Rehearsal.Shell

/-! ## 1. Cutting -/

/-- Texts that are cut off, latest first, and the text under way. -/
structure Cutting where
  done : List (List PatternChar)
  /-- The characters of the text under way, latest first. -/
  current : List PatternChar
  /-- The text under way is there even if it is empty. -/
  stays : Bool
  /-- A blank has just ended a text. -/
  afterBlank : Bool

namespace Cutting

/-- Ends the text under way, if it is there. -/
def finish (k : Cutting) : Cutting :=
  if k.stays then ⟨k.current.reverse :: k.done, [], false, false⟩
  else { k with current := [], afterBlank := false }

/-- Takes a glyph; the separators are given. -/
def take (separators : List Char) (k : Cutting) : Glyph → Cutting
  | .stay => { k with stays := true, afterBlank := false }
  | .gap => k.finish
  | .char c quoted cuts =>
    if cuts && separators.contains c then
      if c = ' ' ∨ c = '\t' ∨ c = '\n' then
        if k.stays then { k.finish with afterBlank := true } else k
      else if k.afterBlank then { k with afterBlank := false }
      else { k with stays := true }.finish
    else ⟨k.done, ⟨c, quoted⟩ :: k.current, true, false⟩

end Cutting

/-- Cuts glyphs into texts. -/
def cutFields (separators : List Char) (glyphs : List Glyph) : List (List PatternChar) :=
  ((glyphs.foldl (Cutting.take separators) ⟨[], [], false, false⟩).finish).done.reverse

/-! ## 2. Names of files -/

/-- Something in the text stands for other characters. -/
def isPattern (cs : List PatternChar) : Bool :=
  cs.any fun p => p.isBare '*' || p.isBare '?' || p.isBare '['

/-- The characters as a text. -/
def plainText (cs : List PatternChar) : String := String.ofList (cs.map (·.char))

/-- The parts of a path. -/
def pathParts : List PatternChar → List (List PatternChar)
  | [] => [[]]
  | p :: cs =>
    match p.char == '/', pathParts cs with
    | false, part :: rest => (p :: part) :: rest
    | _, parts => [] :: parts

/-- The names in a directory that match a pattern. -/
def matchingNames (tree : FileTree) (directory : String)
    (pattern : List PatternChar) : List String :=
  match tree.lookup (pathOf (if directory.isEmpty then "." else directory)) with
  | .ok (.directory names) =>
    let symbols := Symbol.ofChars 0 pattern
    let hidden := (pattern.head?).any (·.char == '.')
    let names := ((tree.namesIn (FileTree.placeOf names)).map spell)
      ++ if hidden then [".", ".."] else []
    names.filter fun name =>
      (hidden || !name.startsWith ".") && isMatch symbols name.toList
  | _ => []

/-- The files that the parts of a path stand for, behind the directory given. -/
def matchingPaths (tree : FileTree) (directory : String) :
    List (List PatternChar) → List String
  | [] => []
  | [part] =>
    if isPattern part then (matchingNames tree directory part).map (directory ++ ·)
    else
      let path := directory ++ plainText part
      if tree.hasName (pathOf path) then [path] else []
  | part :: rest =>
    let names := if isPattern part then matchingNames tree directory part else [plainText part]
    names.flatMap fun name => matchingPaths tree (directory ++ name ++ "/") rest

/-- The texts that a text with patterns stands for; it stands for itself if nothing matches. -/
def matchFiles (tree : FileTree) (text : List PatternChar) : List String :=
  if isPattern text then
    let paths := matchingPaths tree "" (pathParts text)
    if paths.isEmpty then [plainText text] else paths.mergeSort fun a b => decide (a ≤ b)
  else [plainText text]

/-! ## 3. Words -/

/-- The characters at which values are cut. -/
def Values.separators (v : Values) : List Char := ((v.get? "IFS").getD " \t\n").toList

/-- Expands a word to texts, as many as come of it. -/
def expandFields (tree : FileTree) (word : Word) : Expanding (List String) := do
  let glyphs ← Expanding.inside (expandParts ⟨true, false, false⟩ true word)
  let v ← Expanding.values
  let fields := cutFields v.separators glyphs
  if v.has 'f' then return fields.map plainText
  return fields.flatMap (matchFiles tree)

end Overseer.Rehearsal.Shell
