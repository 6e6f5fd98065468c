/-
Overseer.Rehearsal.Programs.Files — programs that make, move and list files.

Each takes its operands one after the other; those that fail are complained
about, and the others are done all the same.
-/
import Overseer.Rehearsal.Programs.Modes
import Overseer.Rehearsal.Scene

namespace Overseer.Rehearsal

namespace Scene

/-- What a program has to say: what it writes, and what it complains about. -/
structure Report where
  out : List Char
  complaints : List String

/-- Nothing to say. -/
def Report.silent : Report := ⟨[], []⟩

/-- A complaint. -/
def Report.complaint (text : String) : Report := ⟨[], [text]⟩

/-- Lines that are written. -/
def Report.lines (lines : List String) : Report := ⟨lines.flatMap fun l => (l ++ "\n").toList, []⟩

/-- One report behind another. -/
def Report.append (a b : Report) : Report := ⟨a.out ++ b.out, a.complaints ++ b.complaints⟩

/-- Does the same for every operand. -/
def forEach (s : Scene) (operands : List String) (f : Scene → String → Report × Scene) :
    Report × Scene :=
  operands.foldl (fun (report, s) operand =>
    let (more, s) := f s operand
    (report.append more, s)) (Report.silent, s)

/-- Changes the files, or complains. -/
def changeTree (s : Scene) (complain : OsError → String) :
    Except OsError FileTree → Report × Scene
  | .ok tree =>
    let here := s.tree.workingDirectory
    (.silent, { s with tree := { tree with workingDirectory := here } })
  | .error e => (.complaint (complain e), s)

/-! ## 1. Making and removing -/

/-- The name of something in a directory. -/
def insideOf (directory name : String) : String :=
  if directory.endsWith "/" then directory ++ name else directory ++ "/" ++ name

/-- Removes a file, or a directory with all that lies in it. -/
def removePath (s : Scene) (pid : Nat) (given : Given) (path : String) : Report × Scene :=
  let tree := s.treeOf pid
  let complain (e : OsError) : String := s!"rm: cannot remove '{path}': {e.text}"
  let missing (e : OsError) : Report × Scene :=
    (if given.has 'f' then .silent else .complaint (complain e), s)
  match tree.link? (pathOf path), tree.lookup (pathOf path) with
  | some link, _ => s.changeTree complain (.ok (tree.remove link.name))
  | none, .error e =>
    if e == .noEntry || e == .notDirectory then missing e else (.complaint (complain e), s)
  | none, .ok (.vacant _) => missing .noEntry
  | none, .ok (.directory names) =>
    s.changeTree complain (if given.has 'r' && !names.isEmpty then
      .ok (tree.removeDirectory (FileTree.placeOf names)) else .error .isDirectory)
  | none, .ok (.file names _) => s.changeTree complain (.ok (tree.remove (FileTree.placeOf names)))

/-- Makes a directory, with those above it if told to. -/
def makeDirectory (s : Scene) (pid : Nat) (given : Given) (path : String) : Report × Scene :=
  let tree := s.treeOf pid
  s.changeTree (fun e => s!"mkdir: cannot create directory '{path}': {e.text}")
    (if given.has 'p' then tree.makeDirectories (pathOf path)
    else if (tree.link? (pathOf path)).isSome then .error .exists
    else match tree.lookup (pathOf path) with
      | .error e => .error e
      | .ok (.vacant names) =>
        let place := FileTree.placeOf names
        .ok (s.madeBy pid place 0o777 { tree with directories := place :: tree.directories })
      | _ => .error .exists)

/-- Removes an empty directory. -/
def removeEmpty (s : Scene) (pid : Nat) (path : String) : Report × Scene :=
  let tree := s.treeOf pid
  s.changeTree (fun e => s!"rmdir: failed to remove '{path}': {e.text}")
    (match tree.link? (pathOf path), tree.lookup (pathOf path) with
    | _, .error e => .error e
    | none, .ok (.vacant _) => .error .noEntry
    | none, .ok (.directory names) =>
      let place := FileTree.placeOf names
      if tree.isFull place then .error .notEmpty else .ok (tree.removeDirectory place)
    | _, .ok _ => .error .notDirectory)

/-- Makes an empty file unless there is one. -/
def touchPath (s : Scene) (pid : Nat) (path : String) : Report × Scene :=
  let tree := s.treeOf pid
  s.changeTree (fun e => s!"touch: cannot touch '{path}': {e.text}")
    (match tree.lookup (pathOf path) with
    | .error e => .error e
    | .ok (.vacant names) =>
      let place := FileTree.placeOf names
      .ok (s.madeBy pid place 0o666 (tree.put place (.text "")))
    | _ => .ok tree)

/-- Says what users may do with a file or a directory. -/
def changeMode (s : Scene) (pid : Nat) (mode path : String) : Report × Scene :=
  let tree := s.treeOf pid
  let change (place : Path) (isDirectory : Bool) : FileTree :=
    let usual := if isDirectory then Mode.ofDirectory else Mode.ofFile
    let old := (tree.modes.lookup place).getD usual
    tree.withMode place ((Mode.changed? isDirectory (s.maskOf pid) old mode).getD old)
  s.changeTree (fun e => s!"chmod: cannot access '{path}': {e.text}")
    (match tree.lookup (pathOf path) with
    | .error e => .error e
    | .ok (.vacant _) => .error .noEntry
    | .ok (.directory names) => .ok (change (FileTree.placeOf names) true)
    | .ok (.file names _) => .ok (change (FileTree.placeOf names) false))

/-! ## 2. Copying and moving -/

/-- The place at which something is to lie: in the directory that is named, or under the name. -/
def goal (tree : FileTree) (source target : String) : Except OsError (List (List Char)) :=
  let name := ((pathOf source).names.getLast?).getD []
  match tree.lookup (pathOf target) with
  | .error e => .error e
  | .ok (.directory names) => .ok (name :: names)
  | .ok (.file names _) | .ok (.vacant names) => .ok names

/-- Copies what lies at one place to another, with its modes. -/
def copyTree (tree : FileTree) (source target : List (List Char)) : FileTree :=
  let old := source.reverse
  let moved (p : Path) : Option Path :=
    if old.isPrefixOf p.names then
      some (Path.ofNames true (target.reverse ++ p.names.drop old.length))
    else none
  let modes := tree.modes.filterMap fun m => (moved m.1).map (·, m.2)
  let tree := (tree.directories.filterMap moved).foldl FileTree.withDirectory tree
  let tree := (tree.files.filterMap fun f => (moved f.1).map (·, f.2)).foldl
    (fun t f => t.put f.1 f.2) tree
  let tree := (tree.links.filterMap fun l => (moved l.name).map (·, l.text)).foldl
    (fun t l => t.withLink l.1 l.2) tree
  { tree with modes := modes ++ tree.modes.filter fun m => !modes.any (·.1 == m.1) }

/-- Copies or moves a file or a directory. -/
def transfer (s : Scene) (pid : Nat) (name : String) (deep : Bool) (target source : String) :
    Report × Scene :=
  let tree := s.treeOf pid
  let moves := name == "mv"
  let carry (names : List (List Char)) (isDirectory : Bool) : Report × Scene :=
    let verb := if moves then "move" else "copy"
    s.changeTree (fun e => s!"{name}: cannot {verb} '{source}' to '{target}': {e.text}") do
      let place ← goal tree source target
      if names.isSuffixOf place then throw .invalidArgument
      let copied := copyTree tree names place
      return if !moves then copied
        else if isDirectory then copied.removeDirectory (FileTree.placeOf names)
        else copied.remove (FileTree.placeOf names)
  let refuse (e : OsError) : Report × Scene :=
    (.complaint s!"{name}: cannot stat '{source}': {e.text}", s)
  match tree.lookup (pathOf source) with
  | .error e => refuse e
  | .ok (.vacant _) => refuse .noEntry
  | .ok (.directory names) =>
    if moves || deep then carry names true
    else (.complaint s!"cp: -r not specified; omitting directory '{source}'", s)
  | .ok (.file names _) => carry names false

/-- Makes a link to what an operand names. -/
def linkPath (s : Scene) (pid : Nat) (target source : String) : Report × Scene :=
  let tree := s.treeOf pid
  s.changeTree (fun e => s!"ln: failed to create symbolic link '{target}': {e.text}") do
    let names ← goal tree source target
    match tree.link? (FileTree.placeOf names), ← tree.lookup (FileTree.placeOf names) with
    | none, .vacant names => return tree.withLink (FileTree.placeOf names) (unspell source)
    | _, _ => throw .exists

/-- Copies, moves or links operands to the last one. -/
def transferAll (s : Scene) (pid : Nat) (name : String) (given : Given) :
    Except Refusal (Report × Scene) :=
  match given.operands.reverse with
  | [] => refuseArguments name "missing file operand" 1
  | [only] => refuseArguments name s!"missing destination file operand after '{only}'" 1
  | target :: sources =>
    .ok (s.forEach sources.reverse fun s source =>
      if name == "ln" then s.linkPath pid target source
      else s.transfer pid name (given.has 'r') target source)

/-! ## 3. Links and lists -/

/-- Shows where links lead. -/
def showLinks (s : Scene) (pid : Nat) (paths : List String) : Report × Bool :=
  let texts := paths.map fun path => ((s.treeOf pid).link? (pathOf path)).map fun l => spell l.text
  (.lines (texts.filterMap id), texts.all Option.isSome)

/-- The names in a directory, in order. -/
def sortedNames (tree : FileTree) (place : Path) : List String :=
  ((tree.namesIn place).map spell).mergeSort fun a b => decide (a ≤ b)

/-- Lists the names in a directory; those that begin with a dot if told to. -/
def listPath (s : Scene) (pid : Nat) (given : Given) (path : String) : Report × Scene :=
  let tree := s.treeOf pid
  let missing (e : OsError) : Report × Scene :=
    (.complaint s!"ls: cannot access '{path}': {e.text}", s)
  match tree.lookup (pathOf path) with
  | .error e => missing e
  | .ok (.vacant _) => missing .noEntry
  | .ok (.file ..) => (.lines [path], s)
  | .ok (.directory names) =>
    let all := sortedNames tree (FileTree.placeOf names)
    (.lines (if given.has 'A' then all else all.filter fun n => !n.startsWith "."), s)

/-- A path with all that lies below it, as far down as `depth` says. -/
def pathsBelow (tree : FileTree) : Nat → String → List String
  | 0, path => [path]
  | depth + 1, path =>
    match tree.link? (pathOf path), tree.lookup (pathOf path) with
    | none, .ok (.directory names) =>
      path :: (sortedNames tree (FileTree.placeOf names)).flatMap fun name =>
        pathsBelow tree depth (insideOf path name)
    | _, _ => [path]

/-- How deep it is looked. -/
def maxDepth : Nat := 64

/-- Lists what lies at a path and below it. -/
def findBelow (s : Scene) (pid : Nat) (path : String) : Report × Scene :=
  let tree := s.treeOf pid
  if tree.hasName (pathOf path) then (.lines (pathsBelow tree maxDepth path), s)
  else (.complaint s!"find: '{path}': {OsError.noEntry.text}", s)

end Scene

end Overseer.Rehearsal
