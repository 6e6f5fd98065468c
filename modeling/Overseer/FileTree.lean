/-
Overseer.FileTree — directories and files as a value.

A tree knows which directories exist, what its files hold, and which directory
is the working one. Names are looked up as an operating system does it: every
part but the last has to be a directory, `..` leaves the directory that was
really entered, and neither a part nor the whole may be too long. A file holds a
text or octets that are none, or it is a device that holds nothing. A link is a
second name of another place, and whoever follows it is at that place.
-/
import Overseer.Fault

namespace Overseer

/-- What a file holds. -/
inductive FileContent where
  | text (text : String)
  /-- Octets that are no text. -/
  | octets (octets : List UInt8)
  /-- Nothing; what is written is lost. -/
  | device
deriving DecidableEq, Inhabited

namespace FileContent

/-- The content with these octets. -/
def ofOctets (octets : List UInt8) : FileContent :=
  match String.fromUTF8? (ByteArray.mk octets.toArray) with
  | some s => .text s
  | none => .octets octets

/-- The octets that are read. -/
def bytes : FileContent → List UInt8
  | .text s => s.toUTF8.toList
  | .octets os => os
  | .device => []

/-- The text that is read, if the octets are one. -/
def text? : FileContent → Option String
  | .text s => some s
  | .octets _ => none
  | .device => some ""

end FileContent

/-- A second name of a place. -/
structure Link where
  name : Path
  /-- What the link says; it may be seen from where the link lies. -/
  text : String
  /-- The place to which it leads. -/
  goal : Path
deriving DecidableEq, Inhabited

/-- Directories, files and links, each under the normal form of its name. -/
structure FileTree where
  directories : List Path
  files : List (Path × FileContent)
  links : List Link
  /-- What users may do with files and directories, where it is not the usual. -/
  modes : List (Path × Nat)
  workingDirectory : Path
deriving Inhabited

/-- What a name leads to. -/
inductive FileTree.Node where
  | directory (names : List (List Char))
  | file (names : List (List Char)) (content : FileContent)
  | vacant (names : List (List Char))

namespace FileTree

/-- Parts of a path as they are spelled, the empty ones included. -/
def spelledParts (p : Path) : List (List Char) := Text.pieces (· == '/') p.text.toList

/-- How many octets a part of a path may have. -/
def maxPartSize : Nat := 255

/-- How many octets a path may have. -/
def maxPathSize : Nat := 4095

/-- The path of names that are given innermost first. -/
def placeOf (names : List (List Char)) : Path := Path.ofNames true names.reverse

/-- What has the given names, innermost first. -/
def entry (t : FileTree) (names : List (List Char)) : Node :=
  let p := placeOf names
  if names.isEmpty || t.directories.contains p then .directory names
  else match t.files.find? fun f => f.1 == p with
    | some f => .file names f.2
    | none => .vacant names

/-- What names lead to, innermost first. A link that says its own name leads nowhere. -/
def reach (t : FileTree) (names : List (List Char)) : Except OsError Node :=
  match t.links.find? (·.name == placeOf names) with
  | none => .ok (t.entry names)
  | some link =>
    if link.goal = link.name then .error .tooManyLinks
    else .ok (t.entry link.goal.names.reverse)

/-- Goes on from a node by one part. -/
def follow (t : FileTree) (node : Node) (part : List Char) : Except OsError Node :=
  match node with
  | .vacant _ => .error .noEntry
  | .file .. => .error .notDirectory
  | .directory names =>
    if part = [] ∨ part = ['.'] then .ok (.directory names)
    else if part = ['.', '.'] then .ok (.directory names.tail)
    else if maxPartSize < (String.ofList part).utf8ByteSize then .error .nameTooLong
    else t.reach (part :: names)

/-- What a path leads to. -/
def lookup (t : FileTree) (p : Path) : Except OsError Node :=
  if p.text.isEmpty then .error .noEntry
  else if maxPathSize < p.text.utf8ByteSize then .error .nameTooLong
  else (spelledParts (t.workingDirectory.join p)).foldlM t.follow (.directory [])

/-- The link that a path names, if it names one. A slash behind it asks for the place to
which it leads. -/
def link? (t : FileTree) (p : Path) : Option Link :=
  let parts := spelledParts (t.workingDirectory.join p)
  match parts.dropLast.foldlM t.follow (.directory []), parts.getLast? with
  | .ok (.directory names), some part => t.links.find? (·.name == placeOf (part :: names))
  | _, _ => none

/-- There is a file or a directory. -/
def exists? (t : FileTree) (p : Path) : Bool :=
  match t.lookup p with
  | .ok (.directory _) | .ok (.file ..) => true
  | _ => false

/-- There is a file, a directory or a link. -/
def hasName (t : FileTree) (p : Path) : Bool := t.exists? p || (t.link? p).isSome

/-- There is a file that is not a device. -/
def isFile (t : FileTree) (p : Path) : Bool :=
  match t.lookup p with
  | .ok (.file _ .device) => false
  | .ok (.file ..) => true
  | _ => false

/-- There is a directory. -/
def isDirectory (t : FileTree) (p : Path) : Bool :=
  match t.lookup p with
  | .ok (.directory _) => true
  | _ => false

/-- No file can have a name with a NUL. -/
def holdsNul (p : Path) : Bool := p.text.toList.contains (Char.ofNat 0)

/-- The text of a file. -/
def read (t : FileTree) (p : Path) : Except IoFault String :=
  if holdsNul p then .error .nameHoldsNul
  else match t.lookup p with
  | .error e => .error (.os e)
  | .ok (.vacant _) => .error (.os .noEntry)
  | .ok (.directory _) => .error (.os .isDirectory)
  | .ok (.file _ content) =>
    match content.text? with
    | none => .error .notText
    | some text => .ok text

/-- Gives a file its content, in place of what it held. -/
def put (t : FileTree) (p : Path) (content : FileContent) : FileTree :=
  if t.files.any fun f => f.1 == p then
    { t with files := t.files.map fun f => if f.1 = p then (p, content) else f }
  else { t with files := t.files ++ [(p, content)] }

/-- Says what users may do with what has a name. -/
def withMode (t : FileTree) (p : Path) (mode : Nat) : FileTree :=
  { t with modes := (p, mode) :: t.modes.filter (·.1 != p) }

/-- Some user may run a file: one of the three bits for it is set. -/
def canRun (t : FileTree) (p : Path) : Bool := ((t.modes.lookup p).getD 0) &&& 0o111 != 0

/-- Writes a text to a file, which is made if need be. -/
def write (t : FileTree) (p : Path) (text : String) : Except IoFault FileTree :=
  if holdsNul p then .error .nameHoldsNul
  else match t.lookup p with
  | .error e => .error (.os e)
  | .ok (.directory _) => .error (.os .isDirectory)
  | .ok (.file _ .device) => .ok t
  | .ok (.file names _) | .ok (.vacant names) => .ok (t.put (placeOf names) (.text text))

/-- Takes a file out. -/
def remove (t : FileTree) (p : Path) : FileTree :=
  let p := t.workingDirectory.absolute p
  { t with
    files := t.files.filter fun f => f.1 != p
    links := t.links.filter (·.name != p)
    modes := t.modes.filter (·.1 != p) }

/-- Takes a file out, or says why there is none. -/
def delete (t : FileTree) (p : Path) : Except OsError FileTree :=
  match t.lookup p with
  | .error e => .error e
  | .ok (.vacant _) => .error .noEntry
  | .ok (.directory _) => .error .isDirectory
  | .ok (.file names _) => .ok (t.remove (placeOf names))

/-- What lies in a directory, or further below. -/
def isBelow (p q : Path) : Bool := p.names.isPrefixOf q.names && p.names != q.names

/-- There is something in a directory. -/
def isFull (t : FileTree) (p : Path) : Bool :=
  let p := t.workingDirectory.absolute p
  t.directories.any (isBelow p) || (t.files.any fun f => isBelow p f.1)
    || t.links.any fun l => isBelow p l.name

/-- The names of what lies in a directory that is given by its normal form. -/
def namesIn (t : FileTree) (directory : Path) : List String :=
  let inside (p : Path) : Option String :=
    if p.names.dropLast = directory.names then (p.names.getLast?).map String.ofList else none
  t.directories.filterMap inside ++ (t.files.filterMap fun f => inside f.1)
    ++ t.links.filterMap fun l => inside l.name

/-- Takes a directory out, with all that lies in it. -/
def removeDirectory (t : FileTree) (p : Path) : FileTree :=
  let p := t.workingDirectory.absolute p
  { t with
    directories := t.directories.filter fun d => d != p && !isBelow p d
    files := t.files.filter fun f => !isBelow p f.1
    links := t.links.filter fun l => !isBelow p l.name
    modes := t.modes.filter fun m => m.1 != p && !isBelow p m.1 }

/-- Makes a directory and those above it. -/
def withDirectory (t : FileTree) (p : Path) : FileTree :=
  let add (t : FileTree) (d : Path) : FileTree :=
    if t.directories.contains d then t else { t with directories := d :: t.directories }
  (t.workingDirectory.absolute p).ancestors.foldl add t

/-- Makes a file and the directories above it. -/
def withFile (t : FileTree) (p : Path) (content : FileContent) : FileTree :=
  let p := t.workingDirectory.absolute p
  (t.withDirectory (Path.ofNames true p.names.dropLast)).put p content

/-- Makes a link, which leads to whatever its text leads to by now. -/
def withLink (t : FileTree) (name : Path) (text : String) : FileTree :=
  let name := t.workingDirectory.absolute name
  let here := Path.ofNames true name.names.dropLast
  let goal := match { t with workingDirectory := here }.lookup ⟨text⟩ with
    | .ok (.directory names) | .ok (.file names _) | .ok (.vacant names) => placeOf names
    | .error _ => here.absolute ⟨text⟩
  { t with links := ⟨name, text, goal⟩ :: t.links.filter (·.name != name) }

/-- Goes on from a directory by one part, which is made if need be. -/
def enterNew (t : FileTree) (names : List (List Char)) (part : List Char) :
    Except OsError (FileTree × List (List Char)) :=
  match t.follow (.directory names) part with
  | .error e => .error e
  | .ok (.directory names) => .ok (t, names)
  | .ok (.file ..) => .error .notDirectory
  | .ok (.vacant goal) =>
    if goal = part :: names then .ok ({ t with directories := placeOf goal :: t.directories }, goal)
    else .error .exists

/-- Makes a directory and those above it, as far as they are missing. -/
def makeDirectories (t : FileTree) (p : Path) : Except OsError FileTree :=
  match t.lookup p with
  | .ok (.directory _) => .ok t
  | .ok (.file ..) => .error .exists
  | _ =>
    if p.text.isEmpty then .error .noEntry
    else if maxPathSize < p.text.utf8ByteSize then .error .nameTooLong
    else
      let step (s : FileTree × List (List Char)) (part : List Char) := s.1.enterNew s.2 part
      ((spelledParts (t.workingDirectory.join p)).foldlM step (t, [])).map (·.1)

/-- The tree that holds a single working directory. -/
def ofRoot (root : Path) : FileTree := (FileTree.mk [] [] [] [] root).withDirectory root

/-- The tree with another working directory; none if there is no such directory. -/
def enter? (t : FileTree) (p : Path) : Option FileTree :=
  match t.lookup p with
  | .ok (.directory names) => some { t with workingDirectory := placeOf names }
  | _ => none

end FileTree

end Overseer
