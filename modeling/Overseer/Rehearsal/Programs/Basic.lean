/-
Overseer.Rehearsal.Programs.Basic — the programs of a scene, and how they are found.

A program is a file that can be run. One that comes with the system has no
content; any other one is a script whose first line names the program that reads
it. A name without a slash is looked for in the directories of a search path.
-/
import Overseer.Rehearsal.Scene

namespace Overseer.Rehearsal

/-! ## 1. The system -/

/-- The names of the programs. -/
def programNames : List String :=
  ["dash", "bash", "true", "false", "echo", "printf", "sleep", "cat", "head", "wc", "tr", "sort",
   "uniq", "cut", "paste", "fold", "rev", "tac", "grep", "sed", "rm", "mkdir", "rmdir", "touch",
   "cp", "mv", "ln", "chmod", "ls", "pwd", "seq", "yes", "printenv", "kill", "test", "[", "nohup",
   "setsid", "nice", "xargs", "basename", "dirname", "expr", "find", "readlink", "od", "base64",
   "date"]

/-- The directories in which the programs lie. -/
def programDirectories : List String := ["/usr/bin"]

/-- The usual directories. -/
def usualDirectories : List String :=
  ["/usr/bin", "/usr/sbin", "/usr/lib", "/usr/lib64", "/usr/local/bin", "/usr/local/sbin",
   "/usr/share", "/usr/include", "/etc", "/dev", "/proc", "/sys", "/run/lock", "/root", "/home",
   "/boot", "/media", "/mnt", "/opt", "/srv", "/var/lib", "/var/log", "/var/tmp"]

/-- The usual links, with what they say. -/
def usualLinks : List (String × String) :=
  [("/bin", "usr/bin"), ("/sbin", "usr/sbin"), ("/lib", "usr/lib"), ("/lib64", "usr/lib64"),
   ("/usr/bin/sh", "dash"), ("/var/run", "/run"), ("/var/lock", "/run/lock")]

/-- The usual devices. -/
def usualDevices : List String :=
  ["/dev/null", "/dev/zero", "/dev/full", "/dev/tty", "/dev/random", "/dev/urandom"]

/-- The usual files. -/
def usualFiles : List (String × String) :=
  [("/etc/passwd", "root:x:0:0:root:/root:/bin/bash\n"),
   ("/etc/shadow", "root:*:19000:0:99999:7:::\n"),
   ("/etc/group", "root:x:0:\n"),
   ("/etc/hosts", "127.0.0.1\tlocalhost\n"),
   ("/etc/hostname", "localhost\n"),
   ("/etc/resolv.conf", ""),
   ("/etc/profile", "")]

/-- A tree with an empty working directory, the usual directories, devices, files
and links, and the programs. -/
def systemTree (workingDirectory : Path) : FileTree :=
  let t := FileTree.ofRoot workingDirectory
  let t := usualDirectories.foldl (fun t d => t.withDirectory ⟨d⟩) t
  let t := usualDevices.foldl (fun t d => t.put ⟨d⟩ .device) t
  let t := usualFiles.foldl (fun t f => t.put ⟨f.1⟩ (.text f.2)) t
  let t := usualLinks.foldl (fun t l => t.withLink ⟨l.1⟩ l.2) t
  let programs := programDirectories.flatMap fun d =>
    programNames.map fun name => Path.join ⟨d⟩ ⟨name⟩
  { t with
    files := t.files ++ programs.map fun p => (p, .octets [])
    modes := programs.map (·, 0o755) }

/-- The directories in which programs are looked for, if nothing else is said. -/
def usualSearchPath : String := "/usr/local/sbin:/usr/local/bin:/usr/sbin:/usr/bin:/sbin:/bin"

/-! ## 2. Finding programs -/

/-- What is run for a command: a program that comes with the system, and
arguments that it gets in front of those of the command. -/
structure Program where
  name : String
  front : List String
deriving DecidableEq, Repr

/-- The program that is to read a script, and an argument for it, as the first
line of the script says. -/
def interpreterOf? (content : FileContent) : Option (String × List String) :=
  match (spelled content.bytes).toList with
  | '#' :: '!' :: rest =>
    let isBlank (c : Char) : Bool := c == ' ' || c == '\t'
    let line := (rest.takeWhile (· != '\n')).dropWhile isBlank
    let path := line.takeWhile fun c => !isBlank c
    let arg := ((line.drop path.length).dropWhile isBlank).reverse.dropWhile isBlank
    if path.isEmpty then none
    else some (String.ofList path, if arg.isEmpty then [] else [String.ofList arg.reverse])
  | _ => none

/-- The program that a path leads to; scripts that read scripts are followed so far. -/
def programAt (tree : FileTree) : Nat → String → Except OsError Program
  | 0, _ => .error .tooManyLinks
  | depth + 1, path =>
    match tree.lookup (pathOf path) with
    | .error e => .error e
    | .ok (.vacant _) => .error .noEntry
    | .ok (.directory _) => .error .denied
    | .ok (.file names content) =>
      if !tree.canRun (FileTree.placeOf names) then .error .denied
      else
        let name := String.ofList (names.headD [])
        if content = .octets [] && programNames.contains name then .ok ⟨name, []⟩
        else match interpreterOf? content with
          | none => .error .notExecutable
          | some (interpreter, args) => do
            let program ← programAt tree depth interpreter
            return { program with front := program.front ++ args ++ [path] }

/-- How many scripts may read each other. -/
def maxInterpreters : Nat := 5

/-- Goes through the directories of a search path; the refusal to give if there
is no program in any of them is known. Gives the program's path as well. -/
def searchProgram (tree : FileTree) (command : String) (refusal : OsError) :
    List String → Except OsError (String × Program)
  | [] => .error refusal
  | directory :: rest =>
    let path := if directory.isEmpty then command else directory ++ "/" ++ command
    match programAt tree maxInterpreters path with
    | .ok program => .ok (path, program)
    | .error .notExecutable => .ok (path, ⟨"sh", [path]⟩)
    | .error .noEntry | .error .notDirectory => searchProgram tree command refusal rest
    | .error e => searchProgram tree command e rest

/-- The program that a command of a shell means, and its path. -/
def findCommand (tree : FileTree) (searchPath command : String) :
    Except OsError (String × Program) :=
  if command.toList.contains '/' then (programAt tree maxInterpreters command).map (command, ·)
  else if FileTree.maxPartSize < command.length then .error .nameTooLong
  else searchProgram tree command .noEntry (searchPath.splitOn ":")

/-- The program that is meant elsewhere; nothing has an empty name there. -/
def findProgram (tree : FileTree) (searchPath command : String) :
    Except OsError (String × Program) :=
  if command.isEmpty then .error .noEntry else findCommand tree searchPath command

/-- A command that is a script without a first line of its own is read by a shell. -/
def orScript (command : String) :
    Except OsError (String × Program) → Except OsError (String × Program)
  | .error .notExecutable => .ok (command, ⟨"sh", [command]⟩)
  | found => found

end Overseer.Rehearsal
