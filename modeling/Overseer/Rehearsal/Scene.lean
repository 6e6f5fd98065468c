/-
Overseer.Rehearsal.Scene — processes that play their part in time.

A scene holds processes, the pipes between them, files, ports and a clock of
milliseconds that moves only when nobody has anything to do. Processes are
shells and the programs that shells start. Somebody outside listens to some
pipes: what is written to them is noted, latest first.

A pipe is at its end for a reader when no process can write to it any more,
and writing to it is refused with a signal when nobody can read. A file that is
read is a pipe that holds the file and that nobody writes to, so that processes
that share it go on where the last one stopped.
-/
import Overseer.Process.Control
import Overseer.Rehearsal.Ports
import Overseer.Rehearsal.Programs.Digest
import Overseer.Rehearsal.Shell.Fields
import Overseer.Wrapper.Reader

namespace Overseer.Rehearsal

open Shell (Command Heard Redirect Setting Source Values Variable)
open Wrapper (Stream)

/-! ## 1. Processes -/

/-- What a descriptor leads to. -/
inductive Channel where
  | nothing
  /-- A directory, which cannot be read. -/
  | folder
  | zeros
  /-- Zeros to read, and no room to write. -/
  | full
  | source (pipe : Nat)
  | sink (pipe : Nat)
  | output (file : Path)
deriving DecidableEq

/-- Descriptors and what they lead to. -/
abbrev Channels := List (Nat × Channel)

/-- A command whose words are expanded and whose descriptors are led elsewhere. -/
structure Call where
  fields : List String
  /-- Where complaints went before. -/
  complaints : Option Channel
  /-- How the last script in its words ended, if there was one. -/
  status : Option Nat
  /-- The shell has nothing else to do. -/
  isLast : Bool

/-- What a shell is expanding. -/
inductive Preparation where
  /-- The words of a command. -/
  | command (command : Command)
  /-- The variables that are set for a command. -/
  | settings (settings : List Setting) (call : Call)

/-- How far a shell has read options: the next argument, and how many letters of it. -/
structure OptionPlace where
  argument : Nat
  letters : Nat
  /-- The variable that tells the argument had this value then. -/
  shown : String

/-- How a shell reads a line: to variables, a field to each of them; the last one gets the rest. -/
structure ReadOrder where
  /-- Backslashes have no meaning. -/
  raw : Bool
  names : List String

/-- What a shell has yet to do. -/
inductive Frame where
  /-- A script, of which something has been run or not. -/
  | script (source : Source) (ran : Bool)
  /-- A script that is read from the input, or from elsewhere, and has not been read to its
  end. -/
  | gather (elsewhere : Option Channel) (octets : List UInt8)
  | run (command : Command)
  /-- To expand something, of whose inner scripts the first ones have been heard. -/
  | prepare (work : Preparation) (heard : List Heard)
  /-- To hear an inner script out. -/
  | collect (pipe pid : Nat) (octets : List UInt8) (work : Preparation) (heard : List Heard)
  /-- To wait for processes; the last one's end counts. -/
  | await (pids : List Nat)
  /-- To wait for all background processes, as long as no signal comes in. -/
  | awaitAll
  /-- The same for some of them, one after the other. -/
  | awaitEach (jobs : List String) (status : Nat)
  /-- To read a line into variables. -/
  | readLine (order : ReadOrder) (read : List UInt8)
  /-- A command that depends on the success of what is done before. -/
  | onSuccess (command : Command)
  | onFailure (command : Command)
  | negate
  | branch (yes no : Command)
  /-- A loop at its condition, with the status of the body before. -/
  | loopTest (wanted : Bool) (condition body : Command) (last : Nat)
  | loopBody (wanted : Bool) (condition body : Command)
  | eachBody (name : String) (values : List String) (body : Command)
  /-- To lead the descriptors back. -/
  | restore (channels : Channels)
  /-- To put variables back. -/
  | giveBack (saved : List (String × Option Variable))
  /-- To leave a function. -/
  | leave (arguments : List String) (place : OptionPlace) (saved : List (String × Option Variable))
  /-- To complain in the name that was used before. A script that was read in may
end here, or one whose faults do not end the shell. -/
  | speakAs (speaker : Option String) (readIn sheltered : Bool)
  /-- To go on where a signal came in. -/
  | resume (status : Nat)
  /-- To ignore signals from now on. -/
  | deafen (signals : List Signal)
  /-- To end with a code. -/
  | finish (status : Nat)

/-- Background processes of a shell that belong together. -/
structure Job where
  number : Nat
  /-- The processes; the last one counts. -/
  pids : List Nat
  /-- The ends that the shell has seen. -/
  ends : List (Nat × ExitStatus)
  /-- The shell was asked for the end. -/
  isKnown : Bool

/-- A shell. -/
structure Interpreter where
  values : Values
  functions : List (String × Command)
  /-- What is done about signals; number 0 is the shell's own end. -/
  traps : List (Nat × String)
  jobs : List Job
  /-- Words that stand for others where a command begins. -/
  aliases : List (String × String)
  /-- The rights that new files do not get. -/
  mask : Nat
  /-- The signals that were ignored from the start. -/
  deaf : List Signal
  place : OptionPlace
  /-- The directory it is in, as it was named. -/
  here : Path
  /-- The shell was started inside of a function, and of so many loops. -/
  inFunction : Bool
  loopsAround : Nat
  /-- The line of the command that is being done. -/
  line : Nat
  /-- The command in whose name the shell complains. -/
  speaker : Option String
  /-- A failure is told apart outside of this shell. -/
  tested : Bool
  frames : List Frame

/-- A file that is being read: its name, and what it leads to or why it cannot be read. -/
abbrev Input := String × Except OsError Channel

/-- The name of a program, and the one by which it was called. -/
structure Caller where
  called : String
  name : String

/-- What a process is at. -/
inductive Work where
  | shell (s : Interpreter)
  /-- A program, and the name by which it was called. -/
  | program (called name : String) (args : List String) (environment : List (String × String))
  | asleep (till : Nat)
  /-- Writes at once what it reads. -/
  | copying (caller : Caller) (code : Nat) (inputs : List Input)
  /-- Reads files to their ends; those read are kept latest first, and what was read
of the first of the others. -/
  | digesting (caller : Caller) (digest : Digest) (seen : List Document) (read : List UInt8)
    (inputs : List Input)
  /-- Reads its input to the end, and runs commands that it makes of it. -/
  | planning (caller : Caller) (plan : List Char → List (List String)) (read : List UInt8)
    (environment : List (String × String))
  /-- Writes the same again and again. -/
  | repeating (octets : List UInt8)
  /-- Runs commands one after the other. -/
  | feeding (caller : Caller) (commands : List (List String)) (child : Option Nat) (code : Nat)
    (environment : List (String × String))
  | ended (status : ExitStatus)

/-- A process. Its parent is 1 if the parent is gone, and 0 if it was started
from outside. -/
structure Proc where
  pid : Nat
  parent : Nat
  work : Work
  channels : Channels
  ignored : List Signal
  pending : List Signal
  directory : Path
  /-- Does nothing until it is told to go on. -/
  stopped : Bool
  /-- The rights that files which it makes do not get. -/
  mask : Nat

/-- The process has ended, and its parent has not taken notice. -/
def Proc.ended? (p : Proc) : Option ExitStatus :=
  match p.work with
  | .ended status => some status
  | _ => none

/-- A descriptor of the process leads to the channel, or will be led back there. -/
def Proc.holds (p : Proc) (channel : Channel) : Bool :=
  p.channels.any (·.2 == channel) || match p.work with
    | .shell sh => sh.frames.any fun
      | .restore channels => channels.any (·.2 == channel)
      | _ => false
    | _ => false

/-- A pipe and what was written to it and not yet read. -/
structure Pipe where
  id : Nat
  held : List UInt8
  /-- It stands for a file that is read. -/
  isFile : Bool

/-- How much a pipe holds before a writer has to wait. -/
def pipeSize : Nat := 65536

/-- All that plays together. -/
structure Scene where
  clock : Nat
  procs : List Proc
  pipes : List Pipe
  listeners : List (Nat × Stream)
  heard : List (Stream × List UInt8)
  tree : FileTree
  ports : PortTable
  /-- The variables that everything started from outside is given. -/
  environment : List (String × String)
  lastPid : Nat
  lastPipe : Nat
  /-- Processes that can take a step, in the order in which they have come to that. -/
  line : List Nat

/-- A scene on which nobody is yet. -/
def Scene.bare (tree : FileTree) (ports : PortTable) (environment : List (String × String)) :
    Scene where
  clock := 0
  procs := []
  pipes := []
  listeners := []
  heard := []
  tree := tree
  ports := ports
  environment := environment
  lastPid := 1000
  lastPipe := 0
  line := []

namespace Scene

/-- The process of a pid. -/
def proc? (s : Scene) (pid : Nat) : Option Proc := s.procs.find? (·.pid == pid)

/-- Changes the process of a pid. -/
def update (s : Scene) (pid : Nat) (change : Proc → Proc) : Scene :=
  { s with procs := s.procs.map fun p => if p.pid = pid then change p else p }

/-- The process is there and has not ended. -/
def isRunning (s : Scene) (pid : Nat) : Bool := (s.proc? pid).any (·.ended?.isNone)

/-- How a process has ended, if it has. -/
def end? (s : Scene) (pid : Nat) : Option ExitStatus := (s.proc? pid).bind (·.ended?)

/-- Somebody can write to the pipe. -/
def hasWriter (s : Scene) (pipe : Nat) : Bool := s.procs.any fun p => p.holds (.sink pipe)

/-- Somebody can read from the pipe. -/
def hasReader (s : Scene) (pipe : Nat) : Bool :=
  let reads : Input → Bool
    | (_, .ok (.source n)) => n == pipe
    | _ => false
  s.listeners.any (·.1 == pipe) || s.procs.any fun p =>
    p.holds (.source pipe) || match p.work with
      | .copying _ _ inputs | .digesting _ _ _ _ inputs => inputs.any reads
      | _ => false

/-- Takes a process out. -/
def reap (s : Scene) (pid : Nat) : Scene := { s with procs := s.procs.filter (·.pid != pid) }

/-- Has a shell take notice of a child's end: it is told by a signal if it traps that, and
the end of a background process is noted while the shell waits for another one. -/
def tellParent (s : Scene) (pid : Nat) (status : ExitStatus) : Scene :=
  match (s.proc? pid).bind fun p => s.proc? p.parent with
  | none => s
  | some p => match p.work with
    | .shell sh =>
      let s := if sh.traps.any (·.1 == Signal.chld.number) && !p.pending.contains .chld then
          s.update p.pid fun p => { p with pending := p.pending ++ [.chld] }
        else s
      let isElsewhere : Bool := match sh.frames with
        | .await pids :: _ => !pids.contains pid
        | _ => false
      if isElsewhere && sh.jobs.any (·.pids.contains pid) then
        let jobs := sh.jobs.map fun j =>
          if j.pids.contains pid then { j with ends := j.ends ++ [(pid, status)] } else j
        (s.update p.pid fun p => { p with work := .shell { sh with jobs } }).reap pid
      else s
    | _ => s

/-- Ends a process. Its children lose their parent, and nobody takes notice of
an end without a parent. -/
def endProc (s : Scene) (pid : Nat) (status : ExitStatus) : Scene :=
  let s := s.update pid fun p => { p with work := .ended status, channels := [] }
  let orphaned := s.procs.map fun p => if p.parent = pid then { p with parent := 1 } else p
  let s := { s with procs := orphaned.filter fun p => p.parent != 1 || p.ended?.isNone }
  s.tellParent pid status

/-- Ends a process with a code, of which eight bits count. -/
def exit (s : Scene) (pid : Nat) (code : Nat) : Scene := s.endProc pid (.code (code % 256))

/-- Has a signal take its effect on a process. -/
def receive (s : Scene) (pid : Nat) (signal : Signal) : Scene :=
  match s.proc? pid with
  | none => s
  | some p =>
    let keep : Scene := s.update pid fun p =>
      if p.pending.contains signal then p else { p with pending := p.pending ++ [signal] }
    match p.work with
    | .ended _ => s
    | work =>
      let traps := match work with
        | .shell shell => shell.traps
        | _ => []
      if signal = .kill then s.endProc pid (.signal signal)
      else if signal = .cont then
        let isFatal (signal : Signal) : Bool := !traps.any (·.1 == signal.number)
        match p.pending.find? isFatal with
        | some signal => s.endProc pid (.signal signal)
        | none => s.update pid fun p => { p with stopped := false }
      else if signal = .stop then s.update pid fun p => { p with stopped := true }
      else if p.ignored.contains signal then s
      else if traps.any (·.1 == signal.number) then keep
      else if signal.isHarmless then s
      else if p.stopped then keep
      else s.endProc pid (.signal signal)

/-- Starts a process. -/
def start (s : Scene) (p : Proc) : Nat × Scene :=
  let pid := s.lastPid + 1
  (pid, { s with procs := s.procs ++ [{ p with pid }], lastPid := pid })

/-- Starts a child of a process that has its surroundings, with descriptors and
work of its own. -/
def fork (s : Scene) (pid : Nat) (channels : Channels) (work : Work) : Nat × Scene :=
  match s.proc? pid with
  | none => (s.lastPid + 1, s)
  | some p => s.start { p with parent := pid, channels, work, pending := [] }

/-- The rights that files which a process makes do not get. -/
def maskOf (s : Scene) (pid : Nat) : Nat := ((s.proc? pid).map (·.mask)).getD 0o022

/-- Gives what a process has made the rights that its mask leaves. -/
def madeBy (s : Scene) (pid : Nat) (place : Path) (rights : Nat) (t : FileTree) : FileTree :=
  let mask := s.maskOf pid
  if mask = 0o022 then t else t.withMode place (rights &&& (0o777 - mask))

/-- Makes a pipe, or what stands for a file that is read. -/
def makePipe (s : Scene) (content? : Option (List UInt8)) : Nat × Scene :=
  let id := s.lastPipe + 1
  (id, { s with pipes := ⟨id, content?.getD [], content?.isSome⟩ :: s.pipes, lastPipe := id })

/-! ## 2. Reading and writing -/

/-- The descriptors of a process. -/
def channelsOf (s : Scene) (pid : Nat) : Channels := ((s.proc? pid).map (·.channels)).getD []

/-- Sets the descriptors of a process. -/
def setChannels (s : Scene) (pid : Nat) (channels : Channels) : Scene :=
  s.update pid fun p => { p with channels }

/-- What a descriptor of a process leads to. -/
def channel? (s : Scene) (pid descriptor : Nat) : Option Channel :=
  (s.channelsOf pid).lookup descriptor

/-- Leads a descriptor elsewhere. -/
def setChannel (descriptor : Nat) (channel? : Option Channel) (channels : Channels) : Channels :=
  let others := channels.filter (·.1 != descriptor)
  match channel? with
  | none => others
  | some channel => (descriptor, channel) :: others

/-- Appends octets to a file, if it is still there. -/
def extend (s : Scene) (file : Path) (octets : List UInt8) : Scene :=
  match s.tree.lookup file with
  | .ok (.file _ content) =>
    { s with tree := s.tree.put file (.ofOctets (content.bytes ++ octets)) }
  | _ => s

/-- Changes what a pipe holds. -/
def setHeld (s : Scene) (pipe : Nat) (change : List UInt8 → List UInt8) : Scene :=
  { s with pipes := s.pipes.map fun p =>
    if p.id = pipe then { p with held := change p.held } else p }

/-- A channel leads to a file and not to a pipe or a device. -/
def isFile (s : Scene) : Channel → Bool
  | .source pipe => (s.pipes.find? (·.id == pipe)).any (·.isFile)
  | .output _ => true
  | _ => false

/-- What a pipe holds. -/
def held (s : Scene) (pipe : Nat) : List UInt8 :=
  ((s.pipes.find? (·.id == pipe)).map (·.held)).getD []

/-- Writes octets for a process to a channel, or says why they are not taken. -/
def writeTo (s : Scene) (pid : Nat) (channel? : Option Channel) (octets : List UInt8) :
    Option OsError × Scene :=
  match channel? with
  | none | some .folder | some (.source _) =>
    (if octets.isEmpty then none else some .badDescriptor, s)
  | some .nothing | some .zeros => (none, s)
  | some .full => (if octets.isEmpty then none else some .noSpace, s)
  | some (.output file) => (none, if octets.isEmpty then s else s.extend file octets)
  | some (.sink pipe) =>
    if octets.isEmpty then (none, s)
    else if !s.hasReader pipe then (some .brokenPipe, s.receive pid ⟨13⟩)
    else match s.listeners.lookup pipe with
      | some stream => (none, { s with heard := (stream, octets) :: s.heard })
      | none => (none, s.setHeld pipe (· ++ octets))

/-- Writes octets to a descriptor of a process, or says why they are not taken. -/
def write (s : Scene) (pid descriptor : Nat) (octets : List UInt8) : Option OsError × Scene :=
  s.writeTo pid (s.channel? pid descriptor) octets

/-- Something can be read from a channel, or it is at its end. -/
def canRead (s : Scene) : Option Channel → Bool
  | some (.source pipe) => !(s.held pipe).isEmpty || !s.hasWriter pipe
  | _ => true

/-- A process can write without having to wait. -/
def canWrite (s : Scene) (pid : Nat) : Bool :=
  match s.channel? pid 1 with
  | some (.sink pipe) => decide ((s.held pipe).length < pipeSize) || !s.hasReader pipe
  | _ => true

/-- Reads at most so many octets from a channel; none at its end. -/
def readFrom (s : Scene) (most : Nat) : Option Channel → List UInt8 × Scene
  | some .zeros | some .full => (List.replicate most 0, s)
  | some (.source pipe) => ((s.held pipe).take most, s.setHeld pipe (·.drop most))
  | _ => ([], s)

/-- The files of a process, seen from its directory. -/
def treeOf (s : Scene) (pid : Nat) : FileTree :=
  match s.proc? pid with
  | some p => { s.tree with workingDirectory := p.directory }
  | none => s.tree

/-- The descriptor that a path names. -/
def descriptorOf? (path : String) : Option Nat :=
  match path with
  | "/dev/stdin" => some 0
  | "/dev/stdout" => some 1
  | "/dev/stderr" => some 2
  | _ => if path.startsWith "/dev/fd/" then (path.drop 8).toNat? else none

/-- The device that a path names. -/
def deviceOf? (names : List (List Char)) : Option Channel :=
  match (FileTree.placeOf names).text with
  | "/dev/null" => some .nothing
  | "/dev/zero" => some .zeros
  | "/dev/full" => some .full
  | _ => none

/-- Opens a file to read. -/
def openToRead (s : Scene) (pid : Nat) (path : String) : Except OsError (Channel × Scene) :=
  match descriptorOf? path with
  | some n =>
    match s.channel? pid n with
    | some channel => .ok (channel, s)
    | none => .error .noEntry
  | none =>
    match (s.treeOf pid).lookup (pathOf path) with
    | .error e => .error e
    | .ok (.vacant _) => .error .noEntry
    | .ok (.directory _) => .error .isDirectory
    | .ok (.file names content) =>
      match deviceOf? names with
      | some channel => .ok (channel, s)
      | none =>
        let (pipe, s) := s.makePipe (some content.bytes)
        .ok (.source pipe, s)

/-- How a file is opened to write. -/
inductive Start where
  /-- What it holds is lost. -/
  | empty
  /-- What is written comes behind what it holds. -/
  | behind
  /-- It must not be there. -/
  | new
deriving DecidableEq

/-- Opens a file to write. -/
def openToWrite (s : Scene) (pid : Nat) (path : String) (start : Start) :
    Except OsError (Channel × Scene) :=
  match descriptorOf? path with
  | some n =>
    match s.channel? pid n with
    | some channel => .ok (channel, s)
    | none => .error .noEntry
  | none =>
    match (s.treeOf pid).lookup (pathOf path) with
    | .error e => .error e
    | .ok (.directory _) => .error .isDirectory
    | .ok (.vacant names) =>
      let file := FileTree.placeOf names
      if path.endsWith "/" then .error .isDirectory
      else .ok (.output file,
        { s with tree := s.madeBy pid file 0o666 (s.tree.put file (.text "")) })
    | .ok (.file names _) =>
      let file := FileTree.placeOf names
      match deviceOf? names with
      | some channel => .ok (channel, s)
      | none =>
        match start with
        | .new => .error .exists
        | .behind => .ok (.output file, s)
        | .empty => .ok (.output file, { s with tree := s.tree.put file (.text "") })

/-! ## 3. The system call -/

/-- The process of a pid as the call takes it. -/
def findProc (s : Scene) (pid : Int) : Option Proc := s.procs.find? fun p => (p.pid : Int) == pid

/-- Signals, liveness and children on the scene. -/
def kernel : Process.Kernel Scene where
  kill := fun pid signal? s =>
    match s.findProc pid with
    | none => (.error .noSuchProcess, s)
    | some p =>
      match signal? with
      | none => (.ok (), s)
      | some signal => (.ok (), s.receive p.pid signal)
  isZombie := fun pid s => ((s.end? pid).isSome, s)
  children := fun s =>
    (s.procs.map fun p => (p.pid, (s.procs.filter (·.parent == p.pid)).map (·.pid)), s)

end Scene

end Overseer.Rehearsal
