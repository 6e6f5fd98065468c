/-
Overseer.Rehearsal.Interpreter.Basic — shells on a scene, and how they begin and end.

What a shell has yet to do is a stack of frames. A child of a shell begins with
the shell's values and descriptors. What leaves a loop, a function or the shell
itself drops the frames inside of it, and leads descriptors and variables back on
the way.
-/
import Overseer.Rehearsal.Programs.Perform
import Overseer.Rehearsal.Shell.Parser

namespace Overseer.Rehearsal

open Shell

/-! ## 1. Shells -/

/-- The name of the directory in which a shell is started: the one that it is told, if that is
right. -/
def firstDirectory (tree : FileTree) (environment : List (String × String)) : Path :=
  match environment.lookup "PWD" with
  | some text =>
    match text.startsWith "/", tree.lookup (pathOf text) with
    | true, .ok (.directory names) =>
      if FileTree.placeOf names = tree.workingDirectory then pathOf text else tree.workingDirectory
    | _, _ => tree.workingDirectory
  | none => tree.workingDirectory

/-- The variables of a shell that is started in a directory. -/
def firstVariables (parent : Nat) (directory : Path) (environment : List (String × String)) :
    List Variable :=
  let plain (name value : String) : Variable := ⟨name, some value, false, false⟩
  let given := environment.filterMap fun e =>
    if isName e.1 then some (⟨e.1, some e.2, true, false⟩ : Variable) else none
  let usual : List Variable :=
    [plain "PATH" usualSearchPath, plain "PS4" "+ ", plain "PS1" "# ", plain "PS2" "> "]
  let own : List Variable :=
    [⟨"PWD", some (spell directory.text), true, false⟩, plain "IFS" " \t\n",
     plain "OPTIND" "1", plain "PPID" (toString parent)]
  (usual ++ given ++ own).foldl (fun vs x => x :: vs.filter (·.name != x.name))
    ([] : List Variable)

/-- A shell at its start. -/
def Interpreter.fresh (values : Values) (here : Path) (mask : Nat) (deaf : List Signal)
    (frames : List Frame) : Interpreter where
  values := values
  functions := []
  traps := []
  jobs := []
  aliases := []
  mask := mask
  deaf := deaf
  place := ⟨1, 0, "1"⟩
  here := here
  inFunction := false
  loopsAround := 0
  line := 0
  speaker := none
  tested := false
  frames := frames

namespace Interpreter

/-- The failure of what is done now is told apart. -/
def isTested (sh : Interpreter) : Bool := go sh.frames
where
  /-- The same, with these frames around. -/
  go : List Frame → Bool
    | [] => sh.tested
    | .negate :: _ | .branch .. :: _ | .loopTest .. :: _ | .onSuccess _ :: _ | .onFailure _ :: _ =>
      true
    | .resume _ :: _ | .finish _ :: _ | .speakAs _ true _ :: _ => false
    | _ :: rest => go rest

/-- Sets the status. -/
def withStatus (sh : Interpreter) (status : Nat) : Interpreter :=
  { sh with values := { sh.values with status } }

/-- Puts frames in front of what is to be done. -/
def push (sh : Interpreter) (frames : List Frame) : Interpreter :=
  { sh with frames := frames ++ sh.frames }

/-- Nothing is to be done behind what is done now, so a program can take the
shell's place. -/
def isAtEnd (sh : Interpreter) : Bool :=
  sh.frames.isEmpty && sh.traps.all (·.2.isEmpty)

/-- The status at which a signal came in or the end began, if one of these is being answered. -/
def statusBefore (sh : Interpreter) : Nat :=
  (sh.frames.findSome? fun
    | .resume status | .finish status => some status
    | _ => none).getD sh.values.status

/-! ## 2. Dropping frames -/

/-- What is left of a shell when frames are dropped, and the descriptors to go back to. -/
structure Dropped where
  shell : Interpreter
  channels : Option Channels

/-- Leaves a function. -/
def leave (sh : Interpreter) (arguments : List String) (place : OptionPlace)
    (saved : List (String × Option Variable)) : Interpreter :=
  let values := { sh.values.giveBack saved with arguments }
  { sh with values, place := { place with shown := (values.get? "OPTIND").getD "" } }

/-- Drops a frame, and leads back what it would have led back. -/
def Dropped.drop (d : Dropped) : Frame → Dropped
  | .restore channels => { d with channels := some channels }
  | .giveBack saved =>
    { d with shell := { d.shell with values := d.shell.values.giveBack saved } }
  | .leave arguments place saved => { d with shell := d.shell.leave arguments place saved }
  | .speakAs speaker .. => { d with shell := { d.shell with speaker } }
  | _ => d

/-- Drops all frames. -/
def dropAll (sh : Interpreter) : Dropped :=
  sh.frames.foldl Dropped.drop ⟨{ sh with frames := [] }, none⟩

/-- Drops frames up to one that is an end, and that one as well; nothing if there is none. -/
def dropTo? (isEnd : Frame → Bool) (d : Dropped) : List Frame → Option Dropped
  | [] => none
  | .finish _ :: _ => none
  | frame :: rest =>
    let d := d.drop frame
    if isEnd frame then some { d with shell := { d.shell with frames := rest } }
    else dropTo? isEnd d rest

/-- Drops the frames inside of a function or a script that was read in. -/
def dropCall? (sh : Interpreter) : Option Dropped :=
  dropTo? (fun
    | .leave .. | .speakAs _ true _ => true
    | _ => false) ⟨sh, none⟩ sh.frames

/-- Drops the frames inside of what faults do not end the shell. -/
def dropFault? (sh : Interpreter) : Option Dropped :=
  dropTo? (fun
    | .speakAs _ _ true => true
    | _ => false) ⟨sh, none⟩ sh.frames

/-- A frame is a loop; gives how it goes on. -/
def loopAgain? : Frame → Option Frame
  | .loopBody wanted condition body => some (.loopBody wanted condition body)
  | .loopTest wanted condition body _ => some (.loopBody wanted condition body)
  | .eachBody name values body => some (.eachBody name values body)
  | _ => none

/-- How many loops stand around what is done now. -/
def loopDepth : List Frame → Nat
  | [] => 0
  | .leave .. :: _ | .finish _ :: _ => 0
  | frame :: rest => (if (loopAgain? frame).isSome then 1 else 0) + loopDepth rest

/-- Drops the frames inside of the n-th loop from within, and that loop as well
unless it is to go on. -/
def dropLoops (goesOn : Bool) (n : Nat) (d : Dropped) : List Frame → Dropped
  | [] => d
  | frame :: rest =>
    match loopAgain? frame with
    | some again =>
      if n > 1 then dropLoops goesOn (n - 1) d rest
      else { d with shell := { d.shell with frames := if goesOn then again :: rest else rest } }
    | none => dropLoops goesOn n (d.drop frame) rest

/-- The shell of a child process: signals are ignored there but not trapped, and
the parent's children are not its own. -/
def child (sh : Interpreter) (tested : Bool) (frames : List Frame) : Interpreter :=
  { sh with
    traps := sh.traps.filter (·.2.isEmpty)
    jobs := []
    inFunction := sh.inFunction || sh.frames.any fun
      | .leave .. => true
      | _ => false
    loopsAround := sh.loopsAround + loopDepth sh.frames
    tested
    frames }

end Interpreter

namespace Scene

/-- Lets a shell go on, unless it has ended in the meantime. -/
def setShell (s : Scene) (pid : Nat) (sh : Interpreter) : Scene :=
  (s.setWork pid (.shell sh)).update pid fun p => { p with mask := sh.mask }

/-- Lets a shell go on whose frames were dropped. -/
def setDropped (s : Scene) (pid : Nat) (d : Interpreter.Dropped) : Scene :=
  let channels := d.channels.getD (s.channelsOf pid)
  (s.setChannels pid channels).setShell pid d.shell

/-- A script that comes from a channel: that of a file is there at once. -/
def scriptFrom (s : Scene) (channel : Channel) : Frame :=
  match channel with
  | .source pipe =>
    if s.isFile channel then
      .script (.ofText (spelled ((s.held pipe).filter (· != 0)))) false
    else .gather (some channel) []
  | _ => .gather (some channel) []

/-- Complains in the name of a shell, at a line and perhaps for a command. -/
def grumbleAt (s : Scene) (pid : Nat) (sh : Interpreter) (line : Nat) (speaker : Option String)
    (text : String) : Scene :=
  let front := (speaker.map (· ++ ": ")).getD ""
  (s.write pid 2 (octetsOf s!"{sh.values.name}: {line}: {front}{text}\n")).2

/-- Complains in the name of a shell. -/
def grumble (s : Scene) (pid : Nat) (sh : Interpreter) (text : String) : Scene :=
  s.grumbleAt pid sh sh.line sh.speaker text

/-- Ends a shell, with what it has set for its end. -/
def quit (s : Scene) (pid : Nat) (sh : Interpreter) (status : Nat) : Scene :=
  match sh.traps.lookup 0 with
  | none | some "" => if s.isRunning pid then s.exit pid status else s
  | some action =>
    let d := sh.dropAll
    s.setDropped pid { d with shell := { d.shell.withStatus (status % 256) with
      traps := sh.traps.filter (·.1 != 0)
      speaker := none
      frames := [.script (.ofText action) false, .finish status] } }

/-- Goes on after a command that has ended with a status. -/
def settle (s : Scene) (pid : Nat) (sh : Interpreter) (status : Nat) : Scene :=
  if status != 0 && sh.values.has 'e' && !sh.isTested then s.quit pid sh status
  else s.setShell pid (sh.withStatus status)

/-- Complains about a fault that ends the shell, or what it takes place in. -/
def giveUp (s : Scene) (pid : Nat) (sh : Interpreter) (text : String) : Scene :=
  let s := s.grumble pid sh text
  match sh.dropFault? with
  | some d => (s.setDropped pid d).settle pid d.shell 2
  | none => s.quit pid sh 2

/-- Complains about a script that cannot be read, and does not go on with it. -/
def refuseScript (s : Scene) (pid : Nat) (sh : Interpreter) (fault : SyntaxFault) : Scene :=
  s.giveUp pid { sh with line := fault.line } fault.message

/-! ## 3. Descriptors -/

/-- The descriptor that is to be copied, if it is named as it has to be; none to close one. -/
def copied? (target : String) : Option (Option Nat) :=
  match target.toList with
  | ['-'] => some none
  | [c] => if c.isDigit then some (some (c.toNat - 48)) else none
  | _ => none

/-- Leads descriptors elsewhere, or says why that fails. -/
def redirect (s : Scene) (pid : Nat) (noClobber : Bool) (channels : Channels) :
    List (Redirect × String) → Except String (Channels × Scene) × Scene
  | [] => (.ok (channels, s), s)
  | (.to descriptor opening _, target) :: rest =>
    let why (verb missing : String) (e : OsError) : String :=
      let text := if e == .noEntry || e == .notDirectory then missing else e.text
      s!"cannot {verb} {target}: {text}"
    let lead (channel? : Option Channel) (s : Scene) :=
      s.redirect pid noClobber (setChannel descriptor channel? channels) rest
    let reading : Except String (Channels × Scene) × Scene :=
      match s.openToRead pid target with
      | .ok (channel, s) => lead (some channel) s
      | .error .isDirectory => lead (some .folder) s
      | .error e => (.error (why "open" "No such file" e), s)
    let writing (start : Start) : Except String (Channels × Scene) × Scene :=
      match s.openToWrite pid target start with
      | .ok (channel, s) => lead (some channel) s
      | .error e => (.error (why "create" "Directory nonexistent" e), s)
    match opening with
    | .read => reading
    | .write => writing (if noClobber then .new else .empty)
    | .overwrite => writing .empty
    | .extend => writing .behind
    | .readWrite =>
      if descriptor = 0 && (s.treeOf pid).exists? (pathOf target) then reading
      else writing .behind
    | .document =>
      let (pipe, s) := s.makePipe none
      lead (some (.source pipe)) (s.setHeld pipe fun _ => octetsOf target)
    | .copy =>
      match copied? target with
      | some (some n) =>
        match channels.lookup n with
        | some channel => lead (some channel) s
        | none => (.error s!"{n}: Bad file descriptor", s)
      | _ => lead none s

/-! ## 4. Becoming -/

/-- What a shell is told by its arguments. -/
structure Orders where
  options : List Char
  /-- The first operand is a script. -/
  command : Bool
  operands : List String

/-- Reads the arguments of a shell, or gives the complaint. -/
def readOrders (o : Orders) : List String → Except String Orders
  | [] => .ok o
  | "-" :: rest | "--" :: rest => .ok { o with operands := rest }
  | "-o" :: name :: rest =>
    match Values.optionNames.lookup name with
    | some letter => readOrders { o with options := letter :: o.options } rest
    | none => .error s!"Illegal option -o {name}"
  | arg :: rest =>
    match arg.toList with
    | '-' :: '-' :: _ => .error "Illegal option --"
    | '-' :: letters =>
      let known := 'c' :: 'l' :: Values.optionLetters
      match letters.find? fun c => !known.contains c with
      | some c => .error s!"Illegal option -{c}"
      | none => readOrders { o with
          options := (letters.filter fun c => c != 'c' && c != 'l') ++ o.options
          command := o.command || letters.contains 'c' } rest
    | '+' :: letters =>
      readOrders { o with options := o.options.filter fun c => !letters.contains c } rest
    | _ => .ok { o with operands := arg :: rest }

/-- Lets a process become a shell. -/
def becomeShell (s : Scene) (pid : Nat) (formats : Dialect) (called : String) (args : List String)
    (environment : List (String × String)) : Scene :=
  let directory := firstDirectory (s.treeOf pid) environment
  let parent := ((s.proc? pid).map (·.parent)).getD 1
  let refuse (text : String) : Scene :=
    ((s.write pid 2 (octetsOf s!"{called}: 0: {text}\n")).2).exit pid 2
  match readOrders ⟨[], false, []⟩ args with
  | .error text => refuse text
  | .ok orders =>
    let run (s : Scene) (options : List Char) (source : Frame) (name : String)
        (arguments : List String) : Scene :=
      let parent := if parent = 0 then 1000 else parent
      let values : Values := {
        formats, options, name, arguments
        bindings := firstVariables parent directory environment
        status := 0
        self := pid
        lastJob := none }
      s.setShell pid (.fresh values directory (s.maskOf pid)
        (((s.proc? pid).map (·.ignored)).getD []) [source])
    if orders.command then
      let frame (script : String) : Frame := .script (.ofText script) false
      match orders.operands with
      | [] => refuse "-c requires an argument"
      | [script] => run s orders.options (frame script) called []
      | script :: name :: args => run s orders.options (frame script) name args
    else match orders.operands, orders.options.contains 's' with
      | [], _ => run s ('s' :: orders.options.filter (· != 's')) (.gather none []) called []
      | args, true => run s orders.options (.gather none []) called args
      | file :: args, false =>
        match s.openToRead pid file with
        | .ok (channel, s) => run s orders.options (s.scriptFrom channel) file args
        | .error .isDirectory => s.exit pid 0
        | .error e =>
          let text := if e == .noEntry || e == .notDirectory then "No such file" else e.text
          refuse s!"cannot open {file}: {text}"

end Scene

end Overseer.Rehearsal
