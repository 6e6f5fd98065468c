/-
Overseer.Rehearsal.Interpreter.Step — one step of a shell.

A step takes the uppermost frame. Signals that the shell traps are answered
between commands, the one with the lowest number first; waiting for background
processes and reading a line are broken off by them.
-/
import Overseer.Rehearsal.Interpreter.Commands

namespace Overseer.Rehearsal

open Shell

/-! ## 1. Lines that are read -/

/-- The characters of a line, each with whether it may end a field. A backslash
takes the meaning of the character behind it unless the line is read raw. -/
def lineChars (raw : Bool) : List Char → List (Char × Bool)
  | [] => []
  | '\\' :: c :: cs =>
    if raw then ('\\', true) :: lineChars raw (c :: cs)
    else if c = '\n' then lineChars raw cs
    else (c, false) :: lineChars raw cs
  | c :: cs => if c = '\\' ∧ !raw then lineChars raw cs else (c, true) :: lineChars raw cs

/-- Cuts a line into as many fields as there are names; the last one gets the rest,
and names without a field get nothing. -/
def lineFields (separators : List Char) : List String → List (Char × Bool) → List (String × String)
  | [], _ => []
  | name :: names, cs =>
    let isGap (p : Char × Bool) : Bool := p.2 && separators.contains p.1
    let isSpace (p : Char × Bool) : Bool := isGap p && [' ', '\t', '\n'].contains p.1
    let text (cs : List (Char × Bool)) : String := String.ofList (cs.map (·.1))
    let cs := cs.dropWhile isSpace
    let field := cs.takeWhile fun p => !isGap p
    let rest := (cs.drop field.length).dropWhile isSpace
    let rest := match rest with
      | p :: behind => if isGap p then behind.dropWhile isSpace else rest
      | [] => []
    if names.isEmpty && !rest.isEmpty then
      [(name, text (cs.reverse.dropWhile isSpace).reverse)]
    else (name, text field) :: lineFields separators names rest

namespace Scene

/-- Gives variables what was read for them, and goes on. -/
def finishRead (s : Scene) (pid : Nat) (sh : Interpreter) (order : ReadOrder)
    (octets : List UInt8) (status : Nat) : Scene :=
  let v := sh.values
  let cs := lineChars order.raw (spelled (octets.filter (· != 0))).toList
  let given : Except String Values :=
    (lineFields v.separators order.names cs).foldlM (fun v f => v.assign f.1 f.2) v
  match given with
  | .ok values => s.settle pid (sh.withValues values) status
  | .error why => s.refuseBuiltin pid sh "read" false why

/-- Reads on in a line, up to its end. -/
def readOn (s : Scene) (pid : Nat) (sh : Interpreter) (order : ReadOrder)
    (before : List UInt8) (isBroken : Bool) : Scene :=
  let channel? := s.channel? pid 0
  let most := match channel? with
    | some (.source pipe) => ((s.held pipe).takeWhile (· != 10)).length + 1
    | _ => 1
  let (octets, s) := if isBroken then ([], s) else s.readFrom most channel?
  let read := before ++ octets
  let slashes := ((read.reverse.drop 1).takeWhile (· == 92)).length
  if octets.isEmpty then s.finishRead pid sh order read 1
  else if read.getLast? == some 10 && (order.raw || slashes % 2 == 0) then
    s.finishRead pid sh order read.dropLast 0
  else s.setShell pid (sh.push [.readLine order read])

/-! ## 2. Scripts -/

/-- Reads the next line of a script and runs it. -/
def runScript (s : Scene) (pid : Nat) (sh : Interpreter) (source : Source) (ran : Bool) : Scene :=
  match parseLine { source with aliases := sh.aliases } with
  | .error fault => s.refuseScript pid sh fault
  | .ok none => s.setShell pid (if ran then sh else sh.withStatus 0)
  | .ok (some (.nothing, source)) => s.setShell pid (sh.push [.script source ran])
  | .ok (some (command, source)) => s.setShell pid (sh.push [.run command, .script source true])

/-- Reads more of a script that comes from the input or from elsewhere; it is run when all of it
is there. -/
def gather (s : Scene) (pid : Nat) (sh : Interpreter) (elsewhere : Option Channel)
    (before : List UInt8) : Scene :=
  let (octets, s) := s.readFrom pieceSize (elsewhere.or (s.channel? pid 0))
  if octets.isEmpty then
    s.setShell pid (sh.push [.script (.ofText (spelled (before.filter (· != 0)))) false])
  else s.setShell pid (sh.push [.gather elsewhere (before ++ octets)])

/-- Hears on to an inner script. -/
def hearOn (s : Scene) (pid : Nat) (sh : Interpreter) (pipe child : Nat) (octets : List UInt8)
    (work : Preparation) (heard : List Heard) : Scene :=
  let more := s.held pipe
  if !more.isEmpty then
    (s.setHeld pipe fun _ => []).setShell pid
      (sh.push [.collect pipe child (octets ++ more) work heard])
  else match s.end? child with
    | none => s
    | some status =>
      let s := (s.report pid status).reap child
      let s := s.setChannels pid (setChannel (hearingDescriptor pipe) none (s.channelsOf pid))
      let (sh, s) := s.noteEnds pid sh []
      let text := spelled (octets.filter (· != 0))
      s.setShell pid (sh.push [.prepare work (heard ++ [⟨text, status.number.toNat⟩])])

/-! ## 3. Waiting -/

/-- Goes on behind processes that have all ended. -/
def finishAwait (s : Scene) (pid : Nat) (sh : Interpreter) (ends : List ExitStatus)
    (pids : List Nat) : Scene :=
  let s := ends.foldl (fun s e => s.report pid e) s
  let s := s.reapAll pids
  let (sh, s) := s.noteEnds pid sh []
  s.settle pid sh ((ends.getLast?.map (·.number.toNat)).getD 0)

/-- All processes of a job have ended, whether or not the shell has seen it. -/
def isOver (s : Scene) (j : Job) : Bool :=
  j.pids.all fun pid => j.ends.any (·.1 == pid) || (s.end? pid).isSome

/-- What is waited for is over, or there is no such job. -/
def isOverOrUnknown (s : Scene) (sh : Interpreter) (text : String) : Bool :=
  match sh.awaitedJob text with
  | .ok (some job) => s.isOver job
  | _ => true

/-- Goes on in waiting for jobs, the next of which is over. -/
def awaitNext (s : Scene) (pid : Nat) (sh : Interpreter) (status : Nat) : List String → Scene
  | [] => s.settle pid sh status
  | text :: rest =>
    match sh.awaitedJob text with
    | .error why => s.refuseBuiltin pid sh "wait" false why
    | .ok none => s.setShell pid (sh.push [.awaitEach rest status])
    | .ok (some job) =>
      let (sh, s) := s.noteEnds pid sh job.pids
      match (sh.jobs.find? (·.number == job.number)).bind (·.end?) with
      | some status =>
        s.setShell pid ((sh.tellOf job.number).push [.awaitEach rest status.number.toNat])
      | none => s.setShell pid (sh.push [.awaitEach (text :: rest) status])

/-- Goes on when all jobs are over. -/
def awaitRest (s : Scene) (pid : Nat) (sh : Interpreter) : Scene :=
  let (sh, s) := s.noteEnds pid sh []
  if sh.jobs.all (·.end?.isSome) then
    s.settle pid { sh with jobs := sh.jobs.map fun j => { j with isKnown := true } } 0
  else s.setShell pid (sh.push [.awaitAll])

/-! ## 4. Frames -/

/-- Takes the uppermost frame of a shell. -/
def takeFrame (s : Scene) (pid : Nat) (sh : Interpreter) (hasSignal : Bool) : Scene :=
  match sh.frames with
  | [] => s.quit pid sh sh.values.status
  | frame :: rest =>
    let sh := { sh with frames := rest }
    let status := sh.values.status
    let go (sh : Interpreter) (frames : List Frame) : Scene := s.setShell pid (sh.push frames)
    let run (command : Command) : Scene :=
      if let .nothing := command then go (sh.withStatus 0) [] else go sh [.run command]
    match frame with
    | .script source ran => s.runScript pid sh source ran
    | .gather elsewhere octets => s.gather pid sh elsewhere octets
    | .run command => s.runCommand pid sh command
    | .prepare work heard => s.prepare pid sh work heard
    | .collect pipe child octets work heard => s.hearOn pid sh pipe child octets work heard
    | .await pids =>
      match s.ends? pids with
      | none => s
      | some ends => s.finishAwait pid sh ends pids
    | .awaitAll => s.awaitRest pid sh
    | .awaitEach jobs status => s.awaitNext pid sh status jobs
    | .readLine order octets =>
      s.readOn pid sh order octets (hasSignal && !s.canRead (s.channel? pid 0))
    | .onSuccess command => if status = 0 then go sh [.run command] else go sh []
    | .onFailure command => if status = 0 then go sh [] else go sh [.run command]
    | .negate => go (sh.withStatus (if status = 0 then 1 else 0)) []
    | .branch yes no => run (if status = 0 then yes else no)
    | .loopTest wanted condition body last =>
      if (status == 0) == wanted then go sh [.run body, .loopBody wanted condition body]
      else go (sh.withStatus last) []
    | .loopBody wanted condition body =>
      go sh [.run condition, .loopTest wanted condition body status]
    | .eachBody _ [] _ => go sh []
    | .eachBody name (value :: values) body =>
      match sh.values.assign name value with
      | .error why => s.giveUp pid sh why
      | .ok v => go (sh.withValues v) [.run body, .eachBody name values body]
    | .restore channels => (s.setChannels pid channels).setShell pid sh
    | .giveBack saved => go (sh.withValues (sh.values.giveBack saved)) []
    | .leave arguments place saved => s.settle pid (sh.leave arguments place saved) status
    | .speakAs speaker .. => s.settle pid { sh with speaker } status
    | .resume before => go (sh.withStatus before) []
    | .deafen signals =>
      (s.update pid fun p => { p with ignored := signals ++ p.ignored }).setShell pid
        { sh with deaf := signals ++ sh.deaf }
    | .finish code => s.exit pid code

/-! ## 5. Steps -/

/-- A shell is inside of a command that lets no signal through, or that is over. -/
def isHeld (s : Scene) (sh : Interpreter) : Bool :=
  match sh.frames with
  | .await _ :: _ | .collect .. :: _ | .readLine .. :: _ | .prepare .. :: _ | .restore _ :: _
  | .giveBack _ :: _ => true
  | .awaitAll :: _ => sh.jobs.all s.isOver
  | .awaitEach [] _ :: _ => true
  | .awaitEach (text :: _) _ :: _ => s.isOverOrUnknown sh text
  | _ => false

/-- Answers a signal; a wait for background processes is over then. -/
def answerSignal (s : Scene) (pid : Nat) (sh : Interpreter) (signal : Signal) : Scene :=
  let s := s.update pid fun p => { p with pending := p.pending.filter (· != signal) }
  let (frames, status) := match sh.frames with
    | .awaitAll :: rest | .awaitEach .. :: rest =>
      (Frame.speakAs sh.speaker false false :: rest, 128 + signal.number)
    | frames => (frames, sh.values.status)
  match sh.traps.lookup signal.number with
  | none => s.setShell pid sh
  | some action =>
    let frames := .script (.ofText action) false :: .resume status :: frames
    s.setShell pid { sh.withStatus status with frames }

/-- Lets a shell take a step. -/
def stepShell (s : Scene) (p : Proc) (sh : Interpreter) : Scene :=
  match (p.pending.map (·.number)).min? with
  | some n =>
    if s.isHeld sh then s.takeFrame p.pid sh true
    else s.answerSignal p.pid sh ⟨n⟩
  | none => s.takeFrame p.pid sh false

/-- A shell can take a step. -/
def shellCanStep (s : Scene) (p : Proc) (sh : Interpreter) : Bool :=
  match sh.frames with
  | .await pids :: _ => (s.ends? pids).isSome
  | .awaitAll :: _ => !p.pending.isEmpty || sh.jobs.all s.isOver
  | .awaitEach (text :: _) _ :: _ => !p.pending.isEmpty || s.isOverOrUnknown sh text
  | .collect pipe child .. :: _ =>
    !(s.held pipe).isEmpty || (!s.hasWriter pipe && (s.end? child).isSome)
  | .readLine .. :: _ => !p.pending.isEmpty || s.canRead (s.channel? p.pid 0)
  | .gather elsewhere _ :: _ => s.canRead (elsewhere.or (s.channel? p.pid 0))
  | _ => true

end Scene

end Overseer.Rehearsal
