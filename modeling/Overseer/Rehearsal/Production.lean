/-
Overseer.Rehearsal.Production — a wrapper played through on a scene.

The wrapper and its child are played together: what the child writes, how it
ends and when times are over become the moves of the wrapper's run, in the order
in which they happen. Cues say what is asked of the wrapper, and when.
-/
import Overseer.Rehearsal.Turns
import Overseer.Wrapper.Step

namespace Overseer.Rehearsal

open Wrapper (Control Host Move Order Stream Task)

/-! ## 1. The host -/

/-- The variables that are usually set. -/
def usualEnvironment : List (String × String) := [("PATH", usualSearchPath), ("HOME", "/root")]

/-- A text that no program can be given. -/
def holdsNul (text : String) : Bool := text.toList.contains (Char.ofNat 0)

/-- The directory in which a child is to start. -/
def startDirectory (tree : FileTree) (path : Path) : Except OsError FileTree :=
  match tree.lookup path with
  | .error e => .error e
  | .ok (.vacant _) => .error .noEntry
  | .ok (.file ..) => .error .notDirectory
  | .ok (.directory names) => .ok { tree with workingDirectory := .ofNames true names.reverse }

/-- A setting such as `name=value`; the first equals sign counts. -/
def splitSetting (text : String) : String × String :=
  let name := text.toList.takeWhile (· != '=')
  (String.ofList name, String.ofList (text.toList.drop (name.length + 1)))

namespace Scene

/-- The variables that a program is given: those of everybody, and its own in
their place, in the order of their names. What stands behind the first equals
sign of a name becomes a part of the value. -/
def environmentOf (s : Scene) (given : List (String × String)) : List (String × String) :=
  let all := given.foldl (fun e x => x :: e.filter (·.1 != x.1)) s.environment
  (all.mergeSort fun a b => decide (a.1 ≤ b.1)).map fun e =>
    splitSetting (spell e.1 ++ "=" ++ spell e.2)

/-- Starts a program from outside, and listens to what it writes. -/
def launch (s : Scene) (order : Order) : Except IoFault Nat × Scene :=
  let given := order.environment.entries
  let texts := order.command.program :: order.directory.text :: order.command.args
    ++ given.flatMap fun e => [e.1, e.2]
  if texts.any holdsNul then (.error .holdsNul, s)
  else match startDirectory s.tree order.directory with
  | .error e => (.error (.os e), s)
  | .ok tree =>
    let environment := s.environmentOf given
    let searchPath := (environment.lookup "PATH").getD usualSearchPath
    let command := spell order.command.program
    let args := order.command.args.map spell
    match findProgram tree searchPath command with
    | .error e => (.error (.os e), s)
    | .ok (_, program) =>
      let (out, s) := s.makePipe none
      let (err, s) := s.makePipe none
      let s := { s with listeners := [(out, .out), (err, .err)] }
      let (pid, s) := s.start {
        pid := 0
        parent := 0
        work := .repeating []
        channels := [(0, .nothing), (1, .sink out), (2, .sink err)]
        ignored := []
        pending := []
        directory := tree.workingDirectory
        stopped := false
        mask := 0o022 }
      (.ok pid, s.become (args.length + 2) pid command program args environment)

end Scene

/-- A scene as a wrapper sees it. -/
def sceneHost : Host Scene where
  spawn := fun order s => s.launch order
  killTree := fun pid signal => (Scene.kernel.killTree pid signal).run
  portIsFree := fun port s =>
    let (free, ports) := portIsFree port s.ports
    (free, { s with ports })

/-! ## 2. Cues -/

/-- What is done from outside while the wrapper runs. -/
inductive Cue where
  /-- Waits until so many lines of the launch read so. -/
  | rows (content : String) (count : Nat)
  | pause (time : Nat)
  | ports (table : PortTable)
  | ask (control : Control)

/-- A line in which `(pid N)` stands for every `(pid 123)`, because nobody can know
the number beforehand. -/
def maskPids (line : String) : String :=
  match line.splitOn "(pid " with
  | [] => line
  | first :: pieces => String.join (first :: pieces.map fun piece =>
    let cs := piece.toList
    let digits := cs.takeWhile Char.isDigit
    let rest := cs.drop digits.length
    let number := if !digits.isEmpty && rest.head? == some ')' then ['N'] else digits
    "(pid " ++ String.ofList (number ++ rest))

/-- How many lines of a launch read so. -/
def countRows (store : Store) (launch : Int) (content : String) : Nat :=
  (store.output.filter fun r => r.launch == launch && maskPids r.content == content).length

/-- Whether the lines that a cue waits for are there. -/
def Cue.rowsCame? (store : Store) (launch : Int) : Cue → Option Bool
  | .rows content count => some (decide (count ≤ countRows store launch content))
  | _ => none

/-- How long lines are waited for, in milliseconds. -/
def rowsTime : Nat := 10000

/-- A time that the wrapper waits for. -/
inductive Delay where
  | drain (normal : Bool)
  | pause
  | look (left : Nat)
deriving DecidableEq

/-- A wrapper on a scene. Requests are those not yet taken up; `met` tells of
every wait for lines whether they came, latest first. -/
structure Production where
  run : Wrapper.Run Scene
  cues : List Cue
  cueSince : Nat
  requests : List Control
  met : List Bool
  timer : Option (Delay × Nat)

namespace Production

variable (t : Task)

/-- The beginning. -/
def start (store : Store) (now : Int) (scene : Scene) (cues : List Cue) : Production :=
  ⟨Wrapper.begin t sceneHost store now scene, cues, 0, [], [], none⟩

/-- The scene. -/
def scene (p : Production) : Scene := p.run.outside

/-- Changes the scene. -/
def onScene (p : Production) (change : Scene → Scene) : Production :=
  { p with run := { p.run with outside := change p.run.outside } }

/-- Lets one thing happen to the wrapper. -/
def move (p : Production) (m : Move) : Production :=
  { p with run := Wrapper.step t sceneHost p.run m }

/-- The wrapper has come to its end. -/
def hasEnded (p : Production) : Bool :=
  match p.run.stand with
  | .ended _ => true
  | _ => false

/-- Hears what was written, and takes up the lines. -/
def hear (p : Production) : Production :=
  let heard := p.scene.heard.reverse
  let p := p.onScene fun s => { s with heard := [] }
  let p := heard.foldl (fun p e => p.move t (.wrote e.1 e.2)) p
  (List.range p.run.queue.length).foldl (fun p _ => p.move t .take) p

/-- Takes notice of the child's end. -/
def noticeEnd (p : Production) : Production :=
  match p.run.stand with
  | .attending pid | .abandoning pid _ =>
    match p.scene.end? pid with
    | some status => (p.onScene fun s => s.reap pid).move t (.exited status)
    | none => p
  | _ => p

/-- Takes notice of outputs to which nobody can write any more. -/
def noticeClosed (p : Production) : Production :=
  let closed := p.scene.listeners.filter fun l => !p.scene.hasWriter l.1
  let p := p.onScene fun s => { s with listeners := s.listeners.filter fun l => s.hasWriter l.1 }
  closed.foldl (fun p l => p.move t (.closed l.2)) p

/-- Stops listening to outputs that the wrapper gave up. -/
def dropGivenUp (p : Production) : Production :=
  p.onScene fun s => { s with
    listeners := s.listeners.filter fun l => (p.run.reader? l.2).isSome }

/-- The wrapper can take up requests now. -/
def isOpen (p : Production) : Bool :=
  match p.run.stand with
  | .attending _ | .pausing _ | .probing .. => true
  | _ => false

/-- Hands the wrapper the requests that it can take up now. -/
def hand (p : Production) : Production :=
  if p.isOpen then p.requests.foldl (fun p c => p.move t (.request c)) { p with requests := [] }
  else p

/-- Takes the cues that are due; there are at most so many. -/
def takeCues : Nat → Production → Production
  | 0, p => p
  | fuel + 1, p =>
    let now := p.scene.clock
    match p.cues with
    | [] => p
    | cue :: rest =>
      let next := { p with cues := rest, cueSince := now }
      match cue with
      | .rows content count =>
        if count ≤ countRows p.run.store t.payload.launch content then
          takeCues fuel { next with met := true :: p.met }
        else if p.hasEnded || decide (p.cueSince + rowsTime ≤ now) then
          takeCues fuel { next with met := false :: p.met }
        else p
      | .pause time => if p.cueSince + time ≤ now || p.hasEnded then takeCues fuel next else p
      | .ports table => takeCues fuel (next.onScene fun s => { s with ports := table })
      | .ask control => takeCues fuel { next with requests := p.requests ++ [control] }

/-- What time the wrapper waits for, and how long. -/
def delay? (p : Production) : Option (Delay × Nat) :=
  match p.run.stand with
  | .draining _ => some (.drain p.run.out.isSome, t.options.drainTime)
  | .pausing _ => some (.pause, t.options.restartDelay)
  | .probing _ left => some (.look left, 100)
  | _ => none

/-- Sets the timer when the wrapper begins to wait, and tells it when the time is over. -/
def watchTime (p : Production) : Production :=
  let now := p.scene.clock
  match p.delay? t with
  | none => { p with timer := none }
  | some (delay, time) =>
    let due := match p.timer with
      | some (delay', due) => if delay' = delay then due else now + time
      | none => now + time
    let p := { p with timer := some (delay, due) }
    if due ≤ now then
      ({ p with timer := none }.move t (match delay with
        | .drain _ => .drainTimeOver
        | .pause => .pauseOver
        | .look _ => .lookDue)).dropGivenUp
    else p

/-- The next moment at which anything can happen, if nobody has anything to do now. -/
def nextMoment (p : Production) : Nat :=
  let now := p.scene.clock
  let cue? := match p.cues with
    | .rows .. :: _ => some (p.cueSince + rowsTime)
    | .pause time :: _ => some (p.cueSince + time)
    | _ => none
  let times := [p.scene.nextWake?, p.timer.map (·.2), cue?].filterMap id
  (times.filter (now < ·)).min?.getD (now + 1)

/-- The wrapper's child has ended, and the wrapper has not taken notice. -/
def hasUnnoticedEnd (p : Production) : Bool :=
  match p.run.stand with
  | .attending pid | .abandoning pid _ => (p.scene.end? pid).isSome
  | _ => false

/-- Nothing can happen before some time is over. -/
def isQuiet (p : Production) : Bool :=
  !p.scene.isBusy && p.scene.heard.isEmpty && (p.requests.isEmpty || !p.isOpen)
    && !p.hasUnnoticedEnd && p.scene.listeners.all (fun l => p.scene.hasWriter l.1)
    && ((p.delay? t).isNone || p.timer.isSome)
    && !((p.cues.head?.bind (Cue.rowsCame? p.run.store t.payload.launch)).getD false)

/-- Lets the time go on. -/
def advance (p : Production) : Production :=
  let next := if p.isQuiet t then p.nextMoment else p.scene.clock + 1
  p.onScene fun s => { s with clock := next }

/-- Everybody has a turn. -/
def turn (p : Production) : Production :=
  let p := p.onScene fun s => s.play 10
  let p := (((p.hear t).noticeEnd t).noticeClosed t).hand t
  let p := takeCues t (p.cues.length + 1) p
  (p.watchTime t).advance t

/-- Plays on until the wrapper has ended and no cue is left, for at most so many turns. -/
def play : Nat → Production → Production
  | 0, p => p
  | turns + 1, p => if p.hasEnded && p.cues.isEmpty then p else play turns (p.turn t)

/-- What comes of a wrapper that is played through. -/
def result (p : Production) : Option (Except Fault Int) :=
  match p.run.stand with
  | .ended result => some result
  | _ => none

end Production

/-- Plays a wrapper through. -/
def playThrough (t : Task) (store : Store) (now : Int) (scene : Scene) (cues : List Cue) :
    Production :=
  Production.play t 200000 (.start t store now scene cues)

end Overseer.Rehearsal
