/-
Overseer.Fault — why an operation fails.

A fault names its cause; the words are put together in one place,
`Fault.message`. Every kind of cause has a constructor `told` for a cause that
comes in its own words. The faults for which a user needs help with the setup
file are singled out by `isAboutSetup`.
-/
import Overseer.Service.Name

namespace Overseer

/-! ## 1. Causes -/

/-- A refusal of the operating system. -/
inductive OsError where
  | noEntry
  | notExecutable
  | badDescriptor
  | denied
  | exists
  | notDirectory
  | isDirectory
  | invalidArgument
  | noSpace
  | brokenPipe
  | nameTooLong
  | notEmpty
  | tooManyLinks
deriving DecidableEq, Repr

/-- The number under which the refusal is known. -/
def OsError.code : OsError → Nat
  | .noEntry => 2
  | .notExecutable => 8
  | .badDescriptor => 9
  | .denied => 13
  | .exists => 17
  | .notDirectory => 20
  | .isDirectory => 21
  | .invalidArgument => 22
  | .noSpace => 28
  | .brokenPipe => 32
  | .nameTooLong => 36
  | .notEmpty => 39
  | .tooManyLinks => 40

/-- The refusal in words. -/
def OsError.text : OsError → String
  | .noEntry => "No such file or directory"
  | .notExecutable => "Exec format error"
  | .badDescriptor => "Bad file descriptor"
  | .denied => "Permission denied"
  | .exists => "File exists"
  | .notDirectory => "Not a directory"
  | .isDirectory => "Is a directory"
  | .invalidArgument => "Invalid argument"
  | .noSpace => "No space left on device"
  | .brokenPipe => "Broken pipe"
  | .nameTooLong => "File name too long"
  | .notEmpty => "Directory not empty"
  | .tooManyLinks => "Too many levels of symbolic links"

/-- The refusal in words, with its number. -/
def OsError.message (e : OsError) : String := s!"{e.text} (os error {e.code})"

/-- Why reading or writing fails. -/
inductive IoFault where
  | os (cause : OsError)
  | notText
  /-- A text that is given to a program holds a NUL. -/
  | holdsNul
  /-- The name of a file holds a NUL. -/
  | nameHoldsNul
  | told (text : String)
deriving DecidableEq, Repr

/-- The cause in words. -/
def IoFault.message : IoFault → String
  | .os cause => cause.message
  | .notText => "stream did not contain valid UTF-8"
  | .holdsNul => "nul byte found in provided data"
  | .nameHoldsNul => "file name contained an unexpected NUL byte"
  | .told text => text

/-- Why a setup file is refused. -/
inductive SetupFault where
  | malformed
  | noServices
  | blankName
  | badName (name : String)
  | blankShell (name : String)
  | duplicateName (name : String)
  | badRoot (name root : String)
  | manyDefaults
  | told (text : String)
deriving DecidableEq, Repr

/-- What stands for the texts of malformed documents, which are left open. -/
def malformedText : String := "<json error>"

/-- The cause in words. -/
def SetupFault.message : SetupFault → String
  | .malformed => malformedText
  | .noServices => "Config must have at least one service"
  | .blankName => "Each service must have a non-empty \"name\""
  | .badName name => s!"Invalid service name \"{name}\": use letters, digits, '.', '_' or '-'"
  | .blankShell name => s!"Service \"{name}\" must have a non-empty \"shell\""
  | .duplicateName name => s!"Duplicate service name: \"{name}\""
  | .badRoot name root => s!"Service \"{name}\" has invalid root path: \"{root}\""
  | .manyDefaults => "Only one service can be marked as default"
  | .told text => text

/-- Why a child process or its wrapper does not come up. -/
inductive StartFault where
  | wrapper (program : Path) (cause : IoFault)
  | command (line : String) (cause : IoFault)
  | reported (line : String)
  | wrapperExited (launch : Int)
  | told (text : String)
deriving DecidableEq, Repr

/-- The cause in words. -/
def StartFault.message : StartFault → String
  | .wrapper program cause => s!"Failed to start wrapper '{program.text}': {cause.message}"
  | .command line cause => s!"Cannot run '{line}': {cause.message}"
  | .reported line => line
  | .wrapperExited launch => s!"wrapper for launch {launch} exited before starting"
  | .told text => text

/-- Why a launch payload is refused. -/
inductive PayloadFault where
  | malformed
  | emptyCommand
  | told (text : String)
deriving DecidableEq, Repr

/-- The cause in words. -/
def PayloadFault.message : PayloadFault → String
  | .malformed => malformedText
  | .emptyCommand => "command is empty"
  | .told text => text

/-- What is looked for among the processes and not there. -/
inductive Missing where
  | launch (id : Int)
  | service (key : ServiceKey)
  | wrapper (key : ServiceKey)
  | deadWrapper (pid : Nat) (key : ServiceKey)
  | told (text : String)
deriving DecidableEq, Repr

/-- The missing thing in words. -/
def Missing.message : Missing → String
  | .launch id => s!"launch {id}"
  | .service key => key.text
  | .wrapper key => s!"wrapper for {key.text}"
  | .deadWrapper pid key => s!"wrapper {pid} for {key.text}"
  | .told text => text

/-- Why the store refuses. -/
inductive StoreFault where
  | keyTaken (column : String)
  | indexTaken (columns : List String)
  | full
  | pidRejected
  | closed
  /-- The directory of the store cannot be made. -/
  | noDirectory (cause : OsError)
  | cannotOpen
  | notStore
  | badLogType (text : String)
  | told (text : String)
deriving DecidableEq, Repr

/-- The refusal of a statement, with its number. -/
def refusal (code : Nat) (text : String) : String :=
  s!"error returned from database: (code: {code}) {text}"

/-- The cause in words. -/
def StoreFault.message : StoreFault → String
  | .keyTaken column => refusal 1555 s!"UNIQUE constraint failed: {column}"
  | .indexTaken columns =>
    refusal 2067 ("UNIQUE constraint failed: " ++ ", ".intercalate columns)
  | .full => refusal 13 "database or disk is full"
  | .pidRejected => refusal 1811 "pid updates rejected"
  | .closed => "attempted to acquire a connection on a closed pool"
  | .noDirectory cause => cause.message
  | .cannotOpen => refusal 14 "unable to open database file"
  | .notStore => refusal 26 "file is not a database"
  | .badLogType text => s!"Invalid log type: {text}"
  | .told text => text

/-- What is not permitted. -/
inductive Denial where
  | signal (pid : Nat)
  | told (text : String)
deriving DecidableEq, Repr

/-- The denial in words. -/
def Denial.message : Denial → String
  | .signal pid => s!"cannot signal process {pid}"
  | .told text => text

/-! ## 2. Faults -/

/-- Why an operation fails. -/
inductive Fault where
  | noSetup (start : Path)
  | badSetup (file : Path) (cause : SetupFault)
  | unknownService (name : String) (file : Path)
  | noDefaultService (file : Path)
  | serviceExists (name : String)
  | portsExhausted (first last : Nat)
  | portTaken (port : Nat)
  | startFailed (cause : StartFault)
  | badPayload (cause : PayloadFault)
  | noProcess (what : Missing)
  | store (cause : StoreFault)
  | denied (what : Denial)
  | failedIo (cause : IoFault)
  | badDocument
deriving DecidableEq, Repr

/-- The name of the setup file of a project. -/
def setupFileName : String := ".lantern-setup.json"

/-- The fault in words. -/
def Fault.message : Fault → String
  | .noSetup start => s!"No {setupFileName} found in {start.text} or any parent directory"
  | .badSetup file cause => s!"Invalid config at {file.text}: {cause.message}"
  | .unknownService name file => s!"No service '{name}' configured in {file.text}"
  | .noDefaultService file => s!"No default service in {file.text}; pass a service name"
  | .serviceExists name => s!"Service already exists: {name}"
  | .portsExhausted first last => s!"No available ports in range {first}-{last}"
  | .portTaken port => s!"Port {port} is already in use"
  | .startFailed cause => s!"Process failed to start: {cause.message}"
  | .badPayload cause => s!"Invalid launch payload: {cause.message}"
  | .noProcess what => s!"Process not found: {what.message}"
  | .store cause => s!"Database error: {cause.message}"
  | .denied what => s!"Permission denied: {what.message}"
  | .failedIo cause => s!"IO error: {cause.message}"
  | .badDocument => s!"JSON error: {malformedText}"

/-- Faults that call for help with the setup file. -/
def Fault.isAboutSetup : Fault → Bool
  | .noSetup .. | .badSetup .. | .unknownService .. | .noDefaultService .. => true
  | _ => false

end Overseer
