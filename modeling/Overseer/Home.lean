/-
Overseer.Home — where the program keeps its files.

The state directory is named by an environment variable; when that is unset or
empty it is a hidden directory in the user's home. The store's file has two
companions, which the store leaves behind while it is open.
-/
import Overseer.Path

namespace Overseer.Home

/-- The variable that names the state directory. -/
def stateDirVariable : String := "LANTERN_STATE_DIR"

/-- The variable that names the wrapper program. -/
def wrapperVariable : String := "LANTERN_WRAPPER_BIN"

/-- The variable that has wrappers write diagnostics to a file. -/
def logVariable : String := "LANTERN_ENABLE_LOGS"

/-- The wrapper program when no variable names one. -/
def wrapperProgram : Path := ⟨"lantern-wrapper"⟩

/-- The name of the state directory in the user's home. -/
def stateDirName : Path := ⟨".lantern"⟩

/-- The name of the store's file. -/
def storeFileName : Path := ⟨"lantern.db"⟩

/-- The name of the file to which wrappers write diagnostics. -/
def wrapperLogName : Path := ⟨"wrapper.log"⟩

/-- The value of a variable; an empty one counts as unset. -/
def setting (value? : Option String) : Option String := value?.filter fun v => !v.isEmpty

/-- The home of the account that administers the machine. -/
def accountHome : Path := ⟨"/root"⟩

/-- The user's home: a variable names it, or else it is the account's. -/
def userHome (given? : Option String) : Path := ((setting given?).map Path.mk).getD accountHome

/-- The state directory. -/
def stateDir (home : Path) (given? : Option String) : Path :=
  match setting given? with
  | some dir => ⟨dir⟩
  | none => home.join stateDirName

/-- The store's file. -/
def storeFile (stateDir : Path) : Path := stateDir.join storeFileName

/-- The companion that holds what was written last. -/
def storeLog (stateDir : Path) : Path := ⟨(storeFile stateDir).text ++ "-wal"⟩

/-- The companion that those who have the store open share. -/
def storeShare (stateDir : Path) : Path := ⟨(storeFile stateDir).text ++ "-shm"⟩

/-- The store's file and its companions. -/
def storeFiles (stateDir : Path) : List Path :=
  [storeFile stateDir, storeLog stateDir, storeShare stateDir]

/-- The file to which wrappers write diagnostics. -/
def wrapperLog (stateDir : Path) : Path := stateDir.join wrapperLogName

/-- Wrappers write diagnostics to the file, and not to their error output. -/
def logsToFile (given? : Option String) : Bool := (setting given?).isSome

/-- The wrapper program, if none lies beside the running one. -/
def wrapper (given? : Option String) : Path :=
  match setting given? with
  | some program => ⟨program⟩
  | none => wrapperProgram

end Overseer.Home
