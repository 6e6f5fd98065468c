/-
Overseer.Console.Terminal — what commands print, and what they work on.

A command prints for people or as documents. Text for people marks success,
failure and mere information by a sign in front; documents go to the standard
output, failures included. A command fails with a fault of an operation or with
words of its own.
-/
import Overseer.Report.Document
import Overseer.Report.Line
import Overseer.Store.Files

namespace Overseer.Console

open Json (Value)
open Report (Style)
open Supervisor (Act World)

/-- Why a command fails. -/
inductive Failure where
  | fault (f : Fault)
  | told (text : String)
deriving DecidableEq

/-- The failure in words. -/
def Failure.message : Failure → String
  | .fault f => f.message
  | .told text => text

/-- The failure calls for help with the setup file. -/
def Failure.isAboutSetup : Failure → Bool
  | .fault f => f.isAboutSetup
  | .told _ => false

/-- What commands work on: the supervisor's world, the files, the directory of
the store, and what was printed. -/
structure Shell (σ : Type) where
  world : World σ
  tree : FileTree
  stateDir : Path
  json : Bool
  colors : Bool
  out : String
  err : String

/-- What a command does. -/
abbrev Cmd (σ : Type) := ExceptT Failure (StateM (Shell σ))

variable {σ : Type}

/-- Fails in words. -/
def fail {α : Type} (text : String) : Cmd σ α := throw (.told text)

/-- Goes on with a result, or fails. -/
def orFail {α : Type} : Except Fault α → Cmd σ α
  | .ok a => pure a
  | .error f => throw (.fault f)

/-- Does something to the files, and goes on with the result or fails. -/
def onFiles {α : Type} (a : ExceptT Fault (StateM FileTree) α) : Cmd σ α := do
  let s ← get
  let (answer, tree) := a.run.run s.tree
  set { s with tree }
  orFail answer

/-- Opens the store, which is made if need be. -/
def openStore : Cmd σ Unit := do
  let shell ← get
  match Store.openIn shell.tree shell.stateDir with
  | .error cause => throw (.fault (.store cause))
  | .ok tree => set { shell with tree }

/-- Uses the store, which is open. -/
def useStore {α : Type} (act : Act σ α) : Cmd σ α := do
  let shell ← get
  let (r, world) := (ExceptT.run act).run shell.world
  set { shell with world }
  orFail r

/-- Opens the store and uses it. -/
def supervise {α : Type} (act : Act σ α) : Cmd σ α := do
  openStore
  useStore act

/-! ## 1. Printing -/

/-- Prints a line. -/
def say (line : String) : Cmd σ Unit := modify fun s => { s with out := s.out ++ line ++ "\n" }

/-- Prints a line to the error output. -/
def complain (line : String) : Cmd σ Unit := modify fun s => { s with err := s.err ++ line ++ "\n" }

/-- A sign in its style, and a message. -/
def signed (s : Shell σ) (style : Style) (sign message : String) : String :=
  style.paint s.colors sign ++ " " ++ message

/-- Tells of a success. -/
def praise (message : String) : Cmd σ Unit := do say (signed (← get) .green "✓" message)

/-- Tells of something. -/
def inform (message : String) : Cmd σ Unit := do say (signed (← get) .blue "ℹ" message)

/-- Tells of a failure that does not end the command. -/
def regret (message : String) : Cmd σ Unit := do complain (signed (← get) .red "✗" message)

/-- Prints a document. -/
def sayDocument (v : Value) : Cmd σ Unit := say v.pretty

/-- Prints a document, or does what prints for people. -/
def tell (v : Value) (text : Cmd σ Unit) : Cmd σ Unit := do
  if (← get).json then sayDocument v else text

/-- Tells of a success, with data. -/
def succeed (message : String) (data : Value) : Cmd σ Unit :=
  tell (.object [("success", .bool true), ("message", .text message), ("data", data)])
    (praise message)

/-- Prints lines of output, one document for each in documents. -/
def sayLines (rows : List LogRecord) : Cmd σ Unit := do
  let s ← get
  rows.forM fun r => say (if s.json then r.toJson.compact else Report.logLine s.colors r)

/-! ## 2. How a command ends -/

/-- Help with the setup file. -/
def setupHint : List String :=
  ["", s!"Define services in {setupFileName} next to your project, e.g.:",
   "  lantern add-service web \"npm run dev\" --default"]

/-- Tells of the failure that ends the command. -/
def lament (f : Failure) : Cmd σ Unit := do
  let s ← get
  if s.json then
    sayDocument (.object [("success", .bool false), ("message", .text f.message)])
  else
    complain (signed s .alarm "Error:" f.message)
    if f.isAboutSetup then setupHint.forM complain

/-- Does a command and gives its exit code. -/
def conclude (c : Cmd σ Unit) : StateM (Shell σ) Nat := do
  match ← ExceptT.run c with
  | .ok () => return 0
  | .error f =>
    let _ ← ExceptT.run (lament f)
    return 1

end Overseer.Console
