/-
Overseer.Main — the command line.

A thin layer around `Console.parse` and `Console.perform`: it reads the setup
files that a command can come to, has the command done, writes the setup files
that changed, prints and ends with the command's exit code. The store is a new
one, and no process is known to it or can be started; the platform is a stage
on which nothing happens.
-/
import Overseer.Console.Arguments
import Overseer.Console.Perform
import Overseer.Rehearsal.Stage

namespace Overseer.Main

open Console (Request Shell)
open Rehearsal (Stage)

/-- A stage on which others do nothing. -/
abbrev Quiet := Stage Empty

/-- The directories whose setup files a command can come to. -/
def directories (workingDirectory : Path) (request : Request) : List Path :=
  match request with
  | .addService new => workingDirectory.ancestors ++ [workingDirectory.absolute new.directory]
  | _ => workingDirectory.ancestors

/-- Adds a directory that is there, with its setup file if it has one. -/
def readDirectory (tree : FileTree) (directory : Path) : IO FileTree := do
  let here ← IO.currentDir
  unless ← (here / directory.text).isDir do return tree
  let tree := tree.withDirectory directory
  let file := Project.fileIn directory
  if ← (here / file.text).pathExists then
    let bytes ← IO.FS.readBinFile file.text
    return tree.withFile file (.ofOctets bytes.toList)
  return tree

/-- Writes the files of a tree that another one does not hold in that form. -/
def writeChanges (before after : FileTree) : IO Unit := do
  for (file, content) in after.files do
    if let .text text := content then
      unless before.files.contains (file, content) do IO.FS.writeFile file.text text

/-- What a command works on at first. -/
def shellOf (tree : FileTree) (stateDir : Path) (json : Bool) : Shell Quiet where
  world := ⟨.empty, 0, [], .bare tree⟩
  tree := tree
  stateDir := stateDir
  json := json
  colors := false
  out := ""
  err := ""

/-- Does what the words ask for and gives the exit code. -/
def run (words : List String) : IO UInt32 := do
  match Console.parse words with
  | .error refusal => return refusal.exitCode.toUInt32
  | .ok invocation =>
    let home := Home.userHome (← IO.getEnv "HOME")
    let stateDir := Home.stateDir home (← IO.getEnv Home.stateDirVariable)
    let wrapper := Home.wrapper (← IO.getEnv Home.wrapperVariable)
    let here : Path := ⟨(← IO.currentDir).toString⟩
    let before ← (directories here invocation.request).foldlM readDirectory (FileTree.ofRoot here)
    let command := Console.perform (Rehearsal.platform fun e => nomatch e) (.standard wrapper)
      invocation.request
    let (code, shell) := (Console.conclude command).run (shellOf before stateDir invocation.json)
    writeChanges before shell.tree
    IO.print shell.out
    IO.eprint shell.err
    return code.toUInt32

end Overseer.Main

/-- The program. -/
def main (words : List String) : IO UInt32 := Overseer.Main.run words
