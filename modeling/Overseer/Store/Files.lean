/-
Overseer.Store.Files — the store on disk.

The store is one file in the state directory; while it is open two companions
lie beside it. Opening makes the directory and the file if they are missing and
leaves no companions behind; a file that is empty counts as a new store, and one
that holds anything else than a store is refused.
-/
import Overseer.FileTree
import Overseer.Home

namespace Overseer.Store

/-- What the file of a store holds. Its form is left open; it is no text. -/
def fileContent : FileContent := .octets [255]

/-- Makes the file of the store, or finds it. -/
def openFile (tree : FileTree) (file : Path) : Except StoreFault FileTree :=
  match tree.lookup file with
  | .ok (.vacant names) | .ok (.file names (.text "")) =>
    .ok (tree.put (FileTree.placeOf names) fileContent)
  | .ok (.file _ content) => if content = fileContent then .ok tree else .error .notStore
  | _ => .error .cannotOpen

/-- Takes a companion of the store out, if it is there. -/
def dropCompanion (tree : FileTree) (file : Path) : Except StoreFault FileTree :=
  match tree.lookup file with
  | .ok (.directory _) => .error .cannotOpen
  | .ok (.file names _) => .ok (tree.remove (FileTree.placeOf names))
  | _ => .ok tree

/-- Opens the store of a state directory and closes it again. -/
def openIn (tree : FileTree) (stateDir : Path) : Except StoreFault FileTree :=
  match tree.makeDirectories stateDir with
  | .error e => .error (.noDirectory e)
  | .ok tree => do
    let tree ← openFile tree (Home.storeFile stateDir)
    (Home.storeFiles stateDir).tail.foldlM dropCompanion tree

/-- Folds the store into its one file, if what was written last still lies beside it. -/
def fold (tree : FileTree) (stateDir : Path) : FileTree :=
  if tree.exists? (Home.storeLog stateDir) then (openIn tree stateDir).toOption.getD tree else tree

/-- Deletes the files of the store, as far as they are there. Gives the names of
those that were deleted and what is left, and why a file could not be deleted. -/
def erase (tree : FileTree) : List Path → List Path × FileTree × Option OsError
  | [] => ([], tree, none)
  | file :: rest =>
    if !tree.exists? file then erase tree rest
    else match tree.delete file with
      | .error e => ([], tree, some e)
      | .ok tree =>
        let (erased, tree, failed) := erase tree rest
        (file :: erased, tree, failed)

end Overseer.Store
