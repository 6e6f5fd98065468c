/-
Overseer.Process.Tree — the descendants of a process.

Descendants are collected breadth first: the children of the root, then their
children, and so on, each process once however often it is named. The search
ends because every process it goes on from is new, and only processes that
some list of children names can be new.
-/

namespace Overseer.Process

/-- The children of each process, as far as they are known. -/
abbrev Children := List (Nat × List Nat)

/-- The children of a process. -/
def childrenOf (table : Children) (pid : Nat) : List Nat :=
  ((table.find? (·.1 == pid)).map (·.2)).getD []

/-- Adds the pids that were not seen yet to those seen, and gives the new ones. -/
def takeNew (seen : List Nat) : List Nat → List Nat × List Nat
  | [] => (seen, [])
  | pid :: rest =>
    if seen.contains pid then takeNew seen rest
    else
      let (seen, fresh) := takeNew (seen ++ [pid]) rest
      (seen, pid :: fresh)

/-- Goes on from the queue, for at most `fuel` processes. -/
def search (table : Children) : Nat → List Nat → List Nat → List Nat
  | 0, _, _ => []
  | _ + 1, _, [] => []
  | fuel + 1, seen, pid :: queue =>
    let (seen, fresh) := takeNew seen (childrenOf table pid)
    fresh ++ search table fuel seen (queue ++ fresh)

/-- How many processes a search can come to: the root and every child that is named. -/
def searchBound (table : Children) : Nat := 1 + (table.flatMap (·.2)).length

/-- The descendants of a process, nearest first. -/
def descendants (table : Children) (root : Nat) : List Nat :=
  search table (searchBound table) [root] [root]

example : descendants [(1, [2, 3]), (2, [4, 1]), (3, [4])] 1 = [2, 3, 4] := by decide

end Overseer.Process
