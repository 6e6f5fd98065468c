/-
Overseer.Proofs.Process.Descent — which processes a tree has, and in what order they
are signalled.

`Descends` counts the steps from the root to a process along some line of descent, and
`generation` is the least number of them. The search for descendants is given enough
steps, whatever the table holds: it stops because its queue is empty (`searches_search`),
since every process in the queue was new and the table names only so many.

The invariant of the search is `Frontier`: what it has gone through and what it still has
queued come by generation, and all children of what it has gone through are among them.
Nothing that is still missing can therefore be nearer than what is queued
(`Frontier.behind`), so a process found next is exactly one generation behind the one it
is a child of (`Frontier.next`). At the end all descendants have been found, each once, the
nearest first (`explores_descendants`).

`killTree_signals` is what this means for the signals to a tree. With one parent to each
process, children are signalled before their parents, except that the root is always the
last: on a cycle it is a child as well, of a process signalled before it.
-/
import Mathlib.Data.Finset.Card
import Mathlib.Order.Lattice.Nat
import Overseer.Proofs.Process.Addressing

namespace Overseer.Process

/-! ## 1. Lines of descent -/

/-- A line of descent of this many steps leads from the root to the process. -/
inductive Descends (table : Children) (root : Nat) : Nat → Nat → Prop where
  | root : Descends table root 0 root
  | child {steps parent pid : Nat} (above : Descends table root steps parent)
      (hchild : pid ∈ childrenOf table parent) : Descends table root (steps + 1) pid

/-- The process is the root or descends from it. -/
def Belongs (table : Children) (root pid : Nat) : Prop := ∃ steps, Descends table root steps pid

/-- How far the process is from the root, along the shortest line of descent. -/
noncomputable def generation (table : Children) (root pid : Nat) : Nat :=
  sInf {steps | Descends table root steps pid}

variable {table : Children} {root pid : Nat}

theorem belongs_root (table : Children) (root : Nat) : Belongs table root root := ⟨0, .root⟩

theorem Belongs.child {parent : Nat} (h : Belongs table root parent)
    (hchild : pid ∈ childrenOf table parent) : Belongs table root pid :=
  h.imp' (· + 1) fun _ above => above.child hchild

theorem Belongs.descends (h : Belongs table root pid) :
    Descends table root (generation table root pid) pid :=
  Nat.sInf_mem h

theorem Descends.generation_le {steps : Nat} (h : Descends table root steps pid) :
    generation table root pid ≤ steps :=
  Nat.sInf_le h

theorem Belongs.generation_child_le {parent : Nat} (h : Belongs table root parent)
    (hchild : pid ∈ childrenOf table parent) :
    generation table root pid ≤ generation table root parent + 1 :=
  (h.descends.child hchild).generation_le

/-- Whoever has one parent only is one generation behind it. -/
theorem Belongs.generation_parent {parent : Nat} (h : Belongs table root pid) (hroot : pid ≠ root)
    (honly : ∀ other, pid ∈ childrenOf table other → other = parent) :
    generation table root parent < generation table root pid := by
  generalize hsteps : generation table root pid = steps
  cases hsteps ▸ h.descends with
  | root => exact absurd rfl hroot
  | child above hchild => exact Nat.lt_succ_of_le (honly _ hchild ▸ above.generation_le)

/-! ## 2. New processes -/

theorem takeNew_fst (seen pids : List Nat) :
    (takeNew seen pids).1 = seen ++ (takeNew seen pids).2 := by
  induction pids generalizing seen with
  | nil => exact (List.append_nil seen).symm
  | cons pid pids ih =>
    rw [takeNew]
    split
    · exact ih seen
    · rw [ih (seen ++ [pid]), List.append_assoc, List.singleton_append]

theorem nodup_takeNew (seen pids : List Nat) : (takeNew seen pids).2.Nodup := by
  induction pids generalizing seen with
  | nil => exact List.nodup_nil
  | cons first pids ih =>
    rw [takeNew]
    split
    · exact ih seen
    · refine List.nodup_cons.mpr ⟨fun hmem => ?_, ih _⟩
      exact (mem_takeNew_iff.mp hmem).2 (List.mem_append_right seen List.mem_cons_self)

/-! ## 3. The search -/

/-- From the processes seen and those still queued, the search finds these and stops with
an empty queue. -/
inductive Searches (table : Children) : List Nat → List Nat → List Nat → Prop where
  | stop (seen : List Nat) : Searches table seen [] []
  | next {seen queue found : List Nat} {pid : Nat}
      (rest : Searches table (takeNew seen (childrenOf table pid)).1
        (queue ++ (takeNew seen (childrenOf table pid)).2) found) :
      Searches table seen (pid :: queue) ((takeNew seen (childrenOf table pid)).2 ++ found)

/-- The processes that the table names as children of some process. -/
def named (table : Children) : Finset Nat := (table.flatMap (·.2)).toFinset

/-- Those that are found leave so many fewer to find. -/
theorem card_unseen (table : Children) (seen : List Nat) (pid : Nat) :
    let fresh := (takeNew seen (childrenOf table pid)).2
    fresh.length + (named table \ (seen ++ fresh).toFinset).card
      = (named table \ seen.toFinset).card := by
  intro fresh
  have hsub : fresh.toFinset ⊆ named table \ seen.toFinset := by
    intro child hchild
    obtain ⟨hin, hnew⟩ := mem_takeNew_iff.mp (List.mem_toFinset.mp hchild)
    obtain ⟨row, hrow, hrowin⟩ := named_of_childrenOf hin
    rw [Finset.mem_sdiff, named, List.mem_toFinset, List.mem_toFinset]
    exact ⟨List.mem_flatMap.mpr ⟨row, hrow, hrowin⟩, hnew⟩
  have hlength : fresh.toFinset.card = fresh.length :=
    List.toFinset_card_of_nodup (nodup_takeNew seen _)
  have hrest : named table \ (seen ++ fresh).toFinset
      = (named table \ seen.toFinset) \ fresh.toFinset := by
    rw [List.toFinset_append]
    exact sdiff_sdiff_left.symm
  rw [hrest, ← hlength, Finset.card_sdiff_of_subset hsub]
  exact Nat.add_sub_cancel' (Finset.card_le_card hsub)

/-- Enough steps are one for each process in the queue and each that may still come. -/
theorem searches_search {fuel : Nat} {seen queue : List Nat}
    (h : queue.length + (named table \ seen.toFinset).card ≤ fuel) :
    Searches table seen queue (search table fuel seen queue) := by
  induction fuel generalizing seen queue with
  | zero =>
    obtain rfl : queue = [] := List.length_eq_zero_iff.mp (by omega)
    exact .stop seen
  | succ fuel ih =>
    cases queue with
    | nil => exact .stop seen
    | cons pid queue =>
      refine .next (ih ?_)
      have hcard := card_unseen table seen pid
      rw [takeNew_fst, List.length_append]
      rw [List.length_cons] at h
      omega

theorem searches_descendants (table : Children) (root : Nat) :
    Searches table [root] [root] (descendants table root) := by
  refine searches_search ?_
  have hcard : (named table \ [root].toFinset).card ≤ (table.flatMap (·.2)).length :=
    (Finset.card_le_card Finset.sdiff_subset).trans (List.toFinset_card_le _)
  rw [searchBound, List.length_singleton]
  omega

/-! ## 4. What the search keeps -/

/-- What the search has gone through, and what it has queued. -/
structure Frontier (table : Children) (root : Nat) (past queue : List Nat) : Prop where
  root_mem : root ∈ past ++ queue
  nodup : (past ++ queue).Nodup
  belongs : ∀ pid ∈ past ++ queue, Belongs table root pid
  closed : ∀ parent ∈ past, ∀ pid ∈ childrenOf table parent, pid ∈ past ++ queue
  ordered : (past ++ queue).Pairwise fun p q => generation table root p ≤ generation table root q
  /-- The queue reaches over two generations at most. -/
  narrow : queue.Pairwise fun p q => generation table root q ≤ generation table root p + 1

theorem frontier_root (table : Children) (root : Nat) : Frontier table root [] [root] where
  root_mem := List.mem_singleton_self root
  nodup := List.nodup_singleton root
  belongs := by
    intro pid hpid
    obtain rfl := List.mem_singleton.mp hpid
    exact belongs_root table pid
  closed := fun _ h => absurd h List.not_mem_nil
  ordered := List.pairwise_singleton _ root
  narrow := List.pairwise_singleton _ root

namespace Frontier

variable {past queue found : List Nat}

/-- Every line of descent to a process that is still missing passes through the queue. -/
theorem behind (h : Frontier table root past queue) {steps : Nat}
    (hline : Descends table root steps pid) (hmissing : pid ∉ past ++ queue) :
    ∃ q ∈ queue, generation table root q + 1 ≤ steps := by
  induction hline with
  | root => exact absurd h.root_mem hmissing
  | @child steps parent pid above hchild ih =>
    by_cases hparent : parent ∈ past ++ queue
    · have hqueued : parent ∈ queue := (List.mem_append.mp hparent).resolve_left fun hpast =>
        hmissing (h.closed parent hpast pid hchild)
      exact ⟨parent, hqueued, Nat.succ_le_succ above.generation_le⟩
    · obtain ⟨q, hq, hle⟩ := ih hparent
      exact ⟨q, hq, hle.trans (Nat.le_succ steps)⟩

/-- A new child of the first process in the queue is one generation behind it. -/
theorem generation_new {first : Nat} (h : Frontier table root past (first :: queue))
    (hchild : pid ∈ childrenOf table first) (hnew : pid ∉ past ++ first :: queue) :
    generation table root pid = generation table root first + 1 := by
  have hfirst : Belongs table root first :=
    h.belongs first (List.mem_append_right past List.mem_cons_self)
  obtain ⟨q, hq, hle⟩ := h.behind (hfirst.child hchild).descends hnew
  have hnearest : generation table root first ≤ generation table root q := by
    rcases List.mem_cons.mp hq with rfl | hq
    · exact le_rfl
    · exact (List.pairwise_cons.mp (List.pairwise_append.mp h.ordered).2.1).1 q hq
  exact le_antisymm (hfirst.generation_child_le hchild)
    ((Nat.succ_le_succ hnearest).trans hle)

/-- One step keeps the frontier. -/
theorem next {first : Nat} (h : Frontier table root past (first :: queue)) :
    Frontier table root (past ++ [first])
      (queue ++ (takeNew (past ++ first :: queue) (childrenOf table first)).2) := by
  generalize hfresh : (takeNew (past ++ first :: queue) (childrenOf table first)).2 = fresh
  have hall : past ++ [first] ++ (queue ++ fresh) = past ++ first :: queue ++ fresh := by simp
  have hnew : ∀ pid, pid ∈ fresh ↔ pid ∈ childrenOf table first ∧ pid ∉ past ++ first :: queue :=
    fun pid => hfresh ▸ mem_takeNew_iff
  have hgeneration : ∀ pid ∈ fresh,
      generation table root pid = generation table root first + 1 := fun pid hpid =>
    h.generation_new ((hnew pid).mp hpid).1 ((hnew pid).mp hpid).2
  obtain ⟨hpast, hqueue, hacross⟩ := List.pairwise_append.mp h.ordered
  have hbehind := (List.pairwise_cons.mp hqueue).1
  have hnear := (List.pairwise_cons.mp h.narrow).1
  constructor
  case root_mem => exact hall ▸ List.mem_append_left fresh h.root_mem
  case nodup =>
    rw [hall]
    refine List.Nodup.append h.nodup (hfresh ▸ nodup_takeNew _ _) fun pid hold hpid => ?_
    exact ((hnew pid).mp hpid).2 hold
  case belongs =>
    rw [hall]
    intro pid hpid
    rcases List.mem_append.mp hpid with hold | hpid
    · exact h.belongs pid hold
    · have hfirst := h.belongs first (List.mem_append_right past List.mem_cons_self)
      exact hfirst.child ((hnew pid).mp hpid).1
  case closed =>
    rw [hall]
    intro parent hparent pid hchild
    by_cases hold : pid ∈ past ++ first :: queue
    · exact List.mem_append_left fresh hold
    · rcases List.mem_append.mp hparent with hparent | hparent
      · exact absurd (h.closed parent hparent pid hchild) hold
      · obtain rfl := List.mem_singleton.mp hparent
        exact List.mem_append_right _ ((hnew pid).mpr ⟨hchild, hold⟩)
  case ordered =>
    rw [hall]
    refine List.pairwise_append.mpr ⟨h.ordered, ?_, fun p hp q hq => ?_⟩
    · exact List.pairwise_of_forall_mem_list fun p hp q hq =>
        ((hgeneration p hp).trans (hgeneration q hq).symm).le
    · rw [hgeneration q hq]
      rcases List.mem_append.mp hp with hp | hp
      · exact (hacross p hp first List.mem_cons_self).trans (Nat.le_succ _)
      · rcases List.mem_cons.mp hp with rfl | hp
        · exact Nat.le_succ _
        · exact hnear p hp
  case narrow =>
    refine List.pairwise_append.mpr ⟨(List.pairwise_cons.mp h.narrow).2, ?_, fun p hp q hq => ?_⟩
    · exact List.pairwise_of_forall_mem_list fun p hp q hq =>
        ((hgeneration q hq).trans (hgeneration p hp).symm).le.trans (Nat.le_succ _)
    · rw [hgeneration q hq]
      exact Nat.succ_le_succ (hbehind p hp)

/-- So the whole search keeps it. -/
theorem run (h : Frontier table root past queue)
    (hrun : Searches table (past ++ queue) queue found) :
    Frontier table root (past ++ queue ++ found) [] := by
  generalize hseen : past ++ queue = seen at hrun
  induction hrun generalizing past with
  | stop seen =>
    obtain rfl : past = seen := by rw [← hseen, List.append_nil]
    simpa only [List.append_nil] using h
  | @next seen queue found pid _ ih =>
    subst hseen
    have hnext := ih h.next (by rw [takeNew_fst]; simp)
    rw [takeNew_fst, List.append_assoc] at hnext
    exact hnext

end Frontier

/-- What a search that finds these processes has done. -/
structure Explores (table : Children) (root : Nat) (found : List Nat) : Prop where
  stops : Searches table [root] [root] found
  nodup : found.Nodup
  mem_iff : ∀ pid, pid ∈ found ↔ pid ≠ root ∧ Belongs table root pid
  ordered : found.Pairwise fun p q => generation table root p ≤ generation table root q

/-- **The descendants of a process**, whatever the table holds: the search for them stops,
and it finds each of them once and nothing else, the nearest first. -/
theorem explores_descendants (table : Children) (root : Nat) :
    Explores table root (descendants table root) := by
  have hstops := searches_descendants table root
  have hend : Frontier table root (root :: descendants table root) [] :=
    (frontier_root table root).run hstops
  have hnodup : (root :: descendants table root).Nodup := by
    simpa only [List.append_nil] using hend.nodup
  refine ⟨hstops, hnodup.of_cons, fun pid => ⟨fun hpid => ⟨?_, ?_⟩, ?_⟩, ?_⟩
  · rintro rfl
    exact (List.nodup_cons.mp hnodup).1 hpid
  · exact hend.belongs pid (by simp [hpid])
  · rintro ⟨hroot, steps, hline⟩
    by_contra hmissing
    obtain ⟨q, hq, -⟩ := hend.behind hline (by simp [hroot, hmissing])
    cases hq
  · have hordered := hend.ordered
    rw [List.append_nil] at hordered
    exact (List.pairwise_cons.mp hordered).2

/-! ## 5. Signals to a tree -/

/-- The processes of a tree that are signalled, in order. -/
def signalOrder (table : Children) (root : Nat) : List Nat :=
  ((descendants table root).reverse ++ [root]).filter fun pid => pid ≠ 0

/-- No process is a child of two others. -/
def HasOneParent (table : Children) : Prop :=
  ∀ pid p q, pid ∈ childrenOf table p → pid ∈ childrenOf table q → p = q

/-- It is so if nobody is named twice. -/
theorem hasOneParent_of_nodup (h : (table.flatMap (·.2)).Nodup) : HasOneParent table := by
  intro pid p q hp hq
  obtain ⟨row, hrow, rfl, hin⟩ := row_of_childrenOf hp
  obtain ⟨other, hother, rfl, hin'⟩ := row_of_childrenOf hq
  have hapart : table.Pairwise fun r r' => r.2.Disjoint r'.2 := (List.nodup_flatMap.mp h).2
  have hsymm : Std.Symm fun r r' : Nat × List Nat => r.2.Disjoint r'.2 := ⟨fun _ _ hd => hd.symm⟩
  by_contra hne
  exact hapart.forall hrow hother (fun heq => hne (congrArg (·.1) heq)) hin hin'

theorem mem_signalOrder_iff : pid ∈ signalOrder table root ↔ pid ≠ 0 ∧ Belongs table root pid := by
  have hmem := (explores_descendants table root).mem_iff pid
  simp only [signalOrder, List.mem_filter, List.mem_append, List.mem_reverse,
    List.mem_singleton, decide_eq_true_eq, hmem, and_comm (b := pid ≠ 0)]
  refine and_congr_right fun _ => ⟨?_, fun h => ?_⟩
  · rintro (⟨-, h⟩ | rfl)
    · exact h
    · exact belongs_root table pid
  · exact (Classical.em (pid = root)).symm.imp_left fun hroot => ⟨hroot, h⟩

theorem nodup_signalOrder (table : Children) (root : Nat) : (signalOrder table root).Nodup := by
  have h := explores_descendants table root
  refine List.Nodup.filter _ (List.Nodup.append (List.nodup_reverse.mpr h.nodup)
    (List.nodup_singleton root) fun pid hpid hroot => ?_)
  exact ((h.mem_iff pid).mp (List.mem_reverse.mp hpid)).1 (List.mem_singleton.mp hroot)

/-- What is ordered by a number has one of a smaller number before one of a greater. -/
theorem sublist_of_lt {f : Nat → Nat} {l : List Nat} (h : l.Pairwise fun p q => f p ≤ f q)
    {p q : Nat} (hp : p ∈ l) (hq : q ∈ l) (hlt : f p < f q) : [p, q].Sublist l := by
  obtain ⟨before, behind, rfl⟩ := List.append_of_mem hq
  obtain ⟨-, hrest, -⟩ := List.pairwise_append.mp h
  have hbefore : p ∈ before := by
    refine (List.mem_append.mp hp).resolve_right fun hp => ?_
    rcases List.mem_cons.mp hp with rfl | hp
    · exact lt_irrefl _ hlt
    · exact (Nat.not_le_of_lt hlt) ((List.pairwise_cons.mp hrest).1 p hp)
  exact (List.singleton_sublist.mpr hbefore).append
    (List.singleton_sublist.mpr List.mem_cons_self)

/-- With one parent to each, a child is signalled before its parent unless it is the root. -/
theorem sublist_signalOrder (hone : HasOneParent table) {parent : Nat}
    (hparent : Belongs table root parent) (hchild : pid ∈ childrenOf table parent)
    (hroot : pid ≠ root) (hpid : pid ≠ 0) (hzero : parent ≠ 0) :
    [pid, parent].Sublist (signalOrder table root) := by
  have h := explores_descendants table root
  have hordered : (root :: descendants table root).Pairwise fun p q =>
      generation table root p ≤ generation table root q :=
    List.pairwise_cons.mpr
      ⟨fun q _ => Descends.root.generation_le.trans (Nat.zero_le _), h.ordered⟩
  have hin : ∀ q, Belongs table root q → q ∈ root :: descendants table root := fun q hq =>
    List.mem_cons.mpr ((Classical.em (q = root)).imp_right fun hne => (h.mem_iff q).mpr ⟨hne, hq⟩)
  have hbelongs := hparent.child hchild
  have hlt := hbelongs.generation_parent hroot fun other hother =>
    hone pid other parent hother hchild
  have hreverse : [pid, parent].Sublist ((descendants table root).reverse ++ [root]) := by
    rw [← List.reverse_cons]
    exact (sublist_of_lt hordered (hin parent hparent) (hin pid hbelongs) hlt).reverse
  have hkept : [pid, parent].filter (fun q => q ≠ 0) = [pid, parent] := by simp [hpid, hzero]
  rw [← hkept]
  exact hreverse.filter fun q => q ≠ 0

theorem flatMap_callsFor (s : Option Signal) (pids : List Nat) :
    pids.flatMap (callsFor s)
      = (pids.filter fun pid => pid ≠ 0).map fun pid => ⟨signedPid pid, s⟩ := by
  induction pids with
  | nil => rfl
  | cons pid pids ih =>
    by_cases hpid : pid = 0 <;> simp [callsFor, hpid, ih]

theorem signedPid_injOn {p q : Nat} (hp : IsUnsigned p) (hq : IsUnsigned q)
    (h : signedPid p = signedPid q) : p = q := by
  simp only [IsUnsigned, Word.greatestUnsigned, Word.size_32] at hp hq
  simp only [signedPid, Word.wrap, Word.size_32, Int.bmod_def] at h
  split at h <;> split at h <;> omega

theorem Belongs.isUnsigned (h : Belongs table root pid) (hroot : IsUnsigned root)
    (htable : ∀ row ∈ table, ∀ child ∈ row.2, IsUnsigned child) : IsUnsigned pid := by
  obtain ⟨steps, hline⟩ := h
  cases hline with
  | root => exact hroot
  | child _ hchild =>
    obtain ⟨row, hrow, hin⟩ := named_of_childrenOf hchild
    exact htable row hrow pid hin

variable {κ : Type}

/-- **The signals to a tree.** The descendants of its root are each found once and nothing
else, the nearest first. All processes of the tree but pid 0 are signalled, each by one call
and by one of its own, the farthest first; nobody is if the root has pid 0. If no process has
two parents, all but the root are signalled before their parents. -/
theorem killTree_signals (k : Kernel κ) (st : κ) (s : Signal) {root : Nat}
    (hroot : IsUnsigned root)
    (htable : ∀ row ∈ (k.children st).1, ∀ child ∈ row.2, IsUnsigned child) :
    let table := (k.children st).1
    let order := signalOrder table root
    let calls := callsOf (k.noting.killTree root s).run st
    Explores table root (descendants table root)
      ∧ calls = (if root = 0 then [] else order.map fun pid => ⟨signedPid pid, some s⟩)
      ∧ calls.Nodup
      ∧ order.Nodup
      ∧ (∀ pid, pid ∈ order ↔ pid ≠ 0 ∧ Belongs table root pid)
      ∧ (HasOneParent table → ∀ parent pid, Belongs table root parent →
          pid ∈ childrenOf table parent → pid ≠ root → pid ≠ 0 → parent ≠ 0 →
          [pid, parent].Sublist order) := by
  intro table order calls
  have hcalls : calls = if root = 0 then [] else
      order.map fun pid => ⟨signedPid pid, some s⟩ :=
    (k.makes_killTree root s st).callsOf.trans (by rw [flatMap_callsFor]; rfl)
  refine ⟨explores_descendants table root, hcalls, ?_, nodup_signalOrder table root,
    fun pid => mem_signalOrder_iff, fun hone parent pid => sublist_signalOrder hone⟩
  rw [hcalls]
  split
  · exact List.nodup_nil
  · refine (nodup_signalOrder table root).map_on fun p hp q hq heq => ?_
    exact signedPid_injOn ((mem_signalOrder_iff.mp hp).2.isUnsigned hroot htable)
      ((mem_signalOrder_iff.mp hq).2.isUnsigned hroot htable) (Call.mk.inj heq).1

/-- Two processes that share a child, which is a parent of the root again, and a tree in which
everyone has one parent. -/
theorem killTree_signals_shared :
    let k (table : Children) : Kernel Rehearsal.CallTable :=
      { Rehearsal.CallTable.kernel with children := pure table }
    let st : Rehearsal.CallTable := ⟨[(10, .mortal), (40, .stubborn)], []⟩
    let shared : Children := [(10, [20, 30, 20]), (20, [40]), (30, [40, 0]), (40, [10])]
    let apart : Children := [(10, [20, 30]), (30, [40])]
    IsUnsigned 10 ∧ (∀ row ∈ shared ++ apart, ∀ child ∈ row.2, IsUnsigned child)
      ∧ Explores shared 10 [20, 30, 40, 0]
      ∧ (callsOf ((k shared).noting.killTree 10 .term).run st).map (·.pid) = [40, 30, 20, 10]
      ∧ HasOneParent apart ∧ [40, 30].Sublist (signalOrder apart 10) := by
  intro k st shared apart
  have hroot : IsUnsigned 10 := by unfold IsUnsigned; decide
  have htables : ∀ row ∈ shared ++ apart, ∀ child ∈ row.2, IsUnsigned child := by
    unfold IsUnsigned
    decide
  obtain ⟨hexplores, hcalls, -⟩ := killTree_signals (k shared) st .term hroot
    fun row hrow => htables row (List.mem_append_left _ hrow)
  obtain ⟨-, -, -, -, -, hordered⟩ := killTree_signals (k apart) st .term hroot
    fun row hrow => htables row (List.mem_append_right _ hrow)
  have hone : HasOneParent apart := hasOneParent_of_nodup (by decide)
  have hparent : Belongs apart 10 30 := (belongs_root apart 10).child (by decide)
  refine ⟨hroot, htables, hexplores, by rw [hcalls]; rfl, hone, ?_⟩
  exact hordered hone 30 40 hparent (by decide) (by decide) (by decide) (by decide)

/-- Two processes that are each the parent of the other, so that the root is signalled after
its parent, and a root with pid 0, which is not signalled. -/
theorem root_signalled_last_or_never :
    let k : Kernel Rehearsal.CallTable := { Rehearsal.CallTable.kernel with
      children := pure [(1, [2]), (2, [1])] }
    let st : Rehearsal.CallTable := ⟨[(0, .mortal), (1, .mortal), (2, .mortal)], []⟩
    let table := (k.children st).1
    HasOneParent table ∧ Belongs table 1 2 ∧ 1 ∈ childrenOf table 2
      ∧ callsOf (k.noting.killTree 1 .term).run st = [⟨2, some .term⟩, ⟨1, some .term⟩]
      ∧ Belongs table 0 0 ∧ callsOf (k.noting.killTree 0 .term).run st = [] := by
  intro k st table
  exact ⟨hasOneParent_of_nodup (by decide), (belongs_root table 1).child (by decide), by decide,
    rfl, belongs_root table 0, rfl⟩

end Overseer.Process
