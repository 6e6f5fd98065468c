/-
Overseer.Proofs.Process.Addressing — whom a signal can reach.

The system call takes a pid with sign: a positive one names one process, 0 and every
negative one name a whole group or all there are. `noting` is the system with every
such call noted and nothing else changed, so that the calls of an operation are a
list, and there is one law for the list of each operation: pid 0 is left out, and
every other pid is handed on in its signed form.

`reaches_single_iff` says what follows. No call is ever made with pid 0, and every call
names a single process exactly if every pid asked for, descendants included, fits the
system's pids. The condition is not met by every number of 32 bits: the greatest of
them is handed on as -1, which is every process (`reaches_everyone`).
-/
import Overseer.Process.Control
import Overseer.Rehearsal.Calls

namespace Overseer.Process

/-! ## 1. The calls of an operation -/

/-- A call of the system: the pid that it was given, and the signal if it does not only ask. -/
structure Call where
  pid : Int
  signal : Option Signal
deriving DecidableEq, Repr

variable {κ α : Type}

/-- The same action while calls are noted by others. -/
def besides (act : StateM κ α) : StateM (κ × List Call) α := fun w =>
  let (a, st) := act w.1
  (a, st, w.2)

/-- The system with every call noted, in order. -/
def Kernel.noting (k : Kernel κ) : Kernel (κ × List Call) where
  kill pid s := do
    modify fun w => (w.1, w.2 ++ [⟨pid, s⟩])
    besides (k.kill pid s)
  isZombie pid := besides (k.isZombie pid)
  children := besides k.children

/-- The action does what the other one does, and makes these calls meanwhile, whatever calls
were made before. -/
def Makes (act : StateM (κ × List Call) α) (plain : StateM κ α) (st : κ) (calls : List Call) :
    Prop :=
  ∀ done, act (st, done) = ((plain st).1, (plain st).2, done ++ calls)

/-- How a process is called; the one with pid 0 is not. -/
def callsFor (s : Option Signal) (pid : Nat) : List Call :=
  if pid = 0 then [] else [⟨signedPid pid, s⟩]

theorem makes_pure (a : α) (st : κ) : Makes (pure a) (pure a) st [] := fun done =>
  congrArg (fun calls => (a, st, calls)) (List.append_nil done).symm

theorem makes_besides (act : StateM κ α) (st : κ) : Makes (besides act) act st [] := fun done =>
  congrArg (fun calls => ((act st).1, (act st).2, calls)) (List.append_nil done).symm

variable {β : Type} {act : StateM (κ × List Call) α} {plain : StateM κ α} {st : κ}
  {calls calls' : List Call}

theorem Makes.bind {next : α → StateM (κ × List Call) β} {plainNext : α → StateM κ β}
    (h : Makes act plain st calls)
    (hnext : Makes (next (plain st).1) (plainNext (plain st).1) (plain st).2 calls') :
    Makes (act >>= next) (plain >>= plainNext) st (calls ++ calls') := by
  intro done
  have hact : (act >>= next) (st, done) = next (act (st, done)).1 (act (st, done)).2 := rfl
  rw [hact, h done, hnext, List.append_assoc]
  rfl

/-- So it is for an action that cannot fail before one that can. -/
theorem Makes.lift {next : α → ExceptT Fault (StateM (κ × List Call)) β}
    {plainNext : α → ExceptT Fault (StateM κ) β} (h : Makes act plain st calls)
    (hnext : Makes (next (plain st).1).run (plainNext (plain st).1).run (plain st).2 calls') :
    Makes (liftM act >>= next : ExceptT Fault (StateM (κ × List Call)) β).run
      (liftM plain >>= plainNext : ExceptT Fault (StateM κ) β).run st (calls ++ calls') :=
  fun done => h.bind hnext done

namespace Kernel

variable (k : Kernel κ)

theorem makes_kill (pid : Int) (s : Option Signal) (st : κ) :
    Makes (k.noting.kill pid s) (k.kill pid s) st [⟨pid, s⟩] := fun _ => rfl

/-- Whoever is asked is asked once, unless by pid 0. -/
theorem makes_isAlive (pid : Nat) (st : κ) :
    Makes (k.noting.isAlive pid) (k.isAlive pid) st (callsFor none pid) := by
  by_cases hpid : pid = 0
  · simp only [isAlive, callsFor, if_pos hpid]
    exact makes_pure false st
  · have hzombie : ∀ st', Makes (do return !(← k.noting.isZombie pid))
        (do return !(← k.isZombie pid)) st' [] := fun st' =>
      (makes_besides (k.isZombie pid) st').bind (makes_pure _ _)
    simp only [isAlive, callsFor, if_neg hpid]
    rw [← List.append_nil [_]]
    refine (k.makes_kill _ _ st).bind ?_
    rcases (k.kill (signedPid pid) none st).1 with (_ | _ | _) | _
    · exact makes_pure false _
    · exact hzombie _
    · exact makes_pure false _
    · exact hzombie _

/-- Whoever is signalled is called once, unless by pid 0. -/
theorem makes_signal (pid : Nat) (s : Signal) (st : κ) :
    Makes (k.noting.signal pid s).run (k.signal pid s).run st (callsFor (some s) pid) := by
  by_cases hpid : pid = 0
  · simp only [signal, callsFor, if_pos hpid]
    exact makes_pure (Except.ok false) st
  · simp only [signal, callsFor, if_neg hpid]
    rw [← List.append_nil [_]]
    refine (k.makes_kill (signedPid pid) (some s) st).lift ?_
    rcases (k.kill (signedPid pid) (some s) st).1 with (_ | _ | _) | _
    · exact makes_pure (Except.ok false) _
    · exact makes_pure (Except.error _) _
    · exact makes_pure (Except.error _) _
    · exact makes_pure (Except.ok true) _

theorem makes_signalEach (s : Signal) (pids : List Nat) (st : κ) :
    Makes (k.noting.signalEach s pids) (k.signalEach s pids) st
      (pids.flatMap (callsFor (some s))) := by
  induction pids generalizing st with
  | nil => exact makes_pure () st
  | cons pid pids ih => exact (k.makes_signal pid s st).bind (ih _)

/-- The processes of a tree are called from the leaves to the root. -/
theorem makes_killTree (pid : Nat) (s : Signal) (st : κ) :
    Makes (k.noting.killTree pid s).run (k.killTree pid s).run st (if pid = 0 then [] else
      ((descendants (k.children st).1 pid).reverse ++ [pid]).flatMap (callsFor (some s))) := by
  by_cases hpid : pid = 0
  · simp only [killTree, if_pos hpid]
    exact makes_pure (Except.ok false) st
  · simp only [killTree, if_neg hpid, List.flatMap_append, List.flatMap_singleton]
    rw [← List.nil_append (_ ++ _)]
    refine (makes_besides k.children st).lift ?_
    exact (k.makes_signalEach s _ _).lift (k.makes_signal pid s _)

end Kernel

/-! ## 2. Descendants -/

theorem mem_takeNew_iff {seen pids : List Nat} {pid : Nat} :
    pid ∈ (takeNew seen pids).2 ↔ pid ∈ pids ∧ pid ∉ seen := by
  induction pids generalizing seen with
  | nil => simp [takeNew]
  | cons first pids ih =>
    rw [takeNew]
    split
    case isTrue hseen =>
      have hold : first ∈ seen := List.contains_iff_mem.mp hseen
      rw [ih, List.mem_cons]
      refine and_congr_left fun hnew => ⟨Or.inr, fun h => h.resolve_left ?_⟩
      rintro rfl
      exact hnew hold
    case isFalse hnew =>
      have hfirst : first ∉ seen := fun hold => hnew (List.contains_iff_mem.mpr hold)
      by_cases heq : pid = first
      · simp [heq, hfirst]
      · simp [ih, heq]

theorem row_of_childrenOf {table : Children} {parent pid : Nat}
    (h : pid ∈ childrenOf table parent) : ∃ row ∈ table, row.1 = parent ∧ pid ∈ row.2 := by
  rcases hrow : table.find? (·.1 == parent) with _ | row
  · simp [childrenOf, hrow] at h
  · have hparent := List.find?_some hrow
    exact ⟨row, List.mem_of_find?_eq_some hrow, beq_iff_eq.mp hparent,
      by simpa [childrenOf, hrow] using h⟩

theorem named_of_childrenOf {table : Children} {parent pid : Nat}
    (h : pid ∈ childrenOf table parent) : ∃ row ∈ table, pid ∈ row.2 :=
  (row_of_childrenOf h).imp fun _ hrow => ⟨hrow.1, hrow.2.2⟩

theorem named_of_search {table : Children} {fuel pid : Nat} {seen queue : List Nat}
    (h : pid ∈ search table fuel seen queue) : ∃ row ∈ table, pid ∈ row.2 := by
  induction fuel generalizing seen queue with
  | zero => cases h
  | succ fuel ih =>
    cases queue with
    | nil => cases h
    | cons parent queue =>
      rcases List.mem_append.mp h with hfresh | hlater
      · exact named_of_childrenOf (mem_takeNew_iff.mp hfresh).1
      · exact ih hlater

/-- Descendants are children that the table names. -/
theorem named_of_descendants {table : Children} {root pid : Nat}
    (h : pid ∈ descendants table root) : ∃ row ∈ table, pid ∈ row.2 :=
  named_of_search h

/-! ## 3. Signed pids -/

/-- The number fits 32 bits without sign. -/
def IsUnsigned (pid : Nat) : Prop := (pid : Int) ≤ Word.greatestUnsigned 32

/-- The number is one of the system's pids, which have a sign. -/
def IsSystems (pid : Nat) : Prop := (pid : Int) ≤ Word.greatest 32

theorem signedPid_ne_zero {pid : Nat} (h : IsUnsigned pid) (hpid : pid ≠ 0) :
    signedPid pid ≠ 0 := by
  simp only [IsUnsigned, Word.greatestUnsigned, Word.size_32] at h
  simp only [signedPid, Word.wrap, Word.size_32, Int.bmod_def]
  split <;> omega

theorem signedPid_pos_iff {pid : Nat} (h : IsUnsigned pid) (hpid : pid ≠ 0) :
    0 < signedPid pid ↔ IsSystems pid := by
  simp only [IsUnsigned, Word.greatestUnsigned, Word.size_32] at h
  simp only [IsSystems, Word.greatest_32, signedPid, Word.wrap, Word.size_32, Int.bmod_def]
  split <;> omega

/-- The call names a single process. -/
def Call.IsSingle (c : Call) : Prop := 0 < c.pid

theorem ne_zero_of_mem_callsFor {s : Option Signal} {pid : Nat} (h : IsUnsigned pid) {c : Call}
    (hc : c ∈ callsFor s pid) : c.pid ≠ 0 := by
  by_cases hpid : pid = 0
  · simp [callsFor, hpid] at hc
  · rw [callsFor, if_neg hpid, List.mem_singleton] at hc
    simpa only [hc] using signedPid_ne_zero h hpid

theorem callsFor_single_iff {s : Option Signal} {pid : Nat} (h : IsUnsigned pid) :
    (∀ c ∈ callsFor s pid, c.IsSingle) ↔ IsSystems pid := by
  by_cases hpid : pid = 0
  · simp [callsFor, hpid, IsSystems]
  · simpa only [callsFor, if_neg hpid, List.forall_mem_singleton, Call.IsSingle]
      using signedPid_pos_iff h hpid

/-! ## 4. Whom a signal can reach -/

/-- The calls that an action makes. -/
def callsOf (act : StateM (κ × List Call) α) (st : κ) : List Call := (act (st, [])).2.2

theorem Makes.callsOf (h : Makes act plain st calls) : Process.callsOf act st = calls :=
  congrArg (fun answer => answer.2.2) (h [])

/-- **Whom a signal can reach.** No call is ever made with pid 0. Asking for a process and
signalling it name a single process exactly if the pid is one of the system's; and so it
is for a tree, unless its root has pid 0, with the pids of all its processes. -/
theorem reaches_single_iff (k : Kernel κ) (st : κ) (s : Signal) {pid : Nat} (hpid : IsUnsigned pid)
    (htable : ∀ row ∈ (k.children st).1, ∀ child ∈ row.2, IsUnsigned child) :
    let asked := callsOf (k.noting.isAlive pid) st
    let sent := callsOf (k.noting.signal pid s).run st
    let spread := callsOf (k.noting.killTree pid s).run st
    (∀ c ∈ asked ++ sent ++ spread, c.pid ≠ 0)
      ∧ ((∀ c ∈ asked, c.IsSingle) ↔ IsSystems pid)
      ∧ ((∀ c ∈ sent, c.IsSingle) ↔ IsSystems pid)
      ∧ ((∀ c ∈ spread, c.IsSingle)
          ↔ pid = 0 ∨ ∀ q ∈ pid :: descendants (k.children st).1 pid, IsSystems q) := by
  intro asked sent spread
  have hasked : asked = callsFor none pid := (k.makes_isAlive pid st).callsOf
  have hsent : sent = callsFor (some s) pid := (k.makes_signal pid s st).callsOf
  have hspread : spread = if pid = 0 then [] else
      ((descendants (k.children st).1 pid).reverse ++ [pid]).flatMap (callsFor (some s)) :=
    (k.makes_killTree pid s st).callsOf
  have hall : ∀ q ∈ pid :: descendants (k.children st).1 pid, IsUnsigned q := by
    refine List.forall_mem_cons.mpr ⟨hpid, fun q hq => ?_⟩
    obtain ⟨row, hrow, hin⟩ := named_of_descendants hq
    exact htable row hrow q hin
  have htree : ∀ c, c ∈ spread ↔ pid ≠ 0
      ∧ ∃ q ∈ pid :: descendants (k.children st).1 pid, c ∈ callsFor (some s) q := by
    intro c
    rw [hspread]
    by_cases hzero : pid = 0
    · simp [hzero]
    · simp [hzero, or_comm]
  refine ⟨fun c hc => ?_, hasked ▸ callsFor_single_iff hpid, hsent ▸ callsFor_single_iff hpid,
    fun h => ?_, fun h c hc => ?_⟩
  · rcases List.mem_append.mp hc with hc | hc
    · rcases List.mem_append.mp hc with hc | hc
      · exact ne_zero_of_mem_callsFor hpid (hasked ▸ hc)
      · exact ne_zero_of_mem_callsFor hpid (hsent ▸ hc)
    · obtain ⟨-, q, hq, hc⟩ := (htree c).mp hc
      exact ne_zero_of_mem_callsFor (hall q hq) hc
  · refine Classical.or_iff_not_imp_left.mpr fun hzero q hq => ?_
    exact (callsFor_single_iff (hall q hq)).mp fun c hc => h c ((htree c).mpr ⟨hzero, q, hq, hc⟩)
  · obtain ⟨hzero, q, hq, hc⟩ := (htree c).mp hc
    exact (callsFor_single_iff (hall q hq)).mpr (h.resolve_left hzero q hq) c hc

/-- A tree whose last process has the greatest of the system's pids, and one that has
noted a child with pid 0. -/
theorem reaches_single_to_greatest :
    let k : Kernel Rehearsal.CallTable := { Rehearsal.CallTable.kernel with
      children := pure [(10, [20, 2147483647]), (20, [0])] }
    let st : Rehearsal.CallTable := ⟨[(10, .mortal), (20, .stubborn)], []⟩
    let spread := callsOf (k.noting.killTree 10 .term).run st
    IsUnsigned 10 ∧ (∀ row ∈ (k.children st).1, ∀ child ∈ row.2, IsUnsigned child)
      ∧ descendants (k.children st).1 10 = [20, 2147483647, 0]
      ∧ spread = [⟨2147483647, some .term⟩, ⟨20, some .term⟩, ⟨10, some .term⟩]
      ∧ ∀ c ∈ spread, c.IsSingle := by
  intro k st spread
  have hpid : IsUnsigned 10 := by unfold IsUnsigned; decide
  have htable : ∀ row ∈ (k.children st).1, ∀ child ∈ row.2, IsUnsigned child := by
    unfold IsUnsigned
    decide
  have hsystems : ∀ q ∈ 10 :: descendants (k.children st).1 10, IsSystems q := by
    unfold IsSystems
    decide
  exact ⟨hpid, htable, rfl, rfl,
    (reaches_single_iff k st .term hpid htable).2.2.2.mpr (Or.inr hsystems)⟩

/-- The greatest number of 32 bits is handed on as -1, which names every process. -/
theorem reaches_everyone :
    IsUnsigned 4294967295
      ∧ callsOf (Rehearsal.CallTable.kernel.noting.isAlive 4294967295) ⟨[], []⟩ = [⟨-1, none⟩]
      ∧ callsOf (Rehearsal.CallTable.kernel.noting.signal 4294967295 .term).run ⟨[], []⟩
          = [⟨-1, some .term⟩]
      ∧ ¬ (Call.mk (-1) (some .term)).IsSingle := by
  unfold IsUnsigned Call.IsSingle
  exact ⟨by decide, rfl, rfl, by decide⟩

end Overseer.Process
