/-
Overseer.Proofs.Store.History — what is done to a store, one thing after the other.

An `Operation` is one call by any party, a history is a list of them, and
`run` takes a store through a history; a refused operation leaves the store as
it was. `told` collects what the operations of a history answered.

A sweep reads the running launches and then marks those that are not alive,
one by one; these marks are its `writes`, and every other operation is one write
itself. `run_writes` says that an operation does nothing but its writes, so

* a law of single writes is a law of histories (`step_induction`, `run_plain`), and
* a sweep in whose middle other parties act is a history too: its marks, with
  the operations of the others between them.
-/
import Overseer.Store.Launches
import Overseer.Store.Output
import Overseer.Store.Ports
import Overseer.Store.Retention

namespace Overseer.Store

/-! ## 1. Histories -/

/-- One operation on a store, by whichever party. -/
inductive Operation where
  | create (now : Int) (key : ServiceKey) (command : String) (directory : Path)
      (port : Option Nat)
  | updatePid (id : Int) (pid : Nat)
  /-- From now on the store refuses pids of children, or takes them again. -/
  | rejectPids (rejects : Bool)
  | updateWrapperPid (id : Int) (pid : Nat)
  | markExited (now id code : Int)
  | sweepDead (now : Int) (alive : ProcessRecord → Bool)
  | append (now launch : Int) (key : ServiceKey) (line : Int) (content : String)
      (type : LogType)
  | clear (key : ServiceKey)
  | assignPort (project : Path) (port : Nat)
  | cleanup (now : Int) (policy : RetentionPolicy)

/-- A sweep, which is several writes. -/
def Operation.isSweep : Operation → Bool
  | .sweepDead .. => true
  | _ => false

/-- A pass of retention. -/
def Operation.isCleanup : Operation → Bool
  | .cleanup .. => true
  | _ => false

/-- The store that an operation leaves. -/
def step (s : Store) : Operation → Store
  | .create now key command directory port =>
    match s.create now key command directory port with
    | .ok (_, s') => s'
    | .error _ => s
  | .updatePid id pid =>
    match s.updatePid id pid with
    | .ok s' => s'
    | .error _ => s
  | .rejectPids rejects => s.rejectPids rejects
  | .updateWrapperPid id pid => s.updateWrapperPid id pid
  | .markExited now id code => (s.markExited now id code).2
  | .sweepDead now alive => (s.sweepDead now alive).2
  | .append now launch key line content type =>
    match s.append now launch key line content type with
    | .ok (_, s') => s'
    | .error _ => s
  | .clear key => (s.clear key).2
  | .assignPort project port => s.assignPort project port
  | .cleanup now policy => (s.cleanup now policy).2

/-- The store that a history leaves. -/
def run (s : Store) (history : List Operation) : Store := history.foldl step s

/-- What the operations of a history answered, in order. -/
def told {α : Type} (answer : Store → Operation → List α) (s : Store) :
    List Operation → List α
  | [] => []
  | op :: history => answer s op ++ told answer (s.step op) history

@[simp] theorem run_nil (s : Store) : s.run [] = s := rfl

@[simp] theorem run_cons (s : Store) (op : Operation) (history : List Operation) :
    s.run (op :: history) = (s.step op).run history := rfl

theorem run_append (s : Store) (history later : List Operation) :
    s.run (history ++ later) = (s.run history).run later := by
  simp [run]

theorem told_append {α : Type} (answer : Store → Operation → List α) (s : Store)
    (history later : List Operation) :
    told answer s (history ++ later)
      = told answer s history ++ told answer (s.run history) later := by
  induction history generalizing s with
  | nil => rfl
  | cons op history ih => simp [told, ih]

/-- A pid is noted, or the store is left as it was. -/
theorem step_updatePid (s : Store) (id : Int) (pid : Nat) :
    s.step (.updatePid id pid) = s
      ∨ s.step (.updatePid id pid) = s.updateLaunch id fun r => { r with pid := pid } := by
  simp only [step, updatePid]
  cases s.rejectsPids && s.launches.any fun r => r.id == id with
  | true => exact Or.inl rfl
  | false => exact Or.inr rfl

/-- What the operations of a history keep is kept by the history. -/
theorem run_induction_of_mem {P : Store → Prop} {history : List Operation}
    (keep : ∀ op ∈ history, ∀ s, P s → P (s.step op)) {s : Store} (h : P s) :
    P (s.run history) := by
  induction history generalizing s with
  | nil => exact h
  | cons op history ih =>
    exact ih (fun o ho => keep o (List.mem_cons_of_mem _ ho))
      (keep op List.mem_cons_self s h)

/-- What every operation keeps is kept by a history. -/
theorem run_induction {P : Store → Prop} (keep : ∀ s op, P s → P (s.step op))
    {s : Store} (h : P s) (history : List Operation) : P (s.run history) :=
  run_induction_of_mem (fun op _ s => keep s op) h

/-! ## 2. Launches that begin and end -/

/-- The number that an operation gives to a new launch. -/
def issued (s : Store) : Operation → List Int
  | .create now key command directory port =>
    match s.create now key command directory port with
    | .ok (id, _) => [id]
    | .error _ => []
  | _ => []

/-- The launches for which an operation was told that it ended them. -/
def ended (s : Store) : Operation → List Int
  | .markExited now id code => if (s.markExited now id code).1 then [id] else []
  | .sweepDead now alive => (s.sweepDead now alive).1.map (·.id)
  | _ => []

/-- The marks that a sweep makes in a list of launches. -/
def marks (now : Int) (alive : ProcessRecord → Bool) (rs : List ProcessRecord) :
    List Operation :=
  (rs.filter fun r => !alive r).map fun r => .markExited now r.id foundDead

theorem sweepList_eq_marks (now : Int) (alive : ProcessRecord → Bool) (s : Store)
    (rs : List ProcessRecord) :
    (sweepList now alive s rs).2 = s.run (marks now alive rs)
      ∧ (sweepList now alive s rs).1.map (·.id) = told ended s (marks now alive rs) := by
  induction rs generalizing s with
  | nil => exact ⟨rfl, rfl⟩
  | cons r rs ih =>
    cases hr : alive r with
    | true => simpa [sweepList, marks, hr] using ih s
    | false =>
      obtain ⟨hstore, htold⟩ := ih (s.markExited now r.id foundDead).2
      have hm : marks now alive (r :: rs)
          = .markExited now r.id foundDead :: marks now alive rs := by
        simp [marks, hr]
      rw [hm]
      constructor
      · simpa [sweepList, hr, step] using hstore
      · simp only [sweepList, hr, told, ended, step, ← htold, Bool.false_eq_true, if_false]
        split <;> rfl

/-! ## 3. The writes of an operation -/

/-- The single writes of an operation: a sweep's marks, and any other operation itself. -/
def writes (s : Store) : Operation → List Operation
  | .sweepDead now alive => marks now alive (s.running none)
  | op => [op]

theorem isSweep_of_mem_writes {s : Store} {op o : Operation} (h : o ∈ s.writes op) :
    o.isSweep = false := by
  cases op with
  | sweepDead now alive =>
    obtain ⟨r, _, rfl⟩ := List.mem_map.mp h
    rfl
  | _ => rw [List.mem_singleton.mp h]; rfl

theorem isCleanup_of_mem_writes {s : Store} {op o : Operation} (h : o ∈ s.writes op)
    (hop : op.isCleanup = false) : o.isCleanup = false := by
  cases op with
  | sweepDead now alive =>
    obtain ⟨r, _, rfl⟩ := List.mem_map.mp h
    rfl
  | _ => rw [List.mem_singleton.mp h]; exact hop

/-- An operation does nothing but its writes. -/
theorem run_writes (s : Store) (op : Operation) : s.run (s.writes op) = s.step op := by
  cases op with
  | sweepDead now alive => exact (sweepList_eq_marks now alive s (s.running none)).1.symm
  | _ => rfl

/-- An operation tells of the launches that its writes ended. -/
theorem told_ended_writes (s : Store) (op : Operation) :
    told ended s (s.writes op) = s.ended op := by
  cases op with
  | sweepDead now alive => exact (sweepList_eq_marks now alive s (s.running none)).2.symm
  | _ => simp [writes, told]

theorem told_issued_marks (now : Int) (alive : ProcessRecord → Bool) (s : Store)
    (rs : List ProcessRecord) : told issued s (marks now alive rs) = [] := by
  unfold marks
  induction rs.filter (fun r => !alive r) generalizing s with
  | nil => rfl
  | cons r rs ih => simp only [List.map_cons, told, issued, ih, List.nil_append]

theorem told_issued_writes (s : Store) (op : Operation) :
    told issued s (s.writes op) = s.issued op := by
  cases op with
  | sweepDead now alive => exact told_issued_marks now alive s (s.running none)
  | _ => simp [writes, told]

/-- What the writes of an operation keep is kept by the operation. -/
theorem step_induction {P : Store → Prop} {op : Operation} {s : Store}
    (keep : ∀ o ∈ s.writes op, ∀ s, o.isSweep = false → P s → P (s.step o)) (h : P s) :
    P (s.step op) := by
  rw [← run_writes]
  exact run_induction_of_mem (fun o ho s => keep o ho s (isSweep_of_mem_writes ho)) h

/-- A history with its sweeps taken apart. -/
def plain (s : Store) : List Operation → List Operation
  | [] => []
  | op :: history => s.writes op ++ plain (s.step op) history

theorem isSweep_of_mem_plain {s : Store} {history : List Operation} {o : Operation}
    (h : o ∈ s.plain history) : o.isSweep = false := by
  induction history generalizing s with
  | nil => cases h
  | cons op history ih =>
    rcases List.mem_append.mp h with h | h
    · exact isSweep_of_mem_writes h
    · exact ih h

theorem run_plain (s : Store) (history : List Operation) :
    s.run (s.plain history) = s.run history := by
  induction history generalizing s with
  | nil => rfl
  | cons op history ih => rw [plain, run_append, run_writes, ih, run_cons]

theorem told_ended_plain (s : Store) (history : List Operation) :
    told ended s (s.plain history) = told ended s history := by
  induction history generalizing s with
  | nil => rfl
  | cons op history ih => rw [plain, told_append, run_writes, told_ended_writes, ih, told]

theorem told_issued_plain (s : Store) (history : List Operation) :
    told issued s (s.plain history) = told issued s history := by
  induction history generalizing s with
  | nil => rfl
  | cons op history ih => rw [plain, told_append, run_writes, told_issued_writes, ih, told]

end Overseer.Store
