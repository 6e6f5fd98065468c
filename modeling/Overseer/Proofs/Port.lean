/-
Overseer.Proofs.Port — which ports are asked for, and which one is found.

`noting` is a probe with every question and its answer noted and nothing else changed. A
search for a port asks the ports it was given one after the other and stops at the first
that passes: `Probed` says what the notes of such a search are. The ports that allocation
searches are those of the range that are not used, in ascending order (`candidates`), so
each of them is asked for once at most, and none after the one that is found
(`allocateFrom_noting`).

A probe may be anything with a state of its own. For one that always answers alike the
port that is found is the least that passes (`find?_eq_some_iff_isLeast`).
-/
import Mathlib.Order.Bounds.Basic
import Overseer.Port

namespace Overseer.Port

variable {κ : Type}

/-! ## 1. Searching -/

/-- The probe with its questions and answers noted, in order. -/
def noting (probe : Nat → StateM κ Bool) (port : Nat) : StateM (κ × List (Nat × Bool)) Bool :=
  fun w =>
    let (passes, st) := probe port w.1
    (passes, st, w.2 ++ [(port, passes)])

/-- What is asked and answered in a search of ports, and which port is found. -/
inductive Probed : List Nat → List (Nat × Bool) → Option Nat → Prop where
  /-- All are asked for, and none passes. -/
  | exhausted (ports : List Nat) : Probed ports (ports.map fun port => (port, false)) none
  /-- Those before the port that is found are refused, and those behind it not asked for. -/
  | found (refused : List Nat) (port : Nat) (rest : List Nat) :
      Probed (refused ++ port :: rest)
        ((refused.map fun port => (port, false)) ++ [(port, true)]) (some port)

theorem Probed.cons_refused {ports : List Nat} {asked : List (Nat × Bool)} {answer : Option Nat}
    (h : Probed ports asked answer) (port : Nat) :
    Probed (port :: ports) ((port, false) :: asked) answer := by
  cases h with
  | exhausted ports => exact .exhausted (port :: ports)
  | found refused passing rest => exact .found (port :: refused) passing rest

/-- A search asks for the first port and goes on in the state that this leaves. -/
theorem firstPassing_cons (probe : Nat → StateM κ Bool) (port : Nat) (rest : List Nat) (st : κ) :
    (firstPassing probe (port :: rest)).run st
      = if ((probe port).run st).1 then (some port, ((probe port).run st).2)
        else (firstPassing probe rest).run ((probe port).run st).2 := by
  have hfirst : (firstPassing probe (port :: rest)).run st
      = (if ((probe port).run st).1 then pure (some port) else firstPassing probe rest :
          StateM κ (Option Nat)).run ((probe port).run st).2 := rfl
  rw [hfirst]
  split <;> rfl

/-- A search that is noted is the search, and its notes are what was asked. -/
theorem firstPassing_noting (probe : Nat → StateM κ Bool) (ports : List Nat) (st : κ)
    (done : List (Nat × Bool)) :
    ∃ asked, (firstPassing (noting probe) ports).run (st, done)
        = (((firstPassing probe ports).run st).1, ((firstPassing probe ports).run st).2,
            done ++ asked)
      ∧ Probed ports asked ((firstPassing probe ports).run st).1 := by
  induction ports generalizing st done with
  | nil => exact ⟨[], by rw [List.append_nil]; rfl, .exhausted []⟩
  | cons port ports ih =>
    have hnoted : (noting probe port).run (st, done) = (((probe port).run st).1,
        ((probe port).run st).2, done ++ [(port, ((probe port).run st).1)]) := rfl
    rw [firstPassing_cons, firstPassing_cons, hnoted]
    cases ((probe port).run st).1 with
    | true => exact ⟨[(port, true)], rfl, .found [] port ports⟩
    | false =>
      obtain ⟨asked, hrun, hprobed⟩ := ih ((probe port).run st).2 (done ++ [(port, false)])
      refine ⟨(port, false) :: asked, ?_, hprobed.cons_refused port⟩
      rw [List.append_assoc, List.singleton_append] at hrun
      exact hrun

theorem isLeast_of_find? {ports : List Nat} (h : ports.Pairwise (· < ·)) {passes : Nat → Bool}
    {port : Nat} (hfind : ports.find? passes = some port) :
    IsLeast {q | q ∈ ports ∧ passes q = true} port := by
  obtain ⟨hpasses, before, rest, rfl, hrefused⟩ := List.find?_eq_some_iff_append.mp hfind
  refine ⟨⟨by simp, hpasses⟩, fun q ⟨hmem, hq⟩ => ?_⟩
  have hbehind := (List.pairwise_cons.mp (List.pairwise_append.mp h).2.1).1
  rcases List.mem_append.mp hmem with hbefore | hrest
  · exact absurd hq (by simpa using hrefused q hbefore)
  · rcases List.mem_cons.mp hrest with rfl | hrest
    · exact Nat.le_refl q
    · exact Nat.le_of_lt (hbehind q hrest)

/-- With a probe that always answers alike the port that is found is the least that passes. -/
theorem find?_eq_some_iff_isLeast {ports : List Nat} (h : ports.Pairwise (· < ·))
    {passes : Nat → Bool} {port : Nat} : ports.find? passes = some port
      ↔ IsLeast {q | q ∈ ports ∧ passes q = true} port := by
  refine ⟨isLeast_of_find? h, fun hleast => ?_⟩
  rcases hfind : ports.find? passes with _ | first
  · exact absurd hleast.1.2 (List.find?_eq_none.mp hfind port hleast.1.1)
  · rw [(isLeast_of_find? h hfind).unique hleast]

/-! ## 2. Allocation -/

/-- The ports of a range that are not used, in ascending order. -/
def candidates (first last : Nat) (used : List Nat) : List Nat :=
  (range first last).filter fun port => !used.contains port

theorem mem_candidates {first last port : Nat} {used : List Nat} :
    port ∈ candidates first last used ↔ first ≤ port ∧ port ≤ last ∧ port ∉ used := by
  simp only [candidates, range, List.mem_filter, List.mem_map, List.mem_range,
    Bool.not_eq_true', List.contains_eq_mem, decide_eq_false_iff_not, ← and_assoc]
  refine and_congr_left fun _ => ⟨?_, fun ⟨hfirst, hlast⟩ => ⟨port - first, by omega, by omega⟩⟩
  rintro ⟨i, hi, rfl⟩
  omega

theorem pairwise_candidates (first last : Nat) (used : List Nat) :
    (candidates first last used).Pairwise (· < ·) := by
  refine List.Pairwise.filter _ (List.pairwise_map.mpr ?_)
  exact List.pairwise_lt_range.imp fun h => Nat.add_lt_add_left h first

/-- What allocation answers when a search has found a port, or none. -/
def outcome (first last : Nat) : Option Nat → Except Fault Nat
  | some port => .ok port
  | none => .error (.portsExhausted first last)

/-- Allocation searches the ports that are not used. -/
theorem allocateFrom_run (first last : Nat) (used : List Nat) (probe : Nat → StateM κ Bool)
    (st : κ) : (allocateFrom first last used probe).run.run st
      = (outcome first last ((firstPassing probe (candidates first last used)).run st).1,
        ((firstPassing probe (candidates first last used)).run st).2) := by
  have hsearch : (allocateFrom first last used probe).run.run st
      = (match ((firstPassing probe (candidates first last used)).run st).1 with
          | some port => return port
          | none => throw (.portsExhausted first last) : ExceptT Fault (StateM κ) Nat).run.run
        ((firstPassing probe (candidates first last used)).run st).2 := rfl
  rw [hsearch]
  cases ((firstPassing probe (candidates first last used)).run st).1 <;> rfl

/-- What allocation asks: the ports of the range that are not used, in ascending order and
once each, up to the first that passes. It answers with that port, or says that the range is
exhausted. -/
def Allocates (first last : Nat) (used : List Nat) (asked : List (Nat × Bool))
    (answer : Except Fault Nat) : Prop :=
  ∃ (unused : List Nat) (port? : Option Nat), unused.Pairwise (· < ·)
    ∧ (∀ port, port ∈ unused ↔ first ≤ port ∧ port ≤ last ∧ port ∉ used)
    ∧ Probed unused asked port? ∧ answer = outcome first last port?

theorem allocateFrom_noting (first last : Nat) (used : List Nat) (probe : Nat → StateM κ Bool)
    (st : κ) : ∃ asked, Allocates first last used asked
        ((allocateFrom first last used probe).run.run st).1
      ∧ (allocateFrom first last used (noting probe)).run.run (st, [])
        = (((allocateFrom first last used probe).run.run st).1,
          ((allocateFrom first last used probe).run.run st).2, asked) := by
  obtain ⟨asked, hrun, hprobed⟩ :=
    firstPassing_noting probe (candidates first last used) st []
  refine ⟨asked, ⟨_, _, pairwise_candidates first last used, fun _ => mem_candidates, hprobed, ?_⟩,
    ?_⟩
  · rw [allocateFrom_run]
  · rw [allocateFrom_run, allocateFrom_run, hrun, List.nil_append]

end Overseer.Port
