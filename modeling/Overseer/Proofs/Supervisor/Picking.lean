/-
Overseer.Proofs.Supervisor.Picking — which port a launch is given.

A project's own port is given out if it is free and no running launch holds it. Or else a
port of the range is looked for that is free, that no running launch holds and that no
project asked for, this one included; the least of these is given out
(`pickPort_chooses`). What the tables hold is said of their rows, which are plain
integers: a number that is no port is in nobody's way.

Nothing of this could be said if ports became busy or rows were written meanwhile. That
this is not so is a condition on the worlds that the platform can lead to
(`Platform.StandsStill`), and each reading of the store and each probe is then a question
to one store and one predicate.
-/
import Overseer.Proofs.Port
import Overseer.Proofs.Supervisor.Cast

namespace Overseer

/-! ## 1. Ports in the store -/

namespace Store

/-- A running launch holds the port. -/
def Holds (s : Store) (port : Nat) : Prop :=
  ∃ r ∈ s.launches, r.isActive = true ∧ r.port = some (port : Int)

/-- The port is assigned to a project. -/
def Assigns (s : Store) (port : Nat) : Prop := ∃ r ∈ s.ports, r.port = port

/-- The number is one of a port: it has 16 bits. -/
def IsPort (port : Nat) : Prop := port ≤ 65535

theorem fits?_eq_some_iff {i : Int} {port : Nat} :
    fits? 16 i = some port ↔ i = port ∧ IsPort port := by
  rw [fits?, Word.size_16, IsPort]
  split
  next hfits =>
    rw [Option.some.injEq]
    omega
  next hfits =>
    simp only [reduceCtorEq, false_iff]
    omega

variable {s : Store} {port : Nat}

theorem mem_usedPorts_iff : port ∈ s.usedPorts ↔ s.Holds port ∧ IsPort port := by
  simp only [usedPorts, List.mem_filterMap, List.mem_reverse, List.mem_filter,
    Option.bind_eq_some_iff, fits?_eq_some_iff, Holds]
  constructor
  · rintro ⟨r, ⟨hr, hactive⟩, i, hi, rfl, hport⟩
    exact ⟨⟨r, hr, hactive, hi⟩, hport⟩
  · rintro ⟨⟨r, hr, hactive, hi⟩, hport⟩
    exact ⟨r, ⟨hr, hactive⟩, _, hi, rfl, hport⟩

theorem mem_assignedPorts_iff :
    port ∈ s.assignedPorts.map (·.2) ↔ s.Assigns port ∧ IsPort port := by
  simp only [assignedPorts, List.mem_map, List.mem_filterMap, Option.map_eq_some_iff,
    fits?_eq_some_iff, Assigns]
  constructor
  · rintro ⟨_, ⟨r, hr, port, ⟨hi, hport⟩, rfl⟩, rfl⟩
    exact ⟨⟨r, hr, hi⟩, hport⟩
  · rintro ⟨⟨r, hr, hi⟩, hport⟩
    exact ⟨_, ⟨r, hr, port, ⟨hi, hport⟩, rfl⟩, rfl⟩

theorem isPort_of_assignedPort? {project : Path} (h : s.assignedPort? project = some port) :
    IsPort port := by
  obtain ⟨r, -, hfits⟩ := Option.bind_eq_some_iff.mp h
  exact (fits?_eq_some_iff.mp hfits).2

end Store

namespace Supervisor

variable {σ α : Type} {p : Platform σ} {free : Nat → Bool} {w v : World σ}

/-! ## 2. A world that stands still -/

/-- Where other parties and probes can lead. -/
inductive Platform.Leads (p : Platform σ) (w : World σ) : World σ → Prop where
  | refl : p.Leads w w
  | others {v : World σ} (h : p.Leads w v) : p.Leads w (p.others.run v).2
  | probed {v : World σ} (h : p.Leads w v) (port : Nat) : p.Leads w ((p.portIsFree port).run v).2

/-- While ports are asked for, it is always the same ports that are free, and nothing is
written to the store. -/
structure Platform.StandsStill (p : Platform σ) (free : Nat → Bool) (w : World σ) : Prop where
  answers : ∀ v, p.Leads w v → ∀ port, ((p.portIsFree port).run v).1 = free port
  store : ∀ v, p.Leads w v → v.store = w.store

/-- In a world like the first one the action gives the answer and leaves such a world. -/
def Gives (p : Platform σ) (w : World σ) (act : Act σ α) (answer : Except Fault α) : Prop :=
  ∀ v, p.Leads w v → ∃ v', p.Leads w v' ∧ act.run.run v = (answer, v')

theorem Gives.bind {β : Type} {act : Act σ α} {next : α → Act σ β} {x : α}
    {answer : Except Fault β} (h : Gives p w act (.ok x)) (hnext : Gives p w (next x) answer) :
    Gives p w (act >>= next) answer := by
  intro v hv
  obtain ⟨v', hv', hrun⟩ := h v hv
  obtain ⟨v'', hv'', hlast⟩ := hnext v' hv'
  exact ⟨v'', hv'', (run_bind_of_ok hrun).trans hlast⟩

namespace Platform.StandsStill

variable (h : p.StandsStill free w)
include h

theorem gives_look (f : Store → α) : Gives p w (look p f) (.ok (f w.store)) := by
  intro v hv
  have hothers := hv.others
  refine ⟨_, hothers, ?_⟩
  rw [← h.store _ hothers]
  exact access_run rfl

theorem gives_probe (port : Nat) :
    Gives p w (liftM (p.portIsFree port)) (.ok (free port)) := by
  intro v hv
  refine ⟨_, hv.probed port, ?_⟩
  rw [← h.answers v hv port]
  rfl

theorem firstPassing_run (ports : List Nat) (hv : p.Leads w v) :
    ∃ v', p.Leads w v' ∧ (Port.firstPassing p.portIsFree ports).run v = (ports.find? free, v') := by
  induction ports generalizing v with
  | nil => exact ⟨v, hv, rfl⟩
  | cons port rest ih =>
    rw [Port.firstPassing_cons, h.answers v hv port, List.find?_cons]
    cases free port with
    | true => exact ⟨_, hv.probed port, rfl⟩
    | false => exact ih (hv.probed port)

theorem gives_allocateFrom (first last : Nat) (used : List Nat) :
    Gives p w (Port.allocateFrom first last used p.portIsFree)
      (Port.outcome first last ((Port.candidates first last used).find? free)) := by
  intro v hv
  obtain ⟨v', hv', hrun⟩ := h.firstPassing_run (Port.candidates first last used) hv
  refine ⟨v', hv', ?_⟩
  rw [Port.allocateFrom_run, hrun]

end Platform.StandsStill

/-! ## 3. Picking a port -/

/-- The port can be given out: nobody uses it and no running launch holds it. -/
def Usable (free : Nat → Bool) (s : Store) (port : Nat) : Prop := free port = true ∧ ¬ s.Holds port

/-- The port can be given to a project that does not get its own: it is in the range and
assigned to nobody. -/
structure Spare (free : Nat → Bool) (s : Store) (port : Nat) : Prop where
  first : 3001 ≤ port
  last : port ≤ 4000
  usable : Usable free s port
  notAssigned : ¬ s.Assigns port

/-- The ports that allocation goes through. -/
def unassigned (s : Store) : List Nat :=
  Port.candidates Port.firstPort Port.lastPort (s.usedPorts ++ s.assignedPorts.map (·.2))

/-- The ports that allocation can find are the spare ones. -/
theorem spare_iff_mem_unassigned {s : Store} {port : Nat} :
    Spare free s port ↔ port ∈ unassigned s ∧ free port = true := by
  rw [unassigned, Port.mem_candidates, List.mem_append, Store.mem_usedPorts_iff,
    Store.mem_assignedPorts_iff, Port.firstPort, Port.lastPort, Store.IsPort]
  constructor
  · rintro ⟨hfirst, hlast, ⟨hfree, hheld⟩, hassigned⟩
    refine ⟨⟨hfirst, hlast, ?_⟩, hfree⟩
    rintro (⟨hholds, -⟩ | ⟨hassigns, -⟩)
    · exact hheld hholds
    · exact hassigned hassigns
  · rintro ⟨⟨hfirst, hlast, hunused⟩, hfree⟩
    exact ⟨hfirst, hlast, ⟨hfree, fun hholds => hunused (Or.inl ⟨hholds, by omega⟩)⟩,
      fun hassigns => hunused (Or.inr ⟨hassigns, by omega⟩)⟩

theorem find?_unassigned_eq_some_iff {s : Store} {port : Nat} :
    (unassigned s).find? free = some port ↔ IsLeast {q | Spare free s q} port := by
  simp only [spare_iff_mem_unassigned]
  exact Port.find?_eq_some_iff_isLeast (Port.pairwise_candidates _ _ _)

theorem find?_unassigned_eq_none_iff {s : Store} :
    (unassigned s).find? free = none ↔ ∀ port, ¬ Spare free s port := by
  simp only [List.find?_eq_none, spare_iff_mem_unassigned, not_and]

/-- Whether the own port is usable is decided by asking the store and then, unless it is held,
the port itself. -/
theorem usable_iff_of_own {s : Store} {project : Path} {port : Nat}
    (hown : s.assignedPort? project = some port) :
    Usable free s port ↔ s.usedPorts.contains port = false ∧ free port = true := by
  have hheld : port ∈ s.usedPorts ↔ s.Holds port ∧ Store.IsPort port :=
    Store.mem_usedPorts_iff
  rw [and_iff_left (Store.isPort_of_assignedPort? hown)] at hheld
  simp [Usable, ← hheld, and_comm]

namespace Platform.StandsStill

variable (h : p.StandsStill free w) {project : Path}
include h

theorem gives_allocatePort : Gives p w (allocatePort p)
    (Port.outcome 3001 4000 ((unassigned w.store).find? free)) :=
  (h.gives_look _).bind ((h.gives_look _).bind (h.gives_allocateFrom _ _ _))

/-- The own port is given out if it is usable. -/
theorem gives_own {port : Nat} (hown : w.store.assignedPort? project = some port)
    (husable : Usable free w.store port) : Gives p w (pickPort p project) (.ok port) := by
  obtain ⟨hheld, hfree⟩ := (usable_iff_of_own hown).mp husable
  have hprobe := h.gives_probe port
  rw [hfree] at hprobe
  refine (h.gives_look _).bind ?_
  rw [hown]
  refine (h.gives_look _).bind ?_
  rw [hheld]
  exact hprobe.bind fun v hv => ⟨v, hv, rfl⟩

/-- Or else what allocation finds is given out. -/
theorem gives_another (hown : ∀ port, w.store.assignedPort? project = some port →
    ¬ Usable free w.store port) : Gives p w (pickPort p project)
      (Port.outcome 3001 4000 ((unassigned w.store).find? free)) := by
  refine (h.gives_look _).bind ?_
  rcases hport : w.store.assignedPort? project with _ | port
  · exact h.gives_allocatePort
  refine (h.gives_look _).bind ?_
  rcases hheld : w.store.usedPorts.contains port with _ | _
  · have hprobe := h.gives_probe port
    have hbusy : free port = false := by
      refine Bool.eq_false_iff.mpr fun hfree => hown port hport ?_
      exact (usable_iff_of_own hport).mpr ⟨hheld, hfree⟩
    rw [hbusy] at hprobe
    exact hprobe.bind h.gives_allocatePort
  · exact h.gives_allocatePort

end Platform.StandsStill

/-- **Which port is picked.** It is free and no running launch holds it. It is the project's
own port whenever that one is free and not held, and otherwise the least port of the range
that is free, not held and not assigned to any project; there is none exactly if the call
fails. As for allocation in general, it asks for the ports that are not used, in ascending
order and once each, up to the first that passes, and answers accordingly. -/
theorem pickPort_chooses (h : p.StandsStill free w) (project : Path) :
    let outcome := ((pickPort p project).run.run w).1
    let unusableOwn := ∀ port, w.store.assignedPort? project = some port →
      ¬ Usable free w.store port
    (∀ port, outcome = .ok port → free port = true ∧ ¬ w.store.Holds port)
    ∧ (∀ port, outcome = .ok port ↔
        w.store.assignedPort? project = some port ∧ Usable free w.store port
          ∨ unusableOwn ∧ IsLeast {q | Spare free w.store q} port)
    ∧ (∀ fault, outcome = .error fault ↔
        fault = .portsExhausted 3001 4000 ∧ unusableOwn ∧ ∀ port, ¬ Spare free w.store port)
    ∧ ((pickPort p project).run.run w).2.store = w.store
    ∧ ∀ (κ : Type) (first last : Nat) (used : List Nat) (probe : Nat → StateM κ Bool) (st : κ),
        let plain := (Port.allocateFrom first last used probe).run.run st
        ∃ asked, Port.Allocates first last used asked plain.1
          ∧ (Port.allocateFrom first last used (Port.noting probe)).run.run (st, [])
            = (plain.1, plain.2, asked) := by
  intro outcome unusableOwn
  have hallocate (κ : Type) (first last : Nat) (used : List Nat) (probe : Nat → StateM κ Bool)
      (st : κ) := Port.allocateFrom_noting first last used probe st
  by_cases hown : unusableOwn
  · obtain ⟨v, hv, hrun⟩ := h.gives_another hown w .refl
    have houtcome : outcome = Port.outcome 3001 4000 ((unassigned w.store).find? free) := by
      rw [show outcome = ((pickPort p project).run.run w).1 from rfl, hrun]
    have hok (port : Nat) : outcome = .ok port ↔ IsLeast {q | Spare free w.store q} port := by
      rw [houtcome, ← find?_unassigned_eq_some_iff]
      cases (unassigned w.store).find? free <;> simp [Port.outcome]
    have herror (fault : Fault) : outcome = .error fault
        ↔ fault = .portsExhausted 3001 4000 ∧ ∀ port, ¬ Spare free w.store port := by
      rw [houtcome, ← find?_unassigned_eq_none_iff]
      cases (unassigned w.store).find? free <;> simp [Port.outcome, eq_comm]
    refine ⟨fun port hport => ((hok port).mp hport).1.usable, fun port => ?_, fun fault => ?_, ?_,
      hallocate⟩
    · rw [hok port, or_iff_right fun hport => hown port hport.1 hport.2, and_iff_right hown]
    · rw [herror fault, and_iff_right hown]
    · rw [hrun]
      exact h.store v hv
  · obtain ⟨port, hport, husable⟩ : ∃ port, w.store.assignedPort? project = some port
        ∧ Usable free w.store port := by simpa [unusableOwn] using hown
    obtain ⟨v, hv, hrun⟩ := h.gives_own hport husable w .refl
    have houtcome : outcome = .ok port := by
      rw [show outcome = ((pickPort p project).run.run w).1 from rfl, hrun]
    have hok (q : Nat) : outcome = .ok q ↔ port = q := by rw [houtcome, Except.ok.injEq]
    refine ⟨fun q hq => ((hok q).mp hq) ▸ husable, fun q => ?_, fun fault => ?_, ?_, hallocate⟩
    · rw [hok q, or_iff_left fun hq => hown hq.1, hport, Option.some.injEq]
      exact ⟨fun hq => ⟨hq, hq ▸ husable⟩, And.left⟩
    · rw [houtcome]
      exact iff_of_false nofun fun hq => hown hq.2.1
    · rw [hrun]
      exact h.store v hv

/-- A platform on which every port but 3002 is free. -/
def portPlatform : Platform Rehearsal.Cast :=
  { castPlatform 40 fun _ => [] with portIsFree := fun port => pure (port != 3002) }

/-- A project's own port, which a running launch of another project holds; a number that is
no port; the port of a launch that has ended; and the port of a third project. -/
def portWorld : World Rehearsal.Cast where
  store := { Store.empty with
    launches :=
      [⟨3, ⟨"c", ⟨"/c"⟩⟩, "serve", ⟨"/c"⟩, 0, none, some 3003, 0, some 0, 0, some 0⟩,
        ⟨2, ⟨"b", ⟨"/b"⟩⟩, "serve", ⟨"/b"⟩, 0, none, some 68540, 0, none, 1, none⟩,
        ⟨1, ⟨"a", ⟨"/a"⟩⟩, "serve", ⟨"/a"⟩, 0, none, some 3001, 0, none, 1, none⟩]
    ports := [⟨⟨"/d"⟩, 3003⟩, ⟨⟨"/srv"⟩, 3001⟩] }
  now := 0
  journal := []
  outside := []

theorem pickPort_chooses_past_held :
    portPlatform.StandsStill (· != 3002) portWorld
      ∧ ((pickPort portPlatform ⟨"/srv"⟩).run.run portWorld).1 = .ok 3004
      ∧ IsLeast {q | Spare (· != 3002) portWorld.store q} 3004 := by
  have hsame : ∀ v, portPlatform.Leads portWorld v → v = portWorld := by
    intro v hv
    induction hv with
    | refl => rfl
    | others _ ih => exact ih
    | probed _ port ih => exact ih
  have hstill : portPlatform.StandsStill (· != 3002) portWorld :=
    ⟨fun _ _ _ => rfl, fun v hv => by rw [hsame v hv]⟩
  have hpicked : ((pickPort portPlatform ⟨"/srv"⟩).run.run portWorld).1 = .ok 3004 := by
    decide +kernel
  refine ⟨hstill, hpicked, ?_⟩
  rcases ((pickPort_chooses hstill ⟨"/srv"⟩).2.1 3004).mp hpicked with hown | hspare
  · exact absurd hown.1 (by decide +kernel)
  · exact hspare.2

end Supervisor

end Overseer
