/-
Overseer.Proofs.Supervisor.Assigning — when a project is refused a port.

A port that a running launch of another project holds is refused, and running means what
the store says: `assignPort_goes_by_store`. Nobody asks about processes first, so a launch
whose processes are gone stands in the way until a sweep has found that out
(`assignPort_refused_for_dead`). With a sweep before it, it is the living launches that
decide.

If the port is given, one row of one table has changed (`assignedPort?_assignPort`), and if
it is refused, nothing has.
-/
import Overseer.Proofs.Supervisor.Picking
import Overseer.Proofs.Supervisor.Sweeping

namespace Overseer

namespace Store

variable {s : Store}

/-! ## 1. The table of ports -/

/-- A row is found under its project's name, whatever its place, and hides no other. -/
theorem find?_insertPortRow {row : PortRow} {rows : List PortRow}
    (h : ∀ r ∈ rows, r.project ≠ row.project) (project : Path) :
    (insertPortRow row rows).find? (·.project == project)
      = if project = row.project then some row else rows.find? (·.project == project) := by
  induction rows with
  | nil =>
    by_cases hrow : project = row.project
    · simp [insertPortRow, hrow]
    · simp [insertPortRow, hrow, Ne.symm hrow]
  | cons r rows ih =>
    obtain ⟨hr, hrows⟩ := List.forall_mem_cons.mp h
    rw [insertPortRow]
    split
    · rw [List.find?_cons, List.find?_cons, ih hrows]
      by_cases hrow : project = row.project
      · have hother : (r.project == project) = false := by simpa [hrow] using hr
        simp only [hother, if_pos hrow]
      · simp only [if_neg hrow]
    · by_cases hrow : project = row.project
      · simp [hrow]
      · have hother : (row.project == project) = false := by simpa using Ne.symm hrow
        rw [List.find?_cons, hother, if_neg hrow]

/-- **What an assignment changes**: the port of the project, and that of no other. -/
theorem assignedPort?_assignPort (s : Store) (project other : Path) {port : Nat}
    (hport : IsPort port) : (s.assignPort project port).assignedPort? other
      = if other = project then some port else s.assignedPort? other := by
  have hrows : ∀ r ∈ s.ports.filter (·.project != project), r.project ≠ project :=
    fun r hr => by simpa using (List.mem_filter.mp hr).2
  have hrow : (s.assignPort project port).ports.find? (·.project == other)
      = if other = project then some ⟨project, port⟩
        else (s.ports.filter (·.project != project)).find? (·.project == other) :=
    find?_insertPortRow hrows other
  by_cases hproject : other = project
  · rw [assignedPort?, hrow, if_pos hproject, if_pos hproject, Option.bind_some]
    exact fits?_eq_some_iff.mpr ⟨rfl, hport⟩
  · have hkept : (s.ports.filter (·.project != project)).find? (·.project == other)
        = s.ports.find? (·.project == other) := by
      rw [List.find?_filter]
      refine congrArg (s.ports.find? ·) (funext fun r => ?_)
      by_cases hr : r.project = other
      · simp [hr, hproject]
      · simp [hr]
    rw [assignedPort?, hrow, if_neg hproject, if_neg hproject, hkept, assignedPort?]

/-- A running launch of another project holds the port. -/
def HoldsElsewhere (s : Store) (project : Path) (port : Nat) : Prop :=
  ∃ r ∈ s.running none, r.port = some port ∧ r.project.sameParts project = false

instance (s : Store) (project : Path) (port : Nat) : Decidable (s.HoldsElsewhere project port) :=
  inferInstanceAs (Decidable (∃ r ∈ s.running none, _ ∧ _))

end Store

namespace Supervisor

open Store (Numbered Operation IsPort)

variable {σ : Type} {p : Platform σ} {settings : Settings} {project : Path} {port : Nat}

/-! ## 2. One call -/

theorem any_holdsElsewhere_iff {s : Store} :
    (s.running none).any (holdsElsewhere project port) = true
      ↔ s.HoldsElsewhere project port := by
  simp only [List.any_eq_true, holdsElsewhere, Bool.and_eq_true, beq_iff_eq, Bool.not_eq_true',
    Store.HoldsElsewhere]

/-- All that a call can do: it is refused, or it writes its row. -/
theorem assignPort_run (p : Platform σ) (project : Path) (port : Nat) (w : World σ) :
    let listing := (p.others.run w).2
    let writing := (p.others.run listing).2
    (assignPort p project port).run.run w
      = if (listing.store.running none).any (holdsElsewhere project port) then
          (.error (.portTaken port), listing)
        else (.ok (), { writing with store := writing.store.assignPort project port }) := by
  intro listing writing
  have hlook : (look p fun s => s.running none).run.run w
      = (.ok (listing.store.running none), listing) := access_run rfl
  rw [assignPort, run_bind_of_ok hlook]
  cases (listing.store.running none).any (holdsElsewhere project port) with
  | true => rfl
  | false =>
    have hpass : (pure () : Act σ Unit).run.run listing = (.ok (), listing) := rfl
    have hwrite : (access p fun s => .ok ((), s.assignPort project port)).run.run listing
        = (.ok (), { writing with store := writing.store.assignPort project port }) :=
      access_run rfl
    exact hwrite

/-- A sweep, and then the call. -/
def sweepAndAssign (p : Platform σ) (settings : Settings) (project : Path) (port : Nat) :
    Act σ Unit := do
  let _ ← sweep p settings
  assignPort p project port

section

variable {w : World σ} {alive : Nat → Bool} {starting : ProcessRecord → Bool}
  {calm : World σ → Prop}

/-- After a sweep those who hold the port live. -/
theorem sweepAndAssign_run (hp : p.Steady settings w.store alive starting calm)
    (hs : Numbered w.store) (hcalm : calm w) :
    ((sweepAndAssign p settings project port).run.run w).1
      = if (w.store.running none).any fun r =>
          lives alive starting r && holdsElsewhere project port r then
          .error (.portTaken port)
        else .ok () := by
  obtain ⟨swept, hswept, s', -, hruns, hcalm', hstore⟩ :=
    (sweep_calm (E := fun _ _ => False) hp hs).goes_through ⟨hcalm, rfl⟩
  have hrun : (sweep p settings).run.run w
      = (.ok swept, ((sweep p settings).run.run w).2) := Prod.ext hswept rfl
  have hlisting : (p.others.run ((sweep p settings).run.run w).2).2.store = s' :=
    (hp.quiet.others _ hcalm').trans hstore
  have hliving : (s'.running none).any (holdsElsewhere project port)
      = (w.store.running none).any fun r =>
          lives alive starting r && holdsElsewhere project port r := by
    rw [hruns, List.any_filter]
  rw [sweepAndAssign, run_bind_of_ok hrun, assignPort_run, hlisting, hliving]
  split <;> rfl

end

/-- **Who is refused a port.** A call is refused exactly if a running launch of another project
holds the port, alive or not, and then changes nothing. Or else it succeeds: the port is the
project's, every other project has the one it had, and nothing else is changed in the store.
With a sweep before it, while nobody else acts, it is refused exactly if a launch that is alive
holds the port. -/
theorem assignPort_goes_by_store (p : Platform σ) (w : World σ) (project : Path) {port : Nat}
    (hport : IsPort port) :
    let run := (assignPort p project port).run.run w
    let listing := (p.others.run w).2
    let writing := (p.others.run listing).2
    (run.1 = .error (.portTaken port) ↔ listing.store.HoldsElsewhere project port)
    ∧ (listing.store.HoldsElsewhere project port → run.2 = listing)
    ∧ (¬ listing.store.HoldsElsewhere project port → run.1 = .ok ()
        ∧ run.2.store.assignedPort? project = some port
        ∧ (∀ other, other ≠ project →
            run.2.store.assignedPort? other = writing.store.assignedPort? other)
        ∧ run.2 = { writing with store := { writing.store with ports := run.2.store.ports } })
    ∧ ∀ settings alive starting calm, p.Steady settings w.store alive starting calm → calm w →
        Numbered w.store →
          let tidy := (sweepAndAssign p settings project port).run.run w
          let living := ∃ r ∈ w.store.running none, r.port = some port
            ∧ r.project.sameParts project = false ∧ ((isRecordAlive p settings r).run w).1 = true
          (tidy.1 = .error (.portTaken port) ↔ living) ∧ (tidy.1 = .ok () ↔ ¬ living) := by
  intro run listing writing
  have hrun : run = _ := assignPort_run p project port w
  have hheld : (listing.store.running none).any (holdsElsewhere project port) = true
      ↔ listing.store.HoldsElsewhere project port := any_holdsElsewhere_iff
  have hafter : ∀ settings alive starting calm,
      p.Steady settings w.store alive starting calm → calm w → Numbered w.store →
        let tidy := (sweepAndAssign p settings project port).run.run w
        let living := ∃ r ∈ w.store.running none, r.port = some port
          ∧ r.project.sameParts project = false ∧ ((isRecordAlive p settings r).run w).1 = true
        (tidy.1 = .error (.portTaken port) ↔ living) ∧ (tidy.1 = .ok () ↔ ¬ living) := by
    intro settings alive starting calm hp hcalm hs tidy living
    have htidy : tidy.1 = _ := sweepAndAssign_run hp hs hcalm
    have hliving : (w.store.running none).any (fun r =>
        lives alive starting r && holdsElsewhere project port r) = true ↔ living := by
      simp only [List.any_eq_true, Bool.and_eq_true, holdsElsewhere, beq_iff_eq,
        Bool.not_eq_true']
      refine exists_congr fun r => and_congr_right fun hr => ?_
      rw [← (isRecordAlive_calm hp hr w ⟨hcalm, rfl⟩).1]
      tauto
    rw [htidy, ← hliving]
    split
    next hany => simp [hany]
    next hany => simp [hany]
  by_cases h : listing.store.HoldsElsewhere project port
  · rw [if_pos (hheld.mpr h)] at hrun
    rw [hrun]
    exact ⟨iff_of_true rfl h, fun _ => rfl, fun hnot => absurd h hnot, hafter⟩
  · rw [if_neg (mt hheld.mp h)] at hrun
    rw [hrun]
    refine ⟨iff_of_false nofun h, fun hholds => absurd hholds h, fun _ => ⟨rfl, ?_, ?_, rfl⟩,
      hafter⟩
    · exact (Store.assignedPort?_assignPort _ project project hport).trans (if_pos rfl)
    · intro other hother
      exact (Store.assignedPort?_assignPort _ project other hport).trans (if_neg hother)

/-- A launch whose child is dead holds 3500, one whose child is alive holds 3600, and the
project's own holds 3700. -/
def heldPorts : Store := Store.empty.run [
  .create 0 ⟨"api", ⟨"/other"⟩⟩ "serve" ⟨"/other"⟩ (some 3500), .updatePid 1 50,
  .create 0 ⟨"web", ⟨"/third"⟩⟩ "serve" ⟨"/third"⟩ (some 3600), .updatePid 2 51,
  .create 0 ⟨"web", ⟨"/srv"⟩⟩ "serve" ⟨"/srv"⟩ (some 3700), .updatePid 3 51]

theorem assignPort_goes_by_store_until_swept :
    let p := crowdPlatform (· == 51)
    let settings := Settings.standard ⟨"wrapper"⟩
    let w : World (List (List Operation)) := ⟨heldPorts, 9, [], []⟩
    let outcome (port : Nat) := ((assignPort p ⟨"/srv"⟩ port).run.run w).1
    let tidy (port : Nat) := ((sweepAndAssign p settings ⟨"/srv"⟩ port).run.run w).1
    outcome 3500 = .error (.portTaken 3500) ∧ tidy 3500 = .ok ()
      ∧ outcome 3600 = .error (.portTaken 3600) ∧ tidy 3600 = .error (.portTaken 3600)
      ∧ outcome 3700 = .ok ()
      ∧ ((assignPort p ⟨"/srv"⟩ 3700).run.run w).2.store.assignedPort? ⟨"/srv"⟩ = some 3700 := by
  intro p settings w outcome tidy
  have hport (port : Nat) (h : port ≤ 65535) :=
    assignPort_goes_by_store p w ⟨"/srv"⟩ (show IsPort port from h)
  have hsteady := crowdPlatform_steady (· == 51) settings heldPorts 9
  have hs : Numbered heldPorts := Store.numbered_run Store.launchesSound_empty.numbered _
  obtain ⟨hdead, -, -, hdeadTidy⟩ := hport 3500 (by decide)
  obtain ⟨halive, -, -, haliveTidy⟩ := hport 3600 (by decide)
  obtain ⟨-, -, hown, -⟩ := hport 3700 (by decide)
  have hgiven := hown (by decide +kernel)
  exact ⟨hdead.mpr (by decide +kernel),
    (hdeadTidy settings _ _ _ hsteady ⟨rfl, rfl⟩ hs).2.mpr (by decide +kernel),
    halive.mpr (by decide +kernel),
    (haliveTidy settings _ _ _ hsteady ⟨rfl, rfl⟩ hs).1.mpr (by decide +kernel),
    hgiven.1, hgiven.2.1⟩

/-- **A launch that is dead stands in the way**: nothing of it is alive, no other launch holds
the port, and the call is refused. -/
theorem assignPort_refused_for_dead :
    let p := crowdPlatform (· == 51)
    let settings := Settings.standard ⟨"wrapper"⟩
    let w : World (List (List Operation)) := ⟨heldPorts, 9, [], []⟩
    ((assignPort p ⟨"/srv"⟩ 3500).run.run w).1 = .error (.portTaken 3500)
      ∧ ¬ ∃ r ∈ heldPorts.running none, r.port = some 3500
        ∧ r.project.sameParts ⟨"/srv"⟩ = false ∧ ((isRecordAlive p settings r).run w).1 = true := by
  decide +kernel

end Supervisor

end Overseer
