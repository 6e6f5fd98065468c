/-
Overseer.Proofs.Supervisor.Reporting — waiting for the pid of a child.

The wrapper of a new launch notes the child's pid, writes lines, marks the
launch as ended and exits, and the supervisor looks for the pid meanwhile. One
look is two observations: the record is read, and if it has no pid the wrapper
is asked for. `awaitPid_reports`: whatever the wrapper does before a look and
between two looks, a start is given up only if the store holds no pid for the
launch, and a record that is given has the pid that the store holds. Asked for
is only that no pid arrives between the two observations of one look.

That cannot be dispensed with: a child that ends at once lets its wrapper be
done between the two, and the start is given up although its pid is in the
store (`awaitPid_gives_up_on_reported`).

The proof carries one fact along the looks, that the store holds the pid that
was read, and a start is given up only when nobody can change that any more.
-/
import Mathlib.Data.List.Basic
import Overseer.Proofs.Store.Waning
import Overseer.Proofs.Supervisor.Triple

namespace Overseer

namespace Store

/-! ## 1. The pid of a launch -/

/-- The pid that the store holds for a launch; 0 means that none was reported. -/
def reported? (s : Store) (id : Int) : Option Nat := (s.launch? id).map (·.pid)

/-- The store shows no running record of the launch. -/
def IsOver (s : Store) (id : Int) : Prop := ∀ r ∈ s.launch? id, r.running = false

/-- A mark changes no pid. -/
theorem reported?_markExited (s : Store) (now id code id' : Int) :
    (s.markExited now id code).2.reported? id' = s.reported? id' := by
  by_cases hran : ∃ r ∈ s.launches, r.id = id ∧ r.isActive = true
  · rw [markExited_of_active hran, reported?,
      launch?_updateLaunch (f := LaunchRow.endedWith now code) (fun _ => rfl), reported?, launch?,
      Option.map_map, Option.map_map]
    congr 1
    funext r
    simp only [Function.comp]
    split <;> rfl
  · rw [markExited_of_not_active hran]

/-- A launch that is over stays over when it is marked. -/
theorem IsOver.markExited {s : Store} {id : Int} (h : s.IsOver id) (now id' code : Int) :
    (s.markExited now id' code).2.IsOver id := by
  by_cases hran : ∃ r ∈ s.launches, r.id = id' ∧ r.isActive = true
  · rw [markExited_of_active hran]
    intro r hr
    rw [launch?_updateLaunch (f := LaunchRow.endedWith now code) (fun _ => rfl)] at hr
    obtain ⟨row, hrow, rfl⟩ := Option.map_eq_some_iff.mp hr
    split
    · rfl
    · exact h row.record (by rw [launch?, hrow]; rfl)
  · rw [markExited_of_not_active hran]
    exact h

end Store

namespace Supervisor

open Store (Operation)

variable {σ : Type} {p : Platform σ} {id : Int} {gone : σ → Prop}

/-! ## 2. What a wrapper is trusted with -/

/-- The wrapper is gone, or it has ended its launch. -/
def Finished (id : Int) (gone : σ → Prop) (w : World σ) : Prop :=
  gone w.outside ∨ w.store.IsOver id

/-- A wrapper reports the child's pid before it ends the launch, and does nothing
more when it is gone. Before that it may do anything whenever others act and
while the supervisor waits. -/
structure Platform.ReportsFirst (p : Platform σ) (id : Int) (gone : σ → Prop) : Prop where
  told : ∀ wrapper w, ((p.exited? wrapper).run w).1.isSome = true ∨ Finished id gone w →
    Finished id gone ((p.exited? wrapper).run w).2
  others : ∀ w, Finished id gone w → Finished id gone (p.others.run w).2
    ∧ (p.others.run w).2.store.reported? id = w.store.reported? id

/-- No pid is reported while the supervisor asks whether the wrapper is gone. -/
def Platform.KeepsPidWhenAsked (p : Platform σ) (id : Int) : Prop :=
  ∀ wrapper w, ((p.exited? wrapper).run w).2.store.reported? id = w.store.reported? id

/-- The store holds this pid for the launch. -/
def Holds (id : Int) (pid : Nat) (w : World σ) : Prop := w.store.reported? id = some pid

/-- The store holds no pid for the launch. -/
def Unreported (id : Int) (w : World σ) : Prop := ∀ pid ∈ w.store.reported? id, pid = 0

theorem Holds.unreported {w : World σ} (h : Holds id 0 w) : Unreported id w := by
  intro pid hpid
  have hsame : some 0 = some pid := h.symm.trans hpid
  exact (Option.some.inj hsame).symm

/-! ## 3. Giving a start up -/

section

variable (hp : p.ReportsFirst id gone)
include hp

theorem markExited_unreported (code : Int) :
    Does (fun w => Finished id gone w ∧ Holds id 0 w) (markExited p id code)
      (fun _ w => Finished id gone w ∧ Holds id 0 w) (Unreported id) := by
  have hothers : Asks (fun w => Finished id gone w ∧ Holds id 0 w) p.others
      fun _ w => Finished id gone w ∧ Holds id 0 w := by
    rintro w ⟨hover, hpid⟩
    obtain ⟨hover', hsame⟩ := hp.others w hover
    exact ⟨hover', hsame.trans hpid⟩
  refine does_markExited hothers ?_
  rintro now w ⟨hover, hpid⟩
  refine ⟨hover.imp_right fun h => h.markExited now id code, ?_⟩
  exact (Store.reported?_markExited w.store now id code id).trans hpid

theorem startFault_unreported :
    Does (fun w => Finished id gone w ∧ Holds id 0 w) (startFault p id)
      (fun _ => Unreported id) (Unreported id) := by
  have hread : Does (fun w => Finished id gone w ∧ Holds id 0 w)
      (access p fun s => (s.lastOfType id .stderr).map fun line => (line, s))
      (fun _ => Unreported id) (Unreported id) := by
    have hothers : Asks (fun w => Finished id gone w ∧ Holds id 0 w) p.others
        fun _ => Unreported id := by
      rintro w ⟨hover, hpid⟩
      exact Holds.unreported ((hp.others w hover).2.trans hpid)
    refine does_access hothers ?_ fun _ _ hw _ => hw
    intro w x s hw hline
    rcases hlast : w.store.lastOfType id .stderr with fault | line
    · rw [hlast] at hline
      cases hline
    · rw [hlast] at hline
      cases hline
      exact hw
  rw [startFault_eq]
  refine hread.attempt.bind fun answer => does_pure fun w hw => ?_
  rcases answer with _ | _
  · exact hw
  · exact hw

/-- A start is given up only without a pid in the store. -/
theorem giveUp_unreported {α : Type} (code : Int) (next : Unit → Act σ α)
    {Q : α → World σ → Prop} :
    Does (fun w => Finished id gone w ∧ Holds id 0 w) (do
      let _ ← markExited p id code
      throw (← startFault p id)
      next ()) Q (Unreported id) := by
  refine (markExited_unreported hp code).bind fun _ => ?_
  refine (startFault_unreported hp).bind fun _ => ?_
  exact does_throw_bind fun _ hw => hw

/-! ## 4. Looking for the pid -/

variable (hasked : p.KeepsPidWhenAsked id)
include hasked

/-- One look: what it decides is decided by what the store holds. -/
theorem lookForPid_reports {wrapper : Wrapper} {next : ProcessRecord → Act σ ProcessRecord}
    (hnext : ∀ r : ProcessRecord, r.pid = 0 →
      Does (Holds id 0) (next r) (fun r => Holds id r.pid) (Unreported id)) :
    Does (fun _ => True) (lookForPid p id wrapper next) (fun r => Holds id r.pid)
      (Unreported id) := by
  have hothers : Asks (fun _ => True) p.others fun _ _ => True := fun _ _ => trivial
  have hread : Does (fun _ : World σ => True) (look p fun s => s.launch? id)
      (fun record? w => w.store.launch? id = record?) (Unreported id) :=
    does_look hothers fun _ _ => rfl
  refine hread.bind fun record? => ?_
  rcases record? with _ | record
  · refine does_throw fun w hw pid hpid => ?_
    rw [Store.reported?, hw] at hpid
    cases hpid
  by_cases hpid : record.pid ≠ 0
  · simp only [ne_eq, hpid, not_false_eq_true, if_true]
    exact does_pure fun w hw => by rw [Holds, Store.reported?, hw]; rfl
  -- Until the start is given up the store holds the 0 that was read, and a
  -- record that was read as over is one reason to give it up.
  simp only [hpid, if_false]
  replace hpid : record.pid = 0 := by simpa using hpid
  have hask : Asks (fun w => w.store.launch? id = some record) (p.exited? wrapper)
      fun exit w => Holds id 0 w
        ∧ (exit.isSome = true ∨ record.running = false → Finished id gone w) := by
    intro w hw
    refine ⟨(hasked wrapper w).trans (by rw [Store.reported?, hw, ← hpid]; rfl), ?_⟩
    intro hover
    refine hp.told wrapper w (hover.imp_right fun hrunning => Or.inr ?_)
    intro r hr
    rw [hw] at hr
    rwa [← Option.some.inj hr]
  refine hask.lift.bind fun exit => ?_
  cases hover : !record.running || exit.isSome with
  | true =>
    refine Does.pre (giveUp_unreported hp _ fun _ => next record) ?_
    rintro w ⟨hholds, hfinished⟩
    refine ⟨hfinished ?_, hholds⟩
    simpa [or_comm] using hover
  | false => exact (hnext record hpid).pre fun w hw => hw.1

theorem pollPid_reports (wrapper : Wrapper) (left : Nat) :
    Does (fun _ => True) (pollPid p id wrapper left) (fun r => Holds id r.pid)
      (Unreported id) := by
  induction left with
  | zero =>
    rw [pollPid_zero]
    refine lookForPid_reports hp hasked fun r hpid => does_pure fun w hw => ?_
    rwa [hpid]
  | succ left ih =>
    rw [pollPid_succ]
    refine lookForPid_reports hp hasked fun r _ => ?_
    exact Does.bind (Q := fun _ _ => True) (Asks.lift fun _ _ => trivial) fun _ => ih

/-- **A start is given up only if the store holds no pid for the launch**, and a
record that is given has the pid that the store holds. -/
theorem awaitPid_reports (settings : Settings) (wrapper : Wrapper) (start : World σ) :
    let after := (awaitPid p settings id wrapper).run.run start
    (∀ record, after.1 = .ok record → after.2.store.reported? id = some record.pid)
      ∧ ∀ fault, after.1 = .error fault → ∀ pid ∈ after.2.store.reported? id, pid = 0 := by
  intro after
  have hpoll : Does (fun _ => True) (awaitPid p settings id wrapper) (fun r => Holds id r.pid)
      (Unreported id) := pollPid_reports hp hasked wrapper _
  have hafter := does_iff.mp hpoll start trivial
  have hrun : (awaitPid p settings id wrapper).run.run start = after := rfl
  rw [hrun] at hafter
  rcases after with ⟨fault | record, w⟩
  · refine ⟨fun r hr => ?_, fun _ _ => hafter⟩
    cases hr
  · refine ⟨fun r hr => ?_, fun f hf => ?_⟩
    · obtain rfl := Except.ok.inj hr
      exact hafter
    · cases hf

end

/-! ## 5. One wrapper and its deeds -/

/-- A platform with one wrapper, which has some deeds left and is gone when they
are done. It does the next one while the supervisor waits; a hasty one does all
of them while it is asked for. -/
def deedsPlatform (hasty : Bool) (code : Int) : Platform (List Operation) where
  isAlive _ := pure true
  signal _ _ := pure true
  killTree _ _ := pure true
  portIsFree _ := pure true
  spawn _ _ := pure ⟨40⟩
  exited? _ := fun w =>
    let w := if hasty then { w with store := w.store.run w.outside, outside := [] } else w
    (if w.outside.isEmpty then some (some code) else none, w)
  sleep _ := fun w =>
    match w.outside with
    | [] => ((), w)
    | deed :: rest => ((), { w with store := w.store.step deed, outside := rest })

theorem deedsPlatform_reportsFirst (hasty : Bool) (code id : Int) :
    (deedsPlatform hasty code).ReportsFirst id (· = []) where
  told wrapper w := by
    cases hasty with
    | true => exact fun _ => Or.inl rfl
    | false =>
      rintro (htold | hfinished)
      · refine Or.inl ?_
        rcases hdeeds : w.outside with _ | ⟨deed, rest⟩
        · exact hdeeds
        · have hnone : ((deedsPlatform false code).exited? wrapper).run w = (none, w) := by
            simp [deedsPlatform, StateT.run, hdeeds]
          rw [hnone] at htold
          cases htold
      · exact hfinished
  others _ hfinished := ⟨hfinished, rfl⟩

theorem deedsPlatform_keepsPidWhenAsked (code id : Int) :
    (deedsPlatform false code).KeepsPidWhenAsked id := fun _ _ => rfl

/-- The world in which a launch was recorded and its wrapper has these deeds left. -/
def begun (deeds : List Operation) : World (List Operation) :=
  ⟨Store.empty.run [.create 0 ⟨"web", ⟨"/srv"⟩⟩ "serve" ⟨"/srv"⟩ none], 0, [], deeds⟩

/-- What a wrapper does about a child that starts and ends at once. -/
def briefDeeds : List Operation :=
  [.updatePid 1 60, .append 0 1 ⟨"web", ⟨"/srv"⟩⟩ 1 "Process started (pid 60)" .started,
    .append 0 1 ⟨"web", ⟨"/srv"⟩⟩ 2 "Process exited with code 0" .exited, .markExited 0 1 0]

/-- The brief child is found by its pid; a child that cannot be started is given up. -/
theorem awaitPid_reports_brief :
    let settings := Settings.standard ⟨"wrapper"⟩
    let await (deeds : List Operation) :=
      (awaitPid (deedsPlatform false 0) settings 1 ⟨40⟩).run.run (begun deeds)
    (∃ record, (await briefDeeds).1 = .ok record ∧ record.pid = 60
        ∧ (await briefDeeds).2.store.reported? 1 = some record.pid)
      ∧ (∃ fault, (await [.markExited 0 1 127]).1 = .error fault)
      ∧ ∀ pid ∈ (await [.markExited 0 1 127]).2.store.reported? 1, pid = 0 := by
  intro settings await
  have hreports (deeds : List Operation) := awaitPid_reports
    (deedsPlatform_reportsFirst false 0 1) (deedsPlatform_keepsPidWhenAsked 0 1) settings ⟨40⟩
    (begun deeds)
  have hbrief : (await briefDeeds).1 = .ok ⟨1, "web", "serve", ⟨"/srv"⟩, ⟨"/srv"⟩, 60, none, none,
      0, none, true, none⟩ := by decide +kernel
  have hfailed : (await [.markExited 0 1 127]).1 = .error (.startFailed (.wrapperExited 1)) := by
    decide +kernel
  exact ⟨⟨_, hbrief, rfl, (hreports briefDeeds).1 _ hbrief⟩, ⟨_, hfailed⟩,
    (hreports [.markExited 0 1 127]).2 _ hfailed⟩

/-- **A child whose pid is in the store is given up**: the wrapper was done
between the two observations of one look. -/
theorem awaitPid_gives_up_on_reported :
    let p := deedsPlatform true 0
    let after := (awaitPid p (Settings.standard ⟨"wrapper"⟩) 1 ⟨40⟩).run.run (begun briefDeeds)
    p.ReportsFirst 1 (· = [])
      ∧ after.1 = .error (.startFailed (.wrapperExited 1))
      ∧ after.2.store.reported? 1 = some 60 := by
  intro p after
  exact ⟨deedsPlatform_reportsFirst true 0 1, by decide +kernel, by decide +kernel⟩

end Supervisor

end Overseer
