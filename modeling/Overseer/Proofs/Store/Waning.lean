/-
Overseer.Proofs.Store.Waning — running launches come by `create` and only go otherwise.

`runners` are the rows that run, newest first and without their pids, which may
be noted at any time. Whatever is done to a store but to record a new launch,
its runners afterwards are some of those before, in the same order. So what
holds of a list of runners and of every part of it stays true until the next
`create`: that two of them differ, that a port is not among theirs, that a
launch is not among them.
-/
import Overseer.Proofs.Store.LaunchEnd

namespace Overseer

/-- The row without its pids. -/
def LaunchRow.bare (r : LaunchRow) : LaunchRow := { r with pid := 0, wrapperPid := none }

theorem LaunchRow.record_port (r : LaunchRow) : r.record.port = r.port.bind (fits? 16) := rfl

theorem LaunchRow.running_record_of_isActive {r : LaunchRow} (h : r.isActive = true) :
    r.record.running = true := by
  have hrunning := (LaunchRow.isActive_eq_true_iff r).mp h
  simp [LaunchRow.record, hrunning]

theorem LaunchRow.isActive_bare (r : LaunchRow) : r.bare.isActive = r.isActive := rfl

namespace Store

/-- A new launch. -/
def Operation.isCreate : Operation → Bool
  | .create .. => true
  | _ => false

/-- The rows that run, newest first and without their pids. -/
def runners (s : Store) : List LaunchRow := (s.launches.filter (·.isActive)).map LaunchRow.bare

/-- No launch of the number runs. -/
def HasEnded (id : Int) (s : Store) : Prop := ∀ r ∈ s.launches, r.id = id → r.isActive = false

/-! ## 1. Only `create` adds -/

/-- Pids may change without a change of the runners. -/
theorem runners_updateLaunch {f : LaunchRow → LaunchRow}
    (hbare : ∀ r, (f r).bare = r.bare) (s : Store) (id : Int) :
    (s.updateLaunch id f).runners = s.runners := by
  simp only [runners, updateLaunch]
  induction s.launches with
  | nil => rfl
  | cons r rows ih =>
    have hactive : (f r).isActive = r.isActive := by
      rw [← LaunchRow.isActive_bare (f r), hbare r, LaunchRow.isActive_bare]
    by_cases hid : r.id = id
    · cases hr : r.isActive <;> simp [hid, hactive, hr, hbare, ih]
    · cases hr : r.isActive <;> simp [hid, hr, ih]

theorem runners_endedWith (now id code : Int) (rows : List LaunchRow) :
    (((rows.map fun r => if r.id = id then r.endedWith now code else r).filter
        (·.isActive)).map LaunchRow.bare).Sublist
      ((rows.filter (·.isActive)).map LaunchRow.bare) := by
  induction rows with
  | nil => exact List.Sublist.refl _
  | cons r rows ih =>
    by_cases hid : r.id = id
    · cases hr : r.isActive
      · simpa [hid, hr] using ih
      · simpa [hid, hr] using ih.cons r.bare
    · cases hr : r.isActive
      · simpa [hid, hr] using ih
      · simpa [hid, hr] using ih.cons_cons r.bare

theorem sublist_of_runners_eq {s s' : Store} (h : s'.runners = s.runners) :
    s'.runners.Sublist s.runners := by
  simp only [h, List.Sublist.refl]

theorem runners_markExited (s : Store) (now id code : Int) :
    (s.markExited now id code).2.runners.Sublist s.runners := by
  by_cases hran : ∃ r ∈ s.launches, r.id = id ∧ r.isActive = true
  · rw [markExited_of_active hran]
    exact runners_endedWith now id code s.launches
  · exact sublist_of_runners_eq (congrArg (·.2.runners) (markExited_of_not_active hran now code))

theorem runners_cleanup (s : Store) (now : Int) (policy : RetentionPolicy) :
    (s.cleanup now policy).2.runners = s.runners := by
  rw [runners, cleanup_launches, List.filter_filter]
  congr 1
  refine List.filter_congr fun r _ => ?_
  cases hr : r.isActive with
  | false => rfl
  | true => rw [isActive_kept hr, Bool.and_true]

theorem runners_write (s : Store) {op : Operation} (hsweep : op.isSweep = false)
    (h : op.isCreate = false) : (s.step op).runners.Sublist s.runners := by
  cases op with
  | create => cases h
  | updatePid id pid =>
    refine sublist_of_runners_eq ?_
    rcases step_updatePid s id pid with hstep | hstep
    · rw [hstep]
    · rw [hstep]
      exact runners_updateLaunch (f := fun r => { r with pid := pid }) (fun _ => rfl) s id
  | rejectPids rejects => exact List.Sublist.refl _
  | updateWrapperPid id pid =>
    refine sublist_of_runners_eq ?_
    exact runners_updateLaunch (f := fun r => { r with wrapperPid := some (pid : Int) })
      (fun _ => rfl) s id
  | markExited now id code => exact runners_markExited s now id code
  | sweepDead => cases hsweep
  | append now launch key line content type =>
    refine sublist_of_runners_eq ?_
    rw [runners, (frame_of_append s now launch key line content type).1, runners]
  | clear key => exact List.Sublist.refl _
  | assignPort project port => exact List.Sublist.refl _
  | cleanup now policy => exact sublist_of_runners_eq (runners_cleanup s now policy)

theorem isCreate_of_mem_writes {s : Store} {op o : Operation} (h : o ∈ s.writes op)
    (hop : op.isCreate = false) : o.isCreate = false := by
  cases op with
  | sweepDead now alive =>
    obtain ⟨r, _, rfl⟩ := List.mem_map.mp h
    rfl
  | _ => rw [List.mem_singleton.mp h]; exact hop

/-- **Only `create` adds a running launch.** -/
theorem runners_step (s : Store) {op : Operation} (h : op.isCreate = false) :
    (s.step op).runners.Sublist s.runners :=
  step_induction (P := fun s' => s'.runners.Sublist s.runners)
    (fun _ ho s' hsweep hs' => (runners_write s' hsweep (isCreate_of_mem_writes ho h)).trans hs')
    (List.Sublist.refl _)

theorem runners_run (s : Store) {history : List Operation}
    (h : ∀ op ∈ history, op.isCreate = false) : (s.run history).runners.Sublist s.runners :=
  run_induction_of_mem (P := fun s' => s'.runners.Sublist s.runners)
    (fun op hop s' hs' => (runners_step s' (h op hop)).trans hs') (List.Sublist.refl _)

/-! ## 2. What is read of the runners -/

theorem runners_create {s s' : Store} {now id : Int} {key : ServiceKey} {command : String}
    {directory : Path} {port : Option Nat}
    (hok : s.create now key command directory port = .ok (id, s')) :
    s'.runners = s.newRow now key command directory port :: s.runners := by
  obtain ⟨_, _, _, rfl⟩ := create_eq_ok_iff.mp hok
  rfl

/-- A launch that is marked as ended does not run afterwards. -/
theorem hasEnded_markExited (s : Store) (now id code : Int) :
    HasEnded id (s.markExited now id code).2 := by
  intro r hr hid
  by_cases hran : ∃ r ∈ s.launches, r.id = id ∧ r.isActive = true
  · rw [markExited_of_active hran] at hr
    obtain ⟨r₀, hr₀, rfl⟩ := List.mem_map.mp hr
    by_cases hsame : r₀.id = id
    · rw [if_pos hsame]
      exact r₀.isActive_endedWith now code
    · rw [if_neg hsame] at hid
      exact absurd hid hsame
  · rw [markExited_of_not_active hran] at hr
    exact Bool.eq_false_iff.mpr fun hactive => hran ⟨r, hr, hid, hactive⟩

theorem hasEnded_of_launch?_eq_none {id : Int} {s : Store} (h : s.launch? id = none) :
    HasEnded id s := by
  intro r hr hid
  have hnone := List.find?_eq_none.mp (Option.map_eq_none_iff.mp h) r hr
  exact absurd hid (by simpa using hnone)

theorem hasEnded_iff_runners {id : Int} {s : Store} :
    HasEnded id s ↔ ∀ r ∈ s.runners, r.id ≠ id := by
  simp only [HasEnded, runners, List.mem_map, List.mem_filter]
  constructor
  · rintro h _ ⟨r, ⟨hr, hactive⟩, rfl⟩ hid
    rw [h r hr hid] at hactive
    cases hactive
  · intro h r hr hid
    exact Bool.eq_false_iff.mpr fun hactive => h r.bare ⟨r, ⟨hr, hactive⟩, rfl⟩ hid

/-- Only a new launch runs after it had ended. -/
theorem hasEnded_step {id : Int} {s : Store} (h : HasEnded id s) {op : Operation}
    (hop : op.isCreate = false) : HasEnded id (s.step op) :=
  hasEnded_iff_runners.mpr fun r hr =>
    hasEnded_iff_runners.mp h r ((runners_step s hop).subset hr)

/-- The held ports are those of the runners. -/
theorem usedPorts_eq_runners (s : Store) :
    s.usedPorts = s.runners.reverse.filterMap fun r => r.record.port := by
  simp only [usedPorts, runners, ← List.map_reverse, List.filterMap_map]
  rfl

/-! ## 3. What a mark changes -/

theorem mem_of_launch? {s : Store} {id : Int} {r : ProcessRecord} (h : s.launch? id = some r) :
    ∃ row ∈ s.launches, row.id = id ∧ row.record = r := by
  obtain ⟨row, hfind, hrecord⟩ := Option.map_eq_some_iff.mp h
  exact ⟨row, List.mem_of_find?_eq_some hfind, by simpa using List.find?_some hfind, hrecord⟩

theorem launch?_updateLaunch {f : LaunchRow → LaunchRow} (hf : ∀ r, (f r).id = r.id) (s : Store)
    (id id' : Int) : (s.updateLaunch id f).launch? id'
      = (s.launches.find? (·.id == id')).map fun r => (if r.id = id then f r else r).record := by
  have hsame : (fun r : LaunchRow => r.id == id') ∘ (fun r => if r.id = id then f r else r)
      = fun r => r.id == id' := by
    funext r
    simp only [Function.comp]
    split
    · rw [hf]
    · rfl
  simp only [launch?, updateLaunch, List.find?_map, hsame, Option.map_map]
  rfl

/-- A launch that a mark has ended is the marked one, and has the code of the mark. -/
theorem exitCode_of_markExited {s : Store} {now id code : Int} {r r' : ProcessRecord}
    (hr : s.launch? r.id = some r) (hruns : r.running = true)
    (hr' : (s.markExited now id code).2.launch? r.id = some r') (hover : r'.running = false) :
    r.id = id ∧ r'.exitCode = some (Word.wrap 32 code) := by
  by_cases hran : ∃ row ∈ s.launches, row.id = id ∧ row.isActive = true
  · rw [markExited_of_active hran] at hr'
    replace hr' := (launch?_updateLaunch (f := LaunchRow.endedWith now code) (fun _ => rfl)
      s id r.id).symm.trans hr'
    obtain ⟨row, hfind, rfl⟩ := Option.map_eq_some_iff.mp hr'
    have hrow : row.record = r := by
      have hsome : s.launch? r.id = some row.record := by rw [launch?, hfind, Option.map_some]
      exact Option.some.inj (hsome.symm.trans hr)
    by_cases hid : row.id = id
    · rw [if_pos hid]
      exact ⟨by rw [← hrow]; exact hid, rfl⟩
    · rw [if_neg hid, hrow, hruns] at hover
      cases hover
  · rw [markExited_of_not_active hran, hr] at hr'
    obtain rfl := Option.some.inj hr'
    rw [hruns] at hover
    cases hover

/-- A mark leaves what runs afterwards as it was. -/
theorem mem_of_markExited {s : Store} {now id code : Int} {r : LaunchRow}
    (hr : r ∈ (s.markExited now id code).2.launches) (hruns : r.record.running = true) :
    r ∈ s.launches := by
  by_cases hran : ∃ row ∈ s.launches, row.id = id ∧ row.isActive = true
  · rw [markExited_of_active hran] at hr
    obtain ⟨row, hrow, rfl⟩ := List.mem_map.mp hr
    by_cases hid : row.id = id
    · rw [if_pos hid] at hruns
      cases hruns
    · rw [if_neg hid]
      exact hrow
  · rwa [markExited_of_not_active hran] at hr

end Store

end Overseer
