/-
Overseer.Proofs.Store.LaunchTable — what happens to the launches of a store.

`LaunchChange` lists what one operation can do to the table of launches: add a
row that runs, note a pid, end a row that runs, or drop rows that do not run.
Every law on launches goes through these five cases.

`LaunchesSound` is the invariant: a row runs and has neither end nor exit code,
or it is over and has both; numbers fall along the table and none was given out
later than the highest one; and a row of a service stands only above rows of
that service which are over. From any sound store, and so from the empty one,
every history leads to a sound store.
-/
import Overseer.Proofs.Store.History
import Overseer.Proofs.Store.Operations

namespace Overseer

namespace LaunchRow

/-- Runs, with neither end nor exit code. -/
def IsOngoing (r : LaunchRow) : Prop := r.running = 1 ∧ r.finish = none ∧ r.exitCode = none

/-- Has ended, at a known time and with a known exit code. -/
def IsOver (r : LaunchRow) : Prop :=
  r.running = 0 ∧ r.finish.isSome = true ∧ r.exitCode.isSome = true

/-- A later row for the same launch, of which only the pids may be others. -/
def SameCourse (r r' : LaunchRow) : Prop :=
  r'.id = r.id ∧ r'.key = r.key ∧ r'.running = r.running ∧ r'.finish = r.finish
    ∧ r'.exitCode = r.exitCode

/-- Stands above an older row: has the higher number, and if both are of one
service the older one does not run. -/
def Supersedes (r older : LaunchRow) : Prop :=
  older.id < r.id ∧ (r.key = older.key → older.isActive = false)

theorem SameCourse.refl (r : LaunchRow) : r.SameCourse r := ⟨rfl, rfl, rfl, rfl, rfl⟩

theorem IsOngoing.isActive {r : LaunchRow} (h : r.IsOngoing) : r.isActive = true :=
  (isActive_eq_true_iff r).mpr h.1

theorem IsOver.isActive {r : LaunchRow} (h : r.IsOver) : r.isActive = false := by
  rw [isActive_eq_false_iff, h.1]
  decide

/-- Numbers fall along the table. -/
def InOrder (rows : List LaunchRow) : Prop := rows.Pairwise fun r older => older.id < r.id

theorem isOver_endedWith (now code : Int) (r : LaunchRow) : (r.endedWith now code).IsOver :=
  ⟨rfl, rfl, rfl⟩

theorem SameCourse.isActive {r r' : LaunchRow} (h : r.SameCourse r') :
    r'.isActive = r.isActive := by
  simp [LaunchRow.isActive, h.2.2.1]

end LaunchRow

namespace Store

/-! ## 1. What one operation can do -/

/-- What an operation other than a sweep does to the launches, with the numbers it
gives out and the launches it ends. -/
inductive LaunchChange (s : Store) (op : Operation) (s' : Store) :
    List Int → List Int → Prop where
  | untouched (launches : s'.launches = s.launches) (last : s'.lastLaunch = s.lastLaunch) :
    LaunchChange s op s' [] []
  | created (row : LaunchRow) (number : row.id = s.lastLaunch + 1) (ongoing : row.IsOngoing)
      (alone : s.hasActive row.key = false)
      (launches : s'.launches = row :: s.launches) (last : s'.lastLaunch = row.id) :
    LaunchChange s op s' [row.id] []
  | noted (change : LaunchRow → LaunchRow) (same : ∀ r : LaunchRow, r.SameCourse (change r))
      (launches : s'.launches = s.launches.map change) (last : s'.lastLaunch = s.lastLaunch) :
    LaunchChange s op s' [] []
  | ended (now id code : Int) (ran : ∃ r ∈ s.launches, r.id = id ∧ r.isActive = true)
      (launches : s'.launches
        = s.launches.map fun r => if r.id = id then r.endedWith now code else r)
      (last : s'.lastLaunch = s.lastLaunch) :
    LaunchChange s op s' [] [id]
  | dropped (pass : op.isCleanup = true) (keep : LaunchRow → Bool)
      (active : ∀ r : LaunchRow, r.isActive = true → keep r = true)
      (launches : s'.launches = s.launches.filter keep) (last : s'.lastLaunch = s.lastLaunch) :
    LaunchChange s op s' [] []

/-- **The five cases**: every law on launches is proved from them. -/
theorem launchChange_step (s : Store) {op : Operation} (h : op.isSweep = false) :
    LaunchChange s op (s.step op) (s.issued op) (s.ended op) := by
  cases op with
  | create now key command directory port =>
    cases hok : s.create now key command directory port with
    | error fault =>
      simp only [step, issued, ended, hok]
      exact .untouched rfl rfl
    | ok made =>
      obtain ⟨id, s'⟩ := made
      simp only [step, issued, ended, hok]
      obtain ⟨_, halone, rfl, rfl⟩ := create_eq_ok_iff.mp hok
      exact .created (s.newRow now key command directory port) rfl ⟨rfl, rfl, rfl⟩ halone rfl rfl
  | updatePid id pid =>
    rcases step_updatePid s id pid with hstep | hstep
    · rw [hstep]
      exact .untouched rfl rfl
    · rw [hstep]
      refine .noted (fun r => if r.id = id then { r with pid := pid } else r) ?_ rfl rfl
      intro r
      split <;> exact ⟨rfl, rfl, rfl, rfl, rfl⟩
  | rejectPids rejects => exact .untouched rfl rfl
  | updateWrapperPid id pid =>
    refine .noted (fun r => if r.id = id then { r with wrapperPid := some (pid : Int) } else r)
      ?_ rfl rfl
    intro r
    split <;> exact ⟨rfl, rfl, rfl, rfl, rfl⟩
  | markExited now id code =>
    by_cases hran : ∃ r ∈ s.launches, r.id = id ∧ r.isActive = true
    · simp only [step, issued, ended, markExited_of_active hran, if_true]
      exact .ended now id code hran rfl rfl
    · simp only [step, issued, ended, markExited_of_not_active hran]
      exact .untouched rfl rfl
  | sweepDead now alive => cases h
  | append now launch key line content type =>
    simp only [step, issued, ended, append, nextNumber]
    by_cases hfull : s.lastOutput < lastNumber
    · simp only [hfull, if_true]
      exact .untouched rfl rfl
    · simp only [hfull, if_false]
      exact .untouched rfl rfl
  | clear key => exact .untouched rfl rfl
  | assignPort project port => exact .untouched rfl rfl
  | cleanup now policy =>
    exact .dropped rfl _ (fun r hr => isActive_kept hr _ _) (cleanup_launches s now policy) rfl

/-! ## 2. The invariant -/

/-- The launches of a store belong together. -/
structure LaunchesSound (s : Store) : Prop where
  rows : ∀ r ∈ s.launches, r.IsOngoing ∨ r.IsOver
  numbers : ∀ r ∈ s.launches, r.id ≤ s.lastLaunch
  order : s.launches.Pairwise LaunchRow.Supersedes

theorem launchesSound_empty : LaunchesSound empty :=
  ⟨by simp [empty], by simp [empty], List.Pairwise.nil⟩

/-- A change of rows that keeps number and service and lets none run again keeps
the order of the table. -/
theorem pairwise_supersedes_map {rows : List LaunchRow} {change : LaunchRow → LaunchRow}
    (number : ∀ r, (change r).id = r.id) (key : ∀ r, (change r).key = r.key)
    (active : ∀ r : LaunchRow, r.isActive = false → (change r).isActive = false)
    (h : rows.Pairwise LaunchRow.Supersedes) :
    (rows.map change).Pairwise LaunchRow.Supersedes := by
  refine h.map change ?_
  intro r older hr
  refine ⟨by rw [number, number]; exact hr.1, ?_⟩
  intro hkey
  rw [key, key] at hkey
  exact active older (hr.2 hkey)

theorem not_isActive_of_hasActive {s : Store} {key : ServiceKey} (h : s.hasActive key = false)
    {r : LaunchRow} (hr : r ∈ s.launches) (hkey : r.key = key) : r.isActive = false := by
  have hno := List.any_eq_false.mp h r hr
  simpa [hkey] using hno

theorem LaunchChange.sound {s s' : Store} {op : Operation} {numbers ends : List Int}
    (h : LaunchChange s op s' numbers ends) (hs : LaunchesSound s) :
    LaunchesSound s' := by
  cases h with
  | untouched launches last =>
    exact ⟨by rw [launches]; exact hs.rows, by rw [launches, last]; exact hs.numbers,
      by rw [launches]; exact hs.order⟩
  | created row number ongoing alone launches last =>
    constructor
    · intro r hr
      rw [launches] at hr
      rcases List.mem_cons.mp hr with rfl | hr
      · exact Or.inl ongoing
      · exact hs.rows r hr
    · intro r hr
      rw [launches] at hr
      rcases List.mem_cons.mp hr with rfl | hr
      · omega
      · have := hs.numbers r hr
        omega
    · rw [launches]
      refine List.Pairwise.cons ?_ hs.order
      intro r hr
      have hle := hs.numbers r hr
      exact ⟨by omega, fun hkey => not_isActive_of_hasActive alone hr hkey.symm⟩
  | noted change same launches last =>
    constructor
    · intro r' hr'
      rw [launches] at hr'
      obtain ⟨r, hr, rfl⟩ := List.mem_map.mp hr'
      obtain ⟨_, _, hrunning, hfinish, hcode⟩ := same r
      simpa only [LaunchRow.IsOngoing, LaunchRow.IsOver, hrunning, hfinish, hcode]
        using hs.rows r hr
    · intro r' hr'
      rw [launches] at hr'
      obtain ⟨r, hr, rfl⟩ := List.mem_map.mp hr'
      rw [(same r).1, last]
      exact hs.numbers r hr
    · rw [launches]
      exact pairwise_supersedes_map (fun r => (same r).1) (fun r => (same r).2.1)
        (fun r hr => by rw [(same r).isActive]; exact hr) hs.order
  | ended now id code ran launches last =>
    constructor
    · intro r' hr'
      rw [launches] at hr'
      obtain ⟨r, hr, rfl⟩ := List.mem_map.mp hr'
      split
      · exact Or.inr (r.isOver_endedWith now code)
      · exact hs.rows r hr
    · intro r' hr'
      rw [launches] at hr'
      obtain ⟨r, hr, rfl⟩ := List.mem_map.mp hr'
      rw [last]
      split <;> exact hs.numbers r hr
    · rw [launches]
      refine pairwise_supersedes_map (fun r => ?_) (fun r => ?_) (fun r hr => ?_) hs.order
      · split <;> rfl
      · split <;> rfl
      · split
        · exact r.isActive_endedWith now code
        · exact hr
  | dropped pass keep active launches last =>
    constructor
    · intro r hr
      rw [launches] at hr
      exact hs.rows r (List.mem_filter.mp hr).1
    · intro r hr
      rw [launches] at hr
      rw [last]
      exact hs.numbers r (List.mem_filter.mp hr).1
    · rw [launches]
      exact hs.order.filter keep

theorem launchesSound_step {s : Store} (hs : LaunchesSound s) (op : Operation) :
    LaunchesSound (s.step op) :=
  step_induction (P := LaunchesSound) (fun _ _ s hop => (launchChange_step s hop).sound) hs

/-- **Every history keeps the launches sound.** -/
theorem launchesSound_run {s : Store} (hs : LaunchesSound s) (history : List Operation) :
    LaunchesSound (s.run history) :=
  run_induction (P := LaunchesSound) (fun _ op h => launchesSound_step h op) hs history

/-- Of two rows of a sound store one stands above the other. -/
theorem LaunchesSound.eq_or_supersedes {s : Store} (hs : LaunchesSound s) {r r' : LaunchRow}
    (hr : r ∈ s.launches) (hr' : r' ∈ s.launches) :
    r = r' ∨ r.Supersedes r' ∨ r'.Supersedes r :=
  List.Pairwise.forall_of_forall_of_flip
    (R := fun r r' => r = r' ∨ r.Supersedes r' ∨ r'.Supersedes r)
    (fun _ _ => Or.inl rfl) (hs.order.imp fun h => Or.inr (Or.inl h))
    (hs.order.imp fun h => Or.inr (Or.inr h)) hr hr'

theorem LaunchesSound.inOrder {s : Store} (hs : LaunchesSound s) :
    LaunchRow.InOrder s.launches :=
  hs.order.imp fun h => h.1

/-- Of a number there is one row at most. -/
theorem eq_of_inOrder {rows : List LaunchRow} (h : LaunchRow.InOrder rows) {r r' : LaunchRow}
    (hr : r ∈ rows) (hr' : r' ∈ rows) (hid : r.id = r'.id) : r = r' := by
  refine List.Pairwise.forall_of_forall_of_flip (R := fun r r' => r.id = r'.id → r = r')
    (fun _ _ _ => rfl) (h.imp fun hlt heq => ?_) (h.imp fun hlt heq => ?_) hr hr' hid
  all_goals omega

theorem LaunchesSound.eq_of_id {s : Store} (hs : LaunchesSound s) {r r' : LaunchRow}
    (hr : r ∈ s.launches) (hr' : r' ∈ s.launches) (hid : r.id = r'.id) : r = r' :=
  eq_of_inOrder hs.inOrder hr hr' hid

theorem find?_of_inOrder {rows : List LaunchRow} (h : LaunchRow.InOrder rows) {r : LaunchRow}
    (hr : r ∈ rows) : rows.find? (·.id == r.id) = some r := by
  have hsome : (rows.find? (·.id == r.id)).isSome = true := by
    rw [List.find?_isSome]
    exact ⟨r, hr, by simp⟩
  obtain ⟨found, hfound⟩ := Option.isSome_iff_exists.mp hsome
  have hid : found.id = r.id := by simpa using List.find?_some hfound
  rw [hfound, eq_of_inOrder h (List.mem_of_find?_eq_some hfound) hr hid]

/-! ## 3. Numbers -/

/-- Numbers fall along the table, and none was given out later than the highest
one. Of a store with rows that were written by anyone this is all there is. -/
structure Numbered (s : Store) : Prop where
  order : LaunchRow.InOrder s.launches
  numbers : ∀ r ∈ s.launches, r.id ≤ s.lastLaunch

theorem LaunchesSound.numbered {s : Store} (hs : LaunchesSound s) : Numbered s :=
  ⟨hs.inOrder, hs.numbers⟩

theorem running_none (s : Store) :
    s.running none = (s.launches.filter (·.isActive)).reverse.map (·.record) := by
  simp [running]

theorem mem_running_none {s : Store} {r : ProcessRecord} :
    r ∈ s.running none ↔ ∃ row ∈ s.launches, row.isActive = true ∧ row.record = r := by
  simp [running_none, and_assoc]

/-- Running launches are listed by rising numbers. -/
theorem Numbered.running {s : Store} (hs : Numbered s) :
    (s.running none).Pairwise fun r later => r.id < later.id := by
  rw [running_none, List.pairwise_map, List.pairwise_reverse]
  exact List.Pairwise.filter _ hs.order

theorem numbered_map {s s' : Store} {change : LaunchRow → LaunchRow}
    (hid : ∀ r, (change r).id = r.id) (launches : s'.launches = s.launches.map change)
    (last : s'.lastLaunch = s.lastLaunch) (hs : Numbered s) : Numbered s' := by
  refine ⟨?_, fun r' hr' => ?_⟩
  · rw [launches]
    refine List.pairwise_map.mpr (hs.order.imp fun {r older} hlt => ?_)
    rwa [hid, hid]
  · rw [launches] at hr'
    obtain ⟨r, hr, rfl⟩ := List.mem_map.mp hr'
    rw [hid, last]
    exact hs.numbers r hr

theorem LaunchChange.numbered {s s' : Store} {op : Operation} {numbers ends : List Int}
    (h : LaunchChange s op s' numbers ends) (hs : Numbered s) : Numbered s' := by
  cases h with
  | untouched launches last =>
    exact ⟨by rw [launches]; exact hs.order, by rw [launches, last]; exact hs.numbers⟩
  | created row number ongoing alone launches last =>
    constructor
    · rw [launches]
      refine List.Pairwise.cons (fun r hr => ?_) hs.order
      have := hs.numbers r hr
      omega
    · intro r hr
      rw [launches] at hr
      rcases List.mem_cons.mp hr with rfl | hr
      · omega
      · have := hs.numbers r hr
        omega
  | noted change same launches last => exact numbered_map (fun r => (same r).1) launches last hs
  | ended now id code ran launches last =>
    exact numbered_map (fun r => by split <;> rfl) launches last hs
  | dropped pass keep active launches last =>
    constructor
    · rw [launches]
      exact hs.order.filter keep
    · intro r hr
      rw [launches] at hr
      rw [last]
      exact hs.numbers r (List.mem_filter.mp hr).1

theorem numbered_run {s : Store} (hs : Numbered s) (history : List Operation) :
    Numbered (s.run history) :=
  run_induction (P := Numbered) (fun _ _ h => step_induction (P := Numbered)
    (fun _ _ s hop => (launchChange_step s hop).numbered) h) hs history

end Store

end Overseer
