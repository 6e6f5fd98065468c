/-
Overseer.Proofs.Store.LaunchEnd — a launch ends once, and stays as it ended.

A launch may be ended by its wrapper, by a kill, by a sweep or after a failed
start, in any order and by any number of parties. `launch_ends_once` says what
all of them can rely on after any history:

* a record runs and has neither end nor exit code, or it has stopped and has both;
* of all who try to end a launch one at most is told that it did;
* from then on end and exit code stay, until retention drops the record;
* what is addressed to one launch leaves all other records and every line alone.

The invariant behind the third point is `Settled`: the rows of a number are over
in one and the same way, and the number was given out already, so that no new
launch gets it.
-/
import Overseer.Proofs.Store.LaunchTable

namespace Overseer.Store

/-! ## 1. Settled launches -/

/-- The launch of a number is over, with a given end and exit code, as far as the
store still holds it, and no new launch gets the number. -/
structure Settled (s : Store) (id : Int) (finish code : Option Int) : Prop where
  used : id ≤ s.lastLaunch
  rows : ∀ r ∈ s.launches, r.id = id → r.running = 0 ∧ r.finish = finish ∧ r.exitCode = code

section Changes

variable {s s' : Store} {op : Operation} {numbers ends : List Int} {id : Int}
  {finish code : Option Int}

/-- Nobody ends a settled launch. -/
theorem LaunchChange.not_mem_ends (h : LaunchChange s op s' numbers ends)
    (hs : Settled s id finish code) : id ∉ ends := by
  cases h with
  | ended now id' code' ran launches last =>
    intro hid
    obtain ⟨r, hr, hrid, hactive⟩ := ran
    have hover := (hs.rows r hr (hrid.trans (List.mem_singleton.mp hid).symm)).1
    rw [LaunchRow.isActive_eq_true_iff, hover] at hactive
    exact absurd hactive (by decide)
  | _ => exact List.not_mem_nil

theorem LaunchChange.length_ends_le (h : LaunchChange s op s' numbers ends) :
    ends.length ≤ 1 := by
  cases h <;> simp

theorem LaunchChange.settled (h : LaunchChange s op s' numbers ends)
    (hs : Settled s id finish code) : Settled s' id finish code := by
  have hends := h.not_mem_ends hs
  obtain ⟨hused, hrows⟩ := hs
  cases h with
  | untouched launches last => exact ⟨by rw [last]; exact hused, by rw [launches]; exact hrows⟩
  | created row number ongoing alone launches last =>
    refine ⟨by omega, ?_⟩
    intro r hr hid
    rw [launches] at hr
    rcases List.mem_cons.mp hr with rfl | hr
    · omega
    · exact hrows r hr hid
  | noted change same launches last =>
    refine ⟨by rw [last]; exact hused, ?_⟩
    intro r' hr' hid
    rw [launches] at hr'
    obtain ⟨r, hr, rfl⟩ := List.mem_map.mp hr'
    obtain ⟨hsame, _, hrunning, hfinish, hcode⟩ := same r
    rw [hrunning, hfinish, hcode]
    exact hrows r hr (hsame ▸ hid)
  | ended now id' code' ran launches last =>
    refine ⟨by rw [last]; exact hused, ?_⟩
    intro r' hr' hid
    rw [launches] at hr'
    obtain ⟨r, hr, rfl⟩ := List.mem_map.mp hr'
    by_cases hother : r.id = id'
    · rw [if_pos hother] at hid
      exact absurd (List.mem_singleton.mpr (hid.symm.trans hother)) hends
    · rw [if_neg hother] at hid ⊢
      exact hrows r hr hid
  | dropped pass keep active launches last =>
    refine ⟨by rw [last]; exact hused, ?_⟩
    intro r hr hid
    rw [launches] at hr
    exact hrows r (List.mem_filter.mp hr).1 hid

/-- A launch that was just ended is settled, and the store holds it. -/
theorem LaunchChange.settled_of_mem_ends (h : LaunchChange s op s' numbers ends)
    (hs : LaunchesSound s) (hid : id ∈ ends) :
    (∃ finish code, Settled s' id (some finish) (some code)) ∧ ∃ r ∈ s'.launches, r.id = id := by
  cases h with
  | ended now id' code' ran launches last =>
    obtain rfl := List.mem_singleton.mp hid
    obtain ⟨r, hr, rfl, _⟩ := ran
    refine ⟨⟨now, code', by rw [last]; exact hs.numbers r hr, ?_⟩, ?_⟩
    · intro row' hrow' hrowid
      rw [launches] at hrow'
      obtain ⟨row, hrow, rfl⟩ := List.mem_map.mp hrow'
      by_cases hsame : row.id = r.id
      · rw [if_pos hsame]
        exact ⟨rfl, rfl, rfl⟩
      · rw [if_neg hsame] at hrowid
        exact absurd hrowid hsame
    · rw [launches]
      exact ⟨_, List.mem_map.mpr ⟨r, hr, if_pos rfl⟩, rfl⟩
  | _ => cases hid

/-- Only retention takes rows out. -/
theorem LaunchChange.exists_row (h : LaunchChange s op s' numbers ends)
    (hop : op.isCleanup = false) (hrow : ∃ r ∈ s.launches, r.id = id) :
    ∃ r ∈ s'.launches, r.id = id := by
  obtain ⟨r, hr, rfl⟩ := hrow
  cases h with
  | untouched launches last => exact ⟨r, by rw [launches]; exact hr, rfl⟩
  | created row number ongoing alone launches last =>
    exact ⟨r, by rw [launches]; exact List.mem_cons_of_mem _ hr, rfl⟩
  | noted change same launches last =>
    exact ⟨change r, by rw [launches]; exact List.mem_map_of_mem hr, (same r).1⟩
  | ended now id' code' ran launches last =>
    refine ⟨_, by rw [launches]; exact List.mem_map_of_mem hr, ?_⟩
    split <;> rfl
  | dropped pass keep active launches last =>
    rw [hop] at pass
    cases pass

end Changes

/-! ## 2. Along a history -/

variable {s : Store} {id : Int} {finish code : Option Int} {history : List Operation}

theorem settled_run (hs : Settled s id finish code) (history : List Operation) :
    Settled (s.run history) id finish code :=
  run_induction (P := fun s => Settled s id finish code)
    (fun _ _ h => step_induction (P := fun s => Settled s id finish code)
      (fun _ _ s hop => (launchChange_step s hop).settled) h) hs history

theorem exists_row_run (hclean : ∀ op ∈ history, op.isCleanup = false)
    (hrow : ∃ r ∈ s.launches, r.id = id) : ∃ r ∈ (s.run history).launches, r.id = id :=
  run_induction_of_mem (P := fun s => ∃ r ∈ s.launches, r.id = id)
    (fun _ hop _ h => step_induction (P := fun s => ∃ r ∈ s.launches, r.id = id)
      (fun _ ho s hsweep => (launchChange_step s hsweep).exists_row
        (isCleanup_of_mem_writes ho (hclean _ hop))) h) hrow

theorem not_mem_told_ended (hs : Settled s id finish code)
    (hplain : ∀ op ∈ history, op.isSweep = false) : id ∉ told ended s history := by
  induction history generalizing s with
  | nil => exact List.not_mem_nil
  | cons op history ih =>
    have hchange := launchChange_step s (hplain op List.mem_cons_self)
    intro hid
    rcases List.mem_append.mp hid with hid | hid
    · exact hchange.not_mem_ends hs hid
    · exact ih (hchange.settled hs) (fun o ho => hplain o (List.mem_cons_of_mem _ ho)) hid

/-- A history in which a launch is ended leaves it settled. -/
theorem settled_of_mem_told_ended (hs : LaunchesSound s)
    (hplain : ∀ op ∈ history, op.isSweep = false) (hid : id ∈ told ended s history) :
    (∃ finish code, Settled (s.run history) id (some finish) (some code))
      ∧ ((∀ op ∈ history, op.isCleanup = false) → ∃ r ∈ (s.run history).launches, r.id = id) := by
  induction history generalizing s with
  | nil => cases hid
  | cons op history ih =>
    have hchange := launchChange_step s (hplain op List.mem_cons_self)
    rcases List.mem_append.mp hid with hid | hid
    · obtain ⟨⟨finish, code, hsettled⟩, hrow⟩ := hchange.settled_of_mem_ends hs hid
      refine ⟨⟨finish, code, settled_run hsettled history⟩, ?_⟩
      intro hclean
      rw [run_cons]
      exact exists_row_run (fun o ho => hclean o (List.mem_cons_of_mem _ ho)) hrow
    · obtain ⟨hsettled, hrow⟩ := ih (hchange.sound hs)
        (fun o ho => hplain o (List.mem_cons_of_mem _ ho)) hid
      exact ⟨hsettled, fun hclean => hrow fun o ho => hclean o (List.mem_cons_of_mem _ ho)⟩

theorem count_told_ended_of_plain (hs : LaunchesSound s)
    (hplain : ∀ op ∈ history, op.isSweep = false) : (told ended s history).count id ≤ 1 := by
  induction history generalizing s with
  | nil => exact Nat.zero_le _
  | cons op history ih =>
    have hchange := launchChange_step s (hplain op List.mem_cons_self)
    have htail : ∀ o ∈ history, o.isSweep = false :=
      fun o ho => hplain o (List.mem_cons_of_mem _ ho)
    rw [told, List.count_append]
    by_cases hid : id ∈ s.ended op
    · obtain ⟨⟨finish, code, hsettled⟩, _⟩ := hchange.settled_of_mem_ends hs hid
      have hrest := List.count_eq_zero.mpr (not_mem_told_ended hsettled htail)
      have hcount := List.count_le_length (a := id) (l := s.ended op)
      have hone := hchange.length_ends_le
      omega
    · have := ih (hchange.sound hs) htail
      rw [List.count_eq_zero.mpr hid]
      omega

/-- Of all who try to end a launch one at most is told that it did. -/
theorem count_told_ended (hs : LaunchesSound s) (history : List Operation) (id : Int) :
    (told ended s history).count id ≤ 1 := by
  rw [← told_ended_plain]
  exact count_told_ended_of_plain hs fun _ => isSweep_of_mem_plain

/-- What an operation ends is settled by it, and the store holds it. -/
theorem settled_of_mem_ended (hs : LaunchesSound s) {op : Operation} (hid : id ∈ s.ended op) :
    (∃ finish code, Settled (s.step op) id (some finish) (some code))
      ∧ ∃ r ∈ (s.step op).launches, r.id = id := by
  have hop : op.isCleanup = false := by
    cases op with
    | cleanup now policy => cases hid
    | _ => rfl
  rw [← told_ended_writes] at hid
  obtain ⟨hsettled, hrow⟩ := settled_of_mem_told_ended hs (fun _ => isSweep_of_mem_writes) hid
  rw [run_writes] at hsettled hrow
  exact ⟨hsettled, hrow fun _ ho => isCleanup_of_mem_writes ho hop⟩

/-! ## 3. What is addressed to one launch -/

/-- The launch to which an operation is addressed. -/
def Operation.addressee? : Operation → Option Int
  | .updatePid id _ => some id
  | .updateWrapperPid id _ => some id
  | .markExited _ id _ => some id
  | _ => none

/-- An addressed operation changes the rows of its launch or nothing at all. -/
theorem step_of_addressee {op : Operation} (h : op.addressee? = some id) (s : Store) :
    s.step op = s ∨ ∃ change : LaunchRow → LaunchRow, (∀ r, (change r).id = r.id)
      ∧ s.step op = s.updateLaunch id change := by
  cases op with
  | updatePid id' pid =>
    obtain rfl := Option.some.inj h
    rcases step_updatePid s id' pid with hstep | hstep
    · exact Or.inl hstep
    · exact Or.inr ⟨fun r => { r with pid := pid }, fun _ => rfl, hstep⟩
  | updateWrapperPid id' pid =>
    obtain rfl := Option.some.inj h
    exact Or.inr ⟨fun r => { r with wrapperPid := some (pid : Int) }, fun _ => rfl, rfl⟩
  | markExited now id' code =>
    obtain rfl := Option.some.inj h
    by_cases hran : ∃ r ∈ s.launches, r.id = id' ∧ r.isActive = true
    · refine Or.inr ⟨LaunchRow.endedWith now code, fun _ => rfl, ?_⟩
      simp only [step, markExited_of_active hran]
    · exact Or.inl (by simp only [step, markExited_of_not_active hran])
  | _ => cases h

theorem filter_updateLaunch {change : LaunchRow → LaunchRow} (hid : ∀ r, (change r).id = r.id)
    (s : Store) (id : Int) :
    (s.updateLaunch id change).launches.filter (fun r => r.id != id)
      = s.launches.filter fun r => r.id != id := by
  unfold updateLaunch
  induction s.launches with
  | nil => rfl
  | cons r rows ih =>
    by_cases hr : r.id = id
    · simpa [hr, hid] using ih
    · simpa [hr, hid] using ih

/-- An addressed operation leaves the rows of all other launches, every line and
every assignment of a port as they were. -/
theorem frame_of_addressee {op : Operation} (h : op.addressee? = some id) (s : Store) :
    (s.step op).launches.filter (fun r => r.id != id) = s.launches.filter (fun r => r.id != id)
      ∧ (s.step op).output = s.output ∧ (s.step op).ports = s.ports := by
  rcases step_of_addressee h s with hstep | ⟨change, hid, hstep⟩
  · rw [hstep]
    exact ⟨rfl, rfl, rfl⟩
  · rw [hstep]
    exact ⟨filter_updateLaunch hid s id, rfl, rfl⟩

theorem filter_markExited_others (s : Store) (now id code : Int) :
    (s.markExited now id code).2.launches.filter (fun r => r.id != id)
      = s.launches.filter fun r => r.id != id := by
  have haddressee : (Operation.markExited now id code).addressee? = some id := rfl
  exact (frame_of_addressee haddressee s).1

/-- A mark leaves all but the launches as it was. -/
theorem markExited_rest (s : Store) (now id code : Int) :
    (s.markExited now id code).2
      = { s with launches := (s.markExited now id code).2.launches } := by
  by_cases hran : ∃ r ∈ s.launches, r.id = id ∧ r.isActive = true
  · rw [markExited_of_active hran]
    rfl
  · rw [markExited_of_not_active hran]

/-- A launch is the same in two stores that agree on a part with its rows. -/
theorem launch?_of_filter {s' : Store} {keep : LaunchRow → Bool}
    (h : s'.launches.filter keep = s.launches.filter keep)
    (hkeep : ∀ r : LaunchRow, r.id = id → keep r = true) : s'.launch? id = s.launch? id := by
  have hfind (rows : List LaunchRow) :
      rows.find? (·.id == id) = (rows.filter keep).find? (·.id == id) := by
    rw [List.find?_filter]
    congr 1
    funext r
    by_cases hr : r.id = id
    · simp [hr, hkeep r hr]
    · simp [hr]
  rw [launch?, launch?, hfind, h, ← hfind]

/-- A new line changes no launch, and no line that was there. -/
theorem frame_of_append (s : Store) (now launch : Int) (key : ServiceKey) (line : Int)
    (content : String) (type : LogType) :
    (s.step (.append now launch key line content type)).launches = s.launches
      ∧ s.output <:+ (s.step (.append now launch key line content type)).output := by
  simp only [step, append, nextNumber]
  by_cases hfull : s.lastOutput < lastNumber
  · simp only [hfull, if_true]
    exact ⟨rfl, List.suffix_cons _ _⟩
  · simp only [hfull, if_false]
    exact ⟨rfl, List.suffix_refl _⟩

/-! ## 4. Records -/

theorem record_of_sound (hs : LaunchesSound s) {r : LaunchRow} (hr : r ∈ s.launches) :
    (r.record.running = true ↔ r.record.finish = none ∧ r.record.exitCode = none)
      ∧ (r.record.running = false ↔ r.record.finish ≠ none ∧ r.record.exitCode ≠ none) := by
  rcases hs.rows r hr with ⟨hrunning, hfinish, hcode⟩ | ⟨hrunning, hfinish, hcode⟩
  · simp [LaunchRow.record, hrunning, hfinish, hcode]
  · obtain ⟨finish, hfinish⟩ := Option.isSome_iff_exists.mp hfinish
    obtain ⟨code, hcode⟩ := Option.isSome_iff_exists.mp hcode
    simp [LaunchRow.record, hrunning, hfinish, hcode]

theorem Settled.launch? (hs : Settled s id finish code) {r : ProcessRecord}
    (hr : s.launch? id = some r) :
    r.running = false ∧ r.finish = finish ∧ r.exitCode = code.map fun c => Word.wrap 32 c := by
  obtain ⟨row, hfind, rfl⟩ := Option.map_eq_some_iff.mp hr
  have hid : row.id = id := by simpa using List.find?_some hfind
  obtain ⟨hrunning, hfinish, hcode⟩ := hs.rows row (List.mem_of_find?_eq_some hfind) hid
  simp [LaunchRow.record, hrunning, hfinish, hcode]

theorem exists_launch?_of_row (h : ∃ r ∈ s.launches, r.id = id) : ∃ r, s.launch? id = some r := by
  obtain ⟨r, hr, hid⟩ := h
  have hsome : (s.launches.find? (·.id == id)).isSome = true := by
    rw [List.find?_isSome]
    exact ⟨r, hr, by simpa using hid⟩
  obtain ⟨row, hrow⟩ := Option.isSome_iff_exists.mp hsome
  exact ⟨row.record, by simp [launch?, hrow]⟩

/-- **A launch ends once.** -/
theorem launch_ends_once (history : List Operation) (id : Int) :
    (∀ r ∈ (empty.run history).launches,
        (r.record.running = true ↔ r.record.finish = none ∧ r.record.exitCode = none)
          ∧ (r.record.running = false ↔ r.record.finish ≠ none ∧ r.record.exitCode ≠ none))
      ∧ (told ended empty history).count id ≤ 1
      ∧ (∀ op, id ∈ (empty.run history).ended op →
          ∃ finish code, ∀ later,
            (∀ r, (empty.run (history ++ op :: later)).launch? id = some r →
                r.running = false ∧ r.finish = some finish ∧ r.exitCode = some code)
              ∧ ((∀ o ∈ later, o.isCleanup = false) →
                ∃ r, (empty.run (history ++ op :: later)).launch? id = some r))
      ∧ (∀ op : Operation, op.addressee? = some id →
          let s := empty.run history
          (s.step op).launches.filter (fun r => r.id != id)
              = s.launches.filter (fun r => r.id != id)
            ∧ (s.step op).output = s.output ∧ (s.step op).ports = s.ports)
      ∧ ∀ now key line content type,
          let s := empty.run history
          (s.step (.append now id key line content type)).launches = s.launches
            ∧ s.output <:+ (s.step (.append now id key line content type)).output := by
  have hs := launchesSound_run launchesSound_empty history
  refine ⟨fun r hr => record_of_sound hs hr, count_told_ended launchesSound_empty history id, ?_,
    fun op hop => frame_of_addressee hop _,
    fun now key line content type => frame_of_append _ now id key line content type⟩
  intro op hid
  obtain ⟨⟨finish, code, hsettled⟩, hrow⟩ := settled_of_mem_ended hs hid
  refine ⟨finish, Word.wrap 32 code, ?_⟩
  intro later
  rw [run_append, run_cons]
  constructor
  · intro r hr
    exact (settled_run hsettled later).launch? hr
  · intro hclean
    exact exists_launch?_of_row (exists_row_run hclean hrow)

/-- The exit code that comes first stays, whoever else marks the launch or sweeps. -/
theorem launch_ends_once_with_first_code :
    let begins : String → Operation := fun service =>
      .create 0 ⟨service, ⟨"/srv"⟩⟩ "serve" ⟨"/srv"⟩ none
    let history := [begins "web", begins "db"]
    let ends : Operation := .markExited 5 1 3
    let later := [.sweepDead 6 fun _ => false, .markExited 7 1 (-9), .updatePid 1 77]
    let s := empty.run (history ++ ends :: later)
    1 ∈ (empty.run history).ended ends
      ∧ (∃ r, s.launch? 1 = some r ∧ r.running = false ∧ r.finish = some 5 ∧ r.exitCode = some 3)
      ∧ (told ended empty (history ++ ends :: later)).count 1 ≤ 1
      ∧ (s.step (.updatePid 1 88)).launches.filter (fun r => r.id != 1)
        = s.launches.filter (fun r => r.id != 1) := by
  intro begins history ends later s
  have hends : 1 ∈ (empty.run history).ended ends := by decide +kernel
  obtain ⟨_, _, hsettled, _, _⟩ := launch_ends_once history 1
  obtain ⟨finish, code, hlater⟩ := hsettled ends hends
  obtain ⟨hstays, hkept⟩ := hlater later
  obtain ⟨_, honce, _, hframe, _⟩ := launch_ends_once (history ++ ends :: later) 1
  refine ⟨hends, ?_, honce, (hframe (.updatePid 1 88) rfl).1⟩
  obtain ⟨r, hr⟩ := hkept (by simp [later, Operation.isCleanup])
  obtain ⟨_, hfinish, hcode⟩ := (hlater []).1 _ rfl
  obtain rfl : 5 = finish := Option.some.inj hfinish
  obtain rfl : 3 = code := Option.some.inj hcode
  exact ⟨r, hr, hstays r hr⟩

end Overseer.Store
