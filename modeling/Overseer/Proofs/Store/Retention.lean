/-
Overseer.Proofs.Store.Retention — what a pass of retention leaves.

A pass makes five deletions one after the other, and each looks at what the ones
before have left. `cleanup_keeps_exactly` says what comes of all five, row by row
and in terms of the store before the pass: a launch stays if it runs or is young
enough for the way it ended, and a line stays if it is among the newest of its
launch, young enough, and its launch stays. So a second pass finds nothing to do.

That holds of ages which can be taken from the present in 64 bits. Among those,
longer ages keep more (`longer_ages_keep_more`). An age beyond them wraps around
to a moment that is still to come, and then more is deleted than with any
shorter one (`endless_age_keeps_less`).
-/
import Mathlib.Data.List.Basic
import Overseer.Proofs.Store.OutputTable

namespace Overseer

/-! ## 1. The newest lines of each launch -/

/-- Numbers fall along the table. -/
def OutputRow.InOrder (rows : List OutputRow) : Prop :=
  rows.Pairwise fun r older => older.id < r.id

/-- How many of the lines are of the same launch and have a higher number. -/
def OutputRow.newer (r : OutputRow) (rows : List OutputRow) : Nat :=
  rows.countP fun o => o.launch == r.launch && decide (r.id < o.id)

namespace Store

theorem tallied_cons (e : Int × Nat) (t : Tally) (launch : Int) :
    tallied (e :: t) launch = if e.1 = launch then e.2 else tallied t launch := by
  by_cases h : e.1 = launch <;> simp [tallied, h]

theorem tallied_bump (launch other : Int) (t : Tally) :
    tallied (bump launch t) other = tallied t other + if launch = other then 1 else 0 := by
  induction t with
  | nil => by_cases h : launch = other <;> simp [bump, tallied, h]
  | cons e t ih =>
    unfold bump
    split
    · rename_i he
      by_cases h : launch = other <;> simp [tallied_cons, he, h]
    · rename_i he
      rw [tallied_cons, tallied_cons, ih]
      by_cases h : e.1 = other
      · have hne : launch ≠ other := fun hl => he (h.trans hl.symm)
        simp [h, hne]
      · simp [h]

/-- No line stands above the first one of a table in order, and that one stands
above every later line of its launch. -/
theorem newer_cons {first r : OutputRow} {rows : List OutputRow} (hr : r ∈ rows)
    (h : OutputRow.InOrder (first :: rows)) :
    r.newer (first :: rows) = r.newer rows + if first.launch = r.launch then 1 else 0 := by
  have hlt := (List.pairwise_cons.mp h).1 r hr
  by_cases hl : first.launch = r.launch <;> simp [OutputRow.newer, hl, hlt]

theorem newer_first {first : OutputRow} {rows : List OutputRow}
    (h : OutputRow.InOrder (first :: rows)) : first.newer (first :: rows) = 0 := by
  have hbelow := (List.pairwise_cons.mp h).1
  rw [OutputRow.newer, List.countP_eq_zero]
  intro o ho
  rcases List.mem_cons.mp ho with rfl | ho
  · simp
  · have hlt := hbelow o ho
    simp only [Bool.and_eq_true, decide_eq_true_eq, not_and]
    omega

/-- The first lines of a launch are those with few lines above them, and what was
counted before goes on being counted. -/
theorem capOutput_eq_filter {rows : List OutputRow} (h : OutputRow.InOrder rows) (cap : Int)
    (t : Tally) :
    capOutput cap t rows
      = rows.filter fun r => decide (((tallied t r.launch + r.newer rows : Nat) : Int) < cap) := by
  induction rows generalizing t with
  | nil => rfl
  | cons first rows ih =>
    -- Counting `first` once more is what makes it stand above the lines of its launch.
    have hrest : capOutput cap (bump first.launch t) rows = rows.filter fun r =>
        decide (((tallied t r.launch + r.newer (first :: rows) : Nat) : Int) < cap) := by
      rw [ih (List.Pairwise.of_cons h)]
      refine List.filter_congr fun r hr => ?_
      rw [newer_cons hr h, tallied_bump, Nat.add_right_comm, Nat.add_assoc]
    have hfirst : ((tallied t first.launch : Int) + 1 ≤ cap)
        ↔ ((tallied t first.launch + first.newer (first :: rows) : Nat) : Int) < cap := by
      rw [newer_first h, Nat.add_zero]
      omega
    rw [capOutput, hrest, List.filter_cons]
    by_cases hkeep : (tallied t first.launch : Int) + 1 ≤ cap
    · rw [if_pos hkeep, if_pos (decide_eq_true (hfirst.mp hkeep))]
    · rw [if_neg hkeep, if_neg (by simpa using fun hlt => hkeep (hfirst.mpr hlt))]

/-- More lines are left if more are allowed. -/
theorem capOutput_sublist_of_le {cap cap' : Int} (h : cap ≤ cap') (t : Tally)
    (rows : List OutputRow) : (capOutput cap t rows).Sublist (capOutput cap' t rows) := by
  induction rows generalizing t with
  | nil => exact List.Sublist.refl _
  | cons r rows ih =>
    unfold capOutput
    by_cases hsmall : (tallied t r.launch : Int) + 1 ≤ cap
    · rw [if_pos hsmall, if_pos (Int.le_trans hsmall h)]
      exact (ih _).cons_cons r
    · rw [if_neg hsmall]
      split
      · exact (ih _).cons r
      · exact ih _

/-! ## 2. The order of the table, and moments -/

theorem inOrder_run (history : List Operation) :
    OutputRow.InOrder (empty.run history).output :=
  (outputSound_run outputSound_empty history).order

/-- The age and the moment that lies it before now are numbers of 64 bits with sign. -/
def IsWithin (now : Int) (age : Nat) : Prop :=
  (age : Int) ≤ Word.greatest 64 ∧ Word.least 64 ≤ now - age

theorem IsWithin.mono {now : Int} {age shorter : Nat} (h : IsWithin now age)
    (hle : shorter ≤ age) : IsWithin now shorter := by
  obtain ⟨hage, hmoment⟩ := h
  exact ⟨by omega, by omega⟩

theorem wrap64_eq {i : Int} (hleast : Word.least 64 ≤ i) (hgreatest : i ≤ Word.greatest 64) :
    ProcessRecord.wrap64 i = i := by
  rw [Word.least_64] at hleast
  rw [Word.greatest_64] at hgreatest
  unfold ProcessRecord.wrap64 Word.wrap
  refine Int.bmod_eq_of_le ?_ ?_ <;> rw [Word.size_64] <;> omega

theorem cutoff_eq {now : Int} {age : Nat} (hnow : now ≤ Word.greatest 64)
    (h : IsWithin now age) : cutoff now age = now - age := by
  have hage : Word.least 64 ≤ age := by
    rw [Word.least_64]
    omega
  rw [cutoff, wrap64_eq hage h.1, wrap64_eq h.2 (by omega)]

end Store

/-! ## 3. What is kept -/

/-- The launch runs, or it ended late enough for the way it ended. -/
def LaunchRow.IsKept (now : Int) (policy : RetentionPolicy) (r : LaunchRow) : Prop :=
  r.record.running = true
    ∨ now - (if r.exitCode = some 0 then policy.successAge else policy.failedAge : Nat)
      ≤ Store.endOrStart r

instance (now : Int) (policy : RetentionPolicy) (r : LaunchRow) :
    Decidable (r.IsKept now policy) :=
  inferInstanceAs (Decidable (_ ∨ _))

/-- The line is among the newest of its launch, late enough, and its launch is kept. -/
def OutputRow.IsKept (now : Int) (policy : RetentionPolicy) (s : Store) (r : OutputRow) : Prop :=
  (r.newer s.output : Int) < policy.maxLogs ∧ now - policy.logAge ≤ r.time
    ∧ ∃ l ∈ s.launches, l.id = r.launch ∧ l.IsKept now policy

instance (now : Int) (policy : RetentionPolicy) (s : Store) (r : OutputRow) :
    Decidable (r.IsKept now policy s) :=
  inferInstanceAs (Decidable (_ ∧ _ ∧ _))

namespace Store

variable {s : Store} {now : Int} {policy : RetentionPolicy}

/-- Every age of the policy can be taken from now. -/
structure FitsAt (now : Int) (policy : RetentionPolicy) : Prop where
  present : now ≤ Word.greatest 64
  logs : IsWithin now policy.logAge
  failed : IsWithin now policy.failedAge
  success : IsWithin now policy.successAge

/-- Of the two deletions only one is meant for the way a launch has ended. -/
theorem isStale_eq (h : FitsAt now policy) (r : LaunchRow) :
    (!isStaleFailure (cutoff now policy.failedAge) r
        && !isStaleSuccess (cutoff now policy.successAge) r) = decide (r.IsKept now policy) := by
  rw [cutoff_eq h.present h.failed, cutoff_eq h.present h.success, Bool.eq_iff_iff,
    decide_eq_true_iff]
  have hruns : r.record.running = true ↔ r.running ≠ 0 := by simp [LaunchRow.record]
  by_cases hover : r.running = 0
  · by_cases hcode : r.exitCode = some 0
    · simp [isStaleFailure, isStaleSuccess, LaunchRow.IsKept, hruns, hover, hcode]
    · have hfailed : (r.exitCode.getD (-1) != 0) = true := by
        rcases hexit : r.exitCode with _ | code
        · decide
        · simpa [hexit] using hcode
      simp [isStaleFailure, isStaleSuccess, LaunchRow.IsKept, hruns, hover, hcode, hfailed]
  · simp [isStaleFailure, isStaleSuccess, LaunchRow.IsKept, hruns, hover]

theorem launches_cleanup (h : FitsAt now policy) :
    (s.cleanup now policy).2.launches
      = s.launches.filter fun r => decide (r.IsKept now policy) := by
  rw [cleanup_launches]
  exact List.filter_congr fun r _ => isStale_eq h r

theorem cleanup_output (s : Store) (now : Int) (policy : RetentionPolicy) :
    (s.cleanup now policy).2.output
      = ((capOutput policy.maxLogs [] s.output).filter fun r =>
          decide (cutoff now policy.logAge ≤ r.time)).filter fun r =>
        (s.cleanup now policy).2.launches.any fun l => l.id == r.launch := rfl

theorem output_cleanup (h : FitsAt now policy) (horder : OutputRow.InOrder s.output) :
    (s.cleanup now policy).2.output
      = s.output.filter fun r => decide (r.IsKept now policy s) := by
  rw [cleanup_output, launches_cleanup h, cutoff_eq h.present h.logs,
    capOutput_eq_filter horder, List.filter_filter, List.filter_filter]
  refine List.filter_congr fun r _ => ?_
  have howned : ((s.launches.filter fun l => decide (l.IsKept now policy)).any
      fun l => l.id == r.launch) = true
        ↔ ∃ l ∈ s.launches, l.id = r.launch ∧ l.IsKept now policy := by
    simp only [List.any_eq_true, List.mem_filter, decide_eq_true_eq, beq_iff_eq, and_assoc]
    exact exists_congr fun l => and_congr_right fun _ => and_comm
  rw [Bool.eq_iff_iff, decide_eq_true_iff, Bool.and_eq_true, Bool.and_eq_true, howned]
  simp only [OutputRow.IsKept, tallied, List.find?_nil, Option.map_none, Option.getD_none,
    Nat.zero_add, decide_eq_true_eq]
  constructor
  · exact fun ⟨⟨hlaunch, hrecent⟩, hnewest⟩ => ⟨hnewest, hrecent, hlaunch⟩
  · exact fun ⟨hnewest, hrecent, hlaunch⟩ => ⟨⟨hlaunch, hrecent⟩, hnewest⟩

/-! ## 4. The report, and a second pass -/

theorem CleanupReport.eq_of_total_eq_zero {report : CleanupReport} (h : report.total = 0) :
    report = ⟨0, 0, 0, 0, 0⟩ := by
  cases report
  simp_all [CleanupReport.total]

/-- The report counts what is gone. -/
theorem total_cleanup (s : Store) (now : Int) (policy : RetentionPolicy) :
    (s.cleanup now policy).1.total + (s.cleanup now policy).2.launches.length
        + (s.cleanup now policy).2.output.length
      = s.launches.length + s.output.length := by
  have hcapped := (capOutput_sublist policy.maxLogs [] s.output).length_le
  simp only [cleanup, CleanupReport.total]
  -- Each deletion is a filter, and leaves no more rows than it found.
  have hfilter {α : Type} (keep : α → Bool) (rows : List α) :
      (rows.filter keep).length ≤ rows.length := List.length_filter_le keep rows
  generalize hrecent : (capOutput policy.maxLogs [] s.output).filter
    (fun r => decide (cutoff now policy.logAge ≤ r.time)) = recent
  have hrecent' := hrecent ▸ hfilter _ (capOutput policy.maxLogs [] s.output)
  generalize hunfailed : s.launches.filter
    (fun r => !isStaleFailure (cutoff now policy.failedAge) r) = unfailed
  have hunfailed' := hunfailed ▸ hfilter _ s.launches
  have hkept := hfilter (fun r => !isStaleSuccess (cutoff now policy.successAge) r) unfailed
  have howned := hfilter (fun r : OutputRow => (unfailed.filter fun r =>
    !isStaleSuccess (cutoff now policy.successAge) r).any fun l => l.id == r.launch) recent
  omega

/-- What is kept is kept again. -/
theorem isKept_again (h : FitsAt now policy) {r : OutputRow} (hr : r.IsKept now policy s) :
    r.IsKept now policy (s.cleanup now policy).2 := by
  obtain ⟨hnewest, hrecent, l, hl, hid, hkept⟩ := hr
  refine ⟨?_, hrecent, l, ?_, hid, hkept⟩
  · have hle : r.newer (s.cleanup now policy).2.output ≤ r.newer s.output :=
      (cleanup_output_sublist s now policy).countP_le
    omega
  · rw [launches_cleanup h]
    exact List.mem_filter.mpr ⟨hl, decide_eq_true hkept⟩

theorem cleanup_cleanup (h : FitsAt now policy) (horder : OutputRow.InOrder s.output) :
    (s.cleanup now policy).2.cleanup now policy = (⟨0, 0, 0, 0, 0⟩, (s.cleanup now policy).2) := by
  generalize hkept : (s.cleanup now policy).2 = kept
  have hlaunches : (kept.cleanup now policy).2.launches = kept.launches := by
    rw [launches_cleanup h, ← hkept, launches_cleanup h, List.filter_filter]
    simp only [Bool.and_self]
  have houtput : (kept.cleanup now policy).2.output = kept.output := by
    have horder' : OutputRow.InOrder kept.output :=
      hkept ▸ horder.sublist (cleanup_output_sublist s now policy)
    rw [output_cleanup h horder', List.filter_eq_self]
    intro r hr
    rw [← hkept, output_cleanup h horder] at hr
    have hkeeps := of_decide_eq_true (List.mem_filter.mp hr).2
    exact decide_eq_true (hkept ▸ isKept_again h hkeeps)
  have hstore : (kept.cleanup now policy).2 = kept := by
    calc (kept.cleanup now policy).2
        = { kept with
            launches := (kept.cleanup now policy).2.launches
            output := (kept.cleanup now policy).2.output } := rfl
      _ = kept := by rw [hlaunches, houtput]
  have htotal := total_cleanup kept now policy
  rw [hlaunches, houtput] at htotal
  exact Prod.ext (CleanupReport.eq_of_total_eq_zero (by omega)) hstore

/-- **What a pass of retention keeps**, row by row, and what it reports. -/
theorem cleanup_keeps_exactly (s : Store) (horder : OutputRow.InOrder s.output) (now : Int)
    (policy : RetentionPolicy) (h : FitsAt now policy) :
    let report := (s.cleanup now policy).1
    let kept := (s.cleanup now policy).2
    kept = { s with
        launches := s.launches.filter fun r => decide (r.IsKept now policy)
        output := s.output.filter fun r => decide (r.IsKept now policy s) }
      ∧ report.total + kept.launches.length + kept.output.length
        = s.launches.length + s.output.length
      ∧ kept.cleanup now policy = (⟨0, 0, 0, 0, 0⟩, kept) := by
  refine ⟨?_, total_cleanup s now policy, cleanup_cleanup h horder⟩
  rw [← launches_cleanup h, ← output_cleanup h horder]
  rfl

/-- Of three launches with an age each, and three lines of which two may stay. -/
theorem cleanup_keeps_exactly_at_bounds :
    let key (name : String) : ServiceKey := ⟨name, ⟨"/srv"⟩⟩
    let line (n : Int) : Operation := .append n 1 (key "web") n "ready" .stdout
    let history : List Operation :=
      [.create 0 (key "web") "serve" ⟨"/srv"⟩ none, line 1, line 2, line 3,
        .create 0 (key "db") "listen" ⟨"/srv"⟩ none, .markExited 10 2 0,
        .create 0 (key "api") "answer" ⟨"/srv"⟩ none, .markExited 9 3 7]
    let s := empty.run history
    let policy : RetentionPolicy := ⟨28, 20, 20, 2⟩
    let kept := (s.cleanup 30 policy).2
    kept.launches.map (·.id) = [2, 1] ∧ kept.output.map (·.id) = [3, 2]
      ∧ kept = { s with
        launches := s.launches.filter fun r => decide (r.IsKept 30 policy)
        output := s.output.filter fun r => decide (r.IsKept 30 policy s) } := by
  intro key line history s policy kept
  have hwithin : ∀ age ≤ 28, IsWithin 30 age := fun _ => IsWithin.mono ⟨by decide, by decide⟩
  have hfits : FitsAt 30 policy :=
    ⟨by decide, hwithin 28 (by decide), hwithin 20 (by decide), hwithin 20 (by decide)⟩
  exact ⟨by decide +kernel, by decide +kernel,
    (cleanup_keeps_exactly s (inOrder_run history) 30 policy hfits).1⟩

/-! ## 5. Two policies -/

/-- What is stale by an earlier moment is stale by a later one. -/
theorem isStale_of_le {moment later : Int} (h : moment ≤ later) (r : LaunchRow) :
    (isStaleFailure moment r = true → isStaleFailure later r = true)
      ∧ (isStaleSuccess moment r = true → isStaleSuccess later r = true) := by
  simp only [isStaleFailure, isStaleSuccess, Bool.and_eq_true, decide_eq_true_eq]
  exact ⟨fun hold => ⟨hold.1, Int.lt_of_lt_of_le hold.2 h⟩,
    fun hold => ⟨hold.1, Int.lt_of_lt_of_le hold.2 h⟩⟩

/-- A pass keeps more if its moments are earlier and it allows more lines. -/
theorem cleanup_sublist (s : Store) {p q : RetentionPolicy}
    (hlogs : cutoff now q.logAge ≤ cutoff now p.logAge)
    (hfailed : cutoff now q.failedAge ≤ cutoff now p.failedAge)
    (hsuccess : cutoff now q.successAge ≤ cutoff now p.successAge) (hmax : p.maxLogs ≤ q.maxLogs) :
    (s.cleanup now p).2.launches.Sublist (s.cleanup now q).2.launches
      ∧ (s.cleanup now p).2.output.Sublist (s.cleanup now q).2.output := by
  have hlaunches : (s.cleanup now p).2.launches.Sublist (s.cleanup now q).2.launches := by
    rw [cleanup_launches, cleanup_launches]
    refine List.monotone_filter_right _ fun r hr => ?_
    simp only [Bool.and_eq_true, Bool.not_eq_true', ← Bool.not_eq_true] at hr ⊢
    exact ⟨fun hold => hr.1 ((isStale_of_le hfailed r).1 hold),
      fun hold => hr.2 ((isStale_of_le hsuccess r).2 hold)⟩
  refine ⟨hlaunches, ?_⟩
  rw [cleanup_output, cleanup_output]
  have hrecent : ((capOutput p.maxLogs [] s.output).filter fun r =>
        decide (cutoff now p.logAge ≤ r.time)).Sublist
      ((capOutput q.maxLogs [] s.output).filter fun r =>
        decide (cutoff now q.logAge ≤ r.time)) := by
    refine ((capOutput_sublist_of_le hmax [] s.output).filter _).trans ?_
    refine List.monotone_filter_right _ fun r hr => ?_
    exact decide_eq_true (Int.le_trans hlogs (of_decide_eq_true hr))
  refine (hrecent.filter _).trans (List.monotone_filter_right _ fun r hr => ?_)
  obtain ⟨l, hl, hid⟩ := List.any_eq_true.mp hr
  exact List.any_eq_true.mpr ⟨l, hlaunches.subset hl, hid⟩

/-- **Longer ages and a higher number of lines keep more**, if the longer ages can
be taken from the present. -/
theorem longer_ages_keep_more (s : Store) (now : Int) (p q : RetentionPolicy) (hq : FitsAt now q)
    (hlogs : p.logAge ≤ q.logAge) (hfailed : p.failedAge ≤ q.failedAge)
    (hsuccess : p.successAge ≤ q.successAge) (hmax : p.maxLogs ≤ q.maxLogs) :
    (s.cleanup now p).2.launches.Sublist (s.cleanup now q).2.launches
      ∧ (s.cleanup now p).2.output.Sublist (s.cleanup now q).2.output := by
  have hcutoff {shorter age : Nat} (hage : IsWithin now age) (hle : shorter ≤ age) :
      cutoff now age ≤ cutoff now shorter := by
    rw [cutoff_eq hq.present hage, cutoff_eq hq.present (hage.mono hle)]
    omega
  exact cleanup_sublist s (hcutoff hq.logs hlogs) (hcutoff hq.failed hfailed)
    (hcutoff hq.success hsuccess) hmax

/-- A launch that failed a day ago, kept for an hour and kept for a week. -/
theorem longer_ages_keep_more_of_failure :
    let key : ServiceKey := ⟨"web", ⟨"/srv"⟩⟩
    let history : List Operation :=
      [.create 0 key "serve" ⟨"/srv"⟩ none, .append 0 1 key 1 "ready" .stdout, .markExited 5 1 1]
    let s := empty.run history
    let hour : RetentionPolicy := ⟨604800, 3600, 3600, 10⟩
    let week : RetentionPolicy := ⟨604800, 604800, 3600, 10⟩
    ((s.cleanup 86400 hour).2.output, (s.cleanup 86400 week).2.output.map (·.line)) = ([], [1])
      ∧ (s.cleanup 86400 hour).2.launches.Sublist (s.cleanup 86400 week).2.launches := by
  intro key history s hour week
  have hwithin : ∀ age ≤ 604800, IsWithin 86400 age :=
    fun _ => IsWithin.mono ⟨by decide, by decide⟩
  have hweek : FitsAt 86400 week :=
    ⟨by decide, hwithin _ (by decide), hwithin _ (by decide), hwithin _ (by decide)⟩
  exact ⟨by decide +kernel, (longer_ages_keep_more s 86400 hour week hweek (by decide) (by decide)
    (by decide) (by decide)).1⟩

/-- **The longest age of all keeps less than a day does**: a launch that has just
failed is deleted, as the age wraps around to a moment ahead. -/
theorem endless_age_keeps_less :
    let key : ServiceKey := ⟨"web", ⟨"/srv"⟩⟩
    let s := empty.run [.create 0 key "serve" ⟨"/srv"⟩ none, .markExited 5 1 1]
    let day : RetentionPolicy := .standard
    let endless : RetentionPolicy := { day with failedAge := Word.size 64 - 1 }
    (day.logAge ≤ endless.logAge ∧ day.failedAge ≤ endless.failedAge
        ∧ day.successAge ≤ endless.successAge ∧ day.maxLogs ≤ endless.maxLogs)
      ∧ ¬ (s.cleanup 5 day).2.launches ⊆ (s.cleanup 5 endless).2.launches := by
  intro key s day endless
  refine ⟨by decide, fun hkept => ?_⟩
  have hgone : (s.cleanup 5 endless).2.launches = [] := by decide +kernel
  have hstays : (s.cleanup 5 day).2.launches ≠ [] := by decide +kernel
  exact hstays (List.subset_nil.mp (hgone ▸ hkept))

end Store

end Overseer
