/-
Overseer.Proofs.Supervisor.Cleaning — cleaning up spares what is running.

Cleaning up sweeps first and deletes afterwards, so the same call may end a launch
and then come upon it as one that has ended and failed. `cleanup_spares_running`
says that no launch that ran when the call began is deleted, whatever the policy: the
launch is as it was if its processes answer, or it is marked as ended now; and no
line of it goes for want of a launch.

The argument follows one launch. Visits to other launches leave its row, the output
and the time alone (`frame_asIn`), so its own visit finds it as it was; and what has
ended now is not older than any age, 0 included, because an age is taken from now
(`launch?_cleanup`).
-/
import Overseer.Proofs.Store.Retention
import Overseer.Proofs.Supervisor.Cast
import Overseer.Proofs.Supervisor.Sweeping

namespace Overseer

/-- The launch as it is shown when it was found dead at a time. -/
def ProcessRecord.diedAt (now : Int) (r : ProcessRecord) : ProcessRecord :=
  { r with running := false, finish := some now, exitCode := some Store.foundDead }

namespace Store

/-! ## 1. What a pass leaves -/

variable {s : Store} {now : Int} {policy : RetentionPolicy} {id : Int} {r : ProcessRecord}

/-- A row that runs, or has ended now, is kept. -/
theorem isKept_of_record {row : LaunchRow}
    (h : row.record.running = true ∨ row.record.finish = some now) : row.IsKept now policy := by
  rcases h with hruns | hfinish
  · exact Or.inl hruns
  · have hend : endOrStart row = now := by
      have hrow : row.finish = some now := hfinish
      rw [endOrStart, hrow, Option.getD_some]
    exact Or.inr (by omega)

/-- A launch that runs, or has ended now, is left by a pass. -/
theorem launch?_cleanup (h : FitsAt now policy) (hs : LaunchRow.InOrder s.launches)
    (hr : s.launch? id = some r) (hkept : r.running = true ∨ r.finish = some now) :
    (s.cleanup now policy).2.launch? id = some r := by
  obtain ⟨row, hrow, rfl, rfl⟩ := mem_of_launch? hr
  have hstays : row ∈ (s.cleanup now policy).2.launches := by
    rw [launches_cleanup h]
    exact List.mem_filter.mpr ⟨hrow, decide_eq_true (isKept_of_record hkept)⟩
  have horder : LaunchRow.InOrder (s.cleanup now policy).2.launches := by
    rw [launches_cleanup h]
    exact hs.filter _
  rw [launch?, find?_of_inOrder horder hstays, Option.map_some]

/-- Its lines go for their number and their age only. -/
theorem mem_output_cleanup (h : FitsAt now policy) (horder : OutputRow.InOrder s.output)
    (hr : s.launch? id = some r) (hkept : r.running = true ∨ r.finish = some now)
    {line : OutputRow} (hline : line ∈ s.output) (hlaunch : line.launch = id) :
    line ∈ (s.cleanup now policy).2.output
      ↔ (line.newer s.output : Int) < policy.maxLogs ∧ now - policy.logAge ≤ line.time := by
  obtain ⟨row, hrow, hid, rfl⟩ := mem_of_launch? hr
  have howner : ∃ l ∈ s.launches, l.id = line.launch ∧ l.IsKept now policy :=
    ⟨row, hrow, hid.trans hlaunch.symm, isKept_of_record hkept⟩
  rw [output_cleanup h horder, List.mem_filter, decide_eq_true_iff, OutputRow.IsKept]
  constructor
  · rintro ⟨_, hnewest, hrecent, _⟩
    exact ⟨hnewest, hrecent⟩
  · rintro ⟨hnewest, hrecent⟩
    exact ⟨hline, hnewest, hrecent, howner⟩

end Store

namespace Supervisor

open Store (FitsAt Numbered Operation)

variable {σ : Type} {p : Platform σ} {settings : Settings} {policy : RetentionPolicy}

/-! ## 2. One launch among the others -/

/-- The clock stands still and nobody else uses the store; processes do as they like. -/
def Still (w w' : World σ) : Prop := w'.store = w.store ∧ w'.now = w.now

/-- The launch is held as in another world, and the output and the time are the same. -/
structure AsIn (w₀ : World σ) (id : Int) (w : World σ) : Prop where
  rows : w.store.launches.filter (·.id == id) = w₀.store.launches.filter (·.id == id)
  output : w.store.output = w₀.store.output
  now : w.now = w₀.now

section

variable {w₀ w : World σ} {id : Int} {r : ProcessRecord}

theorem AsIn.refl (w : World σ) (id : Int) : AsIn w id w := ⟨rfl, rfl, rfl⟩

theorem AsIn.launch?_eq (h : AsIn w₀ id w) : w.store.launch? id = w₀.store.launch? id :=
  Store.launch?_of_filter h.rows fun _ hid => beq_iff_eq.mpr hid

/-- A launch that is listed as running there is listed here. -/
theorem AsIn.mem_running (h : AsIn w₀ r.id w) (hr : r ∈ w₀.store.running none) :
    r ∈ w.store.running none := by
  obtain ⟨row, hrow, hactive, rfl⟩ := Store.mem_running_none.mp hr
  have hmem : row ∈ w₀.store.launches.filter (·.id == row.record.id) :=
    List.mem_filter.mpr ⟨hrow, beq_self_eq_true row.id⟩
  rw [← h.rows] at hmem
  exact Store.mem_running_none.mpr ⟨row, (List.mem_filter.mp hmem).1, hactive, rfl⟩

/-- The visits to other launches leave a launch alone. -/
theorem frame_asIn (hp : p.Within Still) (w₀ : World σ) (id : Int) :
    Frame p (AsIn w₀ id) (fun _ => True)
      fun op => ∃ now other, other ≠ id ∧ op = .markExited now other Store.foundDead where
  platform := hp.mono fun w w' ⟨hstore, hnow⟩ h =>
    ⟨by rw [hstore]; exact h.rows, by rw [hstore]; exact h.output, hnow.trans h.now⟩
  checked _ _ := trivial
  note _ _ _ h := ⟨h.rows, h.output, h.now⟩
  write := by
    rintro op ⟨now, other, hother, rfl⟩ w h
    have haddressee :
        (Store.Operation.markExited now other Store.foundDead).addressee? = some other := rfl
    obtain ⟨hothers, houtput, _⟩ := Store.frame_of_addressee haddressee w.store
    refine ⟨?_, houtput.trans h.output, h.now⟩
    -- The rows of the launch are among those of all but the one that is marked.
    have hrows (rows : List LaunchRow) :
        rows.filter (·.id == id) = (rows.filter (·.id != other)).filter (·.id == id) := by
      rw [List.filter_filter]
      refine List.filter_congr fun row _ => ?_
      cases hrow : row.id == id with
      | false => rfl
      | true => simp [beq_iff_eq.mp hrow, hother.symm]
    rw [hrows, hothers, ← hrows]
    exact h.rows

theorem asIn_sweepEach (hp : p.Within Still) {records : List ProcessRecord}
    (hrecords : ∀ r ∈ records, r.id ≠ id) (h : AsIn w₀ id w) :
    AsIn w₀ id ((sweepEach p settings records).run.run w).2 :=
  ((frame_asIn hp w₀ id).sweepEach fun now r hr => ⟨now, r.id, hrecords r hr, rfl⟩).asks w h

theorem asIn_others (hp : p.Within Still) (h : AsIn w₀ id w) : AsIn w₀ id (p.others.run w).2 :=
  (frame_asIn hp w₀ id).others w h

theorem asIn_found (hp : p.Within Still) (r : ProcessRecord) (h : AsIn w₀ id w) :
    AsIn w₀ id (asked p settings r w).2 ∧ AsIn w₀ id (found p settings r w) := by
  have hasked : AsIn w₀ id (asked p settings r w).2 := (frame_asIn hp w₀ id).isRecordAlive r w h
  refine ⟨hasked, ?_⟩
  unfold found
  split
  · exact hasked
  · exact asIn_others hp hasked

end

/-! ## 3. Its own visit -/

/-- What the visit to a listed launch is answered when a sweep that begins with the
listing comes to it. -/
def answerTo (p : Platform σ) (settings : Settings) (listing : World σ) (r : ProcessRecord) :
    Bool :=
  let before := (listing.store.running none).takeWhile (·.id != r.id)
  (asked p settings r ((sweepEach p settings before).run.run listing).2).1

theorem answerTo_of_split {listing : World σ} {r : ProcessRecord}
    {before later : List ProcessRecord} (hsplit : listing.store.running none = before ++ r :: later)
    (hbefore : ∀ b ∈ before, b.id ≠ r.id) :
    answerTo p settings listing r
      = (asked p settings r ((sweepEach p settings before).run.run listing).2).1 := by
  have htake : (listing.store.running none).takeWhile (·.id != r.id) = before := by
    rw [hsplit, List.takeWhile_append_of_pos (by simpa using hbefore)]
    simp
  rw [answerTo, htake]

theorem Still.follows {w w' : World σ} (h : Still w w') : Follows w' w := ⟨[], h.1⟩

/-- What is known of a launch after a sweep that began with a listing. -/
structure SweptTo (p : Platform σ) (settings : Settings) (listing : World σ) (r : ProcessRecord)
    (after : World σ) : Prop where
  listed : r ∈ listing.store.running none → after.store.launch? r.id
    = some (if answerTo p settings listing r then r else r.diedAt listing.now)
  unlisted : r ∉ listing.store.running none → after.store.launch? r.id = some r
  output : after.store.output = listing.store.output
  now : after.now = listing.now

theorem launch?_of_running {s : Store} (hs : Numbered s) {r : ProcessRecord}
    (hr : r ∈ s.running none) : s.launch? r.id = some r := by
  obtain ⟨row, hrow, _, rfl⟩ := Store.mem_running_none.mp hr
  have hid : row.record.id = row.id := rfl
  rw [Store.launch?, hid, Store.find?_of_inOrder hs.order hrow, Option.map_some]

/-- A launch that is not listed is not visited. -/
theorem sweptTo_unlisted (hp : p.Within Still) {listing : World σ} (hs : Numbered listing.store)
    {r : ProcessRecord} (hr : listing.store.launch? r.id = some r)
    (hlisted : r ∉ listing.store.running none) :
    SweptTo p settings listing r
      ((sweepEach p settings (listing.store.running none)).run.run listing).2 := by
  have hothers : ∀ other ∈ listing.store.running none, other.id ≠ r.id := by
    intro other hother hid
    have hsame := launch?_of_running hs hother
    rw [hid, hr] at hsame
    exact hlisted (Option.some.inj hsame ▸ hother)
  have hafter : AsIn listing r.id
      ((sweepEach p settings (listing.store.running none)).run.run listing).2 :=
    asIn_sweepEach hp hothers (.refl listing r.id)
  exact ⟨fun h => absurd h hlisted, fun _ => hafter.launch?_eq.trans hr, hafter.output, hafter.now⟩

/-- Its visit leaves a listed launch as it was, or marks it if it is found dead. -/
theorem Visited.spares (hp : p.Within Still) {listing w left : World σ} {r : ProcessRecord}
    {took : Bool} (h : Visited p settings r w took left) (hcome : AsIn listing r.id w)
    (hr : r ∈ listing.store.running none) (hs : Numbered (found p settings r w).store) :
    left.store.launch? r.id
        = some (if (asked p settings r w).1 then r else r.diedAt listing.now)
      ∧ left.store.output = listing.store.output ∧ left.now = listing.now := by
  obtain ⟨hasked, hfound⟩ := asIn_found hp r hcome
  have hruns := hfound.mem_running hr
  have hheld := launch?_of_running hs hruns
  cases h with
  | spared alive =>
    rw [alive]
    exact ⟨hheld, hfound.output, hfound.now⟩
  | missed dead idle =>
    obtain ⟨row, hrow, hactive, hrecord⟩ := Store.mem_running_none.mp hruns
    have hid : row.id = r.id := congrArg ProcessRecord.id hrecord
    rw [idle row hrow hid] at hactive
    cases hactive
  | ended dead was store held ran marked others rest =>
    obtain rfl := Option.some.inj (hheld.symm.trans held)
    refine ⟨?_, ?_, hfound.now⟩
    · rw [dead, ← hasked.now]
      exact marked
    · have houtput : store.output = (found p settings r w).store.output := by rw [rest]
      exact houtput.trans hfound.output

/-- A launch that is listed is left as it was, or marked if its visit finds it dead. -/
theorem sweptTo_listed (hp : p.Within Still) {listing : World σ} (hs : Numbered listing.store)
    {r : ProcessRecord} (hr : r ∈ listing.store.running none) :
    SweptTo p settings listing r
      ((sweepEach p settings (listing.store.running none)).run.run listing).2 := by
  obtain ⟨before, later, hsplit⟩ := List.append_of_mem hr
  obtain ⟨swept, after, hrun, _⟩ := sweepEach_ok p settings (listing.store.running none) listing
  have hrising := hs.running
  rw [hsplit] at hrising
  obtain ⟨_, hlaters, hacross⟩ := List.pairwise_append.mp hrising
  have hbefore : ∀ b ∈ before, b.id ≠ r.id := fun b hb =>
    Int.ne_of_lt (hacross b hb r List.mem_cons_self)
  have hlater : ∀ l ∈ later, l.id ≠ r.id := fun l hl =>
    (Int.ne_of_lt ((List.pairwise_cons.mp hlaters).1 l hl)).symm
  have hfollows : p.Within fun w w' => Follows w' w := hp.mono fun _ _ => Still.follows
  obtain ⟨took, _, hvisited, hnumbered, _, hafter⟩ :=
    visited_of_split hfollows hs hrising (hsplit ▸ hrun)
  have hanswer : answerTo p settings listing r
      = (asked p settings r ((sweepEach p settings before).run.run listing).2).1 :=
    answerTo_of_split hsplit hbefore
  have hcome : AsIn listing r.id ((sweepEach p settings before).run.run listing).2 :=
    asIn_sweepEach hp hbefore (.refl listing r.id)
  obtain ⟨hlaunch, houtput, hnow⟩ := hvisited.spares hp hcome hr hnumbered
  rw [← hanswer] at hlaunch
  rw [hrun, hafter]
  generalize ((sweepEach p settings (before ++ [r])).run.run listing).2 = left
    at hlaunch houtput hnow ⊢
  have hleft : AsIn left r.id ((sweepEach p settings later).run.run left).2 :=
    asIn_sweepEach hp hlater (.refl left r.id)
  exact ⟨fun _ => hleft.launch?_eq.trans hlaunch, fun h => absurd hr h,
    hleft.output.trans houtput, hleft.now.trans hnow⟩

theorem sweptTo (hp : p.Within Still) {listing : World σ} (hs : Numbered listing.store)
    {r : ProcessRecord} (hr : listing.store.launch? r.id = some r) :
    SweptTo p settings listing r
      ((sweepEach p settings (listing.store.running none)).run.run listing).2 := by
  by_cases hlisted : r ∈ listing.store.running none
  · exact sweptTo_listed hp hs hlisted
  · exact sweptTo_unlisted hp hs hr hlisted

/-- The launch is held after the sweep, running or as one that has ended now. -/
theorem SweptTo.held {listing after : World σ} {r : ProcessRecord} (hruns : r.running = true)
    (h : SweptTo p settings listing r after) : ∃ r', after.store.launch? r.id = some r'
      ∧ (r'.running = true ∨ r'.finish = some listing.now) := by
  by_cases hlisted : r ∈ listing.store.running none
  · cases hanswer : answerTo p settings listing r with
    | true => exact ⟨r, by simpa [hanswer] using h.listed hlisted, Or.inl hruns⟩
    | false => exact ⟨_, by simpa [hanswer] using h.listed hlisted, Or.inr rfl⟩
  · exact ⟨r, h.unlisted hlisted, Or.inl hruns⟩

/-! ## 4. Cleaning up -/

/-- What cleaning up comes to for a launch that ran when the call began. -/
structure SparedBy (p : Platform σ) (settings : Settings) (policy : RetentionPolicy)
    (start : World σ) (r : ProcessRecord) (after : World σ) : Prop where
  /-- A launch whose processes answer is as it was. -/
  alive : r ∈ start.store.running none → answerTo p settings (p.others.run start).2 r = true →
    after.store.launch? r.id = some r
  /-- A launch that is found dead is still there, and has ended now. -/
  dead : r ∈ start.store.running none → answerTo p settings (p.others.run start).2 r = false →
    after.store.launch? r.id = some (r.diedAt start.now)
  /-- A sweep passes over what it does not list. -/
  unlisted : r ∉ start.store.running none → after.store.launch? r.id = some r
  /-- Its lines go for their number and their age only. -/
  lines : ∀ line ∈ start.store.output, line.launch = r.id → (line ∈ after.store.output
    ↔ (line.newer start.store.output : Int) < policy.maxLogs
      ∧ start.now - policy.logAge ≤ line.time)

/-- A sweep goes through and keeps the launches numbered; each comes to what its visit
makes of it. -/
theorem sweep_sweptTo (hp : p.Within Still) (settings : Settings) {start : World σ}
    (hs : Numbered start.store) :
    ∃ swept mid, (sweep p settings).run.run start = (.ok swept, mid) ∧ Numbered mid.store
      ∧ ∀ r, start.store.launch? r.id = some r →
        SweptTo p settings (p.others.run start).2 r mid := by
  obtain ⟨hstore, _⟩ : Still start (p.others.run start).2 := hp.others start
  have hnumbered : Numbered (p.others.run start).2.store := hstore ▸ hs
  obtain ⟨swept, mid, hrun, _⟩ :=
    sweepEach_ok p settings ((p.others.run start).2.store.running none) (p.others.run start).2
  have hleft : ((sweepEach p settings ((p.others.run start).2.store.running none)).run.run
      (p.others.run start).2).2 = mid := congrArg Prod.snd hrun
  have hfollows : Follows mid (p.others.run start).2 := by
    rw [← hleft]
    exact follows_sweepEach (hp.mono fun _ _ => Still.follows) _ _
  refine ⟨swept, mid, hrun, hfollows.numbered hnumbered, fun r hr => ?_⟩
  rw [← hleft]
  exact sweptTo hp hnumbered (by rw [hstore]; exact hr)

/-- Cleaning up is a sweep and then one pass over what it has left. -/
theorem cleanup_run (hp : p.Within Still) {start mid : World σ} {swept : List ProcessRecord}
    (hsweep : (sweep p settings).run.run start = (.ok swept, mid)) :
    (cleanup p settings policy).run.run start
      = (.ok (mid.store.cleanup mid.now policy).1, { (p.others.run mid).2 with
        store := (mid.store.cleanup mid.now policy).2 }) := by
  have hmid : Still mid (p.others.run mid).2 := hp.others mid
  have hget : (get : Act σ (World σ)).run.run mid = (.ok mid, mid) := rfl
  rw [cleanup, run_bind_of_ok hsweep, run_bind_of_ok hget]
  exact access_run (congrArg (fun s : Store => Except.ok (s.cleanup mid.now policy)) hmid.1)

/-- **Cleaning up spares what is running.** The clock stands still and nobody else uses
the store. Then the call goes through, and every launch that ran when it began is
there afterwards: as it was, or, if the sweep found it dead, marked as ended now. Its
lines go for their number and their age only. -/
theorem cleanup_spares_running (hp : p.Within Still) (settings : Settings)
    (policy : RetentionPolicy) {start : World σ} (hs : Numbered start.store)
    (horder : OutputRow.InOrder start.store.output) (hfits : FitsAt start.now policy) :
    ∃ report after, (cleanup p settings policy).run.run start = (.ok report, after)
      ∧ ∀ r, start.store.launch? r.id = some r → r.running = true →
        SparedBy p settings policy start r after := by
  obtain ⟨swept, mid, hsweep, hmid, hall⟩ := sweep_sweptTo hp settings hs
  refine ⟨_, _, cleanup_run hp hsweep, fun r hr hruns => ?_⟩
  obtain ⟨hstore, hclock⟩ : Still start (p.others.run start).2 := hp.others start
  have hswept := hall r hr
  obtain ⟨r', hheld, hkept⟩ := hswept.held hruns
  have hnow : mid.now = start.now := hswept.now.trans hclock
  have houtput : mid.store.output = start.store.output :=
    hswept.output.trans (congrArg Store.output hstore)
  rw [hclock] at hkept
  rw [hnow]
  -- The pass leaves the launch as the sweep has left it.
  have hstays : (mid.store.cleanup start.now policy).2.launch? r.id = mid.store.launch? r.id :=
    (Store.launch?_cleanup hfits hmid.order hheld hkept).trans hheld.symm
  refine ⟨fun hlisted hanswer => hstays.trans ?_, fun hlisted hanswer => hstays.trans ?_,
    fun hlisted => hstays.trans (hswept.unlisted (by rwa [hstore])), fun line hline hlaunch => ?_⟩
  · rw [hswept.listed (by rwa [hstore]), hanswer]
    rfl
  · rw [hswept.listed (by rwa [hstore]), hanswer, hclock]
    rfl
  · rw [← houtput] at horder hline ⊢
    exact Store.mem_output_cleanup hfits horder hheld hkept hline hlaunch

/-- Every age is 0 and one line may stay. One launch answers, one was begun long ago and
does not, and one had ended before: the second is marked and stays with its newest
line, the third is gone. -/
theorem cleanup_spares_running_at_age_zero :
    let p := castPlatform 40 fun _ => []
    let settings : Settings := .standard ⟨"wrapper"⟩
    let policy : RetentionPolicy := ⟨0, 0, 0, 1⟩
    let launch (name : String) : Operation := .create 0 ⟨name, ⟨"/srv"⟩⟩ "serve" ⟨"/srv"⟩ none
    let line (now : Int) (n : Int) : Operation :=
      .append now 2 ⟨"b", ⟨"/srv"⟩⟩ n "ready" .stdout
    let s := Store.empty.run [launch "a", .updatePid 1 50, launch "b", .updatePid 2 51,
      launch "c", .markExited 99999 3 1, line 100000 1, line 100000 2]
    let start : World Rehearsal.Cast :=
      ⟨s, 100000, [], [⟨50, true, .die, .die, .ignore, 0, [], none⟩]⟩
    let after := ((cleanup p settings policy).run.run start).2
    p.Within Still ∧ Numbered s ∧ OutputRow.InOrder s.output ∧ FitsAt 100000 policy
      ∧ (after.store.launches.map fun r => (r.id, r.running, r.finish, r.exitCode))
        = [(2, 0, some 100000, some (-1)), (1, 1, none, none)]
      ∧ after.store.output.map (·.id) = [2]
      ∧ ∀ r ∈ s.running none, SparedBy p settings policy start r after := by
  intro p settings policy launch line s start after
  have hp : p.Within Still :=
    castPlatform_within (fun _ => ⟨rfl, rfl⟩) (fun _ _ => ⟨rfl, rfl⟩) fun _ _ _ => ⟨rfl, rfl⟩
  have hs : Numbered s := Store.numbered_run Store.launchesSound_empty.numbered _
  have horder : OutputRow.InOrder s.output := Store.inOrder_run _
  have hwithin : Store.IsWithin 100000 0 := ⟨by decide, by decide⟩
  have hfits : FitsAt 100000 policy := ⟨by decide, hwithin, hwithin, hwithin⟩
  obtain ⟨report, left, hpass, hspared⟩ :=
    cleanup_spares_running hp settings policy (show Numbered start.store from hs) horder hfits
  have hleft : after = left := congrArg Prod.snd hpass
  refine ⟨hp, hs, horder, hfits, by decide +kernel, by decide +kernel, fun r hr => ?_⟩
  obtain ⟨row, _, hactive, hrecord⟩ := Store.mem_running_none.mp hr
  rw [hleft]
  exact hspared r (launch?_of_running hs hr)
    (hrecord ▸ LaunchRow.running_record_of_isActive hactive)

end Supervisor

end Overseer
