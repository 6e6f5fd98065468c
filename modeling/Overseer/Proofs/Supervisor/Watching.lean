/-
Overseer.Proofs.Supervisor.Watching — what a watcher is shown.

`watch_shows_output`: while other parties write, end launches and delete, a watch
shows the last lines and then, in the order of their numbers and each once, those
that are written afterwards. It leaves out only what is deleted before the next
reading. A watch that says that the launch has stopped has read the lines after it
read the record, so the last words of the launch are among them.

A watch is a list of rounds (`Round`), which `Course` follows to the end of the
watch. Between two rounds `KeptUp` holds: the watcher stands at a number that every
line given so far is at or below, and nothing in the store when it last read is
missing. Since numbers only grow, what is written later lies ahead, whatever is
deleted; `KeptUp.next` is this step, and `Course.gives` the run.

Older lines than the first ones are never shown, also not when the launch had
stopped before the watch began (`watch_stops_without_older_lines`).
-/
import Overseer.Proofs.Log.Paging
import Overseer.Proofs.Supervisor.Sweeping
import Overseer.Supervisor.Watch

namespace Overseer.Supervisor

open Log (Cursor)
open Log.Cursor (newest reachedBy)
open Store (Operation OutputSound)

variable {σ : Type} {p : Platform σ} {settings : Settings} {selector : Selector}
  {interval : Nat} {timed : Bool} {wanted : StateM (World σ) Bool} {w : World σ}

/-! ## 1. Rounds -/

/-- The launch that a selector means. -/
def current (selector : Selector) (s : Store) : Option ProcessRecord :=
  match selector with
  | .service key => s.latest? key
  | .launch id => s.launch? id

/-- Lines are shown to the watcher, if there are any. -/
def showing (rows : List OutputRow) (w : World σ) : World σ :=
  if rows.isEmpty then w
  else { w with journal := .delivered (rows.map OutputRow.shown) :: w.journal }

/-- A round of a watch: the world in which it begins, and the place in the output then. -/
structure Round (σ : Type) where
  begun : World σ
  cursor : Cursor

namespace Round

variable (p : Platform σ) (settings : Settings) (r : Round σ)

/-- The world in which the launch is looked at, after the sweep. -/
def looked : World σ := (p.others.run ((sweep p settings).run.run r.begun).2).2

/-- The world in which the lines are read. -/
def read : World σ := (p.others.run (r.looked p settings)).2

/-- The lines that are read. -/
def rows : List OutputRow := r.cursor.ahead (r.read p settings).store

/-- The world when the lines have been shown. -/
def after : World σ := showing (r.rows p settings) (r.read p settings)

/-- The round after a pause, if the watcher wants one. -/
def next (interval : Nat) (wanted : StateM (World σ) Bool) : Round σ where
  begun := ((p.sleep interval).run (wanted.run (r.after p settings)).2).2
  cursor := { r.cursor with
    watermark := some (((r.rows p settings).map (·.id)).foldl max r.cursor.reached) }

end Round

/-- The rounds of a watch: how each goes on or ends. -/
inductive Course (p : Platform σ) (settings : Settings) (selector : Selector) (interval : Nat)
    (timed : Bool) (wanted : StateM (World σ) Bool) :
    Nat → Round σ → List (Round σ) → Option WatchOutcome → World σ → Prop where
  | cut (r : Round σ) : Course p settings selector interval timed wanted 0 r [] none r.begun
  | ended (fuel : Nat) (r : Round σ) (outcome : WatchOutcome)
      (decided : outcomeOf? (current selector (r.looked p settings).store) = some outcome) :
    Course p settings selector interval timed wanted (fuel + 1) r [r] (some outcome)
      (r.after p settings)
  | interrupted (fuel : Nat) (r : Round σ)
      (running : outcomeOf? (current selector (r.looked p settings).store) = none)
      (unwanted : (wanted.run (r.after p settings)).1 = false) :
    Course p settings selector interval timed wanted (fuel + 1) r [r] (some .interrupted)
      (wanted.run (r.after p settings)).2
  | timedOut (r : Round σ) (limited : timed = true)
      (running : outcomeOf? (current selector (r.looked p settings).store) = none)
      (goes : (wanted.run (r.after p settings)).1 = true) :
    Course p settings selector interval timed wanted 1 r [r] (some .timedOut)
      (wanted.run (r.after p settings)).2
  | goesOn (fuel : Nat) (r : Round σ) (rest : List (Round σ)) (outcome : Option WatchOutcome)
      (end' : World σ) (left : (timed && fuel == 0) = false)
      (running : outcomeOf? (current selector (r.looked p settings).store) = none)
      (goes : (wanted.run (r.after p settings)).1 = true)
      (later : Course p settings selector interval timed wanted fuel
        (r.next p settings interval wanted) rest outcome end') :
    Course p settings selector interval timed wanted (fuel + 1) r (r :: rest) outcome end'

theorem sweep_ok (p : Platform σ) (settings : Settings) (w : World σ) :
    ∃ swept, (sweep p settings).run.run w = (.ok swept, ((sweep p settings).run.run w).2) := by
  obtain ⟨swept, after, hrun, _⟩ := sweepEach_ok p settings
    ((p.others.run w).2.store.running none) (p.others.run w).2
  have hwhole : (sweep p settings).run.run w = (.ok swept, after) := hrun
  exact ⟨swept, by rw [hwhole]⟩

theorem watched_run (selector : Selector) (w : World σ) :
    (watched p selector).run.run w
      = (.ok (current selector (p.others.run w).2.store), (p.others.run w).2) := by
  cases selector <;> rfl

theorem readOn_run {c c' : Cursor} {limit : Option Int} {rows : List LogRecord}
    (h : c.nextWith (p.others.run w).2.store limit = .ok (rows, c')) :
    (readOn p c limit).run.run w = (.ok (rows, c'), (p.others.run w).2) := by
  refine access_run (s := (p.others.run w).2.store) ?_
  rw [h]
  rfl

theorem deliver_run (rows : List OutputRow) (w : World σ) :
    (deliver (rows.map OutputRow.shown)).run.run w = (.ok (), showing rows w) := by
  cases rows <;> rfl

/-- One round, when the lines can be read. -/
theorem watchRounds_succ (r : Round σ) (hs : OutputSound (r.read p settings).store)
    (hplaced : r.cursor.watermark.isSome = true) (fuel : Nat) :
    (watchRounds p settings selector interval timed wanted (fuel + 1) r.cursor).run.run r.begun
      = match outcomeOf? (current selector (r.looked p settings).store) with
        | some outcome => (.ok (some outcome), r.after p settings)
        | none =>
          let said := wanted.run (r.after p settings)
          if !said.1 then (.ok (some .interrupted), said.2)
          else if timed && fuel == 0 then (.ok (some .timedOut), said.2)
          else (watchRounds p settings selector interval timed wanted fuel
              (r.next p settings interval wanted).cursor).run.run
            (r.next p settings interval wanted).begun := by
  obtain ⟨swept, hsweep⟩ := sweep_ok p settings r.begun
  have hread : r.cursor.nextWith (r.read p settings).store none
      = .ok ((r.rows p settings).map OutputRow.shown, (r.next p settings interval wanted).cursor) :=
    Cursor.nextWith_ahead hs (by simp [← Option.not_isSome, hplaced]) none
  have hlook : (watched p selector).run.run ((sweep p settings).run.run r.begun).2
      = (.ok (current selector (r.looked p settings).store), r.looked p settings) :=
    watched_run selector _
  have hrows : (readOn p r.cursor none).run.run (r.looked p settings)
      = (.ok ((r.rows p settings).map OutputRow.shown, (r.next p settings interval wanted).cursor),
        r.read p settings) := readOn_run hread
  have hshow : (deliver ((r.rows p settings).map OutputRow.shown)).run.run (r.read p settings)
      = (.ok (), r.after p settings) := deliver_run _ _
  rw [watchRounds, run_bind_of_ok hsweep, run_bind_of_ok hlook, run_bind_of_ok hrows]
  simp only
  rw [run_bind_of_ok hshow]
  cases outcomeOf? (current selector (r.looked p settings).store) with
  | some outcome => rfl
  | none =>
    have hsaid : (liftM wanted : Act σ Bool).run.run (r.after p settings)
        = (.ok (wanted.run (r.after p settings)).1, (wanted.run (r.after p settings)).2) := rfl
    simp only
    rw [run_bind_of_ok hsaid]
    cases (wanted.run (r.after p settings)).1 with
    | false => rfl
    | true =>
      cases timed && fuel == 0 with
      | true => rfl
      | false => rfl

/-! ## 2. What other parties may do -/

/-- Other parties use the store, and leave the journal to the supervisor. -/
def Aside (w w' : World σ) : Prop := Follows w' w ∧ w'.journal = w.journal

theorem Follows.outputSound {later earlier : World σ} (h : Follows later earlier)
    (hs : OutputSound earlier.store) : OutputSound later.store := by
  obtain ⟨deeds, hdeeds⟩ := h
  rw [hdeeds]
  exact Store.outputSound_run hs deeds

theorem Follows.lastOutput_le {later earlier : World σ} (h : Follows later earlier) :
    earlier.store.lastOutput ≤ later.store.lastOutput := by
  obtain ⟨deeds, hdeeds⟩ := h
  rw [hdeeds]
  exact Store.lastOutput_le_run earlier.store deeds

/-- A line that is new has a number above all that were given out before. -/
theorem Follows.lt_id_of_new {later earlier : World σ} (h : Follows later earlier) {row : OutputRow}
    (hrow : row ∈ later.store.output) (hnew : row ∉ earlier.store.output) :
    earlier.store.lastOutput < row.id := by
  obtain ⟨deeds, hdeeds⟩ := h
  rw [hdeeds] at hrow
  exact Store.lt_id_of_new_run hrow hnew

section

variable (hp : p.Within Aside)
include hp

theorem follows_looked (r : Round σ) : Follows (r.looked p settings) r.begun := by
  have hfollows : p.Within fun w w' => Follows w' w := hp.mono fun _ _ h => h.1
  have hsweep : Follows ((sweep p settings).run.run r.begun).2 r.begun :=
    ((frame_follows hfollows r.begun).sweep fun _ _ => trivial).asks r.begun (.refl _)
  exact Trans.trans (hp.others _).1 hsweep

theorem follows_read (r : Round σ) : Follows (r.read p settings) (r.looked p settings) :=
  (hp.others _).1

theorem follows_next (hwanted : ∀ w, Aside w (wanted.run w).2) (r : Round σ) :
    Follows (r.next p settings interval wanted).begun (r.read p settings) := by
  have hshown : Follows (r.after p settings) (r.read p settings) := by
    unfold Round.after showing
    split <;> exact .refl _
  have hsaid : Follows (wanted.run (r.after p settings)).2 (r.read p settings) :=
    Trans.trans (hwanted _).1 hshown
  exact Trans.trans (hp.sleep interval _).1 hsaid

/-- A watch does not fail, and goes through its rounds. -/
theorem watchRounds_course (settings : Settings) (selector : Selector) (interval : Nat)
    (timed : Bool) (hwanted : ∀ w, Aside w (wanted.run w).2) (fuel : Nat) (r : Round σ)
    (hs : OutputSound r.begun.store) (hplaced : r.cursor.watermark.isSome = true) :
    ∃ course outcome after,
      (watchRounds p settings selector interval timed wanted fuel r.cursor).run.run r.begun
          = (.ok outcome, after)
        ∧ Course p settings selector interval timed wanted fuel r course outcome after := by
  induction fuel generalizing r with
  | zero => exact ⟨[], none, _, rfl, .cut r⟩
  | succ fuel ih =>
    have hlooked : OutputSound (r.looked p settings).store := (follows_looked hp r).outputSound hs
    have hread : OutputSound (r.read p settings).store := (follows_read hp r).outputSound hlooked
    rw [watchRounds_succ r hread hplaced]
    cases hdecided : outcomeOf? (current selector (r.looked p settings).store) with
    | some outcome => exact ⟨_, _, _, rfl, .ended fuel r outcome hdecided⟩
    | none =>
      cases hgoes : (wanted.run (r.after p settings)).1 with
      | false =>
        simp only [hgoes, Bool.not_false, if_true]
        exact ⟨_, _, _, rfl, .interrupted fuel r hdecided hgoes⟩
      | true =>
        cases hleft : timed && fuel == 0 with
        | true =>
          simp only [hgoes, Bool.not_true, Bool.false_eq_true, if_false, if_true]
          obtain ⟨hover, hlast⟩ := Bool.and_eq_true_iff.mp hleft
          obtain rfl := beq_iff_eq.mp hlast
          exact ⟨_, _, _, rfl, .timedOut r hover hdecided hgoes⟩
        | false =>
          simp only [hgoes, Bool.not_true, Bool.false_eq_true, if_false]
          obtain ⟨course, outcome, after, hrun, hcourse⟩ := ih
            (r.next p settings interval wanted) ((follows_next hp hwanted r).outputSound hread) rfl
          exact ⟨_, outcome, after, hrun,
            .goesOn fuel r course outcome after hleft hdecided hgoes hcourse⟩

end

/-! ## 3. What is shown -/

/-- What holds of a watcher between two rounds. `first` is the world in which the
first lines were read, `seen` the one in which the last were, and `given` are the
lines up to then. -/
structure KeptUp (selector : Selector) (first seen : World σ) (given : List OutputRow)
    (r : Round σ) : Prop where
  selects : r.cursor.selector = selector
  placed : r.cursor.watermark.isSome = true
  sound : OutputSound seen.store
  onward : Follows seen first
  begun : Follows r.begun seen
  bound : r.cursor.reached ≤ seen.store.lastOutput
  old : ∀ row ∈ first.store.output, selector.matches row = true → row.id ≤ r.cursor.reached
  rising : given.Pairwise fun row later => row.id < later.id
  below : ∀ row ∈ given, row.id ≤ r.cursor.reached
  complete : ∀ row ∈ seen.store.output, selector.matches row = true →
    row ∉ first.store.output → row ∈ given

section

variable {first seen : World σ} {given : List OutputRow} {r : Round σ}

/-- The lines of a round are meant, have not been given before, and were written
after the first lines were read. -/
theorem KeptUp.rows (h : KeptUp selector first seen given r)
    (hread : Follows (r.read p settings) first)
    {row : OutputRow} (hrow : row ∈ r.rows p settings) :
    row ∈ (r.read p settings).store.output ∧ selector.matches row = true
      ∧ r.cursor.reached < row.id ∧ first.store.lastOutput < row.id := by
  obtain ⟨hin, hmatch, hahead⟩ := Cursor.mem_ahead_iff.mp hrow
  rw [h.selects] at hmatch
  refine ⟨hin, hmatch, hahead, hread.lt_id_of_new hin fun hold => ?_⟩
  have := h.old row hold hmatch
  omega

/-- A line that is in the store when lines are read is given then, unless it was before
or the store held it when the first lines were read. -/
theorem KeptUp.mem_given (h : KeptUp selector first seen given r)
    (hread : Follows (r.read p settings) seen) {row : OutputRow}
    (hrow : row ∈ (r.read p settings).store.output) (hmatch : selector.matches row = true)
    (hnew : row ∉ first.store.output) : row ∈ given ++ r.rows p settings := by
  by_cases hahead : r.cursor.reached < row.id
  · exact List.mem_append_right _ (Cursor.mem_ahead_iff.mpr ⟨hrow, h.selects ▸ hmatch, hahead⟩)
  · by_cases hseen : row ∈ seen.store.output
    · exact List.mem_append_left _ (h.complete row hseen hmatch hnew)
    · have hlater := hread.lt_id_of_new hrow hseen
      have hbound := h.bound
      omega

theorem KeptUp.rising_rows (h : KeptUp selector first seen given r)
    (hs : OutputSound (r.read p settings).store) :
    (given ++ r.rows p settings).Pairwise fun row later => row.id < later.id := by
  refine List.pairwise_append.mpr ⟨h.rising, r.cursor.ahead_ascending hs, ?_⟩
  intro row hrow later hlater
  exact Int.lt_of_le_of_lt (h.below row hrow) (Cursor.mem_ahead_iff.mp hlater).2.2

/-- A round leaves the watcher at a place for the next one. -/
theorem KeptUp.next (h : KeptUp selector first seen given r)
    (hread : Follows (r.read p settings) seen)
    (hnext : Follows (r.next p settings interval wanted).begun (r.read p settings)) :
    KeptUp selector first (r.read p settings) (given ++ r.rows p settings)
      (r.next p settings interval wanted) := by
  have hs := hread.outputSound h.sound
  obtain ⟨hforward, hbelow, hhighest⟩ :=
    Log.foldl_max_spec ((r.rows p settings).map (·.id)) r.cursor.reached
  refine ⟨h.selects, rfl, hs, Trans.trans hread h.onward, hnext, ?_, ?_, h.rising_rows hs, ?_, ?_⟩
  · have hbound := Int.le_trans h.bound hread.lastOutput_le
    rcases hhighest with hsame | hrow
    · exact Int.le_trans (Int.le_of_eq hsame) hbound
    · obtain ⟨row, hrow, hid⟩ := List.mem_map.mp hrow
      exact Int.le_trans (Int.le_of_eq hid.symm)
        (hs.numbers row (Cursor.mem_ahead_iff.mp hrow).1).2
  · exact fun row hrow hmatch => Int.le_trans (h.old row hrow hmatch) hforward
  · intro row hrow
    rcases List.mem_append.mp hrow with hrow | hrow
    · exact Int.le_trans (h.below row hrow) hforward
    · exact hbelow _ (List.mem_map_of_mem hrow)
  · exact fun row hrow hmatch hnew => h.mem_given hread hrow hmatch hnew

end

/-- The lines of the rounds of a watch. -/
def linesRead (p : Platform σ) (settings : Settings) (course : List (Round σ)) : List OutputRow :=
  course.flatMap (Round.rows p settings)

/-- What a watcher has been given when the watch is over. -/
structure Given (p : Platform σ) (settings : Settings) (selector : Selector) (first : World σ)
    (initial : List OutputRow) (course : List (Round σ)) : Prop where
  rising : (initial ++ linesRead p settings course).Pairwise fun row later => row.id < later.id
  later : ∀ r ∈ course, ∀ row ∈ r.rows p settings, row ∈ (r.read p settings).store.output
    ∧ selector.matches row = true ∧ first.store.lastOutput < row.id
  complete : ∀ r ∈ course, ∀ row ∈ (r.read p settings).store.output, selector.matches row = true →
    row ∉ first.store.output → row ∈ initial ++ linesRead p settings course

section

variable {first seen : World σ} {given : List OutputRow} {r : Round σ}

theorem given_nil (h : given.Pairwise fun row later => row.id < later.id) :
    Given p settings selector first given [] :=
  ⟨by simpa [linesRead] using h, by simp, by simp⟩

/-- One round more at the beginning. -/
theorem Given.cons {rest : List (Round σ)} (hkept : KeptUp selector first seen given r)
    (hread : Follows (r.read p settings) seen)
    (h : Given p settings selector first (given ++ r.rows p settings) rest) :
    Given p settings selector first given (r :: rest) := by
  have hlines : given ++ linesRead p settings (r :: rest)
      = given ++ r.rows p settings ++ linesRead p settings rest := by
    simp [linesRead]
  refine ⟨hlines ▸ h.rising, List.forall_mem_cons.mpr ⟨fun row hrow => ?_, h.later⟩, ?_⟩
  · obtain ⟨hin, hmatch, _, hlater⟩ := hkept.rows (Trans.trans hread hkept.onward) hrow
    exact ⟨hin, hmatch, hlater⟩
  · rw [hlines]
    refine List.forall_mem_cons.mpr ⟨fun row hrow hmatch hnew => ?_, h.complete⟩
    exact List.mem_append_left _ (hkept.mem_given hread hrow hmatch hnew)

theorem Course.gives (hp : p.Within Aside) (hwanted : ∀ w, Aside w (wanted.run w).2) {fuel : Nat}
    {course : List (Round σ)} {outcome : Option WatchOutcome} {after : World σ}
    (h : Course p settings selector interval timed wanted fuel r course outcome after)
    (hkept : KeptUp selector first seen given r) :
    Given p settings selector first given course := by
  have hround {r : Round σ} {seen : World σ} {given : List OutputRow}
      (hkept : KeptUp selector first seen given r) : Follows (r.read p settings) seen :=
    Trans.trans (follows_read hp r) (Trans.trans (follows_looked hp r) hkept.begun : Follows _ _)
  have hlast {r : Round σ} {seen : World σ} {given : List OutputRow}
      (hkept : KeptUp selector first seen given r) :
      Given p settings selector first given [r] :=
    .cons hkept (hround hkept)
      (given_nil (hkept.rising_rows ((hround hkept).outputSound hkept.sound)))
  induction h generalizing seen given with
  | cut r => exact given_nil hkept.rising
  | ended fuel r outcome decided => exact hlast hkept
  | interrupted fuel r running unwanted => exact hlast hkept
  | timedOut r limited running goes => exact hlast hkept
  | goesOn fuel r rest outcome end' left running goes later ih =>
    exact .cons hkept (hround hkept)
      (ih (hkept.next (hround hkept) (follows_next hp hwanted r)))

end

/-! ## 4. What is noted -/

/-- The lines that a watcher was shown. -/
def linesOf (events : List Event) : List LogRecord :=
  events.flatMap fun
    | .delivered lines => lines
    | _ => []

/-- Nothing but looks at processes and lines for a watcher. -/
def Event.isWatching : Event → Prop
  | .checked _ _ => True
  | .delivered _ => True
  | _ => False

/-- These lines were shown between two worlds, and nothing else was done but looking. -/
def Showed (w : World σ) (rows : List OutputRow) (w' : World σ) : Prop :=
  ∃ events, w'.journal = events.reverse ++ w.journal ∧ (∀ e ∈ events, e.isWatching)
    ∧ linesOf events = rows.map OutputRow.shown

theorem showed_of_journal {w w' : World σ} (h : w'.journal = w.journal) : Showed w [] w' :=
  ⟨[], h, by simp, rfl⟩

theorem Showed.trans {w w' w'' : World σ} {rows later : List OutputRow} (h : Showed w rows w')
    (hlater : Showed w' later w'') : Showed w (rows ++ later) w'' := by
  obtain ⟨events, hjournal, hwatching, hlines⟩ := h
  obtain ⟨events', hjournal', hwatching', hlines'⟩ := hlater
  refine ⟨events ++ events', by simp [hjournal', hjournal], ?_, ?_⟩
  · exact fun e he => (List.mem_append.mp he).elim (hwatching e) (hwatching' e)
  · rw [linesOf, List.flatMap_append, List.map_append, ← hlines, ← hlines']
    rfl

theorem showed_showing (rows : List OutputRow) (w : World σ) : Showed w rows (showing rows w) := by
  rcases rows with _ | ⟨row, rows⟩
  · exact showed_of_journal rfl
  · refine ⟨[.delivered ((row :: rows).map OutputRow.shown)], rfl, ?_, ?_⟩
    · exact fun e he => (List.mem_singleton.mp he) ▸ trivial
    · simp [linesOf]

section

variable (hp : p.Within Aside)
include hp

/-- Looking at processes shows no lines. -/
theorem frame_showed (w : World σ) :
    Frame p (Showed w []) (fun e => ∃ pid alive, e = .checked pid alive) fun _ => True where
  platform := hp.mono fun _ _ haside h => h.trans (showed_of_journal haside.2)
  checked pid alive := ⟨pid, alive, rfl⟩
  note := by
    rintro _ ⟨pid, alive, rfl⟩ v h
    have hnoted : Showed v [] { v with journal := .checked pid alive :: v.journal } :=
      ⟨[.checked pid alive], rfl, fun e he => (List.mem_singleton.mp he) ▸ trivial, rfl⟩
    exact h.trans hnoted
  write _ _ _ h := h

theorem showed_after (r : Round σ) : Showed r.begun (r.rows p settings) (r.after p settings) := by
  have hsweep : Showed r.begun [] ((sweep p settings).run.run r.begun).2 :=
    ((frame_showed hp r.begun).sweep fun _ _ => trivial).asks r.begun (showed_of_journal rfl)
  have hread : Showed r.begun [] (r.read p settings) :=
    (hsweep.trans (showed_of_journal (hp.others _).2)).trans (showed_of_journal (hp.others _).2)
  exact hread.trans (showed_showing _ _)

theorem Course.showed (hwanted : ∀ w, Aside w (wanted.run w).2) {fuel : Nat} {r : Round σ}
    {course : List (Round σ)} {outcome : Option WatchOutcome} {after : World σ}
    (h : Course p settings selector interval timed wanted fuel r course outcome after) :
    Showed r.begun (linesRead p settings course) after := by
  have hsaid (r : Round σ) : Showed r.begun (r.rows p settings ++ [])
      (wanted.run (r.after p settings)).2 :=
    (showed_after hp r).trans (showed_of_journal (hwanted _).2)
  induction h with
  | cut r => exact showed_of_journal rfl
  | ended fuel r outcome decided => simpa [linesRead] using showed_after hp r
  | interrupted fuel r running unwanted => simpa [linesRead] using hsaid r
  | timedOut r limited running goes => simpa [linesRead] using hsaid r
  | goesOn fuel r rest outcome end' left running goes later ih =>
    have hround := ((hsaid r).trans (showed_of_journal (hp.sleep interval _).2)).trans ih
    simpa [linesRead] using hround

end

/-- A watch ends as stopped when its last round has found the launch stopped. -/
theorem Course.stopped {fuel : Nat} {r : Round σ} {course : List (Round σ)} {code : Option Int}
    {after : World σ} (h : Course p settings selector interval timed wanted fuel r course
      (some (.stopped code)) after) :
    ∃ before last record, course = before ++ [last]
      ∧ current selector (last.looked p settings).store = some record
      ∧ record.running = false ∧ record.exitCode = code := by
  generalize houtcome : some (WatchOutcome.stopped code) = outcome at h
  induction h with
  | cut r => cases houtcome
  | ended fuel r outcome decided =>
    obtain rfl := Option.some.inj houtcome
    cases hcurrent : current selector (r.looked p settings).store with
    | none =>
      rw [hcurrent] at decided
      cases decided
    | some record =>
      rw [hcurrent] at decided
      cases hrunning : record.running with
      | true => simp [outcomeOf?, hrunning] at decided
      | false =>
        simp only [outcomeOf?, hrunning, Bool.false_eq_true, if_false, Option.some.injEq,
          WatchOutcome.stopped.injEq] at decided
        exact ⟨[], r, record, rfl, hcurrent, hrunning, decided⟩
  | interrupted fuel r running unwanted => cases houtcome
  | timedOut r limited running goes => cases houtcome
  | goesOn fuel r rest outcome end' left running goes later ih =>
    obtain ⟨before, last, record, hrest, hrecord⟩ := ih houtcome
    exact ⟨r :: before, last, record, by rw [hrest]; rfl, hrecord⟩

/-! ## 5. What a watch leaves alone -/

namespace Frame

variable {K : World σ → Prop} {notes : Event → Prop} {writes : Operation → Prop}
  (F : Frame p K notes writes)
include F

theorem deliver {rows : List LogRecord} (hnotes : notes (.delivered rows)) :
    Does K (deliver rows) (fun _ => K) K := by
  unfold Supervisor.deliver
  split
  · exact does_pure fun _ hw => hw
  · exact (F.noting hnotes).lift

theorem readOn (cursor : Cursor) (limit : Option Int) :
    Does K (readOn p cursor limit) (fun _ => K) K := F.read

theorem watchRounds (hnotes : ∀ rows, notes (.delivered rows))
    (hwrites : ∀ now id, writes (.markExited now id Store.foundDead))
    (hwanted : Asks K wanted fun _ => K) (fuel : Nat) (cursor : Cursor) :
    Does K (watchRounds p settings selector interval timed wanted fuel cursor) (fun _ => K) K := by
  induction fuel generalizing cursor with
  | zero => exact does_pure fun _ hw => hw
  | succ fuel ih =>
    unfold Supervisor.watchRounds
    refine (F.sweep hwrites).bind fun _ => (F.look _).bind fun record => ?_
    refine (F.readOn cursor none).bind fun ⟨rows, cursor⟩ =>
      (F.deliver (hnotes rows)).bind fun _ => ?_
    cases outcomeOf? record with
    | some outcome => exact does_pure fun _ hw => hw
    | none =>
      refine hwanted.lift.bind fun goes => ?_
      cases goes with
      | false => exact does_pure fun _ hw => hw
      | true =>
        cases timed && fuel == 0 with
        | true => exact does_pure fun _ hw => hw
        | false => exact (F.sleep interval).lift.bind fun _ => ih cursor

theorem watch (hnotes : ∀ rows, notes (.delivered rows))
    (hwrites : ∀ now id, writes (.markExited now id Store.foundDead))
    (hwanted : Asks K wanted fun _ => K) (options : WatchOptions) (rounds : Nat) :
    Does K (watch p settings selector options rounds wanted) (fun _ => K) K := by
  unfold Supervisor.watch
  refine (F.readOn _ _).bind fun ⟨rows, cursor⟩ => (F.deliver (hnotes rows)).bind fun _ => ?_
  cases options.exitAfter with
  | none => exact F.watchRounds hnotes hwrites hwanted rounds cursor
  | some limit => exact F.watchRounds hnotes hwrites hwanted _ cursor

end Frame

/-! ## 6. Watching -/

/-- The most rounds that a watch has. -/
def WatchOptions.rounds (options : WatchOptions) (most : Nat) : Nat :=
  match options.exitAfter with
  | none => most
  | some limit => max 1 (Port.looks limit (max options.interval 1))

/-- The first lines that a watcher is shown. -/
def WatchOptions.initial (options : WatchOptions) (selector : Selector) (first : World σ) :
    List OutputRow :=
  newest selector options.initialLines.toNat first.store

/-- The first round of a watch. -/
def WatchOptions.firstRound (options : WatchOptions) (selector : Selector) (first : World σ) :
    Round σ where
  begun := showing (options.initial selector first) first
  cursor := { Cursor.tailing selector (some options.initialLines) with
    watermark := some (reachedBy (options.initial selector first)) }

theorem watch_run (options : WatchOptions) (hinitial : 1 ≤ options.initialLines) (most : Nat)
    (hs : OutputSound (p.others.run w).2.store) :
    let round := options.firstRound selector (p.others.run w).2
    (watch p settings selector options most wanted).run.run w
      = (watchRounds p settings selector (max options.interval 1) options.exitAfter.isSome wanted
        (options.rounds most) round.cursor).run.run round.begun := by
  intro round
  have hcount : (options.initialLines.toNat : Int) = options.initialLines := by omega
  have hfirst := Cursor.nextWith_tailing hs selector options.initialLines.toNat
  rw [hcount] at hfirst
  have hshow : (deliver ((newest selector options.initialLines.toNat
      (p.others.run w).2.store).map OutputRow.shown)).run.run (p.others.run w).2
        = (.ok (), round.begun) := deliver_run _ _
  rw [watch, run_bind_of_ok (readOn_run hfirst)]
  simp only
  rw [run_bind_of_ok hshow]
  cases hlimit : options.exitAfter with
  | none => simp [WatchOptions.rounds, hlimit, round, WatchOptions.firstRound, WatchOptions.initial]
  | some limit =>
    simp [WatchOptions.rounds, hlimit, round, WatchOptions.firstRound, WatchOptions.initial]

theorem keptUp_firstRound {first : World σ} (hs : OutputSound first.store) (options : WatchOptions)
    (hinitial : 1 ≤ options.initialLines) :
    KeptUp selector first first (options.initial selector first)
      (options.firstRound selector first) := by
  obtain ⟨_, hbelow, hhighest⟩ :=
    Log.foldl_max_spec ((options.initial selector first).map (·.id)) 0
  have hbegun : Follows (options.firstRound selector first).begun first := by
    unfold WatchOptions.firstRound showing
    split <;> exact .refl _
  refine ⟨rfl, rfl, hs, .refl _, hbegun, ?_, ?_, Cursor.newest_ascending _ _ hs, ?_, ?_⟩
  · rcases hhighest with hzero | hrow
    · exact Int.le_trans (Int.le_of_eq hzero) hs.start
    · obtain ⟨row, hrow, hid⟩ := List.mem_map.mp hrow
      exact Int.le_trans (Int.le_of_eq hid.symm) (hs.numbers row (Cursor.mem_newest hrow).1).2
  · exact fun row hrow hmatch => Cursor.le_reachedBy_newest (by omega) hs hrow hmatch
  · exact fun row hrow => hbelow _ (List.mem_map_of_mem hrow)
  · exact fun row hrow _ hnew => absurd hrow hnew

/-- What a watch that ends as stopped has shown: the code is that of the record, and
whatever was in the store as the record was read has been given, unless it was
deleted before the lines were read or is older than the first lines. -/
def StopsComplete (p : Platform σ) (settings : Settings) (selector : Selector) (first : World σ)
    (initial : List OutputRow) (course : List (Round σ)) (code : Option Int) : Prop :=
  ∃ before last record, course = before ++ [last]
    ∧ current selector (last.looked p settings).store = some record
    ∧ record.running = false ∧ record.exitCode = code
    ∧ ∀ row ∈ (last.looked p settings).store.output, selector.matches row = true →
      row ∈ initial ++ linesRead p settings course
        ∨ row ∉ (last.read p settings).store.output
        ∨ (row ∈ first.store.output ∧ ∀ shown ∈ initial, row.id < shown.id)

theorem Course.stopsComplete {first : World σ} (hs : OutputSound first.store)
    {options : WatchOptions} {fuel : Nat} {r : Round σ} {course : List (Round σ)}
    {code : Option Int} {after : World σ}
    (h : Course p settings selector interval timed wanted fuel r course (some (.stopped code))
      after)
    (hgiven : Given p settings selector first (options.initial selector first) course) :
    StopsComplete p settings selector first (options.initial selector first) course code := by
  obtain ⟨before, last, record, hcourse, hcurrent, hover, hcode⟩ := h.stopped
  refine ⟨before, last, record, hcourse, hcurrent, hover, hcode, fun row hlooked hmatch => ?_⟩
  by_cases hread : row ∈ (last.read p settings).store.output
  · by_cases hold : row ∈ first.store.output
    · rcases Cursor.mem_newest_or hs hold hmatch with hinitial | holder
      · exact Or.inl (List.mem_append_left _ hinitial)
      · exact Or.inr (Or.inr ⟨hold, holder⟩)
    · exact Or.inl (hgiven.complete last (by simp [hcourse]) row hread hmatch hold)
  · exact Or.inr (Or.inl hread)

/-- **What a watcher is shown.** A watch does not fail; it shows the last lines and
then, round by round, what was written since; it signals nothing, and what outlasts
others and the marks of sweeps outlasts it. -/
theorem watch_shows_output (hp : p.Within Aside) (hwanted : ∀ w, Aside w (wanted.run w).2)
    (settings : Settings) (selector : Selector) (options : WatchOptions)
    (hinitial : 1 ≤ options.initialLines) (most : Nat) (s : Store) (hs : OutputSound s) (now : Int)
    (journal : List Event) (outside : σ) :
    let start : World σ := ⟨s, now, journal, outside⟩
    let first := (p.others.run start).2
    let initial := options.initial selector first
    let run := (watch p settings selector options most wanted).run.run start
    (∃ course outcome, run.1 = .ok outcome
      ∧ Course p settings selector (max options.interval 1) options.exitAfter.isSome wanted
        (options.rounds most) (options.firstRound selector first) course outcome run.2
      ∧ Showed start (initial ++ linesRead p settings course) run.2
      ∧ Given p settings selector first initial course
      ∧ ∀ code, outcome = some (.stopped code) →
        StopsComplete p settings selector first initial course code)
    ∧ ∀ K : World σ → Prop,
      Frame p K Event.isWatching (fun op => ∃ now id, op = .markExited now id Store.foundDead) →
        Asks K wanted (fun _ => K) → K start → K run.2 := by
  intro start first initial run
  have hfirst : OutputSound first.store := (hp.others start).1.outputSound hs
  have hkept : KeptUp selector first first initial (options.firstRound selector first) :=
    keptUp_firstRound hfirst options hinitial
  obtain ⟨course, outcome, after, hrun, hcourse⟩ := watchRounds_course hp settings
    selector (max options.interval 1) options.exitAfter.isSome hwanted (options.rounds most)
    (options.firstRound selector first)
    (hkept.begun.outputSound hfirst) rfl
  have hwhole : run = (.ok outcome, after) :=
    (watch_run options hinitial most hfirst).trans hrun
  have hgiven := hcourse.gives hp hwanted hkept
  refine ⟨?_, fun K hframe hkeeps hstart => ?_⟩
  · rw [hwhole]
    refine ⟨course, outcome, rfl, hcourse, ?_, hgiven, ?_⟩
    · have hinit : Showed start ([] ++ initial) (options.firstRound selector first).begun :=
        (showed_of_journal (hp.others start).2).trans (showed_showing _ _)
      exact hinit.trans (hcourse.showed hp hwanted)
    · rintro code rfl
      exact hcourse.stopsComplete hfirst hgiven
  · exact (hframe.watch (fun _ => trivial) (fun now id => ⟨now, id, rfl⟩) hkeeps options most).asks
      start hstart

/-! ## 7. Other parties -/

theorem crowdPlatform_aside (alive : Nat → Bool) : (crowdPlatform alive).Within Aside :=
  crowdPlatform_within (fun w => ⟨.refl w, rfl⟩) fun _ deeds _ _ => ⟨⟨deeds, rfl⟩, rfl⟩

/-- While a watch goes on a line is written, and then the last one, after which the
launch ends. -/
theorem watch_shows_output_to_the_end :
    let settings : Settings := ⟨⟨"wrapper"⟩, 0, 0, 5000⟩
    let web : ServiceKey := ⟨"web", ⟨"/srv"⟩⟩
    let line (number : Int) (content : String) : Operation := .append 0 1 web number content .stdout
    let s := Store.empty.run [.create 0 web "serve" ⟨"/srv"⟩ none, .updatePid 1 50, line 1 "one",
      line 2 "two", line 3 "three"]
    let start : World (List (List Operation)) :=
      ⟨s, 9, [], [[line 4 "four"], [line 5 "five", .markExited 5 1 7]]⟩
    let run :=
      (watch (crowdPlatform (· == 50)) settings (.launch 1) ⟨1, none, 2⟩ 10 (pure true)).run.run
      start
    (∃ course, run.1 = .ok (some (.stopped (some 7)))
      ∧ Given (crowdPlatform (· == 50)) settings (.launch 1) start (newest (.launch 1) 2 s) course
      ∧ StopsComplete (crowdPlatform (· == 50)) settings (.launch 1) start (newest (.launch 1) 2 s)
        course (some 7))
      ∧ (linesOf run.2.journal.reverse).map (·.content) = ["two", "three", "four", "five"] := by
  intro settings web line s start run
  have hs : OutputSound s := Store.outputSound_run Store.outputSound_empty _
  have houtcome : run.1.toOption = some (some (.stopped (some 7))) := by decide +kernel
  have hwanted (w : World (List (List Operation))) :
      Aside w ((pure true : StateM (World (List (List Operation))) Bool).run w).2 := ⟨.refl w, rfl⟩
  obtain ⟨⟨course, outcome, hanswer, _, _, hgiven, hstops⟩, _⟩ := watch_shows_output
    (crowdPlatform_aside (· == 50)) hwanted settings
    (.launch 1) ⟨1, none, 2⟩ (by decide) 10 s hs 9 []
    [[line 4 "four"], [line 5 "five", .markExited 5 1 7]]
  rw [show run.1 = .ok outcome from hanswer] at houtcome
  obtain rfl : outcome = some (.stopped (some 7)) := Option.some.inj houtcome
  exact ⟨⟨course, hanswer, hgiven, hstops _ rfl⟩, by decide +kernel⟩

/-- **Older lines are not shown**: the watch of a launch that has ended is told so, and
shown no more than the lines that it asked for. -/
theorem watch_stops_without_older_lines :
    let web : ServiceKey := ⟨"web", ⟨"/srv"⟩⟩
    let line (number : Int) (content : String) : Operation := .append 0 1 web number content .stdout
    let s := Store.empty.run [.create 0 web "serve" ⟨"/srv"⟩ none, line 1 "one", line 2 "two",
      .markExited 5 1 0]
    let start : World (List (List Operation)) := ⟨s, 9, [], []⟩
    let run := (watch (crowdPlatform fun _ => false) ⟨⟨"wrapper"⟩, 0, 0, 5000⟩ (.launch 1)
      ⟨1, none, 1⟩ 10 (pure true)).run.run start
    run.1.toOption = some (some (.stopped (some 0)))
      ∧ ¬ ∀ row ∈ s.output, Selector.matches (.launch 1) row = true →
        row.shown ∈ linesOf run.2.journal := by
  intro web line s start run
  decide +kernel

end Overseer.Supervisor
