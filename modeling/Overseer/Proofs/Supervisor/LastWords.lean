/-
Overseer.Proofs.Supervisor.LastWords — what a wait that ends as exited has not heard.

A look after the first one reads the new lines, then sweeps, then reads the record. A
watch reads the record first, so that it gives the last words of a launch; a wait may
miss them. If the launch says what is waited for and ends while the sweep asks about
processes, the lines have been read already and the record says that it is over
(`wait_overlooks_last_words`).

`wait_overlooks_during_sweep_only` says that nothing else can be missed. Between two
looks a wait is `Attentive`: whatever says the message since the last start lies ahead of
the place where it reads on. What other parties do keeps this (`Attentive.follows`),
because new lines have new numbers, and so does a look that decides nothing
(`lookAgain_hears`).
-/
import Overseer.Proofs.Supervisor.Searching

namespace Overseer.Supervisor

open Log (Cursor)
open Log.Cursor (newest Reading)
open Store (LaunchesSound Operation OutputSound)

variable {σ : Type} {p : Platform σ} {settings : Settings} {key : ServiceKey} {message : String}
  {id : Int} {first : Store} {start w w' : World σ} {c : Cursor} {row : OutputRow}

/-! ## 1. Lines that say it -/

/-- A line of the launch, printed by its child, that says the message. It comes after all
starts that were marked in `first`. -/
structure Says (message : String) (key : ServiceKey) (id : Int) (first : Store)
    (row : OutputRow) : Prop where
  own : row.launch = id
  keyed : row.key = key
  printed : row.shown.type.isMarker = false
  said : occursIn message.toList row.content.toList = true
  late : ∀ mark ∈ first.output, mark.key = key ∨ mark.launch = id →
    isStart mark.shown = true → mark.id ≤ row.id

theorem Says.decides (h : Says message key id first row) :
    decision? message row.shown = some (.found row.shown) := by
  have hprinted := h.printed
  have hsaid : occursIn message.toList row.shown.content.toList = true := h.said
  unfold decision?
  cases htype : row.shown.type <;> simp_all [LogType.isMarker]

theorem Says.matches (h : Says message key id first row)
    (hselects : c.selector = .service key ∨ c.selector = .launch id) :
    c.selector.matches row = true := by
  rcases hselects with hservice | hlaunch
  · rw [hservice]
    exact beq_iff_eq.mpr h.keyed
  · rw [hlaunch]
    exact beq_iff_eq.mpr h.own

theorem meant_of_matches (hselects : c.selector = .service key ∨ c.selector = .launch id)
    (hmatch : c.selector.matches row = true) : row.key = key ∨ row.launch = id := by
  rcases hselects with hservice | hlaunch
  · rw [hservice] at hmatch
    exact Or.inl (eq_of_beq hmatch)
  · rw [hlaunch] at hmatch
    exact Or.inr (eq_of_beq hmatch)

/-- Lines that end a search as exited: one marks the end, and what says the message
comes after it. -/
theorem exited_first {rows : List OutputRow}
    (hrising : rows.Pairwise fun row later => row.id < later.id)
    {code : Option Int} (h : scan message (rows.map OutputRow.shown) = some (.exited code)) :
    ∃ mark ∈ rows, mark.shown.type = .exited ∧ lastNumber? mark.content = code
      ∧ ∀ row ∈ rows, Says message key id first row → mark.id < row.id := by
  rw [scan_eq_findSome?, List.findSome?_map] at h
  obtain ⟨before, mark, after, rfl, hmark, hbefore⟩ := List.findSome?_eq_some_iff.mp h
  have hexited : mark.shown.type = .exited ∧ lastNumber? mark.content = code := by
    simp only [Function.comp, decision?] at hmark
    split at hmark
    · rename_i htype
      exact ⟨eq_of_beq htype, WaitOutcome.exited.inj (Option.some.inj hmark)⟩
    · split at hmark <;> simp at hmark
  refine ⟨mark, by simp, hexited.1, hexited.2, fun row hrow hspoken => ?_⟩
  rcases List.mem_append.mp hrow with hrow | hrow
  · have hnone := hbefore row hrow
    rw [Function.comp, hspoken.decides] at hnone
    cases hnone
  · rcases List.mem_cons.mp hrow with rfl | hrow
    · have hprinted := hspoken.printed
      rw [hexited.1] at hprinted
      cases hprinted
    · exact List.rel_of_pairwise_cons (List.pairwise_append.mp hrising).2.1 hrow

/-- In lines that end a search undecided nothing says the message. -/
theorem not_says_of_scan {rows : List OutputRow}
    (h : scan message (rows.map OutputRow.shown) = none) (hrow : row ∈ rows) :
    ¬ Says message key id first row := by
  intro hspoken
  rw [scan_eq_findSome?, List.findSome?_map] at h
  have hnone := List.findSome?_eq_none_iff.mp h row hrow
  rw [Function.comp, hspoken.decides] at hnone
  cases hnone

/-- A search over lines is a scan of their end; a start stands after what is left out. -/
theorem afterPage_eq_scan (message : String) {rows : List OutputRow}
    (hrising : rows.Pairwise fun row later => row.id < later.id) :
    ∃ older searched, rows = older ++ searched
      ∧ afterPage message none (rows.map OutputRow.shown)
        = scan message (searched.map OutputRow.shown)
      ∧ ∀ row ∈ older, ∃ mark ∈ searched, isStart mark.shown = true ∧ row.id < mark.id := by
  cases hstart : fromLastStart? (rows.map OutputRow.shown) with
  | none =>
    refine ⟨[], rows, rfl, ?_, fun row hrow => absurd hrow List.not_mem_nil⟩
    rw [afterPage, hstart, Option.none_or]
  | some lines =>
    obtain ⟨before, mark, after, hsplit, rfl, hmark⟩ := split_of_fromLastStart? hstart
    obtain ⟨older, searched, rfl, -, hsearched⟩ := List.map_eq_append_iff.mp hsplit
    obtain ⟨first, rest, rfl, rfl, -⟩ := List.map_eq_cons_iff.mp hsearched
    refine ⟨older, first :: rest, rfl, ?_, fun row hrow => ⟨first, List.mem_cons_self, hmark, ?_⟩⟩
    · rw [afterPage, hstart, hsearched]
    · exact (List.pairwise_append.mp hrising).2.2 row hrow first List.mem_cons_self

/-! ## 2. Between two looks -/

/-- Where a wait stands between two looks: whatever says the message lies ahead. -/
structure Attentive (message : String) (key : ServiceKey) (id : Int) (start : World σ) (c : Cursor)
    (w : World σ) : Prop where
  sound : OutputSound w.store
  onward : Follows w start
  selects : c.selector = .service key ∨ c.selector = .launch id
  reading : Reading c w.store
  unsaid : ∀ row ∈ w.store.output, Says message key id start.store row → c.reached < row.id

/-- What other parties write lies ahead as well. -/
theorem Attentive.follows (h : Attentive message key id start c w) (hw : Follows w' w) :
    Attentive message key id start c w' where
  sound := hw.outputSound h.sound
  onward := Trans.trans hw h.onward
  selects := h.selects
  reading := ⟨h.reading.begun, Int.le_trans h.reading.bound hw.lastOutput_le⟩
  unsaid row hrow hspoken := by
    by_cases hold : row ∈ w.store.output
    · exact h.unsaid row hold hspoken
    · exact Int.lt_of_le_of_lt h.reading.bound (hw.lt_id_of_new hrow hold)

theorem Attentive.mem_ahead (h : Attentive message key id start c w) (hrow : row ∈ w.store.output)
    (hspoken : Says message key id start.store row) : row ∈ c.ahead w.store :=
  Cursor.mem_ahead_iff.mpr ⟨hrow, hspoken.matches h.selects, h.unsaid row hrow hspoken⟩

/-- What a wait has heard that ends as exited, in the world `after`. Either a line marked
the end, and in the lines that were read then nothing said the message before it. Or the
record said so after one more sweep, and in the lines that were read before this sweep
nothing said the message. -/
inductive EndsUnheard (p : Platform σ) (settings : Settings) (message : String) (key : ServiceKey)
    (id : Int) (start : World σ) (code : Option Int) (after : World σ) : Prop where
  | marked (heard : World σ) (onward : Follows heard start) (mark : OutputRow)
      (stored : mark ∈ heard.store.output) (meant : mark.key = key ∨ mark.launch = id)
      (exited : mark.shown.type = .exited) (number : lastNumber? mark.content = code)
      (unsaid : ∀ row ∈ heard.store.output, Says message key id start.store row → mark.id < row.id)
  | recorded (heard : World σ) (onward : Follows heard start)
      (unsaid : ∀ row ∈ heard.store.output, ¬ Says message key id start.store row)
      (swept : after = (p.others.run ((sweep p settings).run.run heard).2).2)
      (record : ProcessRecord) (newest : after.store.latest? key = some record)
      (stopped : record.running = false) (number : record.exitCode = code)

/-- What the lines ahead decide once they have been read. -/
theorem Attentive.exited (h : Attentive message key id start c w) {code : Option Int}
    (hscan : scan message ((c.ahead w.store).map OutputRow.shown) = some (.exited code)) :
    EndsUnheard p settings message key id start code w := by
  obtain ⟨mark, hmark, hexited, hnumber, hfirst⟩ := exited_first (c.ahead_ascending h.sound) hscan
  obtain ⟨hin, hmatch, _⟩ := Cursor.mem_ahead_iff.mp hmark
  refine .marked w h.onward mark hin (meant_of_matches h.selects hmatch) hexited hnumber ?_
  exact fun row hrow hspoken => hfirst row (h.mem_ahead hrow hspoken) hspoken

/-! ## 3. Looking again -/

/-- The place behind all lines of a store. -/
def behind (c : Cursor) (s : Store) : Cursor :=
  { c with watermark := some (((c.ahead s).map (·.id)).foldl max c.reached) }

/-- When the lines ahead decide nothing, nothing said the message, and the wait can read
on behind them. -/
theorem Attentive.behind (h : Attentive message key id start c w)
    (hscan : scan message ((c.ahead w.store).map OutputRow.shown) = none) :
    Attentive message key id start (behind c w.store) w
      ∧ ∀ row ∈ w.store.output, ¬ Says message key id start.store row := by
  have hsilent : ∀ row ∈ w.store.output, ¬ Says message key id start.store row :=
    fun row hrow hspoken => not_says_of_scan hscan (h.mem_ahead hrow hspoken) hspoken
  have hreading : Reading (Supervisor.behind c w.store) w.store :=
    ⟨rfl, Cursor.foldl_max_le_lastOutput h.sound
      (fun row hrow => (Cursor.mem_ahead_iff.mp hrow).1) h.reading.bound⟩
  exact ⟨⟨h.sound, h.onward, h.selects, hreading, fun row hrow hspoken =>
    absurd hspoken (hsilent row hrow)⟩, hsilent⟩

/-- What the record says about the end of the launch. -/
def recorded (record? : Option ProcessRecord) : Option WaitOutcome :=
  record?.bind fun record => if record.running then none else some (.exited record.exitCode)

/-- One look: the lines are read, and if there are none the record after a sweep. -/
theorem lookAgain_run (hs : OutputSound (p.others.run w).2.store)
    (hbegun : (c.watermark.isNone && c.tail) = false) :
    let heard := (p.others.run w).2
    let rows := c.ahead heard.store
    let looked := (p.others.run ((sweep p settings).run.run heard).2).2
    (lookAgain p settings key message c).run.run w
      = match scan message (rows.map OutputRow.shown) with
        | some outcome => (.ok (some outcome, behind c heard.store), heard)
        | none =>
          if rows.isEmpty then
            (.ok (recorded (looked.store.latest? key), behind c heard.store), looked)
          else (.ok (none, behind c heard.store), heard) := by
  intro heard rows looked
  have hread : c.nextWith heard.store none
      = .ok (rows.map OutputRow.shown, behind c heard.store) := Cursor.nextWith_ahead hs hbegun none
  rw [lookAgain, run_bind_of_ok (readOn_run hread)]
  simp only
  cases scan message (rows.map OutputRow.shown) with
  | some outcome => rfl
  | none =>
    cases hrows : rows with
    | cons row rest => rfl
    | nil =>
      obtain ⟨swept, hsweep⟩ := sweep_ok p settings heard
      have hlook : (look p fun s => s.latest? key).run.run ((sweep p settings).run.run heard).2
          = (.ok (looked.store.latest? key), looked) := access_run rfl
      simp only [List.map_nil, List.isEmpty_nil, Bool.not_true, Bool.false_eq_true, if_false,
        if_true]
      rw [run_bind_of_ok hsweep, run_bind_of_ok hlook]
      cases hlatest : looked.store.latest? key with
      | none => rfl
      | some record => cases hrunning : record.running <;> simp [recorded, hrunning] <;> rfl

/-- What holds after a look: the wait is attentive as before, or it has ended, and if it
has as exited it has heard all but what was said during the sweep. -/
def Heard (p : Platform σ) (settings : Settings) (message : String) (key : ServiceKey) (id : Int)
    (start : World σ) (answer : Option WaitOutcome × Cursor) (after : World σ) : Prop :=
  match answer.1 with
  | none => Attentive message key id start answer.2 after
  | some outcome => ∀ code, outcome = .exited code →
      EndsUnheard p settings message key id start code after

/-- **One look.** It does not fail, and misses nothing but what is said during its sweep. -/
theorem lookAgain_hears (settings : Settings) (hp : p.Within fun w w' => Follows w' w)
    (h : Attentive message key id start c w) :
    ∃ answer after, (lookAgain p settings key message c).run.run w = (.ok answer, after)
      ∧ Heard p settings message key id start answer after := by
  have hheard := h.follows (hp.others w)
  rw [lookAgain_run hheard.sound hheard.reading.begun]
  cases hscan : scan message ((c.ahead (p.others.run w).2.store).map OutputRow.shown) with
  | some outcome =>
    refine ⟨_, _, rfl, ?_⟩
    rintro code rfl
    exact hheard.exited hscan
  | none =>
    obtain ⟨hbehind, hsilent⟩ := hheard.behind hscan
    cases hrows : (c.ahead (p.others.run w).2.store).isEmpty with
    | false => exact ⟨_, _, rfl, hbehind⟩
    | true =>
      let looked := (p.others.run ((sweep p settings).run.run (p.others.run w).2).2).2
      have hsweep : Follows ((sweep p settings).run.run (p.others.run w).2).2 (p.others.run w).2 :=
        ((frame_follows hp _).sweep fun _ _ => trivial).asks _ (.refl _)
      have hlooked : Attentive message key id start _ looked :=
        hbehind.follows (Trans.trans (hp.others _) hsweep)
      refine ⟨(recorded (looked.store.latest? key), _), looked, rfl, ?_⟩
      cases hlatest : looked.store.latest? key with
      | none => exact hlooked
      | some record =>
        cases hrunning : record.running with
        | true => simpa [Heard, recorded, hrunning] using hlooked
        | false =>
          simp only [Heard, recorded, Option.bind_some, hrunning, Bool.false_eq_true, if_false]
          rintro code ⟨⟩
          exact .recorded _ hheard.onward hsilent rfl record hlatest hrunning rfl

/-- All looks at intervals. -/
theorem pollLines_hears (hp : p.Within fun w w' => Follows w' w) (interval left : Nat)
    (h : Attentive message key id start c w) :
    ∃ outcome after,
      (pollLines p settings key message interval left c).run.run w = (.ok outcome, after)
      ∧ ∀ code, outcome = .exited code →
        EndsUnheard p settings message key id start code after := by
  induction left generalizing c w with
  | zero => exact ⟨.timedOut, w, rfl, fun code hcode => by cases hcode⟩
  | succ left ih =>
    have hslept : (liftM (p.sleep interval) : Act σ Unit).run.run w
        = (.ok (), ((p.sleep interval).run w).2) := rfl
    obtain ⟨⟨outcome?, c'⟩, after, hlook, hheard⟩ := lookAgain_hears settings hp
      (h.follows (hp.sleep interval w))
    rw [pollLines, run_bind_of_ok hslept, run_bind_of_ok hlook]
    cases outcome? with
    | some outcome => exact ⟨outcome, after, rfl, hheard⟩
    | none => exact ih hheard

/-! ## 4. The first look -/

/-- What a search over lines has heard that finds among them all that says the message. -/
theorem heard_of_search (hs : OutputSound start.store) (hsame : w.store = start.store)
    {rows : List OutputRow} (hrising : rows.Pairwise fun row later => row.id < later.id)
    (hrows : ∀ row ∈ rows, row ∈ start.store.output ∧ c.selector.matches row = true)
    (hall : ∀ row ∈ start.store.output, Says message key id start.store row → row ∈ rows)
    (hselects : c.selector = .service key ∨ c.selector = .launch id)
    (hreading : Reading c start.store) :
    Heard p settings message key id start (afterPage message none (rows.map OutputRow.shown), c)
      w := by
  have honward : Follows w start := ⟨[], by rw [hsame, Store.run_nil]⟩
  obtain ⟨older, searched, rfl, hsearch, holder⟩ := afterPage_eq_scan message hrising
  have hsaid : ∀ row ∈ w.store.output, Says message key id start.store row → row ∈ searched := by
    intro row hrow hspoken
    rw [hsame] at hrow
    rcases List.mem_append.mp (hall row hrow hspoken) with hbefore | hsearched
    -- Of the lines that are left out none comes after the last start.
    · obtain ⟨mark, hmark, hstart, hlater⟩ := holder row hbefore
      obtain ⟨hin, hmatch⟩ := hrows mark (List.mem_append_right _ hmark)
      have := hspoken.late mark hin (meant_of_matches hselects hmatch) hstart
      omega
    · exact hsearched
  rw [hsearch]
  cases hscan : scan message (searched.map OutputRow.shown) with
  | some outcome =>
    rintro code rfl
    obtain ⟨mark, hmark, hexited, hnumber, hfirst⟩ :=
      exited_first (List.pairwise_append.mp hrising).2.1 hscan
    obtain ⟨hin, hmatch⟩ := hrows mark (List.mem_append_right _ hmark)
    exact .marked w honward mark (hsame ▸ hin) (meant_of_matches hselects hmatch) hexited hnumber
      fun row hrow hspoken => hfirst row (hsaid row hrow hspoken) hspoken
  | none =>
    refine ⟨hsame ▸ hs, honward, hselects, hsame ▸ hreading, fun row hrow hspoken => ?_⟩
    exact absurd hspoken (not_says_of_scan hscan (hsaid row hrow hspoken))

/-- Among the last lines of the service is all that says the message, if a start is. -/
theorem Says.mem_newest (hs : OutputSound first) {count : Nat} (h : Says message key id first row)
    (hrow : row ∈ first.output)
    (hmark : ∃ mark ∈ newest (.service key) count first, isStart mark.shown = true) :
    row ∈ newest (.service key) count first := by
  obtain ⟨mark, hnewest, hstart⟩ := hmark
  obtain ⟨hin, hmatch⟩ := Cursor.mem_newest hnewest
  have hlate := h.late mark hin (Or.inl (eq_of_beq hmatch)) hstart
  have hkeyed : (Selector.service key).matches row = true := beq_iff_eq.mpr h.keyed
  have hplace : row ∈ newest (.service key) count first
      ∨ ∀ x ∈ newest (.service key) count first, row.id < x.id :=
    Cursor.mem_newest_or hs hrow hkeyed
  rcases hplace with hamong | holder
  · exact hamong
  · exact absurd (holder mark hnewest) (Int.not_lt.mpr hlate)

/-- **The first look** misses nothing. -/
theorem FirstLook.hears (hs : OutputSound start.store) (hl : LaunchesSound start.store)
    {record : ProcessRecord} (hlatest : start.store.latest? key = some record)
    (hsame : w.store = start.store) {answer : Option WaitOutcome × Cursor}
    (h : FirstLook key message start.store answer) :
    Heard p settings message key record.id start answer w := by
  cases h with
  | near lines c marked selects reading all =>
    have hsearch : scan message lines = afterPage message none
        ((newest (.service key) pageSize.toNat start.store).map OutputRow.shown) := by
      rw [afterPage, marked]
    rw [hsearch]
    refine heard_of_search hs hsame (Cursor.newest_ascending _ _ hs) (fun row hrow => ?_)
      (fun row hrow hspoken => hspoken.mem_newest hs hrow (exists_isStart_shown marked))
      (Or.inl selects) reading
    exact selects ▸ Cursor.mem_newest hrow
  | idle c stopped =>
    rintro code ⟨⟩
  | far other c unmarked runs selects reading all =>
    obtain rfl : record = other := by
      rw [Store.active?_eq_filter_latest? hl, hlatest] at runs
      exact Option.some.inj (Option.filter_eq_some_iff.mp runs).1
    refine heard_of_search hs hsame (hs.meant_ascending _) (fun row hrow => ?_)
      (fun row hrow hspoken => Store.mem_meant.mpr ⟨hrow, beq_iff_eq.mpr hspoken.own⟩)
      (Or.inr selects) reading
    exact selects ▸ Store.mem_meant.mp hrow

/-! ## 5. Waiting -/

/-- **A wait overlooks only what is said during its last sweep.** It does not fail. When
it ends as exited, then either a line marked the end, and nothing that the launch had
said by then, since the start that was marked last when the wait began, has the
message; or the record said so after a sweep, and no line that was there before this
sweep has it. -/
theorem wait_overlooks_during_sweep_only (hp : p.Within fun w w' => Follows w' w)
    (hquiet : ∀ w, (p.others.run w).2.store = w.store) (history : List Operation)
    (hstore : start.store = Store.empty.run history) {record : ProcessRecord}
    (hlatest : start.store.latest? key = some record) (settings : Settings) (message : String)
    (limit interval : Nat) :
    ∃ outcome after,
      (waitForLog p settings key message limit interval).run.run start = (.ok outcome, after)
        ∧ ∀ code, outcome = .exited code →
          EndsUnheard p settings message key record.id start code after := by
  have hs : OutputSound start.store :=
    hstore ▸ Store.outputSound_run Store.outputSound_empty history
  have hl : LaunchesSound start.store :=
    hstore ▸ Store.launchesSound_run Store.launchesSound_empty history
  have hlast : start.store.lastOutput ≤ lastNumber :=
    hstore ▸ Store.lastOutput_run_le_lastNumber (by decide) history
  obtain ⟨answer, w, hfirst, hsame, hfound⟩ := firstLook_finds hquiet hs hlast key message
  have hheard : Heard p settings message key record.id start answer w :=
    hfound.hears hs hl hlatest hsame
  obtain ⟨outcome?, c⟩ := answer
  rw [waitForLog, run_bind_of_ok hfirst]
  cases outcome? with
  | some outcome => exact ⟨outcome, w, rfl, hheard⟩
  | none => exact pollLines_hears hp _ _ hheard

/-! ## 6. Other parties -/

theorem crowdPlatform_follows (alive : Nat → Bool) :
    (crowdPlatform alive).Within fun w w' => Follows w' w :=
  (crowdPlatform_aside alive).mono fun _ _ h => h.1

/-- While a wait goes on, the launch says something else; while the wait sweeps, the
launch ends. -/
theorem wait_overlooks_nothing_but_end :
    let settings : Settings := ⟨⟨"wrapper"⟩, 0, 0, 5000⟩
    let web : ServiceKey := ⟨"web", ⟨"/srv"⟩⟩
    let line (number : Int) (content : String) (type : LogType) : Operation :=
      .append 0 1 web number content type
    let history : List Operation := [.create 0 web "serve" ⟨"/srv"⟩ none, .updatePid 1 50,
      line 1 "Process started (pid 50)" .started]
    let start : World (List (List Operation)) := ⟨Store.empty.run history, 9, [],
      [[line 2 "working" .stdout], [], [line 3 "Process exited with code 3" .exited,
        .markExited 9 1 3]]⟩
    ∃ after, (waitForLog (crowdPlatform (· == 50)) settings web "ready" 20 1).run.run start
        = (.ok (.exited (some 3)), after)
      ∧ EndsUnheard (crowdPlatform (· == 50)) settings "ready" web 1 start (some 3) after := by
  intro settings web line history start
  have hlatest : start.store.latest? web = some ⟨1, "web", "serve", ⟨"/srv"⟩, ⟨"/srv"⟩, 50, none,
    none, 0, none, true, none⟩ := rfl
  obtain ⟨outcome, after, hrun, hends⟩ := wait_overlooks_during_sweep_only
    (crowdPlatform_follows (· == 50)) (fun _ => rfl) history rfl hlatest settings "ready" 20 1
  have houtcome : ((waitForLog (crowdPlatform (· == 50)) settings web "ready" 20 1).run.run
      start).1.toOption = some (.exited (some 3)) := by decide +kernel
  rw [hrun] at houtcome
  obtain rfl : outcome = .exited (some 3) := Option.some.inj houtcome
  exact ⟨after, hrun, hends _ rfl⟩

/-- **A wait can overlook the last words of a launch**: they are said and the launch ends
while the wait asks whether it is alive. -/
theorem wait_overlooks_last_words :
    let settings : Settings := ⟨⟨"wrapper"⟩, 0, 0, 5000⟩
    let web : ServiceKey := ⟨"web", ⟨"/srv"⟩⟩
    let line (number : Int) (content : String) (type : LogType) : Operation :=
      .append 0 1 web number content type
    let history : List Operation := [.create 0 web "serve" ⟨"/srv"⟩ none, .updatePid 1 50,
      line 1 "Process started (pid 50)" .started]
    let start : World (List (List Operation)) := ⟨Store.empty.run history, 9, [],
      [[], [line 2 "ready" .stdout, line 3 "Process exited with code 0" .exited,
        .markExited 9 1 0]]⟩
    ∃ after, (waitForLog (crowdPlatform (· == 50)) settings web "ready" 20 1).run.run start
        = (.ok (.exited (some 0)), after)
      ∧ ∃ row ∈ after.store.output, Says "ready" web 1 start.store row
        ∧ ∀ mark ∈ after.store.output, mark.shown.type = .exited → row.id < mark.id := by
  intro settings web line history start
  let row (id : Int) (content : String) (type : LogType) : OutputRow :=
    ⟨id, 1, web, id, content, type.text, 0⟩
  have houtcome : ((waitForLog (crowdPlatform (· == 50)) settings web "ready" 20 1).run.run
      start).1.toOption = some (.exited (some 0)) := by decide +kernel
  have houtput : ((waitForLog (crowdPlatform (· == 50)) settings web "ready" 20 1).run.run
      start).2.store.output = [row 3 "Process exited with code 0" .exited, row 2 "ready" .stdout,
        row 1 "Process started (pid 50)" .started] := by decide +kernel
  rcases hrun : (waitForLog (crowdPlatform (· == 50)) settings web "ready" 20 1).run.run start with
    ⟨_ | outcome, after⟩
  · rw [hrun] at houtcome
    cases houtcome
  · rw [hrun] at houtcome houtput
    simp only at houtput
    obtain rfl : outcome = .exited (some 0) := Option.some.inj houtcome
    have hspoken : Says "ready" web 1 start.store (row 2 "ready" .stdout) :=
      ⟨rfl, rfl, by decide +kernel, by decide +kernel, by decide +kernel⟩
    refine ⟨after, rfl, row 2 "ready" .stdout, ?_, hspoken, ?_⟩
    all_goals
      rw [houtput]
      decide +kernel

end Overseer.Supervisor
