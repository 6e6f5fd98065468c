/-
Overseer.Proofs.Supervisor.Searching — what the first look of a wait comes to.

The first look searches the lines from the last start on in one of two ways. It takes
them from the last lines of the service, if a start is marked there. Otherwise it reads
the running launch from its first line, page by page, and a start that turns up on a
later page forgets what was found before it.

Both are one search. `afterPage_append` says that two pages are searched like the one
that they make together, so that the division into pages does not matter
(`scanPages_run`). And the last lines are the end of all lines, so that the last start
among them is the last start of all (`fromLastStart?_append`). `firstLook_finds` says
what the first look comes to in any store, and `searches_are_one` that this is one
search, for a launch that has the service to itself from its last start on.
-/
import Overseer.Proofs.Store.ActiveLaunch
import Overseer.Proofs.Supervisor.Waiting

namespace Overseer

/-! ## 1. Lines that are meant -/

namespace Store

/-- The lines that are meant, oldest first. -/
def meant (s : Store) (selector : Selector) : List OutputRow :=
  (s.output.filter selector.matches).reverse

variable {s : Store} {selector : Selector}

theorem mem_meant {row : OutputRow} :
    row ∈ s.meant selector ↔ row ∈ s.output ∧ selector.matches row = true := by
  simp [meant]

theorem OutputSound.meant_ascending (hs : OutputSound s) (selector : Selector) :
    (s.meant selector).Pairwise fun row later => row.id < later.id :=
  List.pairwise_reverse.mpr (hs.order.filter _)

theorem length_meant (s : Store) (selector : Selector) :
    (s.meant selector).length = s.count selector := by
  simp [meant, count]

/-- There are no more lines than numbers. -/
theorem length_le_of_descending {rows : List OutputRow} {last : Int}
    (horder : rows.Pairwise fun row older => older.id < row.id)
    (hnumbers : ∀ row ∈ rows, 0 < row.id ∧ row.id ≤ last) (hlast : 0 ≤ last) :
    (rows.length : Int) ≤ last := by
  induction rows generalizing last with
  | nil => exact hlast
  | cons row rest ih =>
    obtain ⟨hbelow, hrest⟩ := List.pairwise_cons.mp horder
    obtain ⟨⟨hpositive, hrow⟩, hothers⟩ := List.forall_mem_cons.mp hnumbers
    have hfewer : (rest.length : Int) ≤ row.id - 1 := by
      refine ih hrest (fun older h => ?_) (by omega)
      exact ⟨(hothers older h).1, Int.le_sub_one_of_lt (hbelow older h)⟩
    rw [List.length_cons]
    omega

theorem OutputSound.count_lt_pagesAtMost (hs : OutputSound s) (hlast : s.lastOutput ≤ lastNumber)
    (selector : Selector) : s.count selector < Supervisor.pagesAtMost := by
  have hfew : ((s.output.filter selector.matches).length : Int) ≤ s.lastOutput :=
    length_le_of_descending (hs.order.filter _)
      (fun row hrow => hs.numbers row (List.mem_filter.mp hrow).1) hs.start
  rw [count, Supervisor.pagesAtMost]
  omega

end Store

namespace Log.Cursor

open Store (OutputSound)

variable {c : Cursor} {s : Store}

/-- The last lines are the end of all that are meant. -/
theorem newest_suffix (selector : Selector) (count : Nat) (s : Store) :
    newest selector count s <:+ s.meant selector :=
  List.reverse_suffix.mpr (List.take_prefix _ _)

theorem ahead_fromStart (hs : OutputSound s) (selector : Selector) (limit : Option Int) :
    (fromStart selector limit).ahead s = s.meant selector := by
  refine congrArg List.reverse (List.filter_congr fun row hrow => ?_)
  have hnumber : (fromStart selector limit).reached < row.id := (hs.numbers row hrow).1
  rw [decide_eq_true hnumber, Bool.and_true]
  rfl

/-- Behind the first lines ahead are the others. -/
theorem ahead_advanced (hs : OutputSound s) (c : Cursor) (count : Nat) :
    ({ c with
      watermark := some ((((c.ahead s).take count).map (·.id)).foldl max c.reached) } :
        Cursor).ahead s
      = (c.ahead s).drop count := by
  obtain ⟨hforward, hbelow, hhighest⟩ :=
    foldl_max_spec (((c.ahead s).take count).map (·.id)) c.reached
  generalize (((c.ahead s).take count).map (·.id)).foldl max c.reached = mark at *
  have hfilter : ({ c with watermark := some mark } : Cursor).ahead s
      = (c.ahead s).filter fun row => decide (mark < row.id) := by
    rw [ahead, ahead, List.filter_reverse, List.filter_filter]
    refine congrArg List.reverse (List.filter_congr fun row _ => ?_)
    show (c.selector.matches row && decide (mark < row.id)) = _
    by_cases hlater : mark < row.id
    · have hahead : c.reached < row.id := Int.lt_of_le_of_lt hforward hlater
      simp [hlater, hahead]
    · simp [hlater]
  have hsplit := c.ahead_ascending hs
  rw [← List.take_append_drop count (c.ahead s)] at hsplit
  obtain ⟨_, _, hrising⟩ := List.pairwise_append.mp hsplit
  have htaken : ((c.ahead s).take count).filter (fun row => decide (mark < row.id)) = [] := by
    refine List.filter_eq_nil_iff.mpr fun row hrow => ?_
    simpa using hbelow _ (List.mem_map_of_mem hrow)
  have hleft : ((c.ahead s).drop count).filter (fun row => decide (mark < row.id))
      = (c.ahead s).drop count := by
    refine List.filter_eq_self.mpr fun row hrow => decide_eq_true ?_
    rcases hhighest with hmark | hmark
    · exact hmark ▸ (mem_ahead_iff.mp (List.mem_of_mem_drop hrow)).2.2
    · obtain ⟨last, hlast, hid⟩ := List.mem_map.mp hmark
      exact hid ▸ hrising last hlast row hrow
  rw [hfilter]
  conv_lhs => rw [← List.take_append_drop count (c.ahead s)]
  rw [List.filter_append, htaken, hleft, List.nil_append]

/-- A cursor goes no further than the store does. -/
theorem foldl_max_le_lastOutput (hs : OutputSound s) {rows : List OutputRow}
    (hrows : ∀ row ∈ rows, row ∈ s.output) {start : Int} (hstart : start ≤ s.lastOutput) :
    (rows.map (·.id)).foldl max start ≤ s.lastOutput := by
  obtain ⟨_, _, hhighest⟩ := foldl_max_spec (rows.map (·.id)) start
  rcases hhighest with hmark | hmark
  · exact Int.le_trans (Int.le_of_eq hmark) hstart
  · obtain ⟨row, hrow, hid⟩ := List.mem_map.mp hmark
    exact hid ▸ (hs.numbers row (hrows row hrow)).2

/-- A cursor that has read on, not beyond the store. -/
structure Reading (c : Cursor) (s : Store) : Prop where
  begun : (c.watermark.isNone && c.tail) = false
  bound : c.reached ≤ s.lastOutput

end Log.Cursor

namespace Supervisor

open Log (Cursor)
open Log.Cursor (newest reachedBy Reading)
open Store (Operation OutputSound LaunchesSound)

variable {σ : Type} {p : Platform σ} {key : ServiceKey} {message : String} {w : World σ}

/-! ## 2. Searching in parts -/

theorem scan_append (message : String) (rows later : List LogRecord) :
    scan message (rows ++ later) = (scan message rows).or (scan message later) := by
  simp only [scan_eq_findSome?, List.findSome?_append]

theorem fromLastStart?_append (rows later : List LogRecord) :
    fromLastStart? (rows ++ later)
      = (fromLastStart? later).or ((fromLastStart? rows).map (· ++ later)) := by
  induction rows with
  | nil => cases h : fromLastStart? later <;> simp [h, fromLastStart?]
  | cons row rest ih =>
    rw [List.cons_append, fromLastStart?, ih, fromLastStart?]
    cases fromLastStart? later with
    | some lines => rfl
    | none =>
      cases fromLastStart? rest with
      | some lines => rfl
      | none => cases h : isStart row <;> simp

theorem fromLastStart?_eq_none {rows : List LogRecord} (h : ∀ r ∈ rows, isStart r = false) :
    fromLastStart? rows = none := by
  induction rows with
  | nil => rfl
  | cons row rest ih =>
    obtain ⟨hrow, hrest⟩ := List.forall_mem_cons.mp h
    simp [fromLastStart?, ih hrest, hrow]

/-- The last start is the one after which none stands. -/
theorem fromLastStart?_of_split {before after : List LogRecord} {mark : LogRecord}
    (hmark : isStart mark = true) (hafter : ∀ r ∈ after, isStart r = false) :
    fromLastStart? (before ++ mark :: after) = some (mark :: after) := by
  rw [fromLastStart?_append, fromLastStart?, fromLastStart?_eq_none hafter]
  simp [hmark]

/-- What is read from the last start on begins with a start. -/
theorem split_of_fromLastStart? {rows lines : List LogRecord}
    (h : fromLastStart? rows = some lines) :
    ∃ before mark after, rows = before ++ mark :: after ∧ lines = mark :: after
      ∧ isStart mark = true := by
  induction rows with
  | nil => cases h
  | cons row rest ih =>
    rcases fromLastStart?_cons h with hlater | ⟨rfl, hstart, _⟩
    · obtain ⟨before, mark, after, rfl, hlines, hstart⟩ := ih hlater
      exact ⟨row :: before, mark, after, rfl, hlines, hstart⟩
    · exact ⟨[], row, rest, rfl, rfl, hstart⟩

/-- Two pages are searched like the one that they make together. -/
theorem afterPage_append (message : String) (found : Option WaitOutcome)
    (page later : List LogRecord) :
    afterPage message (afterPage message found page) later
      = afterPage message found (page ++ later) := by
  simp only [afterPage, fromLastStart?_append]
  cases fromLastStart? later with
  | some lines => rfl
  | none =>
    cases fromLastStart? page with
    | some lines => exact (scan_append message lines later).symm
    | none =>
      simp only [Option.map_none, Option.or_none, scan_append]
      exact Option.or_assoc ..

/-! ## 3. Reading pages -/

/-- Reading pages is searching all lines that lie ahead, whatever the length of a page.
It ends when there are as many pages as lines, and one more. -/
theorem scanPages_run (hquiet : ∀ w, (p.others.run w).2.store = w.store)
    (hs : OutputSound w.store) (message : String) {count fuel : Nat} (hcount : 1 ≤ count)
    {c : Cursor} (hreading : Reading c w.store) (hlimit : c.limit = some (count : Int))
    (hfuel : (c.ahead w.store).length < fuel) (found : Option WaitOutcome) :
    ∃ c' w', (scanPages p message fuel c found).run.run w
        = (.ok (afterPage message found ((c.ahead w.store).map OutputRow.shown), c'), w')
      ∧ w'.store = w.store ∧ c'.selector = c.selector ∧ Reading c' w.store
      ∧ c'.ahead w.store = [] := by
  induction fuel generalizing c w found with
  | zero => exact absurd hfuel (Nat.not_lt_zero _)
  | succ fuel ih =>
    let c' : Cursor := { c with
      watermark := some ((((c.ahead w.store).take count).map (·.id)).foldl max c.reached) }
    have hstore : (p.others.run w).2.store = w.store := hquiet w
    have hread : c.nextWith (p.others.run w).2.store c.limit
        = .ok (((c.ahead w.store).take count).map OutputRow.shown, c') := by
      rw [hstore, hlimit]
      exact Cursor.nextWith_ahead hs hreading.begun (some count)
    have hahead : c'.ahead w.store = (c.ahead w.store).drop count :=
      Cursor.ahead_advanced hs c count
    have hreading' : Reading c' w.store :=
      ⟨rfl, Cursor.foldl_max_le_lastOutput hs (fun row hrow =>
        (Cursor.mem_ahead_iff.mp (List.mem_of_mem_take hrow)).1) hreading.bound⟩
    rw [scanPages, run_bind_of_ok (readOn_run hread)]
    simp only
    cases hpage : (c.ahead w.store).take count with
    | nil =>
      have hnone : c.ahead w.store = [] := by
        rcases List.take_eq_nil_iff.mp hpage with hzero | hnone
        · omega
        · exact hnone
      refine ⟨c', _, ?_, hstore, rfl, hreading', by rw [hahead, hnone, List.drop_nil]⟩
      rw [hnone]
      simp [afterPage, fromLastStart?, scan]
      rfl
    | cons row rest =>
      have hfewer : (c'.ahead w.store).length < fuel := by
        have hlength := congrArg List.length hpage
        rw [List.length_take, List.length_cons] at hlength
        rw [hahead, List.length_drop]
        omega
      rw [← hstore] at hs hreading' hfewer
      obtain ⟨last, w', hrest, hsame, hselects, hend, hall⟩ := ih hs hreading' hlimit hfewer
        (afterPage message found ((row :: rest).map OutputRow.shown))
      rw [hstore] at hrest hsame hend hall
      refine ⟨last, w', ?_, hsame, hselects, hend, hall⟩
      rw [afterPage_append, hahead, ← List.map_append, ← hpage, List.take_append_drop] at hrest
      simpa [hpage] using hrest

/-- **Reading pages ends by itself**, also while other parties add lines: with as many
pages as there are numbers ahead of the cursor, it never ends for want of another one. -/
theorem scanPages_ends_by_itself
    (hothers : Asks (fun w => OutputSound w.store ∧ w.store.lastOutput ≤ lastNumber) p.others
      fun _ w => OutputSound w.store ∧ w.store.lastOutput ≤ lastNumber)
    (hw : OutputSound w.store ∧ w.store.lastOutput ≤ lastNumber) (message : String)
    {fuel : Nat} {c : Cursor} (hbegun : (c.watermark.isNone && c.tail) = false) {count : Nat}
    (hlimit : c.limit = some (count : Int)) (hbound : c.reached ≤ lastNumber)
    (hfuel : lastNumber - c.reached < fuel) (found : Option WaitOutcome) (more : Nat) :
    (scanPages p message (fuel + more) c found).run.run w
      = (scanPages p message fuel c found).run.run w := by
  induction fuel generalizing c w found with
  | zero => omega
  | succ fuel ih =>
    obtain ⟨hs, hlast⟩ := hothers w hw
    obtain ⟨rows, mark, hnext, hpage⟩ := Cursor.page_of_nextWith hs hbegun (some count)
    have hread : (readOn p c c.limit).run.run w
        = (.ok (rows.map OutputRow.shown, { c with watermark := some mark }),
          (p.others.run w).2) := by
      refine readOn_run ?_
      rw [← hnext, hlimit]
      rfl
    rw [Nat.add_right_comm, scanPages, scanPages, run_bind_of_ok hread, run_bind_of_ok hread]
    cases hrows : rows with
    | nil => rfl
    | cons row rest =>
      -- The page has a line, so that the cursor has moved, and not beyond the last number.
      have hmoved : c.reached < mark := by
        refine (Int.lt_or_eq_of_le hpage.forward).resolve_right fun hsame => ?_
        rw [hpage.eq_nil hsame.symm] at hrows
        cases hrows
      have hmark : mark ≤ lastNumber := by
        rcases hpage.highest with hmark | ⟨line, hline, rfl⟩
        · exact hmark ▸ hbound
        · exact Int.le_trans (hs.numbers line (hpage.meant line hline).1).2 hlast
      exact ih (c := { c with watermark := some mark }) ⟨hs, hlast⟩ rfl hlimit hmark
        (show lastNumber - mark < fuel by omega) _

/-! ## 4. The first look -/

/-- What the first look finds in a store, and where it leaves the reader: behind all that
it has searched. -/
inductive FirstLook (key : ServiceKey) (message : String) (s : Store) :
    Option WaitOutcome × Cursor → Prop where
  | near (lines : List LogRecord) (c : Cursor)
      (marked : fromLastStart? ((newest (.service key) pageSize.toNat s).map OutputRow.shown)
        = some lines)
      (selects : c.selector = .service key) (reading : Reading c s) (all : c.ahead s = []) :
    FirstLook key message s (scan message lines, c)
  | idle (c : Cursor) (stopped : s.active? key = none) :
    FirstLook key message s (some .notStarted, c)
  | far (record : ProcessRecord) (c : Cursor)
      (unmarked : fromLastStart? ((newest (.service key) pageSize.toNat s).map OutputRow.shown)
        = none)
      (runs : s.active? key = some record)
      (selects : c.selector = .launch record.id) (reading : Reading c s) (all : c.ahead s = []) :
    FirstLook key message s
      (afterPage message none ((s.meant (.launch record.id)).map OutputRow.shown), c)

theorem firstLook_finds (hquiet : ∀ w, (p.others.run w).2.store = w.store)
    (hs : OutputSound w.store) (hlast : w.store.lastOutput ≤ lastNumber) (key : ServiceKey)
    (message : String) :
    ∃ answer w', (firstLook p key message).run.run w = (.ok answer, w')
      ∧ w'.store = w.store ∧ FirstLook key message w.store answer := by
  let c : Cursor := { Cursor.tailing (.service key) (some pageSize) with
    watermark := some (reachedBy (newest (.service key) pageSize.toNat w.store)) }
  let seen := (p.others.run w).2
  have hstore : seen.store = w.store := hquiet w
  have hread : (readOn p (.tailing (.service key) (some pageSize)) (some pageSize)).run.run w
      = (.ok ((newest (.service key) pageSize.toNat w.store).map OutputRow.shown, c), seen) := by
    refine readOn_run ?_
    rw [hquiet]
    exact Cursor.nextWith_tailing hs (.service key) pageSize.toNat
  have hreading : Reading c w.store :=
    ⟨rfl, Cursor.foldl_max_le_lastOutput hs (fun _ hrow => (Cursor.mem_newest hrow).1) hs.start⟩
  have hall : c.ahead w.store = [] := by
    refine List.eq_nil_iff_forall_not_mem.mpr fun row hrow => ?_
    obtain ⟨hin, hmatch, hahead⟩ := Cursor.mem_ahead_iff.mp hrow
    exact absurd (Cursor.le_reachedBy_newest (by decide) hs hin hmatch) (Int.not_le.mpr hahead)
  unfold firstLook
  rw [run_bind_of_ok hread]
  simp only
  cases hstart : fromLastStart?
      ((newest (.service key) pageSize.toNat w.store).map OutputRow.shown) with
  | some lines => exact ⟨_, _, rfl, hstore, .near lines c hstart rfl hreading hall⟩
  | none =>
    let seen' := (p.others.run seen).2
    have hstore' : seen'.store = w.store := (hquiet seen).trans hstore
    have hactive : (look p fun s => s.active? key).run.run seen
        = (.ok (w.store.active? key), seen') := by
      rw [← hstore']
      exact access_run rfl
    simp only
    rw [run_bind_of_ok hactive]
    cases hruns : w.store.active? key with
    | none => exact ⟨_, _, rfl, hstore', .idle c hruns⟩
    | some record =>
      have hmeant := Cursor.ahead_fromStart hs (.launch record.id) (some pageSize)
      have hbegins : Reading (.fromStart (.launch record.id) (some pageSize)) w.store :=
        ⟨rfl, hs.start⟩
      have hcounting : 1 ≤ pageSize.toNat := by decide
      have hfuel : ((Cursor.fromStart (.launch record.id) (some pageSize)).ahead w.store).length
          < pagesAtMost := by
        rw [hmeant, Store.length_meant]
        exact hs.count_lt_pagesAtMost hlast _
      rw [← hstore'] at hs hbegins hmeant hfuel
      obtain ⟨c', w', hrun, hsame, hselects, hreading', hall'⟩ :=
        scanPages_run hquiet hs message hcounting hbegins rfl hfuel none
      rw [hmeant] at hrun
      rw [hstore'] at hrun hsame hreading' hall'
      exact ⟨_, w', hrun, hsame, .far record c' hstart hruns hselects hreading' hall'⟩

/-! ## 5. One search -/

/-- When the launch has the service to itself from its last start on, the last start of
the launch is the last one of the service, with the same lines after it. -/
theorem meant_service_split {s : Store} (hs : OutputSound s) {id : Int}
    {before after : List OutputRow} {mark : OutputRow}
    (hlines : s.meant (.launch id) = before ++ mark :: after)
    (hown : ∀ row ∈ s.output, row.launch = id → row.key = key)
    (halone : ∀ row ∈ s.output, row.key = key → mark.id ≤ row.id → row.launch = id) :
    ∃ older, s.meant (.service key) = older ++ mark :: after := by
  have hlaunch : s.output.filter (Selector.launch id).matches
      = after.reverse ++ mark :: before.reverse := by
    rw [← List.reverse_reverse (List.filter _ _), ← Store.meant, hlines]
    simp
  obtain ⟨newer, rest, hsplit, hnewer, hrest⟩ := List.filter_eq_append_iff.mp hlaunch
  obtain ⟨foreign, older, rfl, hforeign, hmark, _⟩ := List.filter_eq_cons_iff.mp hrest
  have hin {row : OutputRow} (h : row ∈ newer ++ (foreign ++ mark :: older)) : row ∈ s.output :=
    hsplit ▸ h
  have hmarkOwn : mark.launch = id := eq_of_beq hmark
  have hkeyed : (Selector.service key).matches mark = true :=
    beq_iff_eq.mpr (hown mark (hin (by simp)) hmarkOwn)
  have habove : ∀ row ∈ newer ++ foreign, mark.id < row.id := by
    have horder := hs.order
    rw [hsplit, ← List.append_assoc] at horder
    exact fun row hrow => (List.pairwise_append.mp horder).2.2 row hrow mark List.mem_cons_self
  -- Above the mark a line is of the service just if it is of the launch.
  have hsame {row : OutputRow} (h : row ∈ newer ++ foreign) :
      (Selector.service key).matches row = (Selector.launch id).matches row := by
    have hrow : row ∈ s.output := hin (by
      rw [← List.append_assoc]
      exact List.mem_append_left _ h)
    refine Bool.eq_iff_iff.mpr ⟨fun hkey => ?_, fun hid => ?_⟩
    · exact beq_iff_eq.mpr (halone row hrow (eq_of_beq hkey) (Int.le_of_lt (habove row h)))
    · exact beq_iff_eq.mpr (hown row hrow (eq_of_beq hid))
  have hnewer' : newer.filter (Selector.service key).matches = after.reverse := by
    rw [← hnewer]
    exact List.filter_congr fun row h => hsame (List.mem_append_left _ h)
  have hforeign' : foreign.filter (Selector.service key).matches = [] := by
    refine List.filter_eq_nil_iff.mpr fun row h => ?_
    rw [hsame (List.mem_append_right _ h)]
    exact hforeign row h
  refine ⟨(older.filter (Selector.service key).matches).reverse, ?_⟩
  rw [Store.meant, hsplit, List.filter_append, List.filter_append, hnewer', hforeign',
    List.filter_cons_of_pos hkeyed]
  simp

theorem fromLastStart?_of_rows (before : List OutputRow) {after : List OutputRow} {mark : OutputRow}
    (hmark : isStart mark.shown = true) (hafter : ∀ row ∈ after, isStart row.shown = false) :
    fromLastStart? ((before ++ mark :: after).map OutputRow.shown)
      = some ((mark :: after).map OutputRow.shown) := by
  rw [List.map_append, List.map_cons]
  exact fromLastStart?_of_split hmark (List.forall_mem_map.mpr hafter)

/-- **The two searches of a wait are one plain search.** When the newest launch of a
service runs, has marked a start and has the service to itself from its last start on,
the first look answers with what its lines from there on decide, however many lines
stand before and after. And reading a launch page by page is searching its lines from
the last start on, or all of them if there is none, whatever the length of a page. -/
theorem searches_are_one (hquiet : ∀ w, (p.others.run w).2.store = w.store)
    (history : List Operation) (hw : w.store = Store.empty.run history) (message : String) :
    (∀ key record before mark after,
      w.store.latest? key = some record → record.running = true →
      w.store.meant (.launch record.id) = before ++ mark :: after →
      isStart mark.shown = true → (∀ row ∈ after, isStart row.shown = false) →
      (∀ row ∈ w.store.output, row.launch = record.id → row.key = key) →
      (∀ row ∈ w.store.output, row.key = key → mark.id ≤ row.id → row.launch = record.id) →
      ((firstLook p key message).run.run w).1.map Prod.fst
        = .ok (scan message ((mark :: after).map OutputRow.shown)))
    ∧ ∀ id count fuel, 1 ≤ count → w.store.count (.launch id) < fuel →
      let lines := w.store.meant (.launch id)
      let answer := ((scanPages p message fuel (.fromStart (.launch id) (some (count : Nat)))
        none).run.run w).1.map Prod.fst
      (∀ before mark after, lines = before ++ mark :: after → isStart mark.shown = true →
        (∀ row ∈ after, isStart row.shown = false) →
        answer = .ok (scan message ((mark :: after).map OutputRow.shown)))
      ∧ ((∀ row ∈ lines, isStart row.shown = false) →
        answer = .ok (scan message (lines.map OutputRow.shown))) := by
  have hs : OutputSound w.store := hw ▸ Store.outputSound_run Store.outputSound_empty history
  have hl : LaunchesSound w.store := hw ▸ Store.launchesSound_run Store.launchesSound_empty history
  constructor
  · intro key record before mark after hlatest hruns hlines hmark hafter hown halone
    have hactive : w.store.active? key = some record := by
      rw [Store.active?_eq_filter_latest? hl, hlatest, Option.filter_some, if_pos hruns]
    have hlast : w.store.lastOutput ≤ lastNumber :=
      hw ▸ Store.lastOutput_run_le_lastNumber (by decide) history
    obtain ⟨⟨outcome, c⟩, w', hrun, _, hfound⟩ := firstLook_finds hquiet hs hlast key message
    rw [hrun]
    refine congrArg Except.ok ?_
    show outcome = _
    cases hfound with
    | near lines c marked selects reading all =>
      obtain ⟨older, hservice⟩ := meant_service_split hs hlines hown halone
      obtain ⟨skipped, hskipped⟩ := Cursor.newest_suffix (.service key) pageSize.toNat w.store
      have hlast := fromLastStart?_of_rows older hmark hafter
      rw [← hservice, ← hskipped, List.map_append, fromLastStart?_append, marked] at hlast
      exact congrArg (scan message) (Option.some.inj hlast)
    | idle c stopped =>
      rw [hactive] at stopped
      cases stopped
    | far other c unmarked runs selects reading all =>
      obtain rfl := Option.some.inj (hactive.symm.trans runs)
      rw [afterPage, hlines, fromLastStart?_of_rows before hmark hafter]
  · intro id count fuel hcount hfuel lines answer
    have hmeant := Cursor.ahead_fromStart hs (.launch id) (some (count : Int))
    obtain ⟨c', w', hrun, _⟩ := scanPages_run hquiet hs message hcount
      (c := .fromStart (.launch id) (some (count : Int))) ⟨rfl, hs.start⟩ rfl
      (by rwa [hmeant, Store.length_meant]) none
    have hanswer : answer = .ok (afterPage message none (lines.map OutputRow.shown)) := by
      simp only [answer, hrun, hmeant]
      rfl
    rw [hanswer]
    refine ⟨fun before mark after hlines hmark hafter => ?_, fun hnone => ?_⟩
    · rw [hlines, afterPage, fromLastStart?_of_rows before hmark hafter]
    · rw [afterPage, fromLastStart?_eq_none (List.forall_mem_map.mpr hnone), Option.none_or]

/-- A launch says what is waited for, starts again and says it once more. The line before
the second start does not count, although it is found on an earlier page. -/
theorem searches_are_one_past_restart :
    let web : ServiceKey := ⟨"web", ⟨"/srv"⟩⟩
    let line (launch number : Int) (content : String) (type : LogType) : Operation :=
      .append 0 launch web number content type
    let history : List Operation := [.create 0 web "serve" ⟨"/srv"⟩ none,
      line 1 1 "ready" .stdout, .markExited 1 1 0, .create 2 web "serve" ⟨"/srv"⟩ none,
      line 2 1 "Process started (pid 60)" .started, line 2 2 "ready" .stdout,
      line 2 3 "Process started (pid 61)" .started, line 2 4 "working" .stdout,
      line 2 5 "ready" .stderr]
    let w : World (List (List Operation)) := ⟨Store.empty.run history, 9, [], []⟩
    let found : WaitOutcome := .found ⟨6, 2, "web", ⟨"/srv"⟩, 5, "ready", .stderr, 0⟩
    ((firstLook (crowdPlatform fun _ => true) web "ready").run.run w).1.map Prod.fst
        = .ok (some found)
      ∧ ((scanPages (crowdPlatform fun _ => true) "ready" 6 (.fromStart (.launch 2)
        (some (2 : Nat))) none).run.run w).1.map Prod.fst = .ok (some found) := by
  intro web line history w found
  let row (id number : Int) (content : String) (type : LogType) : OutputRow :=
    ⟨id, 2, web, number, content, type.text, 0⟩
  let before := [row 2 1 "Process started (pid 60)" .started, row 3 2 "ready" .stdout]
  let mark := row 4 3 "Process started (pid 61)" .started
  let after := [row 5 4 "working" .stdout, row 6 5 "ready" .stderr]
  obtain ⟨hfirst, hpages⟩ := searches_are_one (p := crowdPlatform fun _ => true) (w := w)
    (fun _ => rfl) history rfl "ready"
  have hlines : w.store.meant (.launch 2) = before ++ mark :: after := by decide +kernel
  have hscan : scan "ready" ((mark :: after).map OutputRow.shown) = some found := by decide +kernel
  rw [← hscan]
  refine ⟨hfirst web ⟨2, "web", "serve", ⟨"/srv"⟩, ⟨"/srv"⟩, 0, none, none, 2, none, true, none⟩
    before mark after ?_ rfl hlines ?_ ?_ ?_ ?_,
    (hpages 2 2 6 ?_ ?_).1 before mark after hlines ?_ ?_⟩
  all_goals decide +kernel

end Supervisor

end Overseer
