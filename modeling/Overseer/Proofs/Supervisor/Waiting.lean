/-
Overseer.Proofs.Supervisor.Waiting — which lines a wait goes by.

A wait is for the current launch of a service, and knows it by the last line that
marks a start. `wait_decided_by_others_only` says how far this goes. As long as the
launch runs, is alive and writes nothing that decides the wait, the wait ends with
its time, or by a line of another launch of the service which comes after every
start that was marked before. Once the launch has marked its start and is the only
one to write for the service, there is no such line.

The launch may not have marked its start yet. Then the last start is that of a former
launch, whose lines are searched (`wait_finds_line_of_former_launch`).

`Current` is what is known of the store all along, and `Upholds` that the platform
leaves it so. `ReadsOn` is where the wait stands between two looks. Either it reads
the launch alone and nothing it reads decides anything, or it stands behind all that
was there at the first look. Each look keeps this (`lookAgain_upheld`).
-/
import Overseer.Proofs.Supervisor.Watching
import Overseer.Supervisor.Wait

namespace Overseer.Supervisor

open Log (Cursor)
open Log.Cursor (newest reachedBy)
open Store (Operation OutputSound)

variable {σ : Type} {p : Platform σ} {settings : Settings} {key : ServiceKey} {message : String}
  {id : Int} {K E : World σ → Prop} {first : Store} {c : Cursor}

/-! ## 1. Lines that decide -/

/-- What a line decides by itself. -/
def decision? (message : String) (r : LogRecord) : Option WaitOutcome :=
  if r.type == .exited then some (.exited (lastNumber? r.content))
  else if !r.type.isMarker && occursIn message.toList r.content.toList then some (.found r)
  else none

theorem scan_eq_findSome? (message : String) (rows : List LogRecord) :
    scan message rows = rows.findSome? (decision? message) := by
  induction rows with
  | nil => rfl
  | cons r rest ih =>
    rw [scan, List.findSome?_cons, ← ih, decision?]
    split
    · rfl
    · split <;> rfl

theorem scan_eq_none {rows : List LogRecord} (h : ∀ r ∈ rows, decision? message r = none) :
    scan message rows = none := by
  rw [scan_eq_findSome?]
  exact List.findSome?_eq_none_iff.mpr h

theorem exists_of_scan {rows : List LogRecord} {outcome : WaitOutcome}
    (h : scan message rows = some outcome) : ∃ r ∈ rows, decision? message r = some outcome := by
  rw [scan_eq_findSome?] at h
  exact List.exists_of_findSome?_eq_some h

section

variable {rows lines : List LogRecord}

theorem not_isStart_of_fromLastStart? (h : fromLastStart? rows = none) :
    ∀ r ∈ rows, isStart r = false := by
  induction rows with
  | nil => exact fun r hr => absurd hr List.not_mem_nil
  | cons x rest ih =>
    unfold fromLastStart? at h
    cases hrest : fromLastStart? rest with
    | some lines => simp [hrest] at h
    | none =>
      simp only [hrest, ite_eq_right_iff, reduceCtorEq, imp_false, Bool.not_eq_true] at h
      exact List.forall_mem_cons.mpr ⟨h, ih hrest⟩

/-- What is read from the last start on: the lines after it have no start. -/
theorem fromLastStart?_cons {x : LogRecord} {rest : List LogRecord}
    (h : fromLastStart? (x :: rest) = some lines) :
    fromLastStart? rest = some lines
      ∨ (lines = x :: rest ∧ isStart x = true ∧ ∀ r ∈ rest, isStart r = false) := by
  unfold fromLastStart? at h
  cases hrest : fromLastStart? rest with
  | some later => exact Or.inl (by simpa [hrest] using h)
  | none =>
    simp only [hrest, Option.ite_none_right_eq_some, Option.some.injEq] at h
    exact Or.inr ⟨h.2.symm, h.1, not_isStart_of_fromLastStart? hrest⟩

theorem mem_of_fromLastStart? (h : fromLastStart? rows = some lines) {r : LogRecord}
    (hr : r ∈ lines) : r ∈ rows := by
  induction rows with
  | nil => cases h
  | cons x rest ih =>
    rcases fromLastStart?_cons h with hlater | ⟨rfl, _, _⟩
    · exact List.mem_cons_of_mem _ (ih hlater)
    · exact hr

theorem exists_isStart (h : fromLastStart? rows = some lines) :
    ∃ mark ∈ rows, isStart mark = true := by
  induction rows with
  | nil => cases h
  | cons x rest ih =>
    rcases fromLastStart?_cons h with hlater | ⟨_, hstart, _⟩
    · obtain ⟨mark, hmark, hstart⟩ := ih hlater
      exact ⟨mark, List.mem_cons_of_mem _ hmark, hstart⟩
    · exact ⟨x, List.mem_cons_self, hstart⟩

theorem exists_isStart_shown {rows : List OutputRow}
    (h : fromLastStart? (rows.map OutputRow.shown) = some lines) :
    ∃ mark ∈ rows, isStart mark.shown = true := by
  obtain ⟨_, hmark, hstart⟩ := exists_isStart h
  obtain ⟨mark, hmark', rfl⟩ := List.mem_map.mp hmark
  exact ⟨mark, hmark', hstart⟩

/-- No start stands after the lines that are read from the last one on. -/
theorem start_le_of_fromLastStart? (h : fromLastStart? rows = some lines)
    (hrising : rows.Pairwise fun r later => r.id < later.id) {mark r : LogRecord}
    (hmark : mark ∈ rows) (hstart : isStart mark = true) (hr : r ∈ lines) : mark.id ≤ r.id := by
  induction rows with
  | nil => cases h
  | cons x rest ih =>
    obtain ⟨habove, hrest⟩ := List.pairwise_cons.mp hrising
    rcases fromLastStart?_cons h with hlater | ⟨rfl, _, hnone⟩
    · rcases List.mem_cons.mp hmark with rfl | hmark
      · exact Int.le_of_lt (habove r (mem_of_fromLastStart? hlater hr))
      · exact ih hlater hrest hmark
    · rcases List.mem_cons.mp hmark with rfl | hmark
      · rcases List.mem_cons.mp hr with rfl | hr
        · exact Int.le_refl _
        · exact Int.le_of_lt (habove r hr)
      · rw [hnone mark hmark] at hstart
        cases hstart

end

/-! ## 2. The current launch -/

/-- The newest launch of the service runs, and no line of it decides anything. -/
structure Current (key : ServiceKey) (message : String) (id : Int) (s : Store) : Prop where
  sound : OutputSound s
  runs : ∃ r ∈ s.active? key, s.latest? key = some r ∧ r.id = id
  undecided : ∀ row ∈ s.output, row.launch = id → decision? message row.shown = none

theorem Current.running_latest? {s : Store} (h : Current key message id s) {r : ProcessRecord}
    (hr : s.latest? key = some r) : r.running = true := by
  obtain ⟨_, hactive, hlatest, _⟩ := h.runs
  obtain rfl := Option.some.inj (hlatest.symm.trans hr)
  obtain ⟨row, _, hruns, rfl⟩ :=
    Store.mem_running_none.mp (Store.mem_running_of_active? hactive)
  exact LaunchRow.running_record_of_isActive hruns

/-- As long as `K` holds the launch is the current one and is alive. `K` outlasts
the platform and the marks of a sweep on other launches. -/
structure Platform.Upholds (p : Platform σ) (settings : Settings) (key : ServiceKey)
    (message : String) (id : Int) (K : World σ → Prop) : Prop where
  frame : Frame p K (fun e => ∃ pid alive, e = .checked pid alive)
    fun op => ∃ now other, other ≠ id ∧ op = .markExited now other Store.foundDead
  current : ∀ w, K w → Current key message id w.store
  alive : ∀ v w r, K v → K w → r ∈ v.store.running none → r.id = id →
    ((isRecordAlive p settings r).run w).1 = true

section

variable (hp : p.Upholds settings key message id K)
include hp

theorem sweepEach_upheld {v : World σ} (hv : K v) {records : List ProcessRecord}
    (hlisted : ∀ r ∈ records, r ∈ v.store.running none) :
    Does K (sweepEach p settings records) (fun _ => K) E := by
  induction records with
  | nil => exact does_pure fun _ hw => hw
  | cons r rest ih =>
    obtain ⟨hr, hrest⟩ := List.forall_mem_cons.mp hlisted
    have halive : Asks K (isRecordAlive p settings r)
        fun alive w => (r.id = id → alive = true) ∧ K w :=
      fun w hw => ⟨hp.alive v w r hv hw hr, hp.frame.isRecordAlive r w hw⟩
    refine halive.lift.bind fun alive => does_and fun hspared => ?_
    cases alive with
    | true => exact ih hrest
    | false =>
      have hother : r.id ≠ id := fun hid => Bool.false_ne_true (hspared hid)
      refine (hp.frame.markExited fun now => ⟨now, r.id, hother, rfl⟩).bind fun _ => ?_
      exact (ih hrest).bind fun _ => does_pure fun _ hw => hw

theorem sweep_upheld : Does K (sweep p settings) (fun _ => K) E := by
  have hlook : Does K (look p fun s => s.running none)
      (fun records w => (∃ v, K v ∧ ∀ r ∈ records, r ∈ v.store.running none) ∧ K w) E :=
    does_look hp.frame.others fun w hw => ⟨⟨w, hw, fun _ hr => hr⟩, hw⟩
  refine hlook.bind fun records => does_and fun ⟨v, hv, hlisted⟩ => ?_
  exact sweepEach_upheld hp hv hlisted

end

/-! ## 3. Reading -/

/-- What reading on with a cursor gives. -/
structure Reads (K : World σ → Prop) (c : Cursor) (rows : List LogRecord) (c' : Cursor) : Prop where
  selects : c'.selector = c.selector
  limit : c'.limit = c.limit
  begun : (c'.watermark.isNone && c'.tail) = false
  onward : c.reached ≤ c'.reached
  lines : ∀ r ∈ rows, ∃ w row, K w ∧ row ∈ w.store.output ∧ c.selector.matches row = true
    ∧ c.reached < row.id ∧ row.shown = r

theorem readOn_reads (hp : p.Upholds settings key message id K)
    (hc : (c.watermark.isNone && c.tail) = false) (limit : Option Nat) :
    Does K (readOn p c (limit.map Int.ofNat)) (fun answer w => Reads K c answer.1 answer.2 ∧ K w)
      E := by
  refine does_access hp.frame.others ?_ ?_
  · intro w answer s hw hread
    obtain ⟨rows, mark, hnext, hpage⟩ :=
      Cursor.page_of_nextWith (hp.current w hw).sound hc limit
    rw [hnext] at hread
    obtain ⟨rfl, rfl⟩ := Prod.mk.inj (Except.ok.inj hread)
    refine ⟨⟨rfl, rfl, rfl, hpage.forward, fun r hr => ?_⟩, hw⟩
    obtain ⟨row, hrow, rfl⟩ := List.mem_map.mp hr
    obtain ⟨hin, hmatch, hahead⟩ := hpage.meant row hrow
    exact ⟨w, row, hw, hin, hmatch, hahead, rfl⟩
  · intro w cause hw hread
    obtain ⟨rows, mark, hnext, _⟩ := Cursor.page_of_nextWith (hp.current w hw).sound hc limit
    rw [hnext] at hread
    cases hread

/-- A line that decides a wait although it is not of the current launch. It comes
after the last start that was marked when the wait began, and one was marked among
the lines that were read first. -/
structure DecidedBy (K : World σ → Prop) (key : ServiceKey) (message : String) (id : Int)
    (first : Store) (outcome : WaitOutcome) (row : OutputRow) : Prop where
  stored : ∃ w, K w ∧ row ∈ w.store.output
  meant : (Selector.service key).matches row = true
  other : row.launch ≠ id
  decides : decision? message row.shown = some outcome
  near : ∃ mark ∈ newest (.service key) pageSize.toNat first, isStart mark.shown = true
  late : ∀ mark ∈ first.output, (Selector.service key).matches mark = true →
    isStart mark.shown = true → mark.id ≤ row.id

/-- Where a wait reads on: in the output of the launch, or after the first lines of
the service, if a start was marked there. -/
structure ReadsOn (key : ServiceKey) (id : Int) (first : Store) (c : Cursor) : Prop where
  begun : (c.watermark.isNone && c.tail) = false
  place : c.selector = .launch id
    ∨ c.selector = .service key
      ∧ (∃ mark ∈ newest (.service key) pageSize.toNat first, isStart mark.shown = true)
      ∧ ∀ row ∈ first.output, (Selector.service key).matches row = true → row.id ≤ c.reached

/-- What a look gives: a place to read on, and what it decides is decided by others. -/
structure Looks (K : World σ → Prop) (key : ServiceKey) (message : String) (id : Int)
    (first : Store)
    (answer : Option WaitOutcome × Cursor) : Prop where
  place : ReadsOn key id first answer.2
  decides : ∀ outcome, answer.1 = some outcome →
    ∃ row, DecidedBy K key message id first outcome row

theorem ReadsOn.next {rows : List LogRecord} {c' : Cursor} (h : ReadsOn key id first c)
    (hread : Reads K c rows c') : ReadsOn key id first c' := by
  refine ⟨hread.begun, ?_⟩
  rw [hread.selects]
  refine h.place.imp_right fun ⟨hselects, hnear, hpast⟩ =>
    ⟨hselects, hnear, fun row hrow hmatch => ?_⟩
  exact Int.le_trans (hpast row hrow hmatch) hread.onward

/-- Lines of the launch decide nothing. -/
theorem Reads.undecided {rows : List LogRecord} {c' : Cursor} (h : Reads K c rows c')
    (hcurrent : ∀ w, K w → Current key message id w.store) (hc : c.selector = .launch id) :
    ∀ r ∈ rows, decision? message r = none := by
  intro r hr
  obtain ⟨w, row, hw, hrow, hmatch, _, rfl⟩ := h.lines r hr
  rw [hc] at hmatch
  exact (hcurrent w hw).undecided row hrow (eq_of_beq hmatch)

/-- What is decided after the first lines is decided by others. -/
theorem Reads.decidedBy {rows : List LogRecord} {c' : Cursor} {outcome : WaitOutcome}
    (h : Reads K c rows c') (hcurrent : ∀ w, K w → Current key message id w.store)
    (hc : ReadsOn key id first c) (hscan : scan message rows = some outcome) :
    ∃ row, DecidedBy K key message id first outcome row := by
  obtain ⟨r, hr, hdecides⟩ := exists_of_scan hscan
  rcases hc.place with hlaunch | ⟨hservice, hnear, hpast⟩
  · rw [h.undecided hcurrent hlaunch r hr] at hdecides
    cases hdecides
  · obtain ⟨w, row, hw, hrow, hmatch, hahead, rfl⟩ := h.lines r hr
    rw [hservice] at hmatch
    refine ⟨row, ⟨w, hw, hrow⟩, hmatch, fun hown => ?_, hdecides, hnear, ?_⟩
    · rw [(hcurrent w hw).undecided row hrow hown] at hdecides
      cases hdecides
    · intro mark hmark hmatch _
      exact Int.le_trans (hpast mark hmark hmatch) (Int.le_of_lt hahead)

/-- What the first lines decide is decided by others. -/
theorem firstLines_decidedBy {w : World σ} {lines : List LogRecord} {outcome : WaitOutcome}
    (hw : K w) (hcurrent : Current key message id w.store)
    (hstart : fromLastStart? ((newest (.service key) pageSize.toNat w.store).map OutputRow.shown)
      = some lines)
    (hscan : scan message lines = some outcome) :
    ∃ row, DecidedBy K key message id w.store outcome row := by
  have hs := hcurrent.sound
  obtain ⟨_, hline, hdecides⟩ := exists_of_scan hscan
  obtain ⟨row, hrow, rfl⟩ := List.mem_map.mp (mem_of_fromLastStart? hstart hline)
  obtain ⟨hin, hmatch⟩ := Cursor.mem_newest hrow
  refine ⟨row, ⟨w, hw, hin⟩, hmatch, fun hown => ?_, hdecides, exists_isStart_shown hstart, ?_⟩
  · rw [hcurrent.undecided row hin hown] at hdecides
    cases hdecides
  · intro mark hmark hmarkMatch hmarkStart
    rcases Cursor.mem_newest_or hs hmark hmarkMatch with hnewest | holder
    · have hrising : ((newest (.service key) pageSize.toNat w.store).map OutputRow.shown).Pairwise
          fun r later => r.id < later.id :=
        List.pairwise_map.mpr (Cursor.newest_ascending (.service key) pageSize.toNat hs)
      exact start_le_of_fromLastStart? hstart hrising (List.mem_map_of_mem hnewest) hmarkStart hline
    · exact Int.le_of_lt (holder row hrow)

/-! ## 4. Waiting -/

theorem afterPage_undecided {page : List LogRecord}
    (h : ∀ r ∈ page, decision? message r = none) : afterPage message none page = none := by
  unfold afterPage
  cases hstart : fromLastStart? page with
  | some lines => exact scan_eq_none fun r hr => h r (mem_of_fromLastStart? hstart hr)
  | none => exact scan_eq_none h

section

variable (hp : p.Upholds settings key message id K)
include hp

/-- The launch read from its first line on decides nothing. -/
theorem scanPages_upheld (fuel : Nat) (hlaunch : c.selector = .launch id)
    (hbegun : (c.watermark.isNone && c.tail) = false) (hlimit : c.limit = some pageSize) :
    Does K (scanPages p message fuel c none)
      (fun answer w => (answer.1 = none ∧ ReadsOn key id first answer.2) ∧ K w) E := by
  induction fuel generalizing c with
  | zero => exact does_pure fun _ hw => ⟨⟨rfl, hbegun, Or.inl hlaunch⟩, hw⟩
  | succ fuel ih =>
    have hread := readOn_reads (E := E) hp hbegun (some pageSize.toNat)
    unfold scanPages
    rw [hlimit]
    refine hread.bind fun ⟨page, c'⟩ => does_and fun hpage => ?_
    have hlaunch' := hpage.selects.trans hlaunch
    cases hempty : page.isEmpty with
    | true =>
      simp only [hempty, if_true]
      exact does_pure fun _ hw => ⟨⟨rfl, hpage.begun, Or.inl hlaunch'⟩, hw⟩
    | false =>
      simp only [hempty, Bool.false_eq_true, if_false]
      rw [afterPage_undecided (hpage.undecided hp.current hlaunch)]
      exact ih hlaunch' hpage.begun (hpage.limit.trans hlimit)

theorem lookAgain_upheld (hc : ReadsOn key id first c) :
    Does K (lookAgain p settings key message c)
      (fun answer w => Looks K key message id first answer ∧ K w) E := by
  unfold lookAgain
  refine (readOn_reads hp hc.begun none).bind fun ⟨rows, c'⟩ => does_and fun hread => ?_
  have hlooked {found : Option WaitOutcome}
      (hfound : ∀ outcome, found = some outcome → scan message rows = some outcome) :
      Does K (pure (found, c') : Act σ (Option WaitOutcome × Cursor))
        (fun answer w => Looks K key message id first answer ∧ K w) E :=
    does_pure fun w hw => ⟨⟨hc.next hread, fun outcome houtcome =>
      hread.decidedBy hp.current hc (hfound outcome houtcome)⟩, hw⟩
  simp only
  cases hscan : scan message rows with
  | some outcome => exact hlooked fun _ h => hscan.trans h
  | none =>
    cases hempty : rows.isEmpty with
    | false => exact hlooked fun _ h => by cases h
    | true =>
      simp only [Bool.not_true, Bool.false_eq_true, if_false]
      have hlook : Does K (look p fun s => s.latest? key)
          (fun record? w => (∀ record, record? = some record → record.running = true) ∧ K w) E :=
        does_look hp.frame.others fun w hw =>
          ⟨fun _ hrecord => (hp.current w hw).running_latest? hrecord, hw⟩
      refine (sweep_upheld hp).bind fun _ => hlook.bind fun record? => does_and fun hruns => ?_
      cases record? with
      | none => exact hlooked fun _ h => by cases h
      | some record =>
        simp only [hruns record rfl, if_true]
        exact hlooked fun _ h => by cases h

theorem pollLines_upheld (interval left : Nat) (hc : ReadsOn key id first c) :
    Does K (pollLines p settings key message interval left c)
      (fun outcome w => (outcome = .timedOut ∨ ∃ row, DecidedBy K key message id first outcome row)
        ∧ K w) E := by
  induction left generalizing c with
  | zero => exact does_pure fun _ hw => ⟨Or.inl rfl, hw⟩
  | succ left ih =>
    unfold pollLines
    refine (hp.frame.sleep interval).lift.bind fun _ => (lookAgain_upheld hp hc).bind ?_
    refine fun ⟨outcome?, c'⟩ => does_and fun hlooked => ?_
    cases outcome? with
    | some outcome => exact does_pure fun _ hw => ⟨Or.inr (hlooked.decides outcome rfl), hw⟩
    | none => exact ih hlooked.place

theorem firstLook_upheld {start first : World σ} (hbegins : (p.others.run start).2 = first)
    (hfirst : K first) :
    Does (fun w => w = start) (firstLook p key message)
      (fun answer w => Looks K key message id first.store answer ∧ K w) E := by
  have hs := (hp.current first hfirst).sound
  have hothers : Asks (fun w => w = start) p.others fun _ w => w = first := by
    rintro _ rfl
    exact hbegins
  have hnext : (Cursor.tailing (.service key) (some pageSize)).nextWith first.store (some pageSize)
      = .ok (_, _) := Cursor.nextWith_tailing hs (.service key) pageSize.toNat
  have hread : Does (fun w => w = start)
      (readOn p (.tailing (.service key) (some pageSize)) (some pageSize))
      (fun answer w => answer = ((newest (.service key) pageSize.toNat first.store).map
        OutputRow.shown, { Cursor.tailing (.service key) (some pageSize) with
          watermark := some (reachedBy (newest (.service key) pageSize.toNat first.store)) })
        ∧ K w) E := by
    refine does_access hothers ?_ ?_
    · rintro _ answer s rfl hread
      rw [hnext] at hread
      obtain ⟨rfl, rfl⟩ := Prod.mk.inj (Except.ok.inj hread)
      exact ⟨rfl, hfirst⟩
    · rintro _ cause rfl hread
      rw [hnext] at hread
      cases hread
  unfold firstLook
  refine hread.bind fun answer => does_and fun hanswer => ?_
  subst hanswer
  simp only
  cases hstart : fromLastStart?
      ((newest (.service key) pageSize.toNat first.store).map OutputRow.shown) with
  | some lines =>
    refine does_pure fun w hw => ⟨⟨⟨rfl, Or.inr ⟨rfl, exists_isStart_shown hstart, ?_⟩⟩, ?_⟩, hw⟩
    · exact fun row hrow hmatch => Cursor.le_reachedBy_newest (by decide) hs hrow hmatch
    · exact fun outcome hscan => firstLines_decidedBy hfirst (hp.current first hfirst) hstart hscan
  | none =>
    have hlook : Does K (look p fun s => s.active? key)
        (fun record? w => (∃ r, record? = some r ∧ r.id = id) ∧ K w) E := by
      refine does_look hp.frame.others fun w hw => ⟨?_, hw⟩
      obtain ⟨r, hactive, _, hid⟩ := (hp.current w hw).runs
      exact ⟨r, hactive, hid⟩
    refine hlook.bind fun record? => does_and fun ⟨r, hrecord, hid⟩ => ?_
    subst hrecord
    refine Does.mono (scanPages_upheld hp pagesAtMost (congrArg _ hid) rfl rfl) (fun _ hw => hw)
      (fun answer w hw => ⟨⟨hw.1.2, fun outcome h => ?_⟩, hw.2⟩) fun _ hw => hw
    rw [hw.1.1] at h
    cases h

/-- A wait does not fail, and comes to nothing but by lines of others. -/
theorem waitForLog_upheld {start first : World σ} (hbegins : (p.others.run start).2 = first)
    (hfirst : K first) (limit interval : Nat) :
    Does (fun w => w = start) (waitForLog p settings key message limit interval)
      (fun outcome w => (outcome = .timedOut
        ∨ ∃ row, DecidedBy K key message id first.store outcome row) ∧ K w) E := by
  unfold waitForLog
  refine (firstLook_upheld hp hbegins hfirst).bind fun ⟨outcome?, c⟩ => does_and fun hlooked => ?_
  cases outcome? with
  | some outcome => exact does_pure fun _ hw => ⟨Or.inr (hlooked.decides outcome rfl), hw⟩
  | none => exact pollLines_upheld hp _ _ hlooked.place

end

/-- **A wait is never decided by the current launch when no line of it decides
anything.** The time runs out, unless a line of another launch of the service, after
the last start that was marked, is taken for one of the current launch. That cannot
be once the launch has marked its start and nobody else writes for the service. -/
theorem wait_decided_by_others_only (hp : p.Upholds settings key message id K) {start : World σ}
    (hstart : K start) (limit interval : Nat) :
    let first := (p.others.run start).2.store
    ∃ outcome, ((waitForLog p settings key message limit interval).run.run start).1 = .ok outcome
      ∧ (outcome = .timedOut ∨ ∃ row, DecidedBy K key message id first outcome row)
      ∧ ∀ mark ∈ first.output, (Selector.service key).matches mark = true →
        isStart mark.shown = true →
        (∀ w, K w → ∀ row ∈ w.store.output, (Selector.service key).matches row = true →
          mark.id ≤ row.id → row.launch = id) →
        outcome = .timedOut := by
  intro first
  obtain ⟨outcome, hanswer, hdecided, _⟩ := (waitForLog_upheld (E := fun _ => False) hp rfl
    (hp.frame.others start hstart) limit interval).goes_through rfl
  refine ⟨outcome, hanswer, hdecided, fun mark hmark hmatch hmarks halone => ?_⟩
  rcases hdecided with htime | ⟨row, hrow⟩
  · exact htime
  · obtain ⟨w, hw, hin⟩ := hrow.stored
    have hown := halone w hw row hin hrow.meant (hrow.late mark hmark hmatch hmarks)
    exact absurd hown hrow.other

/-! ## 5. Other parties -/

/-- What others do in their turns leaves the launch the current one, the only one
that runs, and alive. -/
theorem crowdPlatform_upholds {alive : Nat → Bool} {s : Store} {turns : List (List Operation)}
    (hcurrent : ∀ taken, taken <+: turns → Current key message id (s.run taken.flatten))
    (hruns : ∀ taken, taken <+: turns → ∀ r ∈ (s.run taken.flatten).running none,
      r.id = id ∧ r.childPid?.any alive = true) :
    (crowdPlatform alive).Upholds settings key message id (Underway s turns) where
  frame :=
    { platform := crowdPlatform_underway
      checked := fun pid alive => ⟨pid, alive, rfl⟩
      note := fun _ _ _ h => h
      write := by
        rintro _ ⟨now, other, hother, rfl⟩ w ⟨taken, hall, hstore⟩
        have hidle : ¬ ∃ r ∈ w.store.launches, r.id = other ∧ r.isActive = true := by
          rintro ⟨r, hr, hid, hactive⟩
          rw [hstore] at hr
          have hown :=
            (hruns taken ⟨_, hall⟩ _ (Store.mem_running_none.mpr ⟨r, hr, hactive, rfl⟩)).1
          exact hother (hid.symm.trans hown)
        refine ⟨taken, hall, ?_⟩
        show (w.store.markExited now other Store.foundDead).2 = _
        rw [Store.markExited_of_not_active hidle, hstore] }
  current := by
    rintro w ⟨taken, hall, hstore⟩
    exact hstore ▸ hcurrent taken ⟨_, hall⟩
  alive := by
    rintro v w r ⟨taken, hall, hstore⟩ _ hr _
    rw [hstore] at hr
    exact isRecordAlive_crowd (hruns taken ⟨_, hall⟩ r hr).2 settings w

/-- A launch says what is waited for and ends. The next one marks its start and
works, and the wait for the same words runs out. -/
theorem wait_decided_by_nobody_after_start :
    let settings : Settings := ⟨⟨"wrapper"⟩, 0, 0, 5000⟩
    let web : ServiceKey := ⟨"web", ⟨"/srv"⟩⟩
    let line (launch number : Int) (content : String) (type : LogType) : Operation :=
      .append 0 launch web number content type
    let s := Store.empty.run [.create 0 web "serve" ⟨"/srv"⟩ none,
      line 1 1 "Process started (pid 50)" .started, line 1 2 "ready" .stdout,
      line 1 3 "Process exited with code 0" .exited, .markExited 1 1 0,
      .create 2 web "serve" ⟨"/srv"⟩ none, .updatePid 2 60,
      line 2 1 "Process started (pid 60)" .started]
    let turns := [[line 2 2 "working" .stdout]]
    let start : World (List (List Operation)) := ⟨s, 9, [], turns⟩
    (crowdPlatform (· == 60)).Upholds settings web "ready" 2 (Underway s turns)
      ∧ ((waitForLog (crowdPlatform (· == 60)) settings web "ready" 20 1).run.run start).1
        = .ok .timedOut := by
  intro settings web line s turns start
  have hturns (taken : List (List Operation)) (h : taken <+: turns) :
      taken = [] ∨ taken = turns := by
    simpa [turns, List.prefix_cons_iff] using h
  have hs (deeds : List Operation) : OutputSound (s.run deeds) :=
    Store.outputSound_run (Store.outputSound_run Store.outputSound_empty _) deeds
  have hp : (crowdPlatform (· == 60)).Upholds settings web "ready" 2 (Underway s turns) := by
    refine crowdPlatform_upholds (fun taken htaken => ⟨hs _, ?_, ?_⟩) fun taken htaken => ?_
    · rcases hturns taken htaken with rfl | rfl <;> decide +kernel
    · rcases hturns taken htaken with rfl | rfl <;> decide +kernel
    · rcases hturns taken htaken with rfl | rfl <;> decide +kernel
  refine ⟨hp, ?_⟩
  obtain ⟨outcome, hanswer, _, hafter⟩ :=
    wait_decided_by_others_only hp (underway_start s turns 9 []) 20 1
  obtain ⟨mark, hmark, hid, hmatch, hmarks⟩ : ∃ mark ∈ s.output, mark.id = 4
      ∧ (Selector.service web).matches mark = true ∧ isStart mark.shown = true := by decide +kernel
  rw [hanswer, hafter mark hmark hmatch hmarks]
  rintro w ⟨taken, hall, hstore⟩ row hrow _ hlate
  rw [hid] at hlate
  rw [hstore] at hrow
  revert row
  rcases hturns taken ⟨_, hall⟩ with rfl | rfl <;> decide +kernel

/-- **A wait may find a line of a former launch**: the current one has not marked its
start yet, so that the start of the former one is the last. -/
theorem wait_finds_line_of_former_launch :
    let settings : Settings := ⟨⟨"wrapper"⟩, 0, 0, 5000⟩
    let web : ServiceKey := ⟨"web", ⟨"/srv"⟩⟩
    let line (number : Int) (content : String) (type : LogType) : Operation :=
      .append 0 1 web number content type
    let s := Store.empty.run [.create 0 web "serve" ⟨"/srv"⟩ none,
      line 1 "Process started (pid 50)" .started, line 2 "ready" .stdout,
      line 3 "Process exited with code 0" .exited, .markExited 1 1 0,
      .create 2 web "serve" ⟨"/srv"⟩ none, .updatePid 2 60]
    let start : World (List (List Operation)) := ⟨s, 9, [], []⟩
    (crowdPlatform (· == 60)).Upholds settings web "ready" 2 (Underway s [])
      ∧ (∀ row ∈ s.output, row.launch ≠ 2)
      ∧ ((waitForLog (crowdPlatform (· == 60)) settings web "ready" 20 1).run.run start).1.toOption
        = some (.found ⟨2, 1, "web", ⟨"/srv"⟩, 2, "ready", .stdout, 0⟩) := by
  intro settings web line s start
  have hs : OutputSound s := Store.outputSound_run Store.outputSound_empty _
  have hnone : ∀ row ∈ s.output, row.launch ≠ 2 := by decide +kernel
  refine ⟨crowdPlatform_upholds (fun taken htaken => ?_) fun taken htaken => ?_, hnone,
    by decide +kernel⟩
  · obtain rfl := List.prefix_nil.mp htaken
    rw [List.flatten_nil, Store.run_nil]
    exact ⟨hs, by decide +kernel, fun row hrow hown => absurd hown (hnone row hrow)⟩
  · obtain rfl := List.prefix_nil.mp htaken
    decide +kernel

end Overseer.Supervisor
