/-
Overseer.Proofs.Log.Paging — reading output from the oldest line on.

A reader calls for lines again and again, with any limits, while other parties
write lines, clear services and clean up. `paging_from_start` says what the
reader can rely on: no call fails; all numbers given so far rise, so that no line
is given twice; the watermark is the highest of them; a line that was passed was
given, or it was gone before the call that passed it; and after a call without
limit nothing that is meant is still to come.

The argument has two parts. `page_of_nextWith` describes one call on any sound
store by a `Page`. `Paged` is what holds between the calls; that no line appears
behind the watermark later on is `OutputChange.lt_id_of_new`.
-/
import Mathlib.Data.List.Induction
import Overseer.Log.Cursor
import Overseer.Proofs.Store.OutputTable

namespace Overseer.Log

/-! ## 1. One call -/

/-- The first rows within a limit, if there is one. -/
def firstRows {α : Type} (limit : Option Nat) (rows : List α) : List α :=
  match limit with
  | none => rows
  | some n => rows.take n

theorem withinLimit_natCast {α : Type} (limit : Option Nat) (rows : List α) :
    withinLimit (limit.map Int.ofNat) rows = firstRows limit rows := by
  cases limit with
  | none => rfl
  | some n =>
    have hn : ¬ Int.ofNat n < 0 := Int.not_lt.mpr (Int.natCast_nonneg n)
    simp only [withinLimit, Option.map_some, if_neg hn]
    rfl

theorem firstRows_sublist {α : Type} (limit : Option Nat) (rows : List α) :
    (firstRows limit rows).Sublist rows := by
  cases limit with
  | none => exact List.Sublist.refl _
  | some n => exact List.take_sublist n rows

/-- What lies beyond the limit comes after all that lies within. -/
theorem mem_firstRows_or {α : Type} {R : α → α → Prop} {rows : List α} (h : rows.Pairwise R)
    (limit : Option Nat) {r : α} (hr : r ∈ rows) :
    r ∈ firstRows limit rows ∨ ∀ x ∈ firstRows limit rows, R x r := by
  cases limit with
  | none => exact Or.inl hr
  | some n =>
    rw [← List.take_append_drop n rows] at h hr
    rcases List.mem_append.mp hr with hr | hr
    · exact Or.inl hr
    · exact Or.inr fun x hx => (List.pairwise_append.mp h).2.2 x hx r hr

theorem mapM_record {rows : List OutputRow} (h : ∀ r ∈ rows, r.IsTyped) :
    rows.mapM (·.record) = .ok (rows.map OutputRow.shown) := by
  induction rows with
  | nil => rfl
  | cons r rows ih =>
    have hr := OutputRow.record_of_isTyped (h r List.mem_cons_self)
    have hrows := ih fun x hx => h x (List.mem_cons_of_mem _ hx)
    simp [List.mapM_cons, hr, hrows, bind, Except.bind, pure, Except.pure]

theorem foldl_max_spec (ids : List Int) (start : Int) :
    start ≤ ids.foldl max start ∧ (∀ i ∈ ids, i ≤ ids.foldl max start)
      ∧ (ids.foldl max start = start ∨ ids.foldl max start ∈ ids) := by
  induction ids generalizing start with
  | nil => simp
  | cons i ids ih =>
    obtain ⟨hstart, hall, hlast⟩ := ih (max start i)
    simp only [List.foldl_cons, List.mem_cons]
    refine ⟨by omega, ?_, ?_⟩
    · rintro j (rfl | hj)
      · omega
      · exact hall j hj
    · rcases hlast with hlast | hlast
      · rcases Int.le_total start i with hle | hle
        · exact Or.inr (Or.inl (by omega))
        · exact Or.inl (by omega)
      · exact Or.inr (Or.inr hlast)

namespace Cursor

/-- The highest number given, or 0. -/
def reached (c : Cursor) : Int := c.watermark.getD 0

/-- The lines of a store to which a cursor has not come yet, oldest first. -/
def ahead (c : Cursor) (s : Store) : List OutputRow :=
  (s.output.filter fun r => c.selector.matches r && decide (c.reached < r.id)).reverse

theorem mem_ahead_iff {c : Cursor} {s : Store} {r : OutputRow} :
    r ∈ c.ahead s ↔ r ∈ s.output ∧ c.selector.matches r = true ∧ c.reached < r.id := by
  simp [ahead]

theorem ahead_ascending (c : Cursor) {s : Store} (hs : s.OutputSound) :
    (c.ahead s).Pairwise fun a b => a.id < b.id :=
  List.pairwise_reverse.mpr (hs.order.filter _)

/-- What a call gives that takes a cursor to `w`. -/
structure Page (s : Store) (c : Cursor) (limit : Option Nat) (rows : List OutputRow)
    (w : Int) : Prop where
  meant : ∀ r ∈ rows, r ∈ s.output ∧ c.selector.matches r = true ∧ c.reached < r.id
  ascending : rows.Pairwise fun a b => a.id < b.id
  within : ∀ n, limit = some n → rows.length ≤ n
  forward : c.reached ≤ w
  below : ∀ r ∈ rows, r.id ≤ w
  highest : w = c.reached ∨ ∃ r ∈ rows, r.id = w
  complete : ∀ r ∈ s.output, c.selector.matches r = true → c.reached < r.id → r.id ≤ w → r ∈ rows
  all : limit = none → ∀ r ∈ s.output, c.selector.matches r = true → c.reached < r.id → r ∈ rows

/-- A call that leaves the watermark where it was gives nothing. -/
theorem Page.eq_nil {s : Store} {c : Cursor} {limit : Option Nat} {rows : List OutputRow} {w : Int}
    (h : Page s c limit rows w) (hw : w = c.reached) : rows = [] := by
  refine List.eq_nil_iff_forall_not_mem.mpr fun r hr => ?_
  have hahead := (h.meant r hr).2.2
  have hbelow := h.below r hr
  omega

theorem query_ahead {s : Store} (hs : s.OutputSound) {c : Cursor}
    (hc : (c.watermark.isNone && c.tail) = false) (limit : Option Nat) :
    s.query (c.query (limit.map Int.ofNat))
      = .ok ((firstRows limit (c.ahead s)).map OutputRow.shown) := by
  have htyped : ∀ r ∈ firstRows limit (c.ahead s), r.IsTyped := fun r hr =>
    hs.typed r (mem_ahead_iff.mp ((firstRows_sublist limit _).subset hr)).1
  have hadmits : (c.query (limit.map Int.ofNat)).admits
      = fun r => c.selector.matches r && decide (c.reached < r.id) := by
    funext r
    simp only [OutputQuery.admits, query, Option.all_none, Bool.and_true]
    rfl
  have hnewest : (c.query (limit.map Int.ofNat)).newest = false := hc
  rw [← mapM_record htyped, ← withinLimit_natCast]
  simp only [Store.query, hadmits, hnewest]
  rfl

/-- The first lines ahead are a page. -/
theorem page_firstRows {s : Store} (hs : s.OutputSound) (c : Cursor) (limit : Option Nat) :
    Page s c limit (firstRows limit (c.ahead s))
      (((firstRows limit (c.ahead s)).map (·.id)).foldl max c.reached) := by
  obtain ⟨hforward, hbelow, hhighest⟩ := foldl_max_spec
    ((firstRows limit (c.ahead s)).map (·.id)) c.reached
  have hascending := c.ahead_ascending hs
  refine ⟨?_, hascending.sublist (firstRows_sublist limit _), ?_, hforward, ?_, ?_, ?_, ?_⟩
  · intro r hr
    exact mem_ahead_iff.mp ((firstRows_sublist limit _).subset hr)
  · rintro n rfl
    exact List.length_take_le n (c.ahead s)
  · intro r hr
    exact hbelow _ (List.mem_map_of_mem hr)
  · rcases hhighest with hw | hw
    · exact Or.inl hw
    · exact Or.inr (List.mem_map.mp hw)
  · intro r hr hmatch hahead hle
    rcases mem_firstRows_or hascending limit (mem_ahead_iff.mpr ⟨hr, hmatch, hahead⟩) with h | h
    · exact h
    -- A line beyond the limit is above the watermark that the call leaves.
    · rcases hhighest with hw | hw
      · omega
      · obtain ⟨x, hx, hxw⟩ := List.mem_map.mp hw
        have := h x hx
        omega
  · rintro rfl r hr hmatch hahead
    exact mem_ahead_iff.mpr ⟨hr, hmatch, hahead⟩

theorem nextWith_ahead {s : Store} (hs : s.OutputSound) {c : Cursor}
    (hc : (c.watermark.isNone && c.tail) = false) (limit : Option Nat) :
    c.nextWith s (limit.map Int.ofNat)
      = .ok ((firstRows limit (c.ahead s)).map OutputRow.shown, { c with
        watermark := some (((firstRows limit (c.ahead s)).map (·.id)).foldl max c.reached) }) := by
  simp [nextWith, query_ahead hs hc, advanced, reached, bind, Except.bind, pure, Except.pure,
    Function.comp_def, OutputRow.shown]

/-- **One call** of a cursor, other than a first one for the newest lines. -/
theorem page_of_nextWith {s : Store} (hs : s.OutputSound) {c : Cursor}
    (hc : (c.watermark.isNone && c.tail) = false) (limit : Option Nat) :
    ∃ rows w, c.nextWith s (limit.map Int.ofNat)
        = .ok (rows.map OutputRow.shown, { c with watermark := some w })
      ∧ Page s c limit rows w :=
  ⟨_, _, nextWith_ahead hs hc limit, page_firstRows hs c limit⟩

/-- The last lines of a store that are meant, oldest first. -/
def newest (selector : Selector) (count : Nat) (s : Store) : List OutputRow :=
  ((s.output.filter selector.matches).take count).reverse

theorem mem_newest {selector : Selector} {count : Nat} {s : Store} {r : OutputRow}
    (h : r ∈ newest selector count s) : r ∈ s.output ∧ selector.matches r = true :=
  List.mem_filter.mp (List.mem_of_mem_take (List.mem_reverse.mp h))

theorem newest_ascending (selector : Selector) (count : Nat) {s : Store} (hs : s.OutputSound) :
    (newest selector count s).Pairwise fun a b => a.id < b.id :=
  List.pairwise_reverse.mpr ((hs.order.filter _).sublist (List.take_sublist _ _))

/-- What is meant and not among the last lines is older than all of them. -/
theorem mem_newest_or {selector : Selector} {count : Nat} {s : Store} (hs : s.OutputSound)
    {r : OutputRow} (hr : r ∈ s.output) (hmatch : selector.matches r = true) :
    r ∈ newest selector count s ∨ ∀ x ∈ newest selector count s, r.id < x.id := by
  have hmeant : r ∈ s.output.filter selector.matches := List.mem_filter.mpr ⟨hr, hmatch⟩
  have horder := hs.order.filter selector.matches
  rw [← List.take_append_drop count (s.output.filter selector.matches)] at hmeant horder
  rcases List.mem_append.mp hmeant with hmeant | hmeant
  · exact Or.inl (List.mem_reverse.mpr hmeant)
  · exact Or.inr fun x hx =>
      (List.pairwise_append.mp horder).2.2 x (List.mem_reverse.mp hx) r hmeant

/-- The number of the last line, or 0. -/
def reachedBy (rows : List OutputRow) : Int := (rows.map (·.id)).foldl max 0

/-- The last lines reach as far as the store does. -/
theorem le_reachedBy_newest {selector : Selector} {count : Nat} (hcount : 1 ≤ count) {s : Store}
    (hs : s.OutputSound) {r : OutputRow} (hr : r ∈ s.output) (hmatch : selector.matches r = true) :
    r.id ≤ reachedBy (newest selector count s) := by
  obtain ⟨_, hbelow, _⟩ := foldl_max_spec ((newest selector count s).map (·.id)) 0
  rcases mem_newest_or hs hr hmatch with hnewest | holder
  · exact hbelow _ (List.mem_map_of_mem hnewest)
  -- Something is meant, so that there is a last line.
  · have hsome : newest selector count s ≠ [] := by
      have hmeant : r ∈ s.output.filter selector.matches := List.mem_filter.mpr ⟨hr, hmatch⟩
      simp only [newest, ne_eq, List.reverse_eq_nil_iff, List.take_eq_nil_iff, not_or]
      exact ⟨by omega, List.ne_nil_of_mem hmeant⟩
    obtain ⟨x, hx⟩ := List.exists_mem_of_ne_nil _ hsome
    exact Int.le_trans (Int.le_of_lt (holder x hx)) (hbelow _ (List.mem_map_of_mem hx))

theorem query_tailing {s : Store} (hs : s.OutputSound) (selector : Selector) (count : Nat) :
    s.query ((tailing selector (some count)).query (some count))
      = .ok ((newest selector count s).map OutputRow.shown) := by
  have hadmits : s.output.filter ((tailing selector (some count)).query (some count)).admits
      = s.output.filter selector.matches := by
    refine List.filter_congr fun r hr => ?_
    have hpos := (hs.numbers r hr).1
    simp [OutputQuery.admits, query, tailing, hpos]
  have htyped : ∀ r ∈ (s.output.filter selector.matches).take count, r.IsTyped := fun r hr =>
    hs.typed r (List.mem_filter.mp (List.mem_of_mem_take hr)).1
  have hrows : withinLimit (some (count : Int)) (s.output.filter selector.matches)
      = (s.output.filter selector.matches).take count := withinLimit_natCast (some count) _
  simp only [Store.query, hadmits]
  show (withinLimit (some (count : Int)) (s.output.filter selector.matches)).mapM
    OutputRow.record >>= (fun records => .ok records.reverse) = _
  rw [hrows, mapM_record htyped, newest, List.map_reverse]
  rfl

/-- The first call of a cursor that begins with the last lines. -/
theorem nextWith_tailing {s : Store} (hs : s.OutputSound) (selector : Selector) (count : Nat) :
    (tailing selector (some count)).nextWith s (some count)
      = .ok ((newest selector count s).map OutputRow.shown, { tailing selector (some count) with
        watermark := some (reachedBy (newest selector count s)) }) := by
  rw [nextWith, query_tailing hs]
  simp [advanced, reachedBy, tailing, bind, Except.bind, pure, Except.pure, Function.comp_def,
    OutputRow.shown]

end Cursor

/-! ## 2. A reader among others -/

/-- What happens while a reader reads: some party uses the store, or the reader
asks for lines, within its own limit or within another one. -/
inductive Happening where
  | used (op : Store.Operation)
  | next
  | nextWith (limit : Option Nat)

/-- The reader asks for lines. -/
def Happening.isCall : Happening → Bool
  | .used _ => false
  | .next => true
  | .nextWith _ => true

/-- The limit of a call, for a reader with a limit of its own. -/
def Happening.limit? (own : Option Nat) : Happening → Option (Option Nat)
  | .used _ => none
  | .next => some own
  | .nextWith limit => some limit

/-- What the other parties did. -/
def uses (events : List Happening) : List Store.Operation :=
  events.filterMap fun
    | .used op => some op
    | .next => none
    | .nextWith _ => none

theorem uses_concat_used (events : List Happening) (op : Store.Operation) :
    uses (events ++ [.used op]) = uses events ++ [op] := by
  simp [uses]

theorem uses_concat_call {call : Happening} (h : call.isCall = true) (events : List Happening) :
    uses (events ++ [call]) = uses events := by
  cases call with
  | used op => simp [Happening.isCall] at h
  | next => simp [uses]
  | nextWith limit => simp [uses]

/-- A store, a reader's place in it, and all lines that the reader was given. -/
structure Reading where
  store : Store
  cursor : Cursor
  given : List LogRecord

namespace Reading

/-- A reader that starts at the oldest line of a store. -/
def start (s : Store) (selector : Selector) (own : Option Nat) : Reading :=
  ⟨s, Cursor.fromStart selector (own.map Int.ofNat), []⟩

/-- The reader takes lines, and its watermark goes to `w`. -/
def take (r : Reading) (rows : List OutputRow) (w : Int) : Reading where
  store := r.store
  cursor := { r.cursor with watermark := some w }
  given := r.given ++ rows.map OutputRow.shown

/-- One happening. Only a call can fail. -/
def step (r : Reading) : Happening → Except StoreFault Reading
  | .used op => .ok { r with store := r.store.step op }
  | .next => do
    let (rows, cursor) ← r.cursor.next r.store
    return { r with cursor, given := r.given ++ rows }
  | .nextWith limit => do
    let (rows, cursor) ← r.cursor.nextWith r.store (limit.map Int.ofNat)
    return { r with cursor, given := r.given ++ rows }

/-- One happening after the other, up to the first call that fails. -/
def run (r : Reading) (events : List Happening) : Except StoreFault Reading :=
  events.foldlM step r

theorem run_concat {r r' : Reading} {events : List Happening} (h : r.run events = .ok r')
    (e : Happening) : r.run (events ++ [e]) = r'.step e := by
  have hrun : events.foldlM step r = .ok r' := h
  rw [run, List.foldlM_append, hrun]
  exact bind_pure (r'.step e)

/-- The line was once in the store, and it was gone when a call passed its number. -/
def Missed (r : Reading) (history : List Store.Operation) (events : List Happening)
    (row : OutputRow) : Prop :=
  ∃ before call after r₁ r₂, events = before ++ call :: after
    ∧ r.run before = .ok r₁ ∧ r₁.step call = .ok r₂
    ∧ r₁.cursor.reached < row.id ∧ row.id ≤ r₂.cursor.reached
    ∧ Store.empty.Held (history ++ uses before) row ∧ row ∉ r₁.store.output

theorem Missed.concat {r : Reading} {history : List Store.Operation} {events : List Happening}
    {row : OutputRow} (h : r.Missed history events row) (e : Happening) :
    r.Missed history (events ++ [e]) row := by
  obtain ⟨before, call, after, r₁, r₂, rfl, hcalls⟩ := h
  exact ⟨before, call, after ++ [e], r₁, r₂, by simp, hcalls⟩

/-- What a reader can rely on at any time. The reader started as `r₀` from a store
with `history`, and `events` led to `r`. -/
structure Faithful (history : List Store.Operation) (r₀ : Reading) (events : List Happening)
    (r : Reading) : Prop where
  /-- The numbers of the lines given rise. -/
  ascending : r.given.Pairwise fun x y => x.id < y.id
  /-- Every line given is one that is meant, as it stood in the store. -/
  stored : ∀ x ∈ r.given, ∃ row, Store.empty.Held (history ++ uses events) row
    ∧ r₀.cursor.selector.matches row = true ∧ row.record = .ok x
  /-- There is a watermark from the first call on. -/
  begun : r.cursor.watermark.isSome = events.any Happening.isCall
  /-- No line given is above the watermark. -/
  below : ∀ x ∈ r.given, x.id ≤ r.cursor.reached
  /-- The watermark is the number of a line given, or 0 if there is none. -/
  highest : (r.given = [] ∧ r.cursor.reached = 0) ∨ ∃ x ∈ r.given, x.id = r.cursor.reached
  /-- Every line passed was given, or gone when it was passed. -/
  passed : ∀ row, Store.empty.Held (history ++ uses events) row →
    r₀.cursor.selector.matches row = true → row.id ≤ r.cursor.reached →
    (∃ x ∈ r.given, row.record = .ok x) ∨ r₀.Missed history events row

/-- What holds between the calls. -/
structure Paged (history : List Store.Operation) (selector : Selector) (own : Option Nat)
    (events : List Happening) (r : Reading) : Prop where
  store : r.store = Store.empty.run (history ++ uses events)
  selects : r.cursor.selector = selector
  limit : r.cursor.limit = own.map Int.ofNat
  head : r.cursor.tail = false
  last : r.cursor.reached ≤ r.store.lastOutput
  faithful : Faithful history (start (Store.empty.run history) selector own) events r

section

variable {history : List Store.Operation} {selector : Selector} {own : Option Nat}
  {events : List Happening} {r : Reading}

theorem Paged.outputSound (h : Paged history selector own events r) : r.store.OutputSound := by
  rw [h.store]
  exact Store.outputSound_run Store.outputSound_empty _

/-- What one call does. -/
theorem Paged.step_call (h : Paged history selector own events r) {call : Happening}
    {limit : Option Nat} (hcall : call.limit? own = some limit) :
    ∃ rows w, r.step call = .ok (r.take rows w) ∧ r.cursor.Page r.store limit rows w := by
  obtain ⟨rows, w, hnext, hpage⟩ := Cursor.page_of_nextWith h.outputSound
    (by rw [h.head, Bool.and_false]) limit
  refine ⟨rows, w, ?_, hpage⟩
  cases call with
  | used op => simp [Happening.limit?] at hcall
  | next =>
    obtain rfl : own = limit := Option.some.inj hcall
    simp [step, take, Cursor.next, h.limit, hnext, bind, Except.bind, pure, Except.pure]
  | nextWith n =>
    obtain rfl : n = limit := Option.some.inj hcall
    simp [step, take, hnext, bind, Except.bind, pure, Except.pure]

theorem paged_start (history : List Store.Operation) (selector : Selector) (own : Option Nat) :
    Paged history selector own [] (start (Store.empty.run history) selector own) := by
  have hs := Store.outputSound_run Store.outputSound_empty history
  refine ⟨by simp [start, uses], rfl, rfl, rfl, hs.start, ?_⟩
  refine ⟨List.Pairwise.nil, by simp [start], rfl, by simp [start], Or.inl ⟨rfl, rfl⟩, ?_⟩
  intro row hheld _ hle
  -- No line has the number 0.
  obtain ⟨before, later, hsplit, hrow⟩ := hheld
  have hpos := ((Store.outputSound_run Store.outputSound_empty before).numbers row hrow).1
  have hreached : (start (Store.empty.run history) selector own).cursor.reached = 0 := rfl
  omega

/-- What other parties do takes nothing from the reader. -/
theorem Paged.used (h : Paged history selector own events r) (op : Store.Operation) :
    Paged history selector own (events ++ [.used op]) { r with store := r.store.step op } := by
  obtain ⟨hstore, hselects, hlimit, hhead, hlast, hfaithful⟩ := h
  have huses : history ++ uses (events ++ [.used op]) = (history ++ uses events) ++ [op] := by
    rw [uses_concat_used, List.append_assoc]
  have hstep : r.store.step op = Store.empty.run (history ++ uses (events ++ [.used op])) := by
    rw [huses, Store.run_append, ← hstore]
    rfl
  have hchange := Store.outputChange_step r.store op
  refine ⟨hstep, hselects, hlimit, hhead, Int.le_trans hlast hchange.lastOutput_le, ?_⟩
  refine ⟨hfaithful.ascending, ?_, ?_, hfaithful.below, hfaithful.highest, ?_⟩
  · intro x hx
    obtain ⟨row, hheld, hrow⟩ := hfaithful.stored x hx
    rw [huses]
    exact ⟨row, Store.held_concat_iff.mpr (Or.inl hheld), hrow⟩
  · simpa [Happening.isCall] using hfaithful.begun
  · intro row hheld hmatch hle
    have hbefore : Store.empty.Held (history ++ uses events) row := by
      rw [huses] at hheld
      rcases Store.held_concat_iff.mp hheld with hheld | hnow
      · exact hheld
      · rw [← huses, ← hstep] at hnow
        by_cases hold : row ∈ r.store.output
        · exact Store.held_of_mem (hstore ▸ hold)
        -- A new line is ahead of every reader.
        · have hnew := hchange.lt_id_of_new hnow hold
          have hle : row.id ≤ r.cursor.reached := hle
          omega
    rcases hfaithful.passed row hbefore hmatch hle with hgiven | hmissed
    · exact Or.inl hgiven
    · exact Or.inr (hmissed.concat _)

theorem Paged.record_of_page (h : Paged history selector own events r) {limit : Option Nat}
    {rows : List OutputRow} {w : Int} (hpage : r.cursor.Page r.store limit rows w) :
    ∀ row ∈ rows, row.record = .ok row.shown ∧ row.shown ∈ (r.take rows w).given := by
  intro row hrow
  refine ⟨OutputRow.record_of_isTyped (h.outputSound.typed row (hpage.meant row hrow).1), ?_⟩
  exact List.mem_append_right _ (List.mem_map_of_mem hrow)

/-- A line that a call passes was in the store, and is given, or it is missed. -/
theorem Paged.passed_take (h : Paged history selector own events r)
    (hrun : (start (Store.empty.run history) selector own).run events = .ok r)
    {call : Happening} {limit : Option Nat} {rows : List OutputRow} {w : Int}
    (hpage : r.cursor.Page r.store limit rows w) (hstep : r.step call = .ok (r.take rows w))
    {row : OutputRow} (hheld : Store.empty.Held (history ++ uses events) row)
    (hmatch : selector.matches row = true) (hle : row.id ≤ w) :
    (∃ x ∈ (r.take rows w).given, row.record = .ok x)
      ∨ (start (Store.empty.run history) selector own).Missed history (events ++ [call]) row := by
  by_cases hahead : r.cursor.reached < row.id
  · by_cases hin : row ∈ r.store.output
    · have hrow := hpage.complete row hin (h.selects ▸ hmatch) hahead hle
      obtain ⟨hrecord, hgiven⟩ := h.record_of_page hpage row hrow
      exact Or.inl ⟨row.shown, hgiven, hrecord⟩
    · exact Or.inr ⟨events, call, [], r, _, rfl, hrun, hstep, hahead, hle, hheld, hin⟩
  · rcases h.faithful.passed row hheld hmatch (Int.not_lt.mp hahead) with ⟨x, hx, hrecord⟩ | hmissed
    · exact Or.inl ⟨x, List.mem_append_left _ hx, hrecord⟩
    · exact Or.inr (hmissed.concat call)

/-- A call gives a page and takes the watermark along. -/
theorem Paged.called (h : Paged history selector own events r)
    (hrun : (start (Store.empty.run history) selector own).run events = .ok r)
    {call : Happening} (hcall : call.isCall = true) {limit : Option Nat} {rows : List OutputRow}
    {w : Int} (hpage : r.cursor.Page r.store limit rows w)
    (hstep : r.step call = .ok (r.take rows w)) :
    Paged history selector own (events ++ [call]) (r.take rows w) := by
  have hrows := h.record_of_page hpage
  have huses := uses_concat_call hcall events
  have hlast : w ≤ r.store.lastOutput := by
    rcases hpage.highest with hw | ⟨row, hrow, hw⟩
    · exact hw ▸ h.last
    · exact hw ▸ (h.outputSound.numbers row (hpage.meant row hrow).1).2
  refine ⟨by rw [huses]; exact h.store, h.selects, h.limit, h.head, hlast, ?_⟩
  refine ⟨?_, ?_, ?_, ?_, ?_, ?_⟩
  · refine List.pairwise_append.mpr ⟨h.faithful.ascending, ?_, ?_⟩
    · exact List.pairwise_map.mpr hpage.ascending
    · intro x hx y hy
      obtain ⟨row, hrow, rfl⟩ := List.mem_map.mp hy
      exact Int.lt_of_le_of_lt (h.faithful.below x hx) (hpage.meant row hrow).2.2
  · intro x hx
    rw [huses]
    rcases List.mem_append.mp hx with hx | hx
    · exact h.faithful.stored x hx
    · obtain ⟨row, hrow, rfl⟩ := List.mem_map.mp hx
      obtain ⟨hin, hmatch, _⟩ := hpage.meant row hrow
      exact ⟨row, Store.held_of_mem (h.store ▸ hin), h.selects ▸ hmatch, (hrows row hrow).1⟩
  · simp [take, hcall]
  · intro x hx
    rcases List.mem_append.mp hx with hx | hx
    · exact Int.le_trans (h.faithful.below x hx) hpage.forward
    · obtain ⟨row, hrow, rfl⟩ := List.mem_map.mp hx
      exact hpage.below row hrow
  · rcases hpage.highest with hw | ⟨row, hrow, hw⟩
    · rcases h.faithful.highest with ⟨hnone, hzero⟩ | ⟨x, hx, hxw⟩
      · exact Or.inl ⟨by simp [take, hnone, hpage.eq_nil hw], hw.trans hzero⟩
      · exact Or.inr ⟨x, List.mem_append_left _ hx, hxw.trans hw.symm⟩
    · exact Or.inr ⟨row.shown, (hrows row hrow).2, hw⟩
  · intro row hheld hmatch hle
    rw [huses] at hheld
    exact h.passed_take hrun hpage hstep hheld hmatch hle

theorem isCall_of_limit? {call : Happening} {limit : Option Nat}
    (h : call.limit? own = some limit) : call.isCall = true := by
  cases call with
  | used op => simp [Happening.limit?] at h
  | next => rfl
  | nextWith n => rfl

end

/-- No call fails, and the reader stays between calls as it was. -/
theorem paged_run (history : List Store.Operation) (selector : Selector) (own : Option Nat)
    (events : List Happening) :
    ∃ r, (start (Store.empty.run history) selector own).run events = .ok r
      ∧ Paged history selector own events r := by
  induction events using List.reverseRecOn with
  | nil => exact ⟨_, rfl, paged_start history selector own⟩
  | append_singleton events e ih =>
    obtain ⟨r, hrun, h⟩ := ih
    rw [run_concat hrun]
    cases hlimit : e.limit? own with
    | none =>
      cases e with
      | used op => exact ⟨_, rfl, h.used op⟩
      | next => simp [Happening.limit?] at hlimit
      | nextWith n => simp [Happening.limit?] at hlimit
    | some limit =>
      obtain ⟨rows, w, hstep, hpage⟩ := h.step_call hlimit
      exact ⟨_, hstep, h.called hrun (isCall_of_limit? hlimit) hpage hstep⟩

theorem not_mem_of_missed {history : List Store.Operation} {selector : Selector}
    {own : Option Nat} {events : List Happening} {row : OutputRow}
    (h : (start (Store.empty.run history) selector own).Missed history events row) :
    row ∉ (Store.empty.run (history ++ uses events)).output := by
  obtain ⟨before, call, after, r₁, r₂, rfl, hrun, _, _, _, hheld, hgone⟩ := h
  obtain ⟨r, hr, hpaged⟩ := paged_run history selector own before
  obtain rfl : r = r₁ := Except.ok.inj (hr.symm.trans hrun)
  rw [hpaged.store] at hgone
  have huses : history ++ uses (before ++ call :: after)
      = (history ++ uses before) ++ uses (call :: after) := by
    simp [uses]
  rw [huses]
  exact Store.not_mem_run_of_gone Store.outputSound_empty hheld hgone _

/-- What one call adds to what a reader can rely on. -/
structure Served (limit : Option Nat) (r r' : Reading) (rows : List LogRecord) : Prop where
  /-- The lines of the call come after those of the calls before. -/
  given : r'.given = r.given ++ rows
  /-- The call changes nothing in the store. -/
  store : r'.store = r.store
  /-- Every line of the call is in the store at that time. -/
  stored : ∀ x ∈ rows, ∃ row ∈ r.store.output,
    r.cursor.selector.matches row = true ∧ row.record = .ok x
  /-- The call keeps to its limit. -/
  within : ∀ n, limit = some n → rows.length ≤ n
  /-- The watermark does not fall. -/
  forward : r.cursor.reached ≤ r'.cursor.reached
  /-- A call without limit leaves nothing out. -/
  all : limit = none → ∀ row ∈ r.store.output, r.cursor.selector.matches row = true →
    ∃ x ∈ r'.given, row.record = .ok x

theorem Paged.served {history : List Store.Operation} {selector : Selector} {own : Option Nat}
    {events : List Happening} {r : Reading} (h : Paged history selector own events r)
    {limit : Option Nat} {rows : List OutputRow} {w : Int}
    (hpage : r.cursor.Page r.store limit rows w) :
    Served limit r (r.take rows w) (rows.map OutputRow.shown) := by
  have hrows := h.record_of_page hpage
  refine ⟨rfl, rfl, ?_, ?_, hpage.forward, ?_⟩
  · intro x hx
    obtain ⟨row, hrow, rfl⟩ := List.mem_map.mp hx
    obtain ⟨hin, hmatch, _⟩ := hpage.meant row hrow
    exact ⟨row, hin, hmatch, (hrows row hrow).1⟩
  · intro n hn
    rw [List.length_map]
    exact hpage.within n hn
  · intro hlimit row hin hmatch
    by_cases hahead : r.cursor.reached < row.id
    · have hrow := hpage.all hlimit row hin hmatch hahead
      obtain ⟨hrecord, hgiven⟩ := hrows row hrow
      exact ⟨row.shown, hgiven, hrecord⟩
    · have hheld : Store.empty.Held (history ++ uses events) row :=
        Store.held_of_mem (h.store ▸ hin)
      rcases h.faithful.passed row hheld (h.selects ▸ hmatch) (Int.not_lt.mp hahead) with
        ⟨x, hx, hxrow⟩ | hmissed
      · exact ⟨x, List.mem_append_left _ hx, hxrow⟩
      · exact absurd (h.store ▸ hin) (not_mem_of_missed hmissed)

end Reading

/-- **Reading from the oldest line on.** Whatever was done to the store before, and
whatever other parties do between the calls, no call fails; the reader is given every
line it passes, unless the line is gone by then, and none twice; and every further
call keeps to its limit, while one without limit leaves nothing out. -/
theorem paging_from_start (history : List Store.Operation) (selector : Selector)
    (own : Option Nat) (events : List Happening) :
    let r₀ := Reading.start (Store.empty.run history) selector own
    ∃ r, r₀.run events = .ok r
      ∧ Reading.Faithful history r₀ events r
      ∧ ∀ call limit, Happening.limit? own call = some limit →
        ∃ r' rows, r.step call = .ok r' ∧ Reading.Served limit r r' rows := by
  intro r₀
  obtain ⟨r, hrun, h⟩ := Reading.paged_run history selector own events
  refine ⟨r, hrun, h.faithful, ?_⟩
  intro call limit hlimit
  obtain ⟨rows, w, hstep, hpage⟩ := h.step_call hlimit
  exact ⟨_, _, hstep, h.served hpage⟩

/-- Two calls; between them one line is written and cleared away, and another is written. -/
theorem paging_from_start_past_clear :
    let line : Int → String → Store.Operation := fun launch content =>
      .append 0 launch ⟨"web", ⟨"/srv"⟩⟩ 1 content .stdout
    let history := [line 1 "a", line 2 "b"]
    let r₀ := Reading.start (Store.empty.run history) (.launch 1) (some 1)
    let events := [.next, .used (line 1 "c"), .used (.clear ⟨"web", ⟨"/srv"⟩⟩),
      .used (line 1 "d")]
    Happening.limit? (some 1) (.nextWith none) = some none
      ∧ ∃ r, r₀.run events = .ok r ∧ Reading.Faithful history r₀ events r
        ∧ ∃ r' rows, r.step (.nextWith none) = .ok r' ∧ Reading.Served none r r' rows
          ∧ r'.given.map (·.content) = ["a", "d"] ∧ r'.cursor.watermark = some 4 := by
  intro line history r₀ events
  refine ⟨rfl, ?_⟩
  obtain ⟨r, hrun, hfaithful, hcalls⟩ := paging_from_start history (.launch 1) (some 1) events
  obtain ⟨r', rows, hstep, hserved⟩ := hcalls (.nextWith none) none rfl
  refine ⟨r, hrun, hfaithful, r', rows, hstep, hserved, ?_⟩
  cases hrun
  cases hstep
  exact ⟨rfl, rfl⟩

end Overseer.Log
