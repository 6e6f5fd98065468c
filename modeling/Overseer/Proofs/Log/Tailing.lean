/-
Overseer.Proofs.Log.Tailing — beginning with the newest lines.

A reader asks for the last lines there are, and later for whatever has come since,
while other parties write lines, clear services and clean up. `tailing_then_new`
says what it is given: the first call gives the newest lines within its limit, by
rising number; no later call fails, within whatever limit; and every line that a
later call gives was stored after the first call.

The watermark is the highest number that was given. It stands for everything that
existed at the first call if that call gave anything (`le_reachedBy_newest`) or had
nothing to give. That is the condition of the law: a first call with limit 0 over
lines that are meant gives none of them and leaves all of them ahead, because no
limit makes a gap (`tailing_nothing_then_old`).
-/
import Overseer.Proofs.Log.Paging

namespace Overseer.Log

/-! ## 1. Limits below 0 -/

/-- The limit that a number stands for; one below 0 is none. -/
def effective (limit : Option Int) : Option Nat :=
  limit.bind fun n => if n < 0 then none else some n.toNat

theorem withinLimit_effective {α : Type} (limit : Option Int) (rows : List α) :
    withinLimit ((effective limit).map Int.ofNat) rows = withinLimit limit rows := by
  rw [withinLimit_natCast]
  cases limit with
  | none => rfl
  | some n =>
    by_cases hn : n < 0
    · simp [effective, hn, withinLimit, firstRows]
    · simp [effective, hn, withinLimit, firstRows]

namespace Cursor

theorem nextWith_effective (c : Cursor) (s : Store) (limit : Option Int) :
    c.nextWith s ((effective limit).map Int.ofNat) = c.nextWith s limit := by
  have hadmits : (c.query ((effective limit).map Int.ofNat)).admits = (c.query limit).admits := rfl
  have hlimit : ∀ rows : List OutputRow,
      withinLimit (c.query ((effective limit).map Int.ofNat)).limit rows
        = withinLimit (c.query limit).limit rows := withinLimit_effective limit
  have hquery : s.query (c.query ((effective limit).map Int.ofNat)) = s.query (c.query limit) := by
    simp only [Store.query, hadmits, hlimit]
    rfl
  simp only [nextWith, hquery]

/-! ## 2. The first call -/

/-- The lines are the newest ones that are meant, by rising number. -/
structure GivesNewest (s : Store) (selector : Selector) (count : Nat) (rows : List LogRecord) :
    Prop where
  /-- Every line given is one that is meant, as it stands in the store. -/
  stored : ∀ x ∈ rows, ∃ r ∈ s.output, selector.matches r = true ∧ r.record = .ok x
  ascending : rows.Pairwise fun x y => x.id < y.id
  /-- There are as many as the limit allows, or all that are meant. -/
  length : rows.length = min count (s.count selector)
  /-- What is meant and not given is older than all that is given. -/
  newest : ∀ r ∈ s.output, selector.matches r = true →
    (∃ x ∈ rows, r.record = .ok x) ∨ ∀ x ∈ rows, r.id < x.id

theorem givesNewest_newest {s : Store} (hs : s.OutputSound) (selector : Selector) (count : Nat) :
    GivesNewest s selector count ((newest selector count s).map OutputRow.shown) := by
  have hrecord : ∀ r ∈ s.output, r.record = .ok r.shown := fun r hr =>
    OutputRow.record_of_isTyped (hs.typed r hr)
  refine ⟨?_, List.pairwise_map.mpr (newest_ascending selector count hs), ?_, ?_⟩
  · intro x hx
    obtain ⟨r, hr, rfl⟩ := List.mem_map.mp hx
    obtain ⟨hin, hmatch⟩ := mem_newest hr
    exact ⟨r, hin, hmatch, hrecord r hin⟩
  · simp [newest, Store.count]
  · intro r hr hmatch
    have hnewest : r ∈ newest selector count s ∨ ∀ x ∈ newest selector count s, r.id < x.id :=
      mem_newest_or hs hr hmatch
    rcases hnewest with hnewest | holder
    · exact Or.inl ⟨r.shown, List.mem_map_of_mem hnewest, hrecord r hr⟩
    · refine Or.inr fun x hx => ?_
      obtain ⟨y, hy, rfl⟩ := List.mem_map.mp hx
      exact holder y hy

/-! ## 3. The calls after it -/

/-- What other parties do before a call, and the limit of the call. -/
structure Call where
  deeds : List Store.Operation
  limit : Option Int

/-- The store and the cursor that a call leaves. -/
def afterCall (reading : Store × Cursor) (call : Call) : Except StoreFault (Store × Cursor) := do
  let s := reading.1.run call.deeds
  let (_, c) ← reading.2.nextWith s call.limit
  return (s, c)

/-- One call after the other. -/
def after (s : Store) (c : Cursor) (calls : List Call) : Except StoreFault (Store × Cursor) :=
  calls.foldlM afterCall (s, c)

theorem after_concat {s : Store} {c : Cursor} {calls : List Call} {reading : Store × Cursor}
    (h : c.after s calls = .ok reading) (call : Call) :
    c.after s (calls ++ [call]) = afterCall reading call := by
  have hcalls : calls.foldlM afterCall (s, c) = .ok reading := h
  rw [after, List.foldlM_append, hcalls]
  exact bind_pure (afterCall reading call)

/-- The cursor has passed every line of a store that it means. -/
def HasPassed (c : Cursor) (s : Store) : Prop :=
  c.watermark.isSome = true ∧ ∀ r ∈ s.output, c.selector.matches r = true → r.id ≤ c.reached

/-- A line as it was stored between two states of a store. -/
def StoredSince (selector : Selector) (s s' : Store) (x : LogRecord) : Prop :=
  ∃ r ∈ s'.output, r ∉ s.output ∧ s.lastOutput < r.id ∧ selector.matches r = true
    ∧ r.record = .ok x

variable {s : Store} {c : Cursor}

/-- A cursor that has passed a store gives only lines that were stored since, and has
then passed the store as well. -/
theorem HasPassed.nextWith (hs : s.OutputSound) (hc : c.HasPassed s)
    (deeds : List Store.Operation) (limit : Option Int) :
    ∃ rows c', c.nextWith (s.run deeds) limit = .ok (rows, c')
      ∧ c'.HasPassed s ∧ c'.selector = c.selector
      ∧ ∀ x ∈ rows, StoredSince c.selector s (s.run deeds) x := by
  obtain ⟨hbegun, hpassed⟩ := hc
  have hsound := Store.outputSound_run hs deeds
  have hhead : (c.watermark.isNone && c.tail) = false := by
    rw [Option.isNone_eq_false_iff.mpr hbegun, Bool.false_and]
  obtain ⟨rows, w, hnext, hpage⟩ := page_of_nextWith hsound hhead (effective limit)
  rw [nextWith_effective] at hnext
  refine ⟨_, _, hnext, ⟨rfl, ?_⟩, rfl, ?_⟩
  · intro r hr hmatch
    exact Int.le_trans (hpassed r hr hmatch) hpage.forward
  · intro x hx
    obtain ⟨r, hr, rfl⟩ := List.mem_map.mp hx
    obtain ⟨hin, hmatch, hahead⟩ := hpage.meant r hr
    have hnew : r ∉ s.output := by
      intro hold
      have hle := hpassed r hold hmatch
      omega
    exact ⟨r, hin, hnew, Store.lt_id_of_new_run hin hnew, hmatch,
      OutputRow.record_of_isTyped (hsound.typed r hin)⟩

/-- So does it after any calls. -/
theorem HasPassed.after (hs : s.OutputSound) (hc : c.HasPassed s) (calls : List Call) :
    ∃ c', c.after s calls = .ok (s.run (calls.flatMap Call.deeds), c')
      ∧ c'.HasPassed s ∧ c'.selector = c.selector := by
  induction calls using List.reverseRecOn with
  | nil => exact ⟨c, rfl, hc, rfl⟩
  | append_singleton calls call ih =>
    obtain ⟨c', hafter, hc', hselector⟩ := ih
    obtain ⟨rows, c'', hnext, hc'', hselector', _⟩ :=
      hc'.nextWith hs (calls.flatMap Call.deeds ++ call.deeds) call.limit
    refine ⟨c'', ?_, hc'', hselector'.trans hselector⟩
    rw [Store.run_append] at hnext
    rw [after_concat hafter, List.flatMap_append, List.flatMap_singleton, Store.run_append]
    simp [afterCall, hnext, bind, Except.bind, pure, Except.pure]

end Cursor

/-- **Beginning with the newest lines.** The first call gives the newest lines that are
meant, as many as its limit allows. If the limit is not 0, or nothing was there, every
line that any later call gives was stored after the first one, whatever other parties do
to the store before each call and within whatever limit it is made. -/
theorem tailing_then_new {s : Store} (hs : s.OutputSound) (selector : Selector) (n : Nat) :
    ∃ first c, (Cursor.tailing selector (some n)).next s = .ok (first, c)
      ∧ Cursor.GivesNewest s selector n first
      ∧ ((1 ≤ n ∨ ∀ r ∈ s.output, selector.matches r = false) →
        ∀ (calls : List Cursor.Call) (call : Cursor.Call),
          ∃ s' c', c.after s calls = .ok (s', c')
            ∧ ∃ rows c'', c'.nextWith (s'.run call.deeds) call.limit = .ok (rows, c'')
              ∧ ∀ x ∈ rows, Cursor.StoredSince selector s (s'.run call.deeds) x) := by
  refine ⟨_, _, Cursor.nextWith_tailing hs selector n, Cursor.givesNewest_newest hs selector n, ?_⟩
  intro hlimit calls call
  have hpassed : Cursor.HasPassed { Cursor.tailing selector (some (n : Int)) with
      watermark := some (Cursor.reachedBy (Cursor.newest selector n s)) } s := by
    refine ⟨rfl, fun r hr hmatch => ?_⟩
    rcases hlimit with hn | hnone
    · exact Cursor.le_reachedBy_newest hn hs hr hmatch
    · exact absurd hmatch (by simp [Cursor.tailing, hnone r hr])
  obtain ⟨c', hafter, hc', hselector⟩ := hpassed.after hs calls
  obtain ⟨rows, c'', hnext, _, _, hsince⟩ :=
    hc'.nextWith hs (calls.flatMap Cursor.Call.deeds ++ call.deeds) call.limit
  rw [Store.run_append] at hnext hsince
  rw [hselector] at hsince
  exact ⟨_, _, hafter, rows, c'', hnext, hsince⟩

/-- Three lines are there and the last two are asked for; then one of them is cleared
away with its service, two new lines come, and they are read one by one. -/
theorem tailing_then_new_past_clear :
    let line : Int → String → String → Store.Operation := fun launch service content =>
      .append 0 launch ⟨service, ⟨"/srv"⟩⟩ 1 content .stdout
    let s := Store.empty.run [line 1 "web" "a", line 1 "api" "b", line 1 "web" "c"]
    let selector := Selector.launch 1
    let calls : List Cursor.Call :=
      [⟨[.clear ⟨"web", ⟨"/srv"⟩⟩, line 1 "web" "d", line 1 "web" "e"], some 1⟩]
    s.OutputSound ∧ (1 ≤ 2 ∨ ∀ r ∈ s.output, selector.matches r = false)
      ∧ ∃ first c, (Cursor.tailing selector (some 2)).next s = .ok (first, c)
        ∧ first.map (·.content) = ["b", "c"]
        ∧ ∃ s' c', c.after s calls = .ok (s', c')
          ∧ ∃ rows c'', c'.nextWith (s'.run []) (some (-1)) = .ok (rows, c'')
            ∧ rows.map (·.content) = ["e"]
            ∧ ∀ x ∈ rows, Cursor.StoredSince selector s (s'.run []) x := by
  intro line s selector calls
  have hs : s.OutputSound := Store.outputSound_run Store.outputSound_empty _
  obtain ⟨first, c, hfirst, hnewest, hlater⟩ := tailing_then_new hs selector 2
  refine ⟨hs, Or.inl (by decide), first, c, hfirst, ?_, ?_⟩
  · cases hfirst
    rfl
  obtain ⟨s', c', hafter, rows, c'', hnext, hsince⟩ :=
    hlater (Or.inl (by decide)) calls ⟨[], some (-1)⟩
  refine ⟨s', c', hafter, rows, c'', hnext, ?_, hsince⟩
  cases hfirst
  cases hafter
  cases hnext
  rfl

/-- A first call for no lines gives none, and the next call gives the line that was
there at the first one. -/
theorem tailing_nothing_then_old :
    let s := Store.empty.run [.append 0 1 ⟨"web", ⟨"/srv"⟩⟩ 1 "ready" .stdout]
    let row : OutputRow := ⟨1, 1, ⟨"web", ⟨"/srv"⟩⟩, 1, "ready", "stdout", 0⟩
    s.OutputSound ∧ row ∈ s.output
      ∧ ∃ c, (Cursor.tailing (.launch 1) (some 0)).next s = .ok ([], c)
        ∧ ∃ c', c.nextWith s none = .ok ([row.shown], c')
          ∧ ¬ Cursor.StoredSince (.launch 1) s s row.shown := by
  intro s row
  refine ⟨Store.outputSound_run Store.outputSound_empty _, List.mem_singleton.mpr rfl, _, rfl, _,
    rfl, ?_⟩
  rintro ⟨r, hr, hnew, _⟩
  exact hnew hr

end Overseer.Log
