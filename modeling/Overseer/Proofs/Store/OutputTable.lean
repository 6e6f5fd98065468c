/-
Overseer.Proofs.Store.OutputTable — what happens to the lines of a store.

An operation adds one line, under the next number, or it drops lines; no line is
ever changed. So the table stays sound: numbers fall along it, all of them are
above 0 and none is above the highest one given out, and every line has a type
that can be read. A line that is new in a store has a number above all that were
given out before (`lt_id_of_new`), also when lines were dropped in between.
-/
import Overseer.Proofs.Store.History
import Overseer.Proofs.Store.Operations

namespace Overseer

namespace OutputRow

/-- The type of the row has a name. -/
def IsTyped (r : OutputRow) : Prop := ∃ t : LogType, r.type = t.text

/-- The row as a record; a type without a name is read as normal output. -/
def shown (r : OutputRow) : LogRecord where
  id := r.id
  launch := r.launch
  service := r.key.service
  project := r.key.project
  line := r.line
  content := r.content
  type := (LogType.ofText? r.type).getD .stdout
  time := r.time

theorem record_of_isTyped {r : OutputRow} (h : r.IsTyped) : r.record = .ok r.shown := by
  obtain ⟨t, ht⟩ := h
  simp [record, shown, ht, LogType.ofText, LogType.ofText?_text, bind, Except.bind, pure,
    Except.pure]

end OutputRow

namespace Store

/-! ## 1. What one operation can do -/

/-- What an operation does to the lines. -/
inductive OutputChange (s s' : Store) : Prop where
  | dropped (output : s'.output.Sublist s.output) (last : s'.lastOutput = s.lastOutput)
  | added (row : OutputRow) (room : s.lastOutput < lastNumber)
      (number : row.id = s.lastOutput + 1) (typed : row.IsTyped)
      (output : s'.output = row :: s.output) (last : s'.lastOutput = row.id)

theorem OutputChange.of_eq {s s' : Store} (output : s'.output = s.output)
    (last : s'.lastOutput = s.lastOutput) : OutputChange s s' :=
  .dropped (output ▸ List.Sublist.refl _) last

theorem sweepList_output (now : Int) (alive : ProcessRecord → Bool) (s : Store)
    (rs : List ProcessRecord) :
    (sweepList now alive s rs).2.output = s.output
      ∧ (sweepList now alive s rs).2.lastOutput = s.lastOutput := by
  induction rs generalizing s with
  | nil => exact ⟨rfl, rfl⟩
  | cons r rs ih =>
    unfold sweepList
    split
    · exact ih s
    · obtain ⟨houtput, hlast⟩ := markExited_output s now r.id foundDead
      rw [← houtput, ← hlast]
      exact ih _

theorem outputChange_step (s : Store) (op : Operation) : OutputChange s (s.step op) := by
  cases op with
  | create now key command directory port =>
    cases hok : s.create now key command directory port with
    | error fault =>
      simp only [step, hok]
      exact .of_eq rfl rfl
    | ok made =>
      obtain ⟨id, s'⟩ := made
      simp only [step, hok]
      obtain ⟨_, _, _, rfl⟩ := create_eq_ok_iff.mp hok
      exact .of_eq rfl rfl
  | updatePid id pid =>
    rcases step_updatePid s id pid with hstep | hstep
    · rw [hstep]
      exact .of_eq rfl rfl
    · rw [hstep]
      exact .of_eq rfl rfl
  | rejectPids rejects => exact .of_eq rfl rfl
  | updateWrapperPid id pid => exact .of_eq rfl rfl
  | markExited now id code =>
    obtain ⟨houtput, hlast⟩ := markExited_output s now id code
    exact .of_eq houtput hlast
  | sweepDead now alive =>
    obtain ⟨houtput, hlast⟩ := sweepList_output now alive s (s.running none)
    exact .of_eq houtput hlast
  | append now launch key line content type =>
    cases hok : s.append now launch key line content type with
    | error fault =>
      simp only [step, hok]
      exact .of_eq rfl rfl
    | ok made =>
      obtain ⟨id, s'⟩ := made
      simp only [step, hok]
      obtain ⟨hroom, rfl, rfl⟩ := append_eq_ok_iff.mp hok
      exact .added ⟨s.lastOutput + 1, launch, key, line, content, type.text, now⟩ hroom rfl
        ⟨type, rfl⟩ rfl rfl
  | clear key => exact .dropped List.filter_sublist rfl
  | assignPort project port => exact .of_eq rfl rfl
  | cleanup now policy => exact .dropped (cleanup_output_sublist s now policy) rfl

/-! ## 2. The invariant -/

/-- The lines of a store belong together. -/
structure OutputSound (s : Store) : Prop where
  start : 0 ≤ s.lastOutput
  numbers : ∀ r ∈ s.output, 0 < r.id ∧ r.id ≤ s.lastOutput
  order : s.output.Pairwise fun r older => older.id < r.id
  typed : ∀ r ∈ s.output, r.IsTyped

theorem outputSound_empty : OutputSound empty :=
  ⟨Int.le_refl _, by simp [empty], List.Pairwise.nil, by simp [empty]⟩

theorem OutputChange.sound {s s' : Store} (h : OutputChange s s') (hs : OutputSound s) :
    OutputSound s' := by
  cases h with
  | dropped output last =>
    refine ⟨by rw [last]; exact hs.start, ?_, hs.order.sublist output, ?_⟩
    · intro r hr
      rw [last]
      exact hs.numbers r (output.subset hr)
    · intro r hr
      exact hs.typed r (output.subset hr)
  | added row room number typed output last =>
    have hstart := hs.start
    refine ⟨by omega, ?_, ?_, ?_⟩
    · intro r hr
      rw [output] at hr
      rcases List.mem_cons.mp hr with rfl | hr
      · omega
      · have := hs.numbers r hr
        omega
    · rw [output]
      refine List.Pairwise.cons ?_ hs.order
      intro r hr
      have := hs.numbers r hr
      omega
    · intro r hr
      rw [output] at hr
      rcases List.mem_cons.mp hr with rfl | hr
      · exact typed
      · exact hs.typed r hr

/-- **Every history keeps the lines sound.** -/
theorem outputSound_run {s : Store} (hs : OutputSound s) (history : List Operation) :
    OutputSound (s.run history) :=
  run_induction (P := OutputSound) (fun s op h => (outputChange_step s op).sound h) hs history

theorem OutputChange.lastOutput_le {s s' : Store} (h : OutputChange s s') :
    s.lastOutput ≤ s'.lastOutput := by
  cases h with
  | dropped output last => omega
  | added row room number typed output last => omega

theorem OutputChange.lastOutput_le_lastNumber {s s' : Store} (h : OutputChange s s')
    (hs : s.lastOutput ≤ lastNumber) : s'.lastOutput ≤ lastNumber := by
  cases h with
  | dropped output last => omega
  | added row room number typed output last => omega

/-- No line gets a number beyond the highest one there is. -/
theorem lastOutput_run_le_lastNumber {s : Store} (hs : s.lastOutput ≤ lastNumber)
    (history : List Operation) : (s.run history).lastOutput ≤ lastNumber :=
  run_induction (P := fun s => s.lastOutput ≤ lastNumber)
    (fun s op h => (outputChange_step s op).lastOutput_le_lastNumber h) hs history

/-- A line that an operation adds has a number above all that were given out. -/
theorem OutputChange.lt_id_of_new {s s' : Store} (h : OutputChange s s') {r : OutputRow}
    (hr : r ∈ s'.output) (hnew : r ∉ s.output) : s.lastOutput < r.id := by
  cases h with
  | dropped output last => exact absurd (output.subset hr) hnew
  | added row room number typed output last =>
    rw [output] at hr
    rcases List.mem_cons.mp hr with rfl | hr
    · omega
    · exact absurd hr hnew

theorem lastOutput_le_run (s : Store) (history : List Operation) :
    s.lastOutput ≤ (s.run history).lastOutput :=
  run_induction (P := fun s' => s.lastOutput ≤ s'.lastOutput)
    (fun s' op h => Int.le_trans h (outputChange_step s' op).lastOutput_le) (Int.le_refl _) history

/-- So has a line that a history adds. -/
theorem lt_id_of_new_run {s : Store} {history : List Operation} {r : OutputRow}
    (hr : r ∈ (s.run history).output) (hnew : r ∉ s.output) : s.lastOutput < r.id := by
  induction history generalizing s with
  | nil => exact absurd hr hnew
  | cons op history ih =>
    have hchange := outputChange_step s op
    by_cases hnext : r ∈ (s.step op).output
    · exact hchange.lt_id_of_new hnext hnew
    · exact Int.lt_of_le_of_lt hchange.lastOutput_le (ih hr hnext)

/-! ## 3. Every line that ever was -/

/-- At some point of a history the store held the line. -/
def Held (s : Store) (history : List Operation) (r : OutputRow) : Prop :=
  ∃ before later, history = before ++ later ∧ r ∈ (s.run before).output

theorem held_of_mem {s : Store} {history : List Operation} {r : OutputRow}
    (h : r ∈ (s.run history).output) : s.Held history r :=
  ⟨history, [], (List.append_nil _).symm, h⟩

theorem held_concat_iff {s : Store} {history : List Operation} {op : Operation} {r : OutputRow} :
    s.Held (history ++ [op]) r ↔ s.Held history r ∨ r ∈ (s.run (history ++ [op])).output := by
  constructor
  · rintro ⟨before, later, hsplit, hr⟩
    rcases List.eq_nil_or_concat later with rfl | ⟨rest, last, rfl⟩
    · rw [List.append_nil] at hsplit
      rw [hsplit]
      exact Or.inr hr
    · rw [List.concat_eq_append, ← List.append_assoc] at hsplit
      obtain ⟨hhistory, _⟩ := List.append_inj' hsplit rfl
      exact Or.inl ⟨before, rest, hhistory, hr⟩
  · rintro (⟨before, later, rfl, hr⟩ | hr)
    · exact ⟨before, later ++ [op], by rw [List.append_assoc], hr⟩
    · exact held_of_mem hr

/-- No line that ever was has a number above the highest one. -/
theorem id_le_of_held {s : Store} (hs : OutputSound s) {history : List Operation}
    {r : OutputRow} (h : s.Held history r) : r.id ≤ (s.run history).lastOutput := by
  obtain ⟨before, later, rfl, hr⟩ := h
  have hbound := ((outputSound_run hs before).numbers r hr).2
  rw [run_append]
  exact run_induction (P := fun s => r.id ≤ s.lastOutput)
    (fun s op h => Int.le_trans h (outputChange_step s op).lastOutput_le) hbound later

/-- A line that is gone does not come back. -/
theorem not_mem_run_of_gone {s : Store} (hs : OutputSound s) {history : List Operation}
    {r : OutputRow} (hheld : s.Held history r) (hgone : r ∉ (s.run history).output)
    (later : List Operation) : r ∉ (s.run (history ++ later)).output := by
  rw [run_append]
  refine (run_induction (P := fun s => r ∉ s.output ∧ r.id ≤ s.lastOutput) ?_
    ⟨hgone, id_le_of_held hs hheld⟩ later).1
  intro s op ⟨hgone, hle⟩
  have hchange := outputChange_step s op
  refine ⟨fun hr => ?_, Int.le_trans hle hchange.lastOutput_le⟩
  have hnew := hchange.lt_id_of_new hr hgone
  omega

end Store

end Overseer
