/-
Overseer.Proofs.Launch.CommandLine — which command a shell line stands for.

`ofLine_splits`: a line that the shell has to read goes to the shell, without the white space
around it and otherwise untouched. Any other line is taken apart at its white space, and the
program with its arguments is the sequence of its runs; so nothing of the line is lost but
how much white space stands where. That is why the command as users see it, with single
blanks, stands for the same command (`ofLine_display`).

Both parts ask what the shell means something by of the trimmed line only. A line feed is
white space and means something to the shell, so it sends a line to the shell exactly if it
stands between two words.
-/
import Overseer.Launch.CommandLine
import Overseer.Proofs.Text.Blank

namespace Overseer.Launch

open Text (isBlank isBlankText trim words Runs)

variable {line : String} {c : Command}

/-! ## 1. Words as a command -/

/-- The program and its arguments, each a list of characters. -/
def Command.parts (c : Command) : List (List Char) := (c.program :: c.args).map String.toList

/-- The program is the first word, or empty if there is none. -/
def Command.ofWords : List (List Char) → Command
  | [] => ⟨"", []⟩
  | program :: args => ⟨String.ofList program, args.map String.ofList⟩

theorem needsShell_iff {cs : List Char} : needsShell cs = true ↔ ∃ x ∈ cs, x ∈ shellChars := by
  simp [needsShell]

theorem ofLine_eq (line : String) : Command.ofLine line
    = if needsShell (trim line.toList) then ⟨"sh", ["-c", String.ofList (trim line.toList)]⟩
      else .ofWords (words line.toList) := by
  simp only [Command.ofLine, Text.words_trim]
  cases words line.toList <;> rfl

theorem ofWords_parts (c : Command) : .ofWords c.parts = c := by
  simp [Command.parts, Command.ofWords, Function.comp_def]

theorem parts_ofWords {ws : List (List Char)} (h : ws ≠ []) : (Command.ofWords ws).parts = ws := by
  obtain ⟨program, args, rfl⟩ := List.exists_cons_of_ne_nil h
  simp [Command.parts, Command.ofWords, Function.comp_def]

/-- The words of a line that is not blank are a command. -/
theorem parts_ofLine (hshell : needsShell (trim line.toList) = false)
    (hblank : isBlankText line = false) : (Command.ofLine line).parts = words line.toList := by
  have hsome : words line.toList ≠ [] := by
    obtain ⟨x, hx, hxblank⟩ := Text.isBlankText_eq_false_iff.mp hblank
    intro hnone
    simp [Text.words_eq_nil_iff.mp hnone x hx] at hxblank
  rw [ofLine_eq, if_neg (by simp [hshell]), parts_ofWords hsome]

/-- A line that is not blank stands for a program. -/
theorem program_ofLine_not_blank (h : isBlankText line = false) :
    isBlankText (Command.ofLine line).program = false := by
  cases hshell : needsShell (trim line.toList) with
  | true =>
    rw [ofLine_eq, if_pos hshell]
    exact (by decide : isBlankText "sh" = false)
  | false =>
    have hword : (Command.ofLine line).program.toList ∈ words line.toList := by
      rw [← parts_ofLine hshell h]
      exact List.mem_cons_self
    obtain ⟨x, hx⟩ := List.exists_mem_of_ne_nil _ (Text.ne_nil_of_mem_words hword)
    exact Text.isBlankText_eq_false_iff.mpr ⟨x, hx, Text.not_isBlank_of_mem_words hword x hx⟩

/-! ## 2. The command as users see it -/

theorem toList_display (c : Command) : c.display.toList = [' '].intercalate c.parts := by
  rw [Command.display, String.toList_intercalate]
  rfl

/-- Only blanks are put between the words. -/
theorem mem_intercalate {x : Char} {ws : List (List Char)} (h : x ∈ [' '].intercalate ws) :
    x = ' ' ∨ ∃ w ∈ ws, x ∈ w := by
  induction ws with
  | nil => cases h
  | cons w rest ih =>
    cases rest with
    | nil => exact Or.inr ⟨w, List.mem_cons_self, by simpa using h⟩
    | cons next rest =>
      rw [List.intercalate_cons_cons, List.mem_append, List.mem_append, List.mem_singleton] at h
      rcases h with (hw | hblank) | hrest
      · exact Or.inr ⟨w, List.mem_cons_self, hw⟩
      · exact Or.inl hblank
      · exact (ih hrest).imp id fun ⟨v, hv, hx⟩ => ⟨v, List.mem_cons_of_mem w hv, hx⟩

/-- **The command that users see stands for the command**, unless the shell has to read it. -/
theorem ofLine_display (hshell : needsShell (trim line.toList) = false)
    (hblank : isBlankText line = false) :
    Command.ofLine (Command.ofLine line).display = Command.ofLine line := by
  have hparts := parts_ofLine hshell hblank
  have hdisplay : words (Command.ofLine line).display.toList = words line.toList := by
    rw [toList_display, hparts]
    exact Text.fields_intercalate (by decide) fun w hw => Text.mem_fields hw
  have hplain : needsShell (trim (Command.ofLine line).display.toList) = false := by
    refine Bool.eq_false_iff.mpr fun h => ?_
    obtain ⟨x, hx, hmeans⟩ := needsShell_iff.mp h
    have hx := Text.mem_of_mem_trim hx
    rw [toList_display, hparts] at hx
    rcases mem_intercalate hx with rfl | ⟨w, hw, hxw⟩
    · exact absurd hmeans (by decide)
    · rw [← Text.words_trim] at hw
      have hneeds := needsShell_iff.mpr ⟨x, Text.mem_of_mem_words hw hxw, hmeans⟩
      simp [hshell] at hneeds
  rw [ofLine_eq (Command.ofLine line).display, if_neg (by simp [hplain]), hdisplay, ← hparts,
    ofWords_parts]

/-! ## 3. Splitting -/

/-- **What a line stands for.** If the trimmed line holds a character that means something to
the shell, it stands for the shell and that line. Or else the program and its arguments are the
runs of the line without white space, the program being empty for a blank line and for no other;
none of them holds white space and no argument is empty; and the command as users see it stands
for itself. -/
theorem ofLine_splits (line : String) :
    let core := trim line.toList
    let c := Command.ofLine line
    Text.IsTrimmed line.toList core
    ∧ ((∃ x ∈ core, x ∈ shellChars) → c = ⟨"sh", ["-c", String.ofList core]⟩)
    ∧ ((∀ x ∈ core, x ∉ shellChars) →
      (isBlankText line = true → c = ⟨"", []⟩)
      ∧ (isBlankText line = false → Runs isBlank line.toList c.parts)
      ∧ (c.program = "" ↔ isBlankText line = true)
      ∧ (∀ arg ∈ c.args, arg ≠ "")
      ∧ (∀ part ∈ c.parts, ∀ x ∈ part, isBlank x = false)
      ∧ Command.ofLine c.display = c) := by
  intro core c
  refine ⟨Text.isTrimmed_trim _, fun h => ?_, fun h => ?_⟩
  · exact (ofLine_eq line).trans (if_pos (needsShell_iff.mpr h))
  have hshell : needsShell core = false := by
    refine Bool.eq_false_iff.mpr fun hneeds => ?_
    obtain ⟨x, hx, hmeans⟩ := needsShell_iff.mp hneeds
    exact h x hx hmeans
  cases hblank : isBlankText line with
  | true =>
    have hnone : words line.toList = [] :=
      Text.words_eq_nil_iff.mpr (by simpa [isBlankText] using hblank)
    have hempty : c = ⟨"", []⟩ := by
      refine (ofLine_eq line).trans ?_
      rw [if_neg (Bool.eq_false_iff.mp hshell), hnone]
      rfl
    rw [hempty]
    exact ⟨fun _ => rfl, fun h => absurd h (by decide), by simp, by simp, by simp [Command.parts],
      by decide⟩
  | false =>
    have hparts : c.parts = words line.toList := parts_ofLine hshell hblank
    have hpart {part : List Char} (hpart : part ∈ c.parts) : part ∈ words line.toList :=
      hparts ▸ hpart
    refine ⟨fun h => absurd h (by decide), fun _ => Text.fields_eq_iff.mp hparts.symm, ?_,
      fun arg harg => ?_, fun part h => Text.not_isBlank_of_mem_words (hpart h),
      ofLine_display hshell hblank⟩
    · refine iff_of_false (fun hempty => ?_) Bool.false_ne_true
      have hprogram := program_ofLine_not_blank hblank
      rw [show (Command.ofLine line).program = "" from hempty] at hprogram
      exact absurd hprogram (by decide)
    · rintro rfl
      have hempty : [] ∈ c.parts := List.mem_map.mpr ⟨"", List.mem_cons_of_mem _ harg, rfl⟩
      exact Text.ne_nil_of_mem_words (hpart hempty) rfl

/-- White space of several kinds, line feeds at the ends among it, parts three words; a line
feed between two words sends them to the shell. -/
theorem ofLine_splits_at_line_feed :
    let line := "\n\u00a0sleep \u3000 1\t-v \n"
    Runs isBlank line.toList ["sleep".toList, "1".toList, "-v".toList]
      ∧ (Command.ofLine line).display = "sleep 1 -v"
      ∧ Command.ofLine "sleep 1 -v" = ⟨"sleep", ["1", "-v"]⟩
      ∧ Command.ofLine " sleep\n1 " = ⟨"sh", ["-c", "sleep\n1"]⟩ := by
  intro line
  have hshell : needsShell (trim line.toList) = false := by decide +kernel
  have hnothing : ∀ x ∈ trim line.toList, x ∉ shellChars := fun x hx hmeans => by
    simpa [hshell] using needsShell_iff.mpr ⟨x, hx, hmeans⟩
  obtain ⟨-, -, hplain⟩ := ofLine_splits line
  obtain ⟨-, hruns, -, -, -, hagain⟩ := hplain hnothing
  obtain ⟨-, hmeant, -⟩ := ofLine_splits " sleep\n1 "
  have hcommand : Command.ofLine line = ⟨"sleep", ["1", "-v"]⟩ := by decide +kernel
  have hdisplay : (Command.ofLine line).display = "sleep 1 -v" := by decide +kernel
  refine ⟨?_, hdisplay, ?_, ?_⟩
  · have hparts := hruns (by decide +kernel)
    rwa [hcommand] at hparts
  · rw [hdisplay, hcommand] at hagain
    exact hagain
  · rw [hmeant ⟨'\n', by decide +kernel, by decide⟩]
    decide +kernel

end Overseer.Launch
