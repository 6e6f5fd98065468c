/-
Overseer.Proofs.Text.Pieces — cutting what was put together.

Two texts with a separator between them are cut into the pieces of the one and then those
of the other (`pieces_append_cons`), and so are their fields. So words that were joined by
a separator are found again, if none is empty or holds one (`fields_intercalate`).

What the fields of any text are is said by `Runs`, which takes a text apart and does not
mention the cutting: it is at the fields, and only at them (`fields_eq_iff`).
-/
import Overseer.Text.Pieces

namespace Overseer.Text

variable {sep : Char → Bool} {s : Char}

/-! ## 1. Pieces and fields -/

theorem pieces_of_forall_not {word : List Char} (h : ∀ c ∈ word, sep c = false) :
    pieces sep word = [word] := by
  induction word with
  | nil => rfl
  | cons c cs ih =>
    obtain ⟨hc, hcs⟩ := List.forall_mem_cons.mp h
    simp [pieces, hc, ih hcs, consFirst]

/-- A separator ends the pieces on its left and begins those on its right. -/
theorem pieces_append_cons (hs : sep s = true) (left right : List Char) :
    pieces sep (left ++ s :: right) = pieces sep left ++ pieces sep right := by
  induction left with
  | nil => simp [pieces, hs]
  | cons c cs ih =>
    rw [List.cons_append, pieces, ih, pieces]
    cases hc : sep c with
    | true => rfl
    | false =>
      obtain ⟨first, rest, hpieces⟩ := List.exists_cons_of_ne_nil (pieces_ne_nil sep cs)
      rw [hpieces]
      rfl

theorem fields_append_cons (hs : sep s = true) (left right : List Char) :
    fields sep (left ++ s :: right) = fields sep left ++ fields sep right := by
  rw [fields, pieces_append_cons hs, List.filter_append]
  rfl

@[simp] theorem fields_nil : fields sep [] = [] := rfl

/-- Fields are not empty and hold no separator. -/
theorem mem_fields {word cs : List Char} (h : word ∈ fields sep cs) :
    word ≠ [] ∧ ∀ c ∈ word, sep c = false := by
  obtain ⟨hpiece, hsome⟩ := List.mem_filter.mp h
  exact ⟨by simpa using hsome, not_sep_of_mem_pieces sep cs word hpiece⟩

theorem fields_of_forall_not {word : List Char} (hsome : word ≠ [])
    (h : ∀ c ∈ word, sep c = false) : fields sep word = [word] := by
  simp [fields, pieces_of_forall_not h, hsome]

/-- Words that were joined are found again. -/
theorem fields_intercalate (hs : sep s = true) {words : List (List Char)}
    (h : ∀ word ∈ words, word ≠ [] ∧ ∀ c ∈ word, sep c = false) :
    fields sep ([s].intercalate words) = words := by
  induction words with
  | nil => rfl
  | cons word rest ih =>
    obtain ⟨⟨hsome, hword⟩, hrest⟩ := List.forall_mem_cons.mp h
    cases rest with
    | nil => simpa using fields_of_forall_not hsome hword
    | cons next rest =>
      rw [List.intercalate_cons_cons, List.append_assoc, List.singleton_append,
        fields_append_cons hs, fields_of_forall_not hsome hword, ih hrest]
      rfl

/-! ## 2. Runs -/

/-- The words are the runs of the text that hold no separator, in order. Before, between and
behind them there is nothing but separators, and where a run ends a separator stands or the
text ends. -/
inductive Runs (sep : Char → Bool) : List Char → List (List Char) → Prop where
  | none {gap : List Char} (hgap : ∀ c ∈ gap, sep c = true) : Runs sep gap []
  | run {gap word rest : List Char} {words : List (List Char)} (hgap : ∀ c ∈ gap, sep c = true)
      (hsome : word ≠ []) (hword : ∀ c ∈ word, sep c = false)
      (hend : ∀ c ∈ rest.head?, sep c = true) (hrest : Runs sep rest words) :
      Runs sep (gap ++ word ++ rest) (word :: words)

variable {gap word rest cs : List Char} {words : List (List Char)}

theorem fields_append_of_gap (hgap : ∀ c ∈ gap, sep c = true) (cs : List Char) :
    fields sep (gap ++ cs) = fields sep cs := by
  induction gap with
  | nil => rfl
  | cons c gap ih =>
    obtain ⟨hc, hgap⟩ := List.forall_mem_cons.mp hgap
    exact (fields_append_cons hc [] (gap ++ cs)).trans (ih hgap)

theorem fields_append_gap (hgap : ∀ c ∈ gap, sep c = true) (cs : List Char) :
    fields sep (cs ++ gap) = fields sep cs := by
  cases gap with
  | nil => rw [List.append_nil]
  | cons c gap =>
    obtain ⟨hc, hgap⟩ := List.forall_mem_cons.mp hgap
    have hnone : fields sep gap = [] := by simpa using fields_append_of_gap hgap []
    rw [fields_append_cons hc, hnone, List.append_nil]

/-- A run is a field, and the next ones are those of what follows. -/
theorem fields_append_of_end (hsome : word ≠ []) (hword : ∀ c ∈ word, sep c = false)
    (hend : ∀ c ∈ rest.head?, sep c = true) :
    fields sep (word ++ rest) = word :: fields sep rest := by
  cases rest with
  | nil => simpa using fields_of_forall_not hsome hword
  | cons c rest =>
    have hc : sep c = true := hend c rfl
    have hrest : fields sep (c :: rest) = fields sep rest := fields_append_cons hc [] rest
    rw [fields_append_cons hc, fields_of_forall_not hsome hword, hrest]
    rfl

theorem Runs.fields_eq (h : Runs sep cs words) : fields sep cs = words := by
  induction h with
  | none hgap => simpa using fields_append_of_gap hgap []
  | run hgap hsome hword hend _ ih =>
    rw [List.append_assoc, fields_append_of_gap hgap, fields_append_of_end hsome hword hend, ih]

theorem Runs.cons_sep {c : Char} (hc : sep c = true) (h : Runs sep cs words) :
    Runs sep (c :: cs) words := by
  cases h with
  | none hgap => exact .none (List.forall_mem_cons.mpr ⟨hc, hgap⟩)
  | @run gap _ _ _ hgap hsome hword hend hrest =>
    have hlonger : ∀ d ∈ c :: gap, sep d = true := List.forall_mem_cons.mpr ⟨hc, hgap⟩
    exact .run hlonger hsome hword hend hrest

/-- A run at the beginning of the text. -/
theorem Runs.append_word (hsome : word ≠ []) (hword : ∀ c ∈ word, sep c = false)
    (hend : ∀ c ∈ rest.head?, sep c = true) (hrest : Runs sep rest words) :
    Runs sep (word ++ rest) (word :: words) := by
  have hgap : ∀ c ∈ ([] : List Char), sep c = true := by simp
  exact .run hgap hsome hword hend hrest

/-- A character that is no separator makes the first run longer, or is a run of its own. -/
theorem Runs.exists_cons_word {c : Char} (hc : sep c = false) (h : Runs sep cs words) :
    ∃ longer, Runs sep (c :: cs) longer := by
  have halone {ds : List Char} {later : List (List Char)} (hend : ∀ d ∈ ds.head?, sep d = true)
      (hds : Runs sep ds later) : Runs sep ([c] ++ ds) ([c] :: later) :=
    .append_word (by simp) (by simpa using hc) hend hds
  cases h with
  | none hgap =>
    refine ⟨_, halone (fun d hd => hgap d ?_) (.none hgap)⟩
    exact List.mem_of_mem_head? hd
  | @run gap word rest words hgap hsome hword hend hrest =>
    cases gap with
    | nil =>
      have hlonger : ∀ d ∈ c :: word, sep d = false := List.forall_mem_cons.mpr ⟨hc, hword⟩
      exact ⟨_, .append_word (by simp) hlonger hend hrest⟩
    | cons d ds =>
      have hd : sep d = true := hgap d List.mem_cons_self
      exact ⟨_, halone (by simpa using hd) (.run hgap hsome hword hend hrest)⟩

theorem exists_runs (sep : Char → Bool) (cs : List Char) : ∃ words, Runs sep cs words := by
  induction cs with
  | nil => exact ⟨[], .none (by simp)⟩
  | cons c cs ih =>
    obtain ⟨words, h⟩ := ih
    cases hc : sep c with
    | true => exact ⟨words, h.cons_sep hc⟩
    | false => exact h.exists_cons_word hc

/-- **What the fields of a text are**: its runs, and a text has no other. -/
theorem fields_eq_iff : fields sep cs = words ↔ Runs sep cs words := by
  refine ⟨?_, Runs.fields_eq⟩
  rintro rfl
  obtain ⟨words, h⟩ := exists_runs sep cs
  rwa [h.fields_eq]

end Overseer.Text
