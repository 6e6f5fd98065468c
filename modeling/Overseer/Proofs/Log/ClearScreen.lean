/-
Overseer.Proofs.Log.ClearScreen — what is taken out of a line, and what is left.

A sequence that clears the screen begins with the escape character, holds no other
one, and is not the beginning of another sequence. So two sequences in a text never
overlap, and there is one way only to cut a text at its sequences: `strip_cuts` says
that this cut exists, that it is the only one, and that what is kept is what stands
between the sequences, in order.

What is kept may hold a sequence all the same. The text is read once, and an escape
that is unfinished when a sequence interrupts it is finished by what follows the
sequence once that is gone. `strip_clears_iff` says that nothing else can happen: a
sequence is left exactly where one was interrupted by whole ones (`Interrupted`), and
only then does stripping again change anything. `strip_leaves_interrupted` is such a
line.
-/
import Mathlib.Data.List.Infix
import Overseer.Log.ClearScreen

namespace Overseer.Log

/-! ## 1. The sequences -/

/-- A sequence begins with the escape character and holds no other one. -/
theorem sequence_shape {s : List Char} (h : s ∈ clearSequences) :
    ∃ t, s = esc :: t ∧ esc ∉ t := by
  have hall : ∀ s ∈ clearSequences, s = esc :: s.tail ∧ esc ∉ s.tail := by decide
  exact ⟨s.tail, hall s h⟩

/-- No sequence is the beginning of another. -/
theorem sequence_eq_of_le {s s' : List Char} (h : s ∈ clearSequences)
    (h' : s' ∈ clearSequences) (hs : s <+: s') : s = s' := by
  have hall : ∀ s ∈ clearSequences, ∀ s' ∈ clearSequences, s <+: s' → s = s' := by decide
  exact hall s h s' h' hs

/-- A text begins with one sequence at most. -/
theorem sequence_unique {s s' cs : List Char} (h : s ∈ clearSequences)
    (h' : s' ∈ clearSequences) (hs : s <+: cs) (hs' : s' <+: cs) : s = s' := by
  rcases List.prefix_or_prefix_of_prefix hs hs' with hle | hle
  · exact sequence_eq_of_le h h' hle
  · exact (sequence_eq_of_le h' h hle).symm

theorem clearSequence?_eq_some {cs s : List Char} :
    clearSequence? cs = some s ↔ s ∈ clearSequences ∧ s <+: cs := by
  have hsound : ∀ s, clearSequence? cs = some s → s ∈ clearSequences ∧ s <+: cs := by
    intro s hs
    rw [clearSequence?, List.find?_eq_some_iff_append] at hs
    obtain ⟨hbegins, before, after, hbetween, -⟩ := hs
    exact ⟨hbetween ▸ by simp, List.isPrefixOf_iff_prefix.mp hbegins⟩
  refine ⟨hsound s, fun ⟨hs, hbegins⟩ => ?_⟩
  have hsome : (clearSequence? cs).isSome = true :=
    List.find?_isSome.mpr ⟨s, hs, List.isPrefixOf_iff_prefix.mpr hbegins⟩
  obtain ⟨s', hs'⟩ := Option.isSome_iff_exists.mp hsome
  obtain ⟨hmem, hbegins'⟩ := hsound s' hs'
  rw [sequence_unique hs hmem hbegins hbegins']
  exact hs'

theorem clearSequence?_eq_none {cs : List Char} :
    clearSequence? cs = none ↔ ∀ s ∈ clearSequences, ¬ s <+: cs := by
  simp [clearSequence?]

/-- A sequence that begins before an escape ends before it. -/
theorem prefix_of_prefix_append_escape {s u z : List Char} (h : s ∈ clearSequences)
    (hu : u ≠ []) (hs : s <+: u ++ esc :: z) : s <+: u := by
  rcases List.prefix_or_prefix_of_prefix hs (List.prefix_append u (esc :: z)) with hle | hle
  · exact hle
  · obtain ⟨t, rfl, hescape⟩ := sequence_shape h
    obtain ⟨v, hv⟩ := hle
    obtain ⟨c, u, rfl⟩ := List.exists_cons_of_ne_nil hu
    obtain ⟨rfl, ht⟩ := List.cons.inj hv
    cases v with
    | nil => exact ⟨[], by simpa using ht.symm⟩
    | cons d v =>
      rw [← hv, List.prefix_append_right_inj] at hs
      have hd : d = esc := (List.cons_prefix_cons.mp hs).1
      exact absurd (by rw [← ht, hd]; simp) hescape

/-! ## 2. Reading a text -/

theorem stripFrom_drop (n : Nat) (cs : List Char) : stripFrom n cs = stripFrom 0 (cs.drop n) := by
  induction n generalizing cs with
  | zero => rfl
  | succ n ih =>
    cases cs with
    | nil => rfl
    | cons c cs => exact ih cs

/-- A sequence at the beginning is taken out. -/
theorem strip_sequence {s : List Char} (h : s ∈ clearSequences) (cs : List Char) :
    stripFrom 0 (s ++ cs) = stripFrom 0 cs := by
  have hfound := clearSequence?_eq_some.mpr ⟨h, List.prefix_append s cs⟩
  obtain ⟨t, rfl, -⟩ := sequence_shape h
  rw [List.cons_append] at hfound ⊢
  have hskip : stripFrom t.length (t ++ cs) = stripFrom 0 cs := by
    rw [stripFrom_drop, List.drop_left]
  rw [stripFrom, hfound]
  exact hskip

/-- A character with which no sequence begins is kept. -/
theorem strip_char {c : Char} {cs : List Char} (h : clearSequence? (c :: cs) = none) :
    stripFrom 0 (c :: cs) = c :: stripFrom 0 cs := by
  rw [stripFrom, h]

/-- A text is read sequence by sequence, and otherwise character by character. -/
theorem reading_induction {motive : List Char → Prop} (nil : motive [])
    (sequence : ∀ s ∈ clearSequences, ∀ cs, motive cs → motive (s ++ cs))
    (char : ∀ c cs, clearSequence? (c :: cs) = none → motive cs → motive (c :: cs))
    (cs : List Char) : motive cs := by
  induction hlength : cs.length using Nat.strongRecOn generalizing cs with
  | ind n ih =>
    cases cs with
    | nil => exact nil
    | cons c cs =>
      subst hlength
      rcases hfound : clearSequence? (c :: cs) with _ | s
      · exact char c cs hfound (ih cs.length (by simp) cs rfl)
      · obtain ⟨hs, rest, hrest⟩ := clearSequence?_eq_some.mp hfound
        obtain ⟨t, rfl, -⟩ := sequence_shape hs
        have hshorter : rest.length < (c :: cs).length := by
          rw [← hrest, List.length_append, List.length_cons]
          omega
        rw [← hrest]
        exact sequence _ hs rest (ih rest.length hshorter rest rfl)

/-! ## 3. The cut of a text -/

/-- A sequence occurs in the text. -/
def Clears (cs : List Char) : Prop := ∃ s ∈ clearSequences, s <:+: cs

theorem not_clears_nil : ¬ Clears [] := by
  rintro ⟨s, hs, hin⟩
  obtain ⟨t, rfl, -⟩ := sequence_shape hs
  cases List.eq_nil_of_infix_nil hin

theorem clears_cons {c : Char} {cs : List Char} :
    Clears (c :: cs) ↔ (clearSequence? (c :: cs)).isSome = true ∨ Clears cs := by
  simp only [Clears, List.infix_cons_iff, and_or_left, exists_or, Option.isSome_iff_exists,
    clearSequence?_eq_some]

theorem Clears.of_infix {cs cs' : List Char} (h : Clears cs) (hcs : cs <:+: cs') : Clears cs' := by
  obtain ⟨s, hs, hin⟩ := h
  exact ⟨s, hs, hin.trans hcs⟩

/-- A text cut at sequences: what stands before the first of them, and each with what
stands behind it. -/
structure Cut where
  head : List Char
  rest : List (List Char × List Char)

namespace Cut

/-- The text that was cut. -/
def whole (d : Cut) : List Char := d.head ++ d.rest.flatMap fun piece => piece.1 ++ piece.2

/-- The text without what it was cut at. -/
def kept (d : Cut) : List Char := d.head ++ d.rest.flatMap fun piece => piece.2

/-- The text was cut at sequences, and at all of them. -/
structure Complete (d : Cut) : Prop where
  sequences : ∀ piece ∈ d.rest, piece.1 ∈ clearSequences
  head : ¬ Clears d.head
  behind : ∀ piece ∈ d.rest, ¬ Clears piece.2

/-- Cut at one more sequence, in front of all. -/
def afterSequence (s : List Char) (d : Cut) : Cut := ⟨[], (s, d.head) :: d.rest⟩

/-- With one more character in front of all. -/
def afterChar (c : Char) (d : Cut) : Cut := ⟨c :: d.head, d.rest⟩

variable {d : Cut}

theorem whole_afterSequence (s : List Char) : (d.afterSequence s).whole = s ++ d.whole := by
  simp [whole, afterSequence]

theorem kept_afterSequence (s : List Char) : (d.afterSequence s).kept = d.kept := by
  simp [kept, afterSequence]

theorem Complete.afterSequence (h : d.Complete) {s : List Char} (hs : s ∈ clearSequences) :
    (d.afterSequence s).Complete where
  sequences := List.forall_mem_cons.mpr ⟨hs, h.sequences⟩
  head := not_clears_nil
  behind := List.forall_mem_cons.mpr ⟨h.head, h.behind⟩

theorem Complete.afterChar (h : d.Complete) {c : Char}
    (hc : clearSequence? (c :: d.whole) = none) : (d.afterChar c).Complete where
  sequences := h.sequences
  head := by
    rw [Cut.afterChar, clears_cons, not_or, Bool.not_eq_true, Option.isSome_eq_false_iff,
      Option.isNone_iff_eq_none]
    refine ⟨clearSequence?_eq_none.mpr fun s hs hbegins => ?_, h.head⟩
    refine clearSequence?_eq_none.mp hc s hs (hbegins.trans ?_)
    exact (List.prefix_append (c :: d.head) _)
  behind := h.behind

/-- What follows the head of a cut begins with an escape, if anything does. -/
theorem Complete.escape (h : d.Complete) :
    d.whole = d.head ∨ ∃ z, d.whole = d.head ++ esc :: z := by
  obtain ⟨head, rest⟩ := d
  cases rest with
  | nil => exact Or.inl (List.append_nil head)
  | cons piece rest =>
    obtain ⟨t, ht, -⟩ := sequence_shape (h.sequences piece List.mem_cons_self)
    exact Or.inr ⟨t ++ piece.2 ++ rest.flatMap fun piece => piece.1 ++ piece.2, by
      simp [whole, ht]⟩

/-- A cut of a text that begins with a sequence is a cut at this sequence. -/
theorem Complete.eq_afterSequence (h : d.Complete) {s cs : List Char} (hs : s ∈ clearSequences)
    (hwhole : d.whole = s ++ cs) :
    ∃ e : Cut, d = e.afterSequence s ∧ e.Complete ∧ e.whole = cs := by
  have hbegins : s <+: d.whole := hwhole ▸ List.prefix_append s cs
  have hhead : d.head = [] := by
    by_contra hne
    refine h.head ⟨s, hs, List.IsPrefix.isInfix ?_⟩
    rcases h.escape with hnone | ⟨z, hz⟩
    · exact hnone ▸ hbegins
    · exact prefix_of_prefix_append_escape hs hne (hz ▸ hbegins)
  obtain ⟨head, rest⟩ := d
  obtain rfl : head = [] := hhead
  cases rest with
  | nil =>
    obtain ⟨t, rfl, -⟩ := sequence_shape hs
    cases hwhole
  | cons piece rest =>
    obtain ⟨s', u⟩ := piece
    obtain ⟨hs', hsequences⟩ := List.forall_mem_cons.mp h.sequences
    obtain ⟨hu, hbehind⟩ := List.forall_mem_cons.mp h.behind
    have hwhole' : s' ++ (Cut.mk u rest).whole = s ++ cs := by
      simpa [whole] using hwhole
    have hsame : s' = s := sequence_unique hs' hs (List.prefix_append s' _)
      (hwhole' ▸ List.prefix_append s cs)
    subst hsame
    exact ⟨⟨u, rest⟩, rfl, ⟨hsequences, hu, hbehind⟩, List.append_cancel_left hwhole'⟩

/-- A cut of a text that begins with no sequence leaves its first character. -/
theorem Complete.eq_afterChar (h : d.Complete) {c : Char} {cs : List Char}
    (hc : clearSequence? (c :: cs) = none) (hwhole : d.whole = c :: cs) :
    ∃ e : Cut, d = e.afterChar c ∧ e.Complete ∧ e.whole = cs := by
  obtain ⟨head, rest⟩ := d
  cases head with
  | nil =>
    cases rest with
    | nil => cases hwhole
    | cons piece rest =>
      refine absurd ?_ (clearSequence?_eq_none.mp hc piece.1 (h.sequences piece List.mem_cons_self))
      exact ⟨piece.2 ++ rest.flatMap fun piece => piece.1 ++ piece.2, by simpa [whole] using hwhole⟩
  | cons c' head =>
    obtain ⟨rfl, hrest⟩ := List.cons.inj hwhole
    have hhead : ¬ Clears head := fun hclears =>
      h.head (hclears.of_infix (List.suffix_cons c' head).isInfix)
    exact ⟨⟨head, rest⟩, rfl, ⟨h.sequences, hhead, h.behind⟩, hrest⟩

end Cut

/-- A text has one complete cut, and stripping keeps what the cut keeps. -/
theorem exists_cut (cs : List Char) :
    ∃ d : Cut, d.Complete ∧ d.whole = cs ∧ stripFrom 0 cs = d.kept
      ∧ ∀ d' : Cut, d'.Complete → d'.whole = cs → d' = d := by
  induction cs using reading_induction with
  | nil =>
    refine ⟨⟨[], []⟩, ⟨by simp, not_clears_nil, by simp⟩, rfl, rfl, fun d' hd' hwhole => ?_⟩
    obtain ⟨head, rest⟩ := d'
    obtain ⟨rfl, hrest⟩ := List.append_eq_nil_iff.mp hwhole
    cases rest with
    | nil => rfl
    | cons piece rest =>
      obtain ⟨t, ht, -⟩ := sequence_shape (hd'.sequences piece List.mem_cons_self)
      simp [ht] at hrest
  | sequence s hs cs ih =>
    obtain ⟨d, hd, hwhole, hkept, hunique⟩ := ih
    refine ⟨d.afterSequence s, hd.afterSequence hs, ?_, ?_, fun d' hd' hwhole' => ?_⟩
    · rw [Cut.whole_afterSequence, hwhole]
    · rw [strip_sequence hs, hkept, Cut.kept_afterSequence]
    · obtain ⟨e, rfl, he, hewhole⟩ := hd'.eq_afterSequence hs hwhole'
      rw [hunique e he hewhole]
  | char c cs hc ih =>
    obtain ⟨d, hd, hwhole, hkept, hunique⟩ := ih
    refine ⟨d.afterChar c, hd.afterChar (hwhole ▸ hc), congrArg (c :: ·) hwhole, ?_,
      fun d' hd' hwhole' => ?_⟩
    · rw [strip_char hc, hkept]
      rfl
    · obtain ⟨e, rfl, he, hewhole⟩ := hd'.eq_afterChar hc hwhole'
      rw [hunique e he hewhole]

theorem length_strip_le (cs : List Char) : (stripFrom 0 cs).length ≤ cs.length := by
  induction cs using reading_induction with
  | nil => exact Nat.le_refl 0
  | sequence s hs cs ih =>
    rw [strip_sequence hs, List.length_append]
    omega
  | char c cs hc ih =>
    rw [strip_char hc]
    exact Nat.succ_le_succ ih

/-- A text stays as it is if it holds no sequence, and only then. -/
theorem strip_eq_self_iff (cs : List Char) : stripFrom 0 cs = cs ↔ ¬ Clears cs := by
  induction cs using reading_induction with
  | nil => exact ⟨fun _ => not_clears_nil, fun _ => rfl⟩
  | sequence s hs cs ih =>
    have hclears : Clears (s ++ cs) := ⟨s, hs, (List.prefix_append s cs).isInfix⟩
    refine ⟨fun h => ?_, fun h => absurd hclears h⟩
    obtain ⟨t, rfl, -⟩ := sequence_shape hs
    have hlength := length_strip_le cs
    rw [← strip_sequence hs, h, List.length_append, List.length_cons] at hlength
    omega
  | char c cs hc ih =>
    rw [strip_char hc, List.cons_inj_right, ih, clears_cons, hc]
    simp

theorem toList_stripClearScreen (line : String) :
    (stripClearScreen line).toList = stripFrom 0 line.toList :=
  String.toList_ofList

theorem stripClearScreen_eq_self_iff (line : String) :
    stripClearScreen line = line ↔ ¬ Clears line.toList := by
  rw [← String.toList_inj, toList_stripClearScreen, strip_eq_self_iff]

/-- **What is taken out of a line.** There is exactly one way to cut a line at sequences
that clear the screen so that none is left in what stands between them, and what is kept
of the line is what stands between them, in order. So a line stays as it is exactly if it
holds no sequence. -/
theorem strip_cuts (line : String) :
    (∃ d : Cut, d.Complete ∧ d.whole = line.toList ∧ (stripClearScreen line).toList = d.kept
      ∧ ∀ d' : Cut, d'.Complete → d'.whole = line.toList → d' = d)
      ∧ (stripClearScreen line = line ↔ ¬ Clears line.toList) := by
  rw [toList_stripClearScreen]
  exact ⟨exists_cut line.toList, stripClearScreen_eq_self_iff line⟩

/-! ## 4. What is left -/

/-- The second text is the first with whole sequences put in between, in front of any of
its characters. -/
inductive Laced : List Char → List Char → Prop where
  | nil : Laced [] []
  | keep {t u : List Char} (c : Char) : Laced t u → Laced (c :: t) (c :: u)
  | sequence {c : Char} {s t u : List Char} : s ∈ clearSequences → Laced (c :: t) u →
      Laced (c :: t) (s ++ u)

/-- Somewhere in the text a sequence is interrupted by whole ones behind its escape. -/
def Interrupted (cs : List Char) : Prop :=
  ∃ c t u, c :: t ∈ clearSequences ∧ Laced t u ∧ u ≠ t ∧ c :: u <:+: cs

/-- What is kept of a text was laced with sequences in the text. -/
theorem exists_laced (cs : List Char) : ∀ t, t <+: stripFrom 0 cs → ∃ u, Laced t u ∧ u <+: cs := by
  induction cs using reading_induction with
  | nil =>
    intro t ht
    obtain rfl := List.prefix_nil.mp ht
    exact ⟨[], .nil, List.nil_prefix⟩
  | sequence s hs cs ih =>
    intro t ht
    rw [strip_sequence hs] at ht
    cases t with
    | nil => exact ⟨[], .nil, List.nil_prefix⟩
    | cons c t =>
      obtain ⟨u, hu, hbegins⟩ := ih (c :: t) ht
      exact ⟨s ++ u, .sequence hs hu, (List.prefix_append_right_inj s).mpr hbegins⟩
  | char c cs hc ih =>
    intro t ht
    rw [strip_char hc] at ht
    cases t with
    | nil => exact ⟨[], .nil, List.nil_prefix⟩
    | cons d t =>
      obtain ⟨rfl, hrest⟩ := List.cons_prefix_cons.mp ht
      obtain ⟨u, hu, hbegins⟩ := ih t hrest
      exact ⟨d :: u, .keep d hu, List.cons_prefix_cons.mpr ⟨rfl, hbegins⟩⟩

/-- A sequence that is left was interrupted. -/
theorem interrupted_of_clears (cs : List Char) (h : Clears (stripFrom 0 cs)) : Interrupted cs := by
  induction cs using reading_induction with
  | nil => exact absurd h not_clears_nil
  | sequence s hs cs ih =>
    rw [strip_sequence hs] at h
    obtain ⟨c, t, u, ht, hu, hne, hin⟩ := ih h
    exact ⟨c, t, u, ht, hu, hne, hin.trans (List.suffix_append s cs).isInfix⟩
  | char c cs hc ih =>
    rw [strip_char hc, clears_cons] at h
    rcases h with hsome | h
    · obtain ⟨s, hfound⟩ := Option.isSome_iff_exists.mp hsome
      obtain ⟨hs, hbegins⟩ := clearSequence?_eq_some.mp hfound
      obtain ⟨t, rfl, -⟩ := sequence_shape hs
      obtain ⟨rfl, ht⟩ := List.cons_prefix_cons.mp hbegins
      obtain ⟨u, hu, hlaced⟩ := exists_laced cs t ht
      have hwhole : esc :: u <+: esc :: cs := List.cons_prefix_cons.mpr ⟨rfl, hlaced⟩
      refine ⟨esc, t, u, hs, hu, ?_, hwhole.isInfix⟩
      rintro rfl
      exact clearSequence?_eq_none.mp hc _ hs hwhole
    · obtain ⟨d, t, u, ht, hu, hne, hin⟩ := ih h
      exact ⟨d, t, u, ht, hu, hne, hin.trans (List.suffix_cons c cs).isInfix⟩

/-- What stands before an escape is read without looking at the escape. -/
theorem strip_append_escape (cs z : List Char) :
    stripFrom 0 (cs ++ esc :: z) = stripFrom 0 cs ++ stripFrom 0 (esc :: z) := by
  induction cs using reading_induction with
  | nil => rfl
  | sequence s hs cs ih => rw [List.append_assoc, strip_sequence hs, strip_sequence hs, ih]
  | char c cs hc ih =>
    have hc' : clearSequence? (c :: (cs ++ esc :: z)) = none := by
      refine clearSequence?_eq_none.mpr fun s hs hbegins => ?_
      exact clearSequence?_eq_none.mp hc s hs
        (prefix_of_prefix_append_escape hs (List.cons_ne_nil c cs) hbegins)
    rw [strip_char hc, List.cons_append, strip_char hc', ih, List.cons_append]

/-- The sequences between characters that are no escapes are taken out. -/
theorem Laced.strip {t u : List Char} (h : Laced t u) (ht : esc ∉ t) (z : List Char) :
    stripFrom 0 (u ++ z) = t ++ stripFrom 0 z := by
  induction h with
  | nil => rfl
  | @keep t u c h ih =>
    rw [List.mem_cons, not_or] at ht
    have hc : clearSequence? (c :: (u ++ z)) = none := by
      refine clearSequence?_eq_none.mpr fun s hs hbegins => ?_
      obtain ⟨t, rfl, -⟩ := sequence_shape hs
      exact ht.1 (List.cons_prefix_cons.mp hbegins).1
    rw [List.cons_append, strip_char hc, ih ht.2, List.cons_append]
  | sequence hs h ih => rw [List.append_assoc, strip_sequence hs, ih ht]

/-- A text that is laced with sequences is cut short by the first of them. -/
theorem Laced.eq_or_cut_short {t u : List Char} (h : Laced t u) :
    u = t ∨ ∃ done left z, t = done ++ left ∧ left ≠ [] ∧ u = done ++ esc :: z := by
  induction h with
  | nil => exact Or.inl rfl
  | keep c h ih =>
    rcases ih with rfl | ⟨done, left, z, rfl, hleft, rfl⟩
    · exact Or.inl rfl
    · exact Or.inr ⟨c :: done, left, z, rfl, hleft, rfl⟩
  | @sequence c s t u hs h ih =>
    obtain ⟨tail, rfl, -⟩ := sequence_shape hs
    exact Or.inr ⟨[], c :: t, tail ++ u, rfl, List.cons_ne_nil c t, rfl⟩

/-- A sequence that was interrupted is left. -/
theorem clears_of_interrupted {cs : List Char} (h : Interrupted cs) :
    Clears (stripFrom 0 cs) := by
  obtain ⟨c, t, u, ht, hu, hne, before, after, rfl⟩ := h
  obtain ⟨t, ⟨⟩, hescape⟩ := sequence_shape ht
  have hopen : clearSequence? (esc :: (u ++ after)) = none := by
    obtain ⟨done, left, z, rfl, hleft, rfl⟩ := hu.eq_or_cut_short.resolve_left hne
    refine clearSequence?_eq_none.mpr fun s hs hbegins => ?_
    rw [List.append_assoc, ← List.cons_append, List.cons_append] at hbegins
    have hshort := prefix_of_prefix_append_escape hs (List.cons_ne_nil esc done) hbegins
    have hlong : esc :: done <+: esc :: (done ++ left) := List.prefix_append (esc :: done) left
    obtain rfl := sequence_eq_of_le hs ht (hshort.trans hlong)
    have hlength := hshort.length_le
    have hpos := List.length_pos_iff.mpr hleft
    simp only [List.length_cons, List.length_append] at hlength
    omega
  have hread : stripFrom 0 (before ++ esc :: u ++ after)
      = stripFrom 0 before ++ (esc :: t) ++ stripFrom 0 after := by
    rw [List.append_assoc, List.cons_append, strip_append_escape, strip_char hopen,
      hu.strip hescape, List.append_assoc, List.cons_append]
  exact ⟨esc :: t, ht, stripFrom 0 before, stripFrom 0 after, hread.symm⟩

theorem strip_clears_iff (cs : List Char) : Clears (stripFrom 0 cs) ↔ Interrupted cs :=
  ⟨interrupted_of_clears cs, clears_of_interrupted⟩

/-- **What is left of a line** clears the screen exactly if a sequence in the line is
interrupted by whole ones, and exactly then stripping it again changes it. -/
theorem stripped_clears_iff_interrupted (line : String) :
    (Clears (stripClearScreen line).toList ↔ Interrupted line.toList)
      ∧ (stripClearScreen (stripClearScreen line) = stripClearScreen line
          ↔ ¬ Interrupted line.toList) := by
  rw [stripClearScreen_eq_self_iff, toList_stripClearScreen, strip_clears_iff]
  exact ⟨Iff.rfl, Iff.rfl⟩

/-- An escape, then the display is erased, then what finishes the escape: the display is
erased by what is left, and stripping that again takes it out. -/
theorem strip_leaves_interrupted :
    stripClearScreen "\x1b\x1b[J[J" = "\x1b[J"
      ∧ Clears (stripClearScreen "\x1b\x1b[J[J").toList
      ∧ stripClearScreen (stripClearScreen "\x1b\x1b[J[J") = "" := by
  have hleft : stripClearScreen "\x1b\x1b[J[J" = "\x1b[J" := by decide
  rw [hleft]
  exact ⟨rfl, ⟨[esc, '[', 'J'], by decide, by decide⟩, by decide⟩

end Overseer.Log
