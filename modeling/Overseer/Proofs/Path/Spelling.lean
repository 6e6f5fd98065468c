/-
Overseer.Proofs.Path.Spelling — the spellings of a directory, and the directories above it.

A directory can be spelled in many ways: a name and the `..` that takes it back may be put in
anywhere, and so may a `..` at the top. `SameWay` relates the spellings that differ in this
only, and `sameWay_iff` says that it relates two ways exactly if walking along them leaves the
same names. So a path spells one directory (`spells_iff`), whether it begins at the top or is
seen from the working directory.

The directories above one that is in normal form are the beginnings of its names, and going up
from it finds the one with the most names (`find?_ancestors_eq_some_iff`).
-/
import Mathlib.Data.List.Infix
import Overseer.Proofs.Path

namespace Overseer.Path

variable {p d workingDirectory : Path} {names : List (List Char)} {xs ys zs : List Step}

/-! ## 1. Spellings -/

/-- The two ways differ in names that are taken back and in steps up from the top only. -/
inductive SameWay : List Step → List Step → Prop where
  | refl (xs : List Step) : SameWay xs xs
  | symm {xs ys : List Step} (h : SameWay xs ys) : SameWay ys xs
  | trans {xs ys zs : List Step} (h : SameWay xs ys) (h' : SameWay ys zs) : SameWay xs zs
  | back (before : List Step) (name : List Char) (after : List Step) :
      SameWay (before ++ .down name :: .up :: after) (before ++ after)
  | top (after : List Step) : SameWay (.up :: after) after

theorem SameWay.walk_eq (h : SameWay xs ys) : xs.foldl walk [] = ys.foldl walk [] := by
  induction h with
  | refl xs => rfl
  | symm _ ih => exact ih.symm
  | trans _ _ ih ih' => exact ih.trans ih'
  | back before name after =>
    rw [List.foldl_append, List.foldl_append]
    rfl
  | top after => rfl

theorem SameWay.append_right (h : SameWay xs ys) (zs : List Step) :
    SameWay (xs ++ zs) (ys ++ zs) := by
  induction h with
  | refl xs => exact .refl _
  | symm _ ih => exact ih.symm
  | trans _ _ ih ih' => exact ih.trans ih'
  | back before name after => simpa using SameWay.back before name (after ++ zs)
  | top after => exact .top (after ++ zs)

/-- A step up takes the last name back, if there is one. -/
theorem sameWay_names_up (names : List (List Char)) :
    SameWay (names.map .down ++ [.up]) (names.dropLast.map .down) := by
  rcases List.eq_nil_or_concat names with rfl | ⟨before, name, rfl⟩
  · exact .top []
  · simpa using SameWay.back (before.map .down) name []

/-- A way is the same as going down to the names that are left at its end. -/
theorem sameWay_walk (xs : List Step) :
    SameWay xs ((xs.foldl walk []).reverse.map .down) := by
  induction xs using List.reverseRecOn with
  | nil => exact .refl []
  | append_singleton xs s ih =>
    refine (ih.append_right [s]).trans ?_
    rw [List.foldl_append, List.foldl_cons, List.foldl_nil]
    cases s with
    | down name =>
      rw [walk, List.reverse_cons, List.map_append]
      exact .refl _
    | up =>
      rw [walk, ← List.dropLast_reverse]
      exact sameWay_names_up _

/-- **Ways are the same** exactly if they leave the same names. -/
theorem sameWay_iff : SameWay xs ys ↔ xs.foldl walk [] = ys.foldl walk [] := by
  refine ⟨SameWay.walk_eq, fun h => (sameWay_walk xs).trans ?_⟩
  rw [h]
  exact (sameWay_walk ys).symm

/-! ## 2. Normal forms -/

/-- The path begins at the top, and it is spelled by its parts with one slash before each; none
of them is `.` or `..`. -/
structure IsNormal (p : Path) : Prop where
  parts : ∀ part ∈ p.parts, IsName part
  spelled : p = ofNames true p.parts

theorem isNormal_ofNames (h : ∀ name ∈ names, IsName name) : (ofNames true names).IsNormal where
  parts := by rwa [parts_ofNames true h]
  spelled := by rw [parts_ofNames true h]

theorem IsNormal.isAbsolute (h : p.IsNormal) : p.isAbsolute = true := by
  rw [h.spelled]
  exact isAbsolute_ofNames true h.parts

theorem IsNormal.steps_eq (h : p.IsNormal) : p.steps = p.parts.map .down :=
  filterMap_ofPart?_names h.parts

theorem IsNormal.names_eq (h : p.IsNormal) : p.names = p.parts := by
  rw [Path.names, h.steps_eq, foldl_walk_downs, List.append_nil, List.reverse_reverse]

/-- The steps to a path that is seen from the working directory, unless it begins at the top. -/
def stepsFrom (workingDirectory p : Path) : List Step :=
  if p.isAbsolute then p.steps else workingDirectory.steps ++ p.steps

theorem steps_join_eq (workingDirectory p : Path) :
    (workingDirectory.join p).steps = stepsFrom workingDirectory p := by
  rw [stepsFrom]
  split
  next htop => rw [join_of_isAbsolute htop]
  next hrelative => exact steps_join (by simpa using hrelative)

theorem absolute_eq (workingDirectory p : Path) :
    workingDirectory.absolute p = (workingDirectory.join p).normalize := by
  rw [absolute]
  split
  next htop => rw [join_of_isAbsolute htop]
  next => rfl

theorem isNormal_absolute (h : workingDirectory.isAbsolute = true) (p : Path) :
    (workingDirectory.absolute p).IsNormal := by
  have htop : (workingDirectory.join p).isAbsolute = true := by
    rw [isAbsolute_join, h, Bool.or_true]
  rw [absolute_eq, normalize, htop]
  exact isNormal_ofNames fun _ hname => isName_of_mem_names hname

theorem sameWay_absolute (workingDirectory p : Path) :
    SameWay (stepsFrom workingDirectory p) (workingDirectory.absolute p).steps := by
  rw [absolute_eq, steps_normalize, Path.names, ← steps_join_eq]
  exact sameWay_walk _

/-- The path, seen from the working directory, is a spelling of the directory. -/
structure Spells (p workingDirectory directory : Path) : Prop where
  isNormal : directory.IsNormal
  sameWay : SameWay (stepsFrom workingDirectory p) directory.steps

/-- **Every path spells one directory**, whatever is in it. -/
theorem spells_iff (h : workingDirectory.isAbsolute = true) :
    p.Spells workingDirectory d ↔ d = workingDirectory.absolute p := by
  have hnormal := isNormal_absolute h p
  constructor
  · rintro ⟨hd, hway⟩
    have hsame := sameWay_iff.mp (hway.symm.trans (sameWay_absolute workingDirectory p))
    rw [hd.steps_eq, hnormal.steps_eq, foldl_walk_downs, foldl_walk_downs, List.append_nil,
      List.append_nil] at hsame
    rw [hd.spelled, hnormal.spelled, List.reverse_injective hsame]
  · rintro rfl
    exact ⟨hnormal, sameWay_absolute workingDirectory p⟩

/-! ## 3. Directories above -/

section

variable {α : Type} {l l' : List α} {f : List α → Bool}

theorem beginnings_concat (l : List α) (a : α) :
    beginnings (l ++ [a]) = (l ++ [a]) :: beginnings l := by
  have hshorter : ∀ n ∈ (List.range (l.length + 1)).reverse, (l ++ [a]).take n = l.take n := by
    intro n hn
    have hle : n ≤ l.length := by simpa [Nat.lt_succ_iff] using hn
    rw [List.take_append_of_le_length hle]
  have hrange : (List.range ((l ++ [a]).length + 1)).reverse
      = (l ++ [a]).length :: (List.range (l.length + 1)).reverse := by
    simp [List.range_succ]
  rw [beginnings, hrange, List.map_cons, List.take_length, List.map_congr_left hshorter]
  rfl

theorem mem_beginnings : l' ∈ beginnings l ↔ l' <+: l := by
  induction l using List.reverseRecOn with
  | nil => simp [beginnings]
  | append_singleton l a ih => rw [beginnings_concat, List.mem_cons, ih, List.prefix_concat_iff]

/-- The longest beginning that passes is found first. -/
theorem find?_beginnings_eq_some_iff : (beginnings l).find? f = some l'
    ↔ l' <+: l ∧ f l' = true
      ∧ ∀ other, other <+: l → f other = true → other.length ≤ l'.length := by
  induction l using List.reverseRecOn with
  | nil =>
    have hnone : beginnings ([] : List α) = [[]] := rfl
    rw [hnone, List.find?_singleton]
    constructor
    · intro h
      split at h
      next hf =>
        cases h
        exact ⟨List.prefix_refl _, hf, fun other hother _ => hother.length_le⟩
      next => cases h
    · rintro ⟨hl', hf, -⟩
      obtain rfl := List.prefix_nil.mp hl'
      rw [if_pos hf]
  | append_singleton l a ih =>
    rw [beginnings_concat, List.find?_cons]
    cases hf : f (l ++ [a]) with
    | true =>
      simp only [Option.some.injEq]
      constructor
      · rintro rfl
        exact ⟨List.prefix_refl _, hf, fun other hother _ => hother.length_le⟩
      · rintro ⟨hl', -, hlongest⟩
        exact (hl'.eq_of_length_le (hlongest _ (List.prefix_refl _) hf)).symm
    | false =>
      have hshorter {other : List α} (hother : f other = true) :
          other <+: l ++ [a] ↔ other <+: l := by
        rw [List.prefix_concat_iff, or_iff_right]
        rintro rfl
        simp [hf] at hother
      simp only [ih]
      constructor
      · rintro ⟨hl', hpasses, hlongest⟩
        exact ⟨(hshorter hpasses).mpr hl', hpasses,
          fun other hother h => hlongest other ((hshorter h).mp hother) h⟩
      · rintro ⟨hl', hpasses, hlongest⟩
        exact ⟨(hshorter hpasses).mp hl', hpasses,
          fun other hother h => hlongest other ((hshorter h).mpr hother) h⟩

end

/-- The directory is the place or lies above it, and it is in normal form. -/
structure IsAtOrAbove (d p : Path) : Prop where
  isNormal : d.IsNormal
  begins : d.parts <+: p.parts

theorem isAtOrAbove_iff (hp : p.IsNormal) :
    d.IsAtOrAbove p ↔ ∃ names, names <+: p.parts ∧ d = ofNames true names := by
  constructor
  · rintro ⟨hd, hbegins⟩
    exact ⟨d.parts, hbegins, hd.spelled⟩
  · rintro ⟨names, hnames, rfl⟩
    have hname : ∀ name ∈ names, IsName name := fun name h => hp.parts name (hnames.subset h)
    exact ⟨isNormal_ofNames hname, by rwa [parts_ofNames true hname]⟩

theorem ancestors_eq (hp : p.IsNormal) : p.ancestors = (beginnings p.parts).map (ofNames true) := by
  rw [ancestors, hp.names_eq, hp.isAbsolute]

theorem mem_ancestors (hp : p.IsNormal) : d ∈ p.ancestors ↔ d.IsAtOrAbove p := by
  simp only [ancestors_eq hp, List.mem_map, mem_beginnings, isAtOrAbove_iff hp, eq_comm]

/-- **Going up finds the longest**: of the directories that pass the one with the most names. -/
theorem find?_ancestors_eq_some_iff (hp : p.IsNormal) {passes : Path → Bool} :
    p.ancestors.find? passes = some d ↔ d.IsAtOrAbove p ∧ passes d = true
      ∧ ∀ other, other.IsAtOrAbove p → passes other = true
        → other.parts.length ≤ d.parts.length := by
  have hparts {names : List (List Char)} (h : names <+: p.parts) :
      (ofNames true names).parts = names :=
    parts_ofNames true fun name hname => hp.parts name (h.subset hname)
  simp only [ancestors_eq hp, List.find?_map, Option.map_eq_some_iff, find?_beginnings_eq_some_iff,
    isAtOrAbove_iff hp, Function.comp]
  constructor
  · rintro ⟨names, ⟨hnames, hpasses, hlongest⟩, rfl⟩
    refine ⟨⟨names, hnames, rfl⟩, hpasses, ?_⟩
    rintro _ ⟨other, hother, rfl⟩ h
    rw [hparts hother, hparts hnames]
    exact hlongest other hother h
  · rintro ⟨⟨names, hnames, rfl⟩, hpasses, hlongest⟩
    refine ⟨names, ⟨hnames, hpasses, fun other hother h => ?_⟩, rfl⟩
    have hle := hlongest _ ⟨other, hother, rfl⟩ h
    rwa [hparts hother, hparts hnames] at hle

theorem find?_ancestors_eq_none_iff (hp : p.IsNormal) {passes : Path → Bool} :
    p.ancestors.find? passes = none ↔ ∀ d : Path, d.IsAtOrAbove p → passes d = false := by
  simp only [List.find?_eq_none, mem_ancestors hp, Bool.not_eq_true]

end Overseer.Path
