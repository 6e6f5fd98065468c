/-
Overseer.Proofs.Path — where a path leads, read off its parts.

Joining two paths puts their parts one behind the other (`parts_join`), and a path that is
put together from names has these names as its parts (`parts_ofNames`). So what is asked
of the text of a path is asked of its list of steps, and the normal form is the list of
names that the walk along the steps leaves (`steps_normalize`).

A walk that never climbs above its start leaves alone what lies above it
(`foldl_walk_append`): whoever takes it from a directory ends at or below that directory
(`names_join`). The depth that is counted on the way fails exactly for a walk of which
some beginning has more steps up than down (`depth?_eq_none_iff`).
-/
import Overseer.Path
import Overseer.Proofs.Text.Pieces

namespace Overseer.Path

variable {p q : Path} {names : List (List Char)} {part name : List Char}

/-! ## 1. Parts -/

/-- The parts of a path, the empty ones left out. -/
def parts (p : Path) : List (List Char) := Text.fields (· == '/') p.text.toList

/-- A name that a file or a directory can have. -/
structure IsName (name : List Char) : Prop where
  ne_nil : name ≠ []
  no_slash : '/' ∉ name
  not_here : name ≠ ['.']
  not_up : name ≠ ['.', '.']

theorem IsName.isPart (h : IsName name) : name ≠ [] ∧ ∀ c ∈ name, (c == '/') = false :=
  ⟨h.ne_nil, fun _ hc => beq_eq_false_iff_ne.mpr fun heq => h.no_slash (heq ▸ hc)⟩

theorem steps_eq (p : Path) : p.steps = p.parts.filterMap Step.ofPart? := rfl

theorem ofPart?_eq_up_iff : Step.ofPart? part = some .up ↔ part = ['.', '.'] := by
  rw [Step.ofPart?]
  split
  next hhere => simp [hhere]
  next => split <;> simp_all

theorem ofPart?_eq_down_iff : Step.ofPart? part = some (.down name)
    ↔ part = name ∧ part ≠ ['.'] ∧ part ≠ ['.', '.'] := by
  rw [Step.ofPart?]
  split
  next hhere => simp [hhere]
  next => split <;> simp_all

/-- A path goes up where it says so. -/
theorem up_mem_steps_iff : .up ∈ p.steps ↔ ['.', '.'] ∈ p.parts := by
  simp only [steps_eq, List.mem_filterMap, ofPart?_eq_up_iff, exists_eq_right]

theorem isName_of_down_mem (h : .down name ∈ p.steps) : IsName name := by
  obtain ⟨part, hpart, hdown⟩ := List.mem_filterMap.mp h
  obtain ⟨rfl, hhere, hup⟩ := ofPart?_eq_down_iff.mp hdown
  obtain ⟨hsome, hslash⟩ := Text.mem_fields hpart
  exact ⟨hsome, fun hc => absurd (hslash _ hc) (by simp), hhere, hup⟩

theorem filterMap_ofPart?_names (h : ∀ name ∈ names, IsName name) :
    names.filterMap Step.ofPart? = names.map .down := by
  induction names with
  | nil => rfl
  | cons name names ih =>
    obtain ⟨hname, hnames⟩ := List.forall_mem_cons.mp h
    have hdown : Step.ofPart? name = some (.down name) :=
      ofPart?_eq_down_iff.mpr ⟨rfl, hname.not_here, hname.not_up⟩
    rw [List.filterMap_cons_some hdown, ih hnames, List.map_cons]

/-! ## 2. Paths that are put together -/

theorem isAbsolute_iff : p.isAbsolute = true ↔ ∃ rest, p.text.toList = '/' :: rest := by
  rw [isAbsolute]
  cases p.text.toList with
  | nil => simp
  | cons c rest => simp

/-- A slash parts what stands on its two sides. -/
theorem fields_slash (left right : List Char) : Text.fields (· == '/') (left ++ '/' :: right)
    = Text.fields (· == '/') left ++ Text.fields (· == '/') right :=
  Text.fields_append_cons rfl left right

theorem parts_ofNames (absolute : Bool) (h : ∀ name ∈ names, IsName name) :
    (ofNames absolute names).parts = names := by
  have hnames : Text.fields (· == '/') (['/'].intercalate names) = names :=
    Text.fields_intercalate rfl fun name hname => (h name hname).isPart
  cases absolute with
  | false => simpa [parts, ofNames] using hnames
  | true =>
    have htop := fields_slash [] (['/'].intercalate names)
    rw [hnames, Text.fields_nil, List.nil_append, List.nil_append] at htop
    simpa [parts, ofNames] using htop

theorem isAbsolute_ofNames (absolute : Bool) (h : ∀ name ∈ names, IsName name) :
    (ofNames absolute names).isAbsolute = absolute := by
  cases absolute with
  | true => simp [ofNames, isAbsolute]
  | false =>
    refine Bool.eq_false_iff.mpr fun htop => ?_
    obtain ⟨rest, hrest⟩ := isAbsolute_iff.mp htop
    simp only [ofNames, Bool.false_eq_true, if_false, List.nil_append,
      String.toList_ofList] at hrest
    rcases names with _ | ⟨name, _ | ⟨next, later⟩⟩
    · cases hrest
    all_goals
      obtain ⟨hname, -⟩ := List.forall_mem_cons.mp h
      obtain ⟨c, cs, rfl⟩ := List.exists_cons_of_ne_nil hname.ne_nil
      refine hname.no_slash ?_
      simp_all [List.intercalate_cons_cons]

/-- A path that begins at the top is the same from everywhere. -/
theorem join_of_isAbsolute (hq : q.isAbsolute = true) (p : Path) : p.join q = q := by
  rw [join, if_pos hq]

theorem isAbsolute_join (p q : Path) : (p.join q).isAbsolute = (q.isAbsolute || p.isAbsolute) := by
  rw [join]
  cases hq : q.isAbsolute with
  | true => simp [hq]
  | false =>
    rw [if_neg Bool.false_ne_true, Bool.false_or]
    rcases hp : p.text.toList with _ | ⟨c, cs⟩
    · have hempty : p.text = "" := by simpa using hp
      simpa [isAbsolute, hempty] using hq
    · split
      all_goals simp [isAbsolute, hp]

/-- The parts of a path and then those of one that is seen from there. -/
theorem parts_join (hq : q.isAbsolute = false) : (p.join q).parts = p.parts ++ q.parts := by
  rw [join, if_neg (by simp [hq])]
  split
  next hends =>
    simp only [Bool.or_eq_true, beq_iff_eq, String.isEmpty_iff] at hends
    rcases hends with hempty | hslash
    · simp [parts, hempty]
    · obtain ⟨front, hfront⟩ := List.getLast?_eq_some_iff.mp hslash
      simp [parts, hfront, fields_slash]
  next => simp [parts, fields_slash]

theorem steps_join (hq : q.isAbsolute = false) : (p.join q).steps = p.steps ++ q.steps := by
  rw [steps_eq, parts_join hq, List.filterMap_append]
  rfl

/-! ## 3. Walks -/

/-- Names that are left after a walk were there before, or were gone down to. -/
theorem mem_foldl_walk {steps : List Step} {above : List (List Char)}
    (h : name ∈ steps.foldl walk above) : name ∈ above ∨ .down name ∈ steps := by
  induction steps generalizing above with
  | nil => exact Or.inl h
  | cons s steps ih =>
    rcases ih h with hwalk | hlater
    · cases s with
      | up => exact Or.inl (List.mem_of_mem_tail hwalk)
      | down first =>
        rcases List.mem_cons.mp hwalk with rfl | habove
        · exact Or.inr List.mem_cons_self
        · exact Or.inl habove
    · exact Or.inr (List.mem_cons_of_mem s hlater)

theorem isName_of_mem_names (h : name ∈ p.names) : IsName name := by
  rcases mem_foldl_walk (List.mem_reverse.mp h) with habove | hdown
  · cases habove
  · exact isName_of_down_mem hdown

theorem foldl_walk_downs (names above : List (List Char)) :
    (names.map Step.down).foldl walk above = names.reverse ++ above := by
  induction names generalizing above with
  | nil => rfl
  | cons name names ih => simp [walk, ih]

/-- A path that nowhere goes up is the list of its names. -/
theorem steps_of_up_not_mem (h : .up ∉ p.steps) : p.steps = p.names.map .down := by
  obtain ⟨names, hnames⟩ : ∃ names : List (List Char), p.steps = names.map .down := by
    revert h
    induction p.steps with
    | nil => exact fun _ => ⟨[], rfl⟩
    | cons s steps ih =>
      intro h
      obtain ⟨names, hnames⟩ := ih fun hmem => h (List.mem_cons_of_mem s hmem)
      cases s with
      | up => exact absurd List.mem_cons_self h
      | down name => exact ⟨name :: names, by rw [hnames, List.map_cons]⟩
  rw [Path.names, hnames, foldl_walk_downs, List.append_nil, List.reverse_reverse]

/-! ## 4. Normal forms -/

theorem parts_normalize (p : Path) : p.normalize.parts = p.names :=
  parts_ofNames _ fun _ hname => isName_of_mem_names hname

theorem isAbsolute_normalize (p : Path) : p.normalize.isAbsolute = p.isAbsolute :=
  isAbsolute_ofNames _ fun _ hname => isName_of_mem_names hname

/-- The normal form goes down to each of the names. -/
theorem steps_normalize (p : Path) : p.normalize.steps = p.names.map .down := by
  rw [steps_eq, parts_normalize]
  exact filterMap_ofPart?_names fun _ hname => isName_of_mem_names hname

/-! ## 5. Walks that stay below their start -/

/-- How far below the start a walk is that begins so many directories below it; `none` if it
ever climbs above. -/
def depthFrom? (above : Nat) (steps : List Step) : Option Nat :=
  steps.foldlM (fun (d : Nat) (s : Step) =>
    match s with
    | .up => if d = 0 then none else some (d - 1)
    | .down _ => some (d + 1)) above

theorem depth?_eq (steps : List Step) : depth? steps = depthFrom? 0 steps := rfl

theorem depthFrom?_zero_up (steps : List Step) : depthFrom? 0 (.up :: steps) = none := rfl

theorem depthFrom?_succ_up (above : Nat) (steps : List Step) :
    depthFrom? (above + 1) (.up :: steps) = depthFrom? above steps := rfl

theorem depthFrom?_down (above : Nat) (name : List Char) (steps : List Step) :
    depthFrom? above (.down name :: steps) = depthFrom? (above + 1) steps := rfl

/-- Such a walk leaves alone what lies above its start. -/
theorem foldl_walk_append {steps : List Step} {below above : List (List Char)}
    (h : (depthFrom? below.length steps).isSome = true) :
    steps.foldl walk (below ++ above) = steps.foldl walk below ++ above := by
  induction steps generalizing below with
  | nil => rfl
  | cons s steps ih =>
    cases s with
    | down name =>
      have hdeeper := @ih (name :: below) h
      simpa [walk] using hdeeper
    | up =>
      cases below with
      | nil => cases h
      | cons name below =>
        have hhigher := @ih below h
        simpa [walk] using hhigher

/-- The walk climbs above its start: some beginning has more steps up than down. -/
def Climbs (steps : List Step) : Prop :=
  ∃ beginning, beginning <+: steps ∧ beginning.countP (· ≠ .up) < beginning.count .up

theorem depthFrom?_eq_none_iff {above : Nat} {steps : List Step} : depthFrom? above steps = none
    ↔ ∃ beginning, beginning <+: steps
      ∧ above + beginning.countP (· ≠ .up) < beginning.count .up := by
  induction steps generalizing above with
  | nil =>
    refine ⟨fun h => absurd h (by simp [depthFrom?]), ?_⟩
    rintro ⟨beginning, hbeginning, hcount⟩
    rw [List.prefix_nil.mp hbeginning] at hcount
    simp at hcount
  | cons s steps ih =>
    -- The empty beginning is none that climbs, so one that does begins with the first step.
    have hcons : (∃ beginning, beginning <+: s :: steps
          ∧ above + beginning.countP (· ≠ .up) < beginning.count .up)
        ↔ ∃ beginning, beginning <+: steps ∧ above + (s :: beginning).countP (· ≠ .up)
          < (s :: beginning).count .up := by
      constructor
      · rintro ⟨beginning, hbeginning, hcount⟩
        rcases List.prefix_cons_iff.mp hbeginning with rfl | ⟨later, rfl, hlater⟩
        · simp at hcount
        · exact ⟨later, hlater, hcount⟩
      · rintro ⟨later, hlater, hcount⟩
        exact ⟨s :: later, List.cons_prefix_cons.mpr ⟨rfl, hlater⟩, hcount⟩
    rw [hcons]
    cases s with
    | down name =>
      rw [depthFrom?_down, ih]
      refine exists_congr fun beginning => and_congr_right fun _ => ?_
      simp only [List.countP_cons, List.count_cons]
      simp
      omega
    | up =>
      cases above with
      | zero =>
        rw [depthFrom?_zero_up]
        exact iff_of_true rfl ⟨[], List.nil_prefix, by simp⟩
      | succ above =>
        rw [depthFrom?_succ_up, ih]
        refine exists_congr fun beginning => and_congr_right fun _ => ?_
        simp only [List.countP_cons, List.count_cons]
        simp
        omega

theorem depth?_eq_none_iff {steps : List Step} : depth? steps = none ↔ Climbs steps := by
  simp only [depth?_eq, depthFrom?_eq_none_iff, Climbs, Nat.zero_add]

/-- A path stays inside unless it starts at the top or climbs. -/
theorem staysInside_eq_false_iff :
    p.staysInside = false ↔ p.isAbsolute = true ∨ Climbs p.steps := by
  rw [staysInside, Bool.and_eq_false_iff, Bool.not_eq_false', Option.isSome_eq_false_iff,
    Option.isNone_iff_eq_none, depth?_eq_none_iff]

theorem staysInside_iff : p.staysInside = true ↔ p.isAbsolute = false ∧ ¬ Climbs p.steps := by
  rw [← Bool.not_eq_false, staysInside_eq_false_iff, not_or, Bool.not_eq_true]

/-- Seen from a directory, what stays inside has the directory's names and then its own. -/
theorem names_join (h : q.staysInside = true) : (p.join q).names = p.names ++ q.names := by
  obtain ⟨hrelative, hdepth⟩ := Bool.and_eq_true_iff.mp h
  have hwalk : q.steps.foldl walk ([] ++ p.steps.foldl walk [])
      = q.steps.foldl walk [] ++ p.steps.foldl walk [] := foldl_walk_append hdepth
  rw [List.nil_append] at hwalk
  rw [names, steps_join (by simpa using hrelative), List.foldl_append, hwalk, List.reverse_append]
  rfl

end Overseer.Path
