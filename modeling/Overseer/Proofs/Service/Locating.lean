/-
Overseer.Proofs.Service.Locating — which project a directory belongs to.

The project of a directory is that of the nearest setup file, going up. The directory may be
spelled in any way, seen from any working directory: the search goes by its normal form, of
which there is one (`Path.spells_iff`), and it never asks the tree how to get there. So the
search is a question about the directories above that hold a setup file (`IsNearest`), and
its answer is the file of the one with the most names, be it a project or a fault
(`find_eq_iff`).

A setup file is the nearest one from every directory at or below its own with none nearer, and
what is in it does not depend on the working directory. So all these starts find one project,
under whose directory the processes of its services are kept (`find_is_nearest`).
-/
import Overseer.Proofs.FileTree
import Overseer.Proofs.Path.Spelling
import Overseer.Proofs.Service.Choosing

namespace Overseer.Project

variable {tree : FileTree} {start place d workingDirectory : Path} {project : Project}

/-! ## 1. The nearest setup file -/

/-- There is a setup file in the directory; a device of its name is none. -/
def HoldsSetup (tree : FileTree) (d : Path) : Prop :=
  ∃ names content, tree.lookup (fileIn d) = .ok (.file names content) ∧ content ≠ .device

/-- Of the directories at a place or above it that hold a setup file, the one with the most
names. -/
structure IsNearest (tree : FileTree) (place d : Path) : Prop where
  above : d.IsAtOrAbove place
  holds : HoldsSetup tree d
  longest : ∀ other : Path, other.IsAtOrAbove place → HoldsSetup tree other →
    other.parts.length ≤ d.parts.length

/-- What the setup file of a directory comes to: a project, if it can be read and is valid. -/
def opened (tree : FileTree) (d : Path) : Except Fault Project :=
  match tree.read (fileIn d) with
  | .error cause => .error (.failedIo cause)
  | .ok text => (SetupFile.ofText text (fileIn d)).map fun setup => ⟨fileIn d, d, setup⟩

theorem isNearest_iff (hplace : place.IsNormal) : IsNearest tree place d
    ↔ (place.ancestors.find? fun d => tree.isFile (fileIn d)) = some d := by
  simp only [Path.find?_ancestors_eq_some_iff hplace, FileTree.isFile_iff]
  exact ⟨fun h => ⟨h.above, h.holds, h.longest⟩, fun ⟨habove, hholds, hlongest⟩ =>
    ⟨habove, hholds, hlongest⟩⟩

theorem load_eq_opened (h : tree.isFile (fileIn d) = true) :
    (SetupFile.load tree (fileIn d)).map (⟨fileIn d, d, ·⟩) = opened tree d := by
  rw [SetupFile.load, FileTree.exists?_of_isFile h, opened]
  cases tree.read (fileIn d) <;> rfl

theorem nearest_eq (tree : FileTree) (directories : List Path) : nearest tree directories
    = (directories.find? fun d => tree.isFile (fileIn d)).elim (.ok none) fun d =>
        (opened tree d).map some := by
  induction directories with
  | nil => rfl
  | cons d rest ih =>
    rw [nearest, List.find?_cons]
    cases hfile : tree.isFile (fileIn d) with
    | false => exact ih
    | true =>
      rw [if_pos rfl, Option.elim_some, ← load_eq_opened hfile]
      cases SetupFile.load tree (fileIn d) <;> rfl

/-- **What is found**: the nearest setup file, whatever it comes to, or nothing if there is
none. -/
theorem find_eq_iff (h : tree.workingDirectory.isAbsolute = true)
    {result : Except Fault (Option Project)} : find tree start = result
      ↔ (∃ d, IsNearest tree (tree.workingDirectory.absolute start) d
          ∧ result = (opened tree d).map some)
        ∨ (∀ d : Path, d.IsAtOrAbove (tree.workingDirectory.absolute start) → ¬HoldsSetup tree d)
          ∧ result = .ok none := by
  have hplace := Path.isNormal_absolute h start
  have hholds (d : Path) : HoldsSetup tree d ↔ ¬tree.isFile (fileIn d) = false := by
    rw [Bool.not_eq_false, FileTree.isFile_iff]
    rfl
  rw [find, nearest_eq]
  simp only [isNearest_iff hplace, hholds, not_not, ← Path.find?_ancestors_eq_none_iff hplace]
  cases List.find? _ (tree.workingDirectory.absolute start).ancestors <;> simp [eq_comm]

theorem opened_eq_ok (h : opened tree d = .ok project) :
    project.directory = d ∧ project.setup.validate = .ok () := by
  rw [opened] at h
  split at h
  next => cases h
  next text hread =>
    cases hsetup : SetupFile.ofText text (fileIn d) with
    | error fault => simp [hsetup, Except.map] at h
    | ok setup =>
      rw [hsetup, Except.map, Except.ok.injEq] at h
      subst h
      exact ⟨rfl, SetupFile.validate_of_ofText hsetup⟩

theorem find_eq_some_iff (h : tree.workingDirectory.isAbsolute = true) :
    find tree start = .ok (some project)
      ↔ IsNearest tree (tree.workingDirectory.absolute start) project.directory
        ∧ opened tree project.directory = .ok project := by
  rw [find_eq_iff h]
  constructor
  · rintro (⟨d, hnearest, hfound⟩ | ⟨-, hnone⟩)
    · have hopened : opened tree d = .ok project := by
        cases hresult : opened tree d with
        | error fault => simp [hresult, Except.map] at hfound
        | ok found => simpa [hresult, Except.map, eq_comm] using hfound
      obtain ⟨rfl, -⟩ := opened_eq_ok hopened
      exact ⟨hnearest, hopened⟩
    · cases hnone
  · rintro ⟨hnearest, hopened⟩
    refine Or.inl ⟨_, hnearest, ?_⟩
    rw [hopened]
    rfl

/-! ## 2. The same project from elsewhere -/

theorem isAbsolute_fileIn (h : d.isAbsolute = true) : (fileIn d).isAbsolute = true := by
  rw [fileIn, Path.isAbsolute_join, h, Bool.or_true]

theorem holdsSetup_from (h : d.isAbsolute = true) :
    HoldsSetup { tree with workingDirectory := workingDirectory } d ↔ HoldsSetup tree d := by
  simp only [HoldsSetup, FileTree.lookup_from (isAbsolute_fileIn h)]

theorem opened_from (h : d.isAbsolute = true) :
    opened { tree with workingDirectory := workingDirectory } d = opened tree d := by
  rw [opened, opened, FileTree.read_from (isAbsolute_fileIn h)]

/-- The directory stays the nearest for a place below, if no nearer one is on the way there. -/
theorem IsNearest.below {below : Path} (h : IsNearest tree place d) (habove : d.IsAtOrAbove below)
    (hnearer : ∀ other : Path, other.IsAtOrAbove below → HoldsSetup tree other →
      other.IsAtOrAbove d) :
    IsNearest { tree with workingDirectory := workingDirectory } below d where
  above := habove
  holds := (holdsSetup_from h.above.isNormal.isAbsolute).mpr h.holds
  longest other hother hholds :=
    (hnearer other hother ((holdsSetup_from hother.isNormal.isAbsolute).mp hholds)).begins.length_le

theorem discover_of_find (h : find tree start = .ok (some project)) :
    discover tree start = .ok project := by
  rw [discover, h]

/-- The services of a valid setup file are found by their names. -/
theorem resolve_of_mem (hvalid : project.setup.validate = .ok ()) {s : ServiceConfig}
    (hs : s ∈ project.setup.services) :
    project.resolve (some s.name) = .ok (project.resolveConfig s) :=
  (resolve_some_eq_ok_iff (SetupFile.validate_eq_ok_iff.mp hvalid).2.distinct).mpr
    ⟨List.mem_map_of_mem hs, rfl⟩

/-- **A directory belongs to the project of the nearest setup file.** Whatever its spelling and
the working directory from which it is seen, there is one directory that it means. What is found
is what the nearest setup file there or above comes to, so a file that is not valid hides those
above it; nothing is found exactly if there is none. Every start that means a directory at or
below the project's, with no nearer setup file, finds the same project, and the services of the
project have the same keys from there. -/
theorem find_is_nearest (tree : FileTree) (start : Path)
    (h : tree.workingDirectory.isAbsolute = true) :
    let place := tree.workingDirectory.absolute start
    (∀ p, start.Spells tree.workingDirectory p ↔ p = place)
    ∧ (∀ result, find tree start = result
        ↔ (∃ d, IsNearest tree place d ∧ result = (opened tree d).map some)
          ∨ (∀ d : Path, d.IsAtOrAbove place → ¬HoldsSetup tree d) ∧ result = .ok none)
    ∧ ∀ project, find tree start = .ok (some project) →
        project.directory.IsAtOrAbove place
        ∧ ∀ workingDirectory start' below : Path, workingDirectory.isAbsolute = true →
          start'.Spells workingDirectory below → project.directory.IsAtOrAbove below →
          (∀ other : Path, other.IsAtOrAbove below → HoldsSetup tree other →
            other.IsAtOrAbove project.directory) →
          let tree' := { tree with workingDirectory := workingDirectory }
          find tree' start' = .ok (some project)
          ∧ (∀ name?, (discover tree' start').bind (·.resolve name?) = project.resolve name?)
          ∧ ∀ s ∈ project.setup.services,
              ((discover tree' start').bind (·.resolve (some s.name))).map (·.key)
                = .ok ⟨s.name, project.directory⟩ := by
  refine ⟨fun p => Path.spells_iff h, fun result => find_eq_iff h, fun project hfind => ?_⟩
  obtain ⟨hnearest, hopened⟩ := (find_eq_some_iff h).mp hfind
  refine ⟨hnearest.above, fun workingDirectory start' below habsolute hspells habove hnearer => ?_⟩
  obtain rfl := (Path.spells_iff habsolute).mp hspells
  have htop := hnearest.above.isNormal.isAbsolute
  have hfind' : find { tree with workingDirectory := workingDirectory } start'
      = .ok (some project) :=
    (find_eq_some_iff habsolute).mpr
      ⟨hnearest.below habove hnearer, (opened_from htop).trans hopened⟩
  refine ⟨hfind', fun name? => ?_, fun s hs => ?_⟩
  · rw [discover_of_find hfind']
    rfl
  · rw [discover_of_find hfind', Except.bind, resolve_of_mem (opened_eq_ok hopened).2 hs]
    rfl

/-- A project, with a setup file below it that is not valid. -/
def layers : FileTree where
  directories := [⟨"/srv"⟩, ⟨"/srv/app"⟩, ⟨"/srv/app/src"⟩, ⟨"/srv/app/old"⟩]
  files := [(⟨"/srv/app/.lantern-setup.json"⟩,
      .text "\x7b\"services\": [\x7b\"name\": \"web\", \"shell\": \"serve\"\x7d]\x7d"),
    (⟨"/srv/app/old/.lantern-setup.json"⟩, .text "none yet")]
  links := []
  modes := []
  workingDirectory := ⟨"/srv/app/src"⟩

/-- The project is found from the working directory, and from the top by another way; the file
that is not valid is reported. -/
theorem find_is_nearest_in_layers :
    let project : Project := ⟨⟨"/srv/app/.lantern-setup.json"⟩, ⟨"/srv/app"⟩,
      ⟨[⟨"web", "serve", none, .empty, false, false⟩]⟩⟩
    layers.workingDirectory.isAbsolute = true
    ∧ find layers ⟨".././src//"⟩ = .ok (some project)
    ∧ find { layers with workingDirectory := ⟨"/"⟩ } ⟨"../srv/x/..//app/src/deep/."⟩
        = .ok (some project)
    ∧ find layers ⟨"../old/x"⟩
        = .error (.badSetup ⟨"/srv/app/old/.lantern-setup.json"⟩ .malformed) := by
  intro project
  have htop : layers.workingDirectory.isAbsolute = true := by decide +kernel
  obtain ⟨-, hfound, hbelow⟩ := find_is_nearest layers ⟨".././src//"⟩ htop
  obtain ⟨-, hreported, -⟩ := find_is_nearest layers ⟨"../old/x"⟩ htop
  have hnearest (start d : Path) (h : ((layers.workingDirectory.absolute start).ancestors.find?
      fun d => layers.isFile (fileIn d)) = some d) :
      IsNearest layers (layers.workingDirectory.absolute start) d :=
    (isNearest_iff (Path.isNormal_absolute htop start)).mpr h
  have happ := hnearest ⟨".././src//"⟩ ⟨"/srv/app"⟩ (by decide +kernel)
  have hold := hnearest ⟨"../old/x"⟩ ⟨"/srv/app/old"⟩ (by decide +kernel)
  have hopened : opened layers ⟨"/srv/app"⟩ = .ok project := by
    have hload : SetupFile.load layers (fileIn ⟨"/srv/app"⟩) = .ok project.setup := by
      decide +kernel
    have hfile : fileIn ⟨"/srv/app"⟩ = project.file := by decide +kernel
    rw [← load_eq_opened (by decide +kernel), hload, hfile]
    rfl
  have hbroken : opened layers ⟨"/srv/app/old"⟩
      = .error (.badSetup ⟨"/srv/app/old/.lantern-setup.json"⟩ .malformed) := by
    have hload : SetupFile.load layers (fileIn ⟨"/srv/app/old"⟩)
        = .error (.badSetup ⟨"/srv/app/old/.lantern-setup.json"⟩ .malformed) := by decide +kernel
    rw [← load_eq_opened (by decide +kernel), hload]
    rfl
  have hfind : find layers ⟨".././src//"⟩ = .ok (some project) :=
    (hfound _).mpr (Or.inl ⟨_, happ, by rw [hopened]; rfl⟩)
  refine ⟨htop, hfind, ?_, (hreported _).mpr (Or.inl ⟨_, hold, by rw [hbroken]; rfl⟩)⟩
  have hspells : Path.Spells ⟨"../srv/x/..//app/src/deep/."⟩ ⟨"/"⟩ ⟨"/srv/app/src/deep"⟩ :=
    (Path.spells_iff (by decide +kernel)).mpr (by decide +kernel)
  have hnormal := happ.above.isNormal
  have habove : ∀ other ∈ Path.ancestors ⟨"/srv/app/src/deep"⟩,
      layers.isFile (fileIn other) = true → other ∈ Path.ancestors ⟨"/srv/app"⟩ := by
    decide +kernel
  refine ((hbelow project hfind).2 ⟨"/"⟩ _ _ (by decide +kernel) hspells ?_
    fun other hother hholds => ?_).1
  · exact (Path.mem_ancestors hspells.isNormal).mp (by decide +kernel)
  · exact (Path.mem_ancestors hnormal).mp (habove other
      ((Path.mem_ancestors hspells.isNormal).mpr hother) (FileTree.isFile_iff.mpr hholds))

end Overseer.Project
