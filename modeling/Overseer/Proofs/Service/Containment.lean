/-
Overseer.Proofs.Service.Containment — services run inside their project.

A service may name a root, a path that is seen from the project's directory. Whether it
is accepted is decided by counting how deep each of its beginnings leads, and where the
service runs by joining the two paths and going back a part for each `..`. The two agree:
a root of which no beginning climbs leaves the directory's names alone
(`Path.names_join`). So a service of a valid setup file runs in the project's directory
or below it, however the root is spelled (`serviceDirectory_isAtOrBelow`).

The last part of the theorem is about refusals. Once validation has come to the root of a
service, with nothing at fault before it, it refuses the root exactly if the root starts
at the top or climbs; so no root is refused for its spelling.
-/
import Overseer.Proofs.Path
import Overseer.Proofs.Service.Resolving
import Overseer.Proofs.Service.Setup

namespace Overseer

/-! ## 1. Refused roots -/

namespace SetupFile

variable {services earlier later : List ServiceConfig} {seen : List String} {s : ServiceConfig}

/-- Nothing before the service is at fault: what follows decides. -/
theorem firstFault?_append (h : firstFault? seen earlier = none) :
    firstFault? seen (earlier ++ later)
      = firstFault? ((earlier.map (·.name)).reverse ++ seen) later := by
  induction earlier generalizing seen with
  | nil => rfl
  | cons t earlier ih =>
    rw [firstFault?] at h
    rw [List.cons_append, firstFault?]
    cases hfault : t.fault? seen with
    | some fault => simp [hfault] at h
    | none =>
      simp only [hfault] at h
      simp only [ih h, List.map_cons, List.reverse_cons, List.append_assoc, List.singleton_append]

/-- A root is refused of a service whose name is new. -/
theorem new_of_badRoot {name root : String}
    (h : firstFault? seen services = some (.badRoot name root)) : name ∉ seen := by
  induction services generalizing seen with
  | nil => cases h
  | cons s services ih =>
    rw [firstFault?] at h
    cases hfault : s.fault? seen with
    | none =>
      simp only [hfault] at h
      exact fun hseen => ih h (List.mem_cons_of_mem _ hseen)
    | some fault =>
      simp only [hfault, Option.some.injEq] at h
      subst h
      rw [ServiceConfig.fault?] at hfault
      split_ifs at hfault with hblank hname hshell hseen
      iterate 4 cases hfault
      split at hfault
      · cases hfault
      · split_ifs at hfault
        cases hfault
        simpa using hseen

/-- Validation comes to the root of a service: nothing is at fault before. -/
structure ComesToRoot (earlier : List ServiceConfig) (s : ServiceConfig) : Prop where
  sound : ∀ t ∈ earlier, t.IsSound
  distinct : ((earlier ++ [s]).map (·.name)).Nodup
  name : isServiceName s.name = true
  shell : Text.isBlankText s.shell = false

theorem fault?_of_comesToRoot (h : ComesToRoot earlier s) {root : Path}
    (hroot : s.root = some root) : s.fault? (earlier.map (·.name)).reverse
      = if root.staysInside then none else some (.badRoot s.name root.text) := by
  have hnew : s.name ∉ earlier.map (·.name) := by
    have hdistinct := h.distinct
    rw [List.map_append, List.nodup_append] at hdistinct
    exact fun hold => hdistinct.2.2 _ hold _ (List.mem_singleton_self _) rfl
  rw [ServiceConfig.fault?, if_neg (by simp [ServiceConfig.name_not_blank h.name]),
    if_neg (by simp [h.name]), if_neg (by simp [h.shell]), if_neg (by simpa using hnew), hroot]

theorem validate_eq_error_iff {f : SetupFile} {cause : SetupFault} :
    f.validate = .error cause ↔ f.fault? = some cause := by
  rw [validate]
  cases f.fault? <;> simp

/-- **When a root is refused**: exactly if it starts at the top or climbs. -/
theorem validate_eq_badRoot_iff (h : ComesToRoot earlier s) {root : Path}
    (hroot : s.root = some root) :
    (SetupFile.mk (earlier ++ s :: later)).validate = .error (.badRoot s.name root.text)
      ↔ root.isAbsolute = true ∨ Path.Climbs root.steps := by
  have hbefore : firstFault? [] earlier = none := by
    have hdistinct := h.distinct
    rw [List.map_append, List.nodup_append] at hdistinct
    exact firstFault?_eq_none_iff.mpr ⟨h.sound, hdistinct.1, fun _ _ => List.not_mem_nil⟩
  have hfirst : firstFault? [] (earlier ++ s :: later)
      = firstFault? (earlier.map (·.name)).reverse (s :: later) := by
    rw [firstFault?_append hbefore, List.append_nil]
  rw [← Path.staysInside_eq_false_iff, validate_eq_error_iff, fault?, hfirst, firstFault?,
    fault?_of_comesToRoot h hroot, if_neg (by simp)]
  cases hinside : root.staysInside with
  | false => simp
  | true =>
    refine iff_of_false (fun herror => ?_) Bool.noConfusion
    simp only [if_true] at herror
    -- No service behind this one can be refused for its root under the same name.
    cases hlater : firstFault? (s.name :: (earlier.map (·.name)).reverse) later with
    | none =>
      simp only [hlater] at herror
      split_ifs at herror
      cases herror
    | some fault =>
      simp only [hlater, Option.some.injEq] at herror
      exact new_of_badRoot (herror ▸ hlater) List.mem_cons_self

end SetupFile

/-! ## 2. Where services run -/

namespace Path

/-- The path is absolute and does not go up, and it begins with the steps of the directory.
Parts that ask for nothing are in it only if they are in the directory's path. -/
structure IsAtOrBelow (p directory : Path) : Prop where
  isAbsolute : p.isAbsolute = true
  not_up : ['.', '.'] ∉ p.parts
  not_here : ['.'] ∉ directory.parts → ['.'] ∉ p.parts
  begins : directory.steps <+: p.steps

variable {directory root : Path}

theorem isAtOrBelow_self (habsolute : directory.isAbsolute = true)
    (hup : ['.', '.'] ∉ directory.parts) : directory.IsAtOrBelow directory :=
  ⟨habsolute, hup, id, List.prefix_refl _⟩

theorem isAtOrBelow_join (habsolute : directory.isAbsolute = true)
    (hup : ['.', '.'] ∉ directory.parts) (hroot : root.staysInside = true) :
    (directory.join root).normalize.IsAtOrBelow directory := by
  have hname {part : List Char} (h : part ∈ (directory.join root).normalize.parts) : IsName part :=
    isName_of_mem_names (parts_normalize _ ▸ h)
  refine ⟨?_, fun h => (hname h).not_up rfl, fun _ h => (hname h).not_here rfl, ?_⟩
  · rw [isAbsolute_normalize, isAbsolute_join, habsolute, Bool.or_true]
  · rw [steps_normalize, names_join hroot, List.map_append,
      ← steps_of_up_not_mem fun h => hup (up_mem_steps_iff.mp h)]
    exact List.prefix_append _ _

end Path

namespace Project

/-- **Services run inside their project.** Every service of a valid setup file runs in the
project's directory or below it, whether it is looked up, taken by name or as the default,
or listed with the others. A root that is come to in validation is refused exactly if it
starts at the top or if some beginning of it has more steps up than down. -/
theorem serviceDirectory_isAtOrBelow (p : Project) (hvalid : p.setup.validate = .ok ())
    (habsolute : p.directory.isAbsolute = true) (hup : ['.', '.'] ∉ p.directory.parts) :
    (∀ s ∈ p.setup.services, (p.serviceDirectory s).IsAtOrBelow p.directory)
    ∧ (∀ service, (service ∈ p.resolveAll ∨ ∃ name?, p.resolve name? = .ok service) →
        service.directory.IsAtOrBelow p.directory)
    ∧ ∀ earlier s later root, SetupFile.ComesToRoot earlier s → s.root = some root →
        ((SetupFile.mk (earlier ++ s :: later)).validate = .error (.badRoot s.name root.text)
          ↔ root.isAbsolute = true ∨ ∃ beginning, beginning <+: root.steps
            ∧ beginning.countP (· ≠ .up) < beginning.count .up) := by
  have hinside : ∀ s ∈ p.setup.services, (p.serviceDirectory s).IsAtOrBelow p.directory := by
    intro s hs
    have hsound := (SetupFile.validate_eq_ok_iff.mp hvalid).2.sound s hs
    rw [serviceDirectory]
    cases hroot : s.root with
    | none => exact Path.isAtOrBelow_self habsolute hup
    | some root => exact Path.isAtOrBelow_join habsolute hup (hsound.root root hroot)
  refine ⟨hinside, fun service hservice => ?_, fun earlier s later root hcomes hroot =>
    SetupFile.validate_eq_badRoot_iff hcomes hroot⟩
  rcases hservice with hall | ⟨name?, hresolve⟩
  · obtain ⟨s, hs, rfl⟩ := List.mem_map.mp hall
    exact hinside s hs
  · obtain ⟨s, hs, rfl, -⟩ := config_of_resolve hresolve
    exact hinside s hs

/-- A project whose directory is spelled with slashes to spare, and whose second service goes
down, up and down again. -/
def windingProject : Project where
  file := ⟨"/srv//app/.lantern-setup.json"⟩
  directory := ⟨"/srv//app/"⟩
  setup := ⟨[⟨"web", "serve", none, .empty, true, false⟩,
    ⟨"api", "listen", some ⟨"./a//../b/./c/.."⟩, .empty, false, false⟩]⟩

theorem serviceDirectory_isAtOrBelow_winding :
    windingProject.setup.validate = .ok ()
      ∧ (windingProject.resolveAll.map (·.directory)) = [⟨"/srv//app/"⟩, ⟨"/srv/app/b"⟩]
      ∧ (∀ service ∈ windingProject.resolveAll,
          service.directory.IsAtOrBelow windingProject.directory)
      ∧ (SetupFile.mk [⟨"api", "listen", some ⟨"a/../../b"⟩, .empty, false, false⟩]).validate
          = .error (.badRoot "api" "a/../../b") := by
  have hvalid : windingProject.setup.validate = .ok () := by decide +kernel
  obtain ⟨-, hall, hrefused⟩ := serviceDirectory_isAtOrBelow windingProject hvalid
    (by decide +kernel) (by decide +kernel)
  refine ⟨hvalid, by decide +kernel, fun service hservice => hall service (Or.inl hservice), ?_⟩
  refine (hrefused [] ⟨"api", "listen", some ⟨"a/../../b"⟩, .empty, false, false⟩ [] _
    ⟨by simp, by simp, by decide +kernel, by decide +kernel⟩ rfl).mpr (Or.inr ?_)
  exact ⟨[.down ['a'], .up, .up], by decide +kernel, by decide⟩

end Project

end Overseer
