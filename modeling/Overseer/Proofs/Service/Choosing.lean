/-
Overseer.Proofs.Service.Choosing — what users can choose from in a project.

`valid_services_are_found`: a setup file is accepted exactly if its services can be run
and told apart, each condition said of the texts and not by what checks them. And what is
accepted can be used: every service has a key of its own, a name gives the service that is
listed under it, and no name gives the default, or else the only service.

That names differ is what makes a search by name find the listed service and not an
earlier one, and that there is one default at most does the same for a search without a
name (`service?_eq_some_iff`, `defaultService?_eq_some_iff`).
-/
import Mathlib.Data.List.Nodup
import Overseer.Proofs.Path
import Overseer.Proofs.Service.Resolving
import Overseer.Proofs.Service.Setup

namespace Overseer

/-! ## 1. What is accepted -/

/-- May stand in a name: a letter or a digit of ASCII, a dot, an underscore or a hyphen. -/
def IsNameLetter (c : Char) : Prop :=
  ('a' ≤ c ∧ c ≤ 'z') ∨ ('A' ≤ c ∧ c ≤ 'Z') ∨ ('0' ≤ c ∧ c ≤ '9') ∨ c = '.' ∨ c = '_' ∨ c = '-'

theorem isNameChar_iff {c : Char} : isNameChar c = true ↔ IsNameLetter c := by
  delta isNameChar Char.isAlphanum Char.isAlpha Char.isUpper Char.isLower Char.isDigit IsNameLetter
  simp only [Bool.or_eq_true, Bool.and_eq_true, decide_eq_true_eq, beq_iff_eq, Char.le_def,
    ge_iff_le]
  have hbounds : 'a'.val = 97 ∧ 'z'.val = 122 ∧ 'A'.val = 65 ∧ 'Z'.val = 90 ∧ '0'.val = 48
      ∧ '9'.val = 57 := by decide
  obtain ⟨ha, hz, hA, hZ, h0, h9⟩ := hbounds
  rw [ha, hz, hA, hZ, h0, h9]
  tauto

theorem isServiceName_iff {name : String} :
    isServiceName name = true ↔ name ≠ "" ∧ ∀ c ∈ name.toList, IsNameLetter c := by
  simp only [isServiceName, Bool.and_eq_true, Bool.not_eq_true', List.all_eq_true, isNameChar_iff]
  refine and_congr_left fun _ => ?_
  rw [Bool.eq_false_iff, ne_eq, String.isEmpty_iff]

namespace SetupFile

variable {f : SetupFile} {s : ServiceConfig}

/-- The services of a project that can be run and told apart. -/
structure IsUsable (services : List ServiceConfig) : Prop where
  some : services ≠ []
  names : ∀ s ∈ services, s.name ≠ "" ∧ ∀ c ∈ s.name.toList, IsNameLetter c
  shells : ∀ s ∈ services, ∃ c ∈ s.shell.toList, Text.isBlank c = false
  distinct : services.Pairwise fun s t => s.name ≠ t.name
  oneDefault : services.countP (·.isDefault) ≤ 1
  roots : ∀ s ∈ services, ∀ root ∈ s.root, root.isAbsolute = false ∧ ¬ Path.Climbs root.steps

theorem validate_eq_ok_iff_isUsable : f.validate = .ok () ↔ IsUsable f.services := by
  rw [validate_eq_ok_iff]
  have hnames : f.names.Nodup ↔ f.services.Pairwise fun s t => s.name ≠ t.name :=
    List.pairwise_map
  constructor
  · rintro ⟨hsome, h⟩
    exact {
      some := hsome
      names := fun s hs => isServiceName_iff.mp (h.sound s hs).name
      shells := fun s hs => Text.isBlankText_eq_false_iff.mp (h.sound s hs).shell
      distinct := hnames.mp h.distinct
      oneDefault := List.countP_eq_length_filter ▸ h.oneDefault
      roots := fun s hs root hroot => Path.staysInside_iff.mp ((h.sound s hs).root root hroot) }
  · intro h
    refine ⟨h.some, fun s hs => ?_, hnames.mpr h.distinct,
      List.countP_eq_length_filter ▸ h.oneDefault⟩
    exact {
      name := isServiceName_iff.mpr (h.names s hs)
      shell := Text.isBlankText_eq_false_iff.mpr (h.shells s hs)
      root := fun root hroot => Path.staysInside_iff.mpr (h.roots s hs root hroot) }

/-! ## 2. What is found in it -/

theorem service?_eq_some_iff (h : f.names.Nodup) {name : String} :
    f.service? name = some s ↔ s ∈ f.services ∧ s.name = name := by
  refine ⟨of_service?, fun ⟨hs, hname⟩ => ?_⟩
  have hlisted : name ∈ f.names := List.mem_map.mpr ⟨s, hs, hname⟩
  obtain ⟨t, ht⟩ := Option.isSome_iff_exists.mp (service?_isSome_iff.mpr hlisted)
  obtain ⟨htmem, htname⟩ := of_service? ht
  rw [ht, List.inj_on_of_nodup_map h htmem hs (htname.trans hname.symm)]

/-- Of two defaults there would be two. -/
theorem eq_of_isDefault (h : f.services.countP (·.isDefault) ≤ 1) {t : ServiceConfig}
    (hs : s ∈ f.services) (hsdefault : s.isDefault = true)
    (ht : t ∈ f.services) (htdefault : t.isDefault = true) : s = t := by
  rw [List.countP_eq_length_filter] at h
  have hmem {u : ServiceConfig} (hu : u ∈ f.services) (hdefault : u.isDefault = true) :
      u ∈ f.services.filter (·.isDefault) := List.mem_filter.mpr ⟨hu, hdefault⟩
  have hone := hmem hs hsdefault
  have hother := hmem ht htdefault
  rcases hfilter : f.services.filter (·.isDefault) with _ | ⟨u, _ | ⟨v, rest⟩⟩
  · simp [hfilter] at hone
  · rw [hfilter, List.mem_singleton] at hone hother
    rw [hone, hother]
  · simp [hfilter] at h

theorem defaultService?_eq_some_iff (h : f.services.countP (·.isDefault) ≤ 1) :
    f.defaultService? = some s ↔ (s ∈ f.services ∧ s.isDefault = true)
      ∨ (∀ t ∈ f.services, t.isDefault = false) ∧ f.services = [s] := by
  rw [defaultService?]
  cases hfind : f.services.find? (·.isDefault) with
  | some t =>
    have ht := List.mem_of_find?_eq_some hfind
    have htdefault : t.isDefault = true := List.find?_some hfind
    simp only [Option.some.injEq]
    constructor
    · rintro rfl
      exact Or.inl ⟨ht, htdefault⟩
    · rintro (⟨hs, hdefault⟩ | ⟨hnone, -⟩)
      · exact eq_of_isDefault h ht htdefault hs hdefault
      · simp [hnone t ht] at htdefault
  | none =>
    have hnone : ∀ t ∈ f.services, t.isDefault = false := by simpa using hfind
    rw [or_iff_right fun hs => by simp [hnone s hs.1] at hs, and_iff_right hnone]
    rcases hservices : f.services with _ | ⟨t, _ | ⟨u, rest⟩⟩ <;> simp

end SetupFile

namespace Project

variable {p : Project} {service : ResolvedService}

theorem resolve_some_eq_ok_iff (h : p.setup.names.Nodup) {name : String} :
    p.resolve (some name) = .ok service ↔ service ∈ p.resolveAll ∧ service.name = name := by
  have hfound : p.resolve (some name) = .ok service
      ↔ ∃ s, p.setup.service? name = some s ∧ p.resolveConfig s = service := by
    rw [resolve]
    cases p.setup.service? name <;> simp
  simp only [hfound, SetupFile.service?_eq_some_iff h, resolveAll, List.mem_map]
  constructor
  · rintro ⟨s, ⟨hs, hname⟩, rfl⟩
    exact ⟨⟨s, hs, rfl⟩, hname⟩
  · rintro ⟨⟨s, hs, rfl⟩, hname⟩
    exact ⟨s, ⟨hs, hname⟩, rfl⟩

theorem resolve_none_eq_ok_iff (h : p.setup.services.countP (·.isDefault) ≤ 1) :
    p.resolve none = .ok service ↔ ∃ s, p.resolveConfig s = service
      ∧ ((s ∈ p.setup.services ∧ s.isDefault = true)
        ∨ (∀ t ∈ p.setup.services, t.isDefault = false) ∧ p.setup.services = [s]) := by
  have hfound : p.resolve none = .ok service
      ↔ ∃ s, p.resolveConfig s = service ∧ p.setup.defaultService? = some s := by
    rw [resolve]
    cases p.setup.defaultService? <;> simp
  simp only [hfound, SetupFile.defaultService?_eq_some_iff h]

theorem keys_resolveAll (p : Project) :
    p.resolveAll.map (·.key) = p.setup.names.map fun name => ⟨name, p.directory⟩ := by
  simp only [resolveAll, SetupFile.names, List.map_map]
  rfl

/-- **What can be chosen from a project.** A setup file is accepted exactly if it lists a
service, every service has a name of the letters that names have, something to run and a root
that does not leave the project, no two have one name and one at most is the default. In a
project with such a file every service has a key of its own. A name finds the service that is
listed under it, if there is one, and nothing else. No name finds the default, or the only
service, and nothing else. -/
theorem valid_services_are_found (p : Project) :
    (p.setup.validate = .ok () ↔ SetupFile.IsUsable p.setup.services)
    ∧ (p.setup.validate = .ok () →
      p.resolveAll.map (·.key) = p.setup.services.map (fun s => ⟨s.name, p.directory⟩)
      ∧ (p.resolveAll.map (·.key)).Nodup
      ∧ (∀ name, (∃ service, p.resolve (some name) = .ok service)
          ↔ ∃ s ∈ p.setup.services, s.name = name)
      ∧ (∀ name service, p.resolve (some name) = .ok service
          ↔ service ∈ p.resolveAll ∧ service.name = name)
      ∧ ((∃ service, p.resolve none = .ok service)
          ↔ (∃ s ∈ p.setup.services, s.isDefault = true) ∨ ∃ s, p.setup.services = [s])
      ∧ (∀ s ∈ p.setup.services, s.isDefault = true → p.resolve none = .ok (p.resolveConfig s))
      ∧ ∀ s, p.setup.services = [s] → p.resolve none = .ok (p.resolveConfig s)) := by
  refine ⟨SetupFile.validate_eq_ok_iff_isUsable, fun hvalid => ?_⟩
  have husable := SetupFile.validate_eq_ok_iff_isUsable.mp hvalid
  have hdistinct : p.setup.names.Nodup := (SetupFile.validate_eq_ok_iff.mp hvalid).2.distinct
  have hname (name : String) (service : ResolvedService) :
      p.resolve (some name) = .ok service ↔ service ∈ p.resolveAll ∧ service.name = name :=
    resolve_some_eq_ok_iff hdistinct
  have hdefault {s : ServiceConfig} (hs : s ∈ p.setup.services) (h : s.isDefault = true) :
      p.resolve none = .ok (p.resolveConfig s) :=
    (resolve_none_eq_ok_iff husable.oneDefault).mpr ⟨s, rfl, Or.inl ⟨hs, h⟩⟩
  have honly {s : ServiceConfig} (hone : p.setup.services = [s]) :
      p.resolve none = .ok (p.resolveConfig s) := by
    cases h : s.isDefault with
    | true => exact hdefault (hone ▸ List.mem_singleton_self s) h
    | false =>
      exact (resolve_none_eq_ok_iff husable.oneDefault).mpr
        ⟨s, rfl, Or.inr ⟨by simpa [hone] using h, hone⟩⟩
  refine ⟨?_, ?_, fun name => ?_, hname, ?_, fun s hs h => hdefault hs h, fun s hone => honly hone⟩
  · rw [keys_resolveAll, SetupFile.names, List.map_map]
    rfl
  · rw [keys_resolveAll]
    exact hdistinct.map fun a b h => congrArg ServiceKey.service h
  · simp only [hname name, resolveAll, List.mem_map]
    constructor
    · rintro ⟨_, ⟨s, hs, rfl⟩, hsname⟩
      exact ⟨s, hs, hsname⟩
    · rintro ⟨s, hs, hsname⟩
      exact ⟨_, ⟨s, hs, rfl⟩, hsname⟩
  · constructor
    · rintro ⟨service, h⟩
      obtain ⟨s, -, ⟨hs, hsdefault⟩ | ⟨-, hone⟩⟩ :=
        (resolve_none_eq_ok_iff husable.oneDefault).mp h
      · exact Or.inl ⟨s, hs, hsdefault⟩
      · exact Or.inr ⟨s, hone⟩
    · rintro (⟨s, hs, h⟩ | ⟨s, hone⟩)
      · exact ⟨_, hdefault hs h⟩
      · exact ⟨_, honly hone⟩

/-- A project of three services, of which the second is the default. -/
def shopProject : Project where
  file := ⟨"/shop/.lantern-setup.json"⟩
  directory := ⟨"/shop"⟩
  setup := ⟨[⟨"web", "serve", none, .empty, false, true⟩,
    ⟨"api.v2", " listen ", some ⟨"./a/../api"⟩, .empty, true, false⟩,
    ⟨"Job-queue_1", "work", some ⟨"jobs/"⟩, .empty, false, false⟩]⟩

theorem valid_services_are_found_in_shop :
    shopProject.setup.validate = .ok () ∧ SetupFile.IsUsable shopProject.setup.services
      ∧ shopProject.resolveAll.map (·.key)
        = [⟨"web", ⟨"/shop"⟩⟩, ⟨"api.v2", ⟨"/shop"⟩⟩, ⟨"Job-queue_1", ⟨"/shop"⟩⟩]
      ∧ shopProject.resolve none
        = .ok ⟨"api.v2", " listen ", ⟨"/shop/api"⟩, .empty, false, ⟨"/shop"⟩⟩
      ∧ ¬ ∃ service, shopProject.resolve (some "api") = .ok service := by
  have hvalid : shopProject.setup.validate = .ok () := by decide +kernel
  obtain ⟨haccepted, hfound⟩ := valid_services_are_found shopProject
  obtain ⟨hkeys, -, hlisted, -, -, hdefault, -⟩ := hfound hvalid
  refine ⟨hvalid, haccepted.mp hvalid, hkeys, ?_, ?_⟩
  · rw [hdefault ⟨"api.v2", " listen ", some ⟨"./a/../api"⟩, .empty, true, false⟩
      (by simp [shopProject]) rfl]
    decide +kernel
  · rw [hlisted "api"]
    simp [shopProject]

end Project

end Overseer
