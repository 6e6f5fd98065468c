/-
Overseer.Proofs.Service.Resolving — which services a project can find.

A name is resolved exactly if the setup file lists it, and no name exactly if there is a
default service (`resolve_eq_error_iff`). What is found is one of the services that are
listed, the one of the name if a name was given (`config_of_resolve`).
-/
import Mathlib.Data.List.Basic
import Overseer.Service.Project

namespace Overseer

namespace SetupFile

variable {f : SetupFile}

theorem service?_isSome_iff {name : String} :
    (f.service? name).isSome = true ↔ name ∈ f.names := by
  simp [service?, names]

theorem of_service? {name : String} {s : ServiceConfig} (h : f.service? name = some s) :
    s ∈ f.services ∧ s.name = name := by
  rw [service?] at h
  have hname := List.find?_some h
  exact ⟨List.mem_of_find?_eq_some h, beq_iff_eq.mp hname⟩

theorem mem_of_defaultService? {s : ServiceConfig} (h : f.defaultService? = some s) :
    s ∈ f.services := by
  rw [defaultService?] at h
  split at h
  next t ht =>
    cases h
    exact List.mem_of_find?_eq_some ht
  next =>
    split at h
    next t hone =>
      cases h
      exact hone ▸ List.mem_singleton_self _
    next => cases h

/-- The setup file has no service of the name, or no default one. -/
def Lacks (f : SetupFile) : Option String → Prop
  | some name => name ∉ f.names
  | none => f.defaultService? = none

end SetupFile

namespace Project

variable {p : Project} {name? : Option String} {service : ResolvedService}

/-- Why there is no service of a name, or no default one. -/
def missing (p : Project) : Option String → Fault
  | some name => .unknownService name p.file
  | none => .noDefaultService p.file

theorem resolve_eq_error_iff {fault : Fault} :
    p.resolve name? = .error fault ↔ p.setup.Lacks name? ∧ fault = p.missing name? := by
  cases name? with
  | none =>
    rw [resolve, SetupFile.Lacks, missing]
    cases p.setup.defaultService? <;> simp [eq_comm]
  | some name =>
    rw [resolve, SetupFile.Lacks, missing, ← SetupFile.service?_isSome_iff]
    cases p.setup.service? name <;> simp [eq_comm]

/-- What is found is a service of the setup file, and the one of the name. -/
theorem config_of_resolve (h : p.resolve name? = .ok service) :
    ∃ s ∈ p.setup.services, service = p.resolveConfig s ∧ ∀ name ∈ name?, s.name = name := by
  cases name? with
  | some name =>
    cases hfind : p.setup.service? name with
    | none => simp [resolve, hfind] at h
    | some s =>
      simp only [resolve, hfind, Except.ok.injEq] at h
      obtain ⟨hs, hname⟩ := SetupFile.of_service? hfind
      refine ⟨s, hs, h.symm, ?_⟩
      rintro _ ⟨⟩
      exact hname
  | none =>
    cases hfind : p.setup.defaultService? with
    | none => simp [resolve, hfind] at h
    | some s =>
      simp only [resolve, hfind, Except.ok.injEq] at h
      exact ⟨s, SetupFile.mem_of_defaultService? hfind, h.symm, fun _ hname => by cases hname⟩

theorem name_of_resolve {name : String} (h : p.resolve (some name) = .ok service) :
    service.name = name := by
  obtain ⟨s, -, rfl, hname⟩ := config_of_resolve h
  exact hname name rfl

end Project

end Overseer
