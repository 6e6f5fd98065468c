/-
Overseer.Proofs.Service.Setup — setup files that are valid, and setup files that are
read back.

Validation looks at the services one after the other and stops at the first fault.
`validate_eq_ok_iff` says what it comes to: there is a service, every service can be
run, no two have one name, and one at most is the default. So what it accepts does
not depend on the order in which it looks.

A setup file that is written leaves out what is as by default. `ofText_text` says that
it is read back as it was, if it is valid, with or without blanks behind it: every
text in it, every variable and every flag.
-/
import Mathlib.Tactic.SplitIfs
import Overseer.Proofs.Launch.Payload
import Overseer.Service.Setup

namespace Overseer

/-! ## 1. Valid services -/

/-- White space cannot stand in a name. -/
theorem isBlank_of_isNameChar {c : Char} (h : isNameChar c = true) : Text.isBlank c = false := by
  have hrange : 45 ≤ c.toNat ∧ c.toNat ≤ 122 := by
    rw [isNameChar] at h
    delta Char.isAlphanum Char.isAlpha Char.isUpper Char.isLower Char.isDigit at h
    simp only [Bool.or_eq_true, Bool.and_eq_true, decide_eq_true_eq, beq_iff_eq,
      UInt32.le_iff_toNat_le] at h
    rcases h with ((((h | h) | h) | rfl) | rfl) | rfl
    · exact ⟨Nat.le_trans (by decide) h.1, Nat.le_trans h.2 (by decide)⟩
    · exact ⟨Nat.le_trans (by decide) h.1, Nat.le_trans h.2 (by decide)⟩
    · exact ⟨Nat.le_trans (by decide) h.1, Nat.le_trans h.2 (by decide)⟩
    all_goals decide
  simp only [Text.isBlank, Bool.or_eq_false_iff, Bool.and_eq_false_iff, decide_eq_false_iff_not,
    beq_eq_false_iff_ne]
  omega

namespace ServiceConfig

/-- The service can be run: its name may stand, there is a line to run, and it does not
leave the project. -/
structure IsSound (s : ServiceConfig) : Prop where
  name : isServiceName s.name = true
  shell : Text.isBlankText s.shell = false
  root : ∀ root ∈ s.root, root.staysInside = true

theorem name_not_blank {s : ServiceConfig} (h : isServiceName s.name = true) :
    Text.isBlankText s.name = false := by
  simp only [isServiceName, Bool.and_eq_true, Bool.not_eq_true', List.all_eq_true] at h
  obtain ⟨hsome, hall⟩ := h
  have hne : s.name.toList ≠ [] := by simpa using hsome
  obtain ⟨c, hc⟩ := List.exists_mem_of_ne_nil _ hne
  exact Text.isBlankText_eq_false_iff.mpr ⟨c, hc, isBlank_of_isNameChar (hall c hc)⟩

theorem fault?_eq_none_iff {s : ServiceConfig} {seen : List String} :
    s.fault? seen = none ↔ s.IsSound ∧ s.name ∉ seen := by
  constructor
  · intro h
    rw [fault?] at h
    split_ifs at h with hblank hname hshell hseen
    refine ⟨⟨by simpa using hname, by simpa using hshell, fun root hroot => ?_⟩,
      by simpa using hseen⟩
    rw [Option.mem_def.mp hroot] at h
    by_contra hout
    simp [hout] at h
  · rintro ⟨hs, hseen⟩
    rw [fault?, if_neg (by simp [name_not_blank hs.name]), if_neg (by simp [hs.name]),
      if_neg (by simp [hs.shell]), if_neg (by simpa using hseen)]
    rcases hroot : s.root with _ | root
    · rfl
    · exact if_pos (hs.root root hroot)

end ServiceConfig

namespace SetupFile

/-- The services can be run and told apart, and one at most is the default. -/
structure IsOrderly (f : SetupFile) : Prop where
  sound : ∀ s ∈ f.services, s.IsSound
  distinct : f.names.Nodup
  oneDefault : (f.services.filter (·.isDefault)).length ≤ 1

theorem firstFault?_eq_none_iff {services : List ServiceConfig} {seen : List String} :
    firstFault? seen services = none ↔ (∀ s ∈ services, s.IsSound)
      ∧ (services.map (·.name)).Nodup ∧ ∀ s ∈ services, s.name ∉ seen := by
  induction services generalizing seen with
  | nil => simp [firstFault?]
  | cons s services ih =>
    have hstep : firstFault? seen (s :: services) = none
        ↔ s.fault? seen = none ∧ firstFault? (s.name :: seen) services = none := by
      rw [firstFault?]
      cases s.fault? seen <;> simp
    rw [hstep, ServiceConfig.fault?_eq_none_iff, ih]
    simp only [List.forall_mem_cons, List.map_cons, List.nodup_cons, List.mem_map, not_exists,
      not_and]
    simp only [List.mem_cons, not_or]
    constructor
    · rintro ⟨⟨hs, hseen⟩, hsound, hdistinct, hnew⟩
      exact ⟨⟨hs, hsound⟩, ⟨fun t ht => (hnew t ht).1, hdistinct⟩, hseen, fun t ht => (hnew t ht).2⟩
    · rintro ⟨⟨hs, hsound⟩, ⟨hother, hdistinct⟩, hseen, hnew⟩
      exact ⟨⟨hs, hseen⟩, hsound, hdistinct, fun t ht => ⟨hother t ht, hnew t ht⟩⟩

/-- **What a valid setup file is.** -/
theorem validate_eq_ok_iff {f : SetupFile} :
    f.validate = .ok () ↔ f.services ≠ [] ∧ f.IsOrderly := by
  have hfault : f.validate = .ok () ↔ f.fault? = none := by
    rw [validate]
    cases f.fault? <;> simp
  have hparts : f.fault? = none ↔ f.services ≠ [] ∧ firstFault? [] f.services = none
      ∧ (f.services.filter (·.isDefault)).length ≤ 1 := by
    rw [fault?]
    cases firstFault? [] f.services with
    | none => by_cases hnone : f.services = [] <;> simp [hnone]
    | some fault => by_cases hnone : f.services = [] <;> simp [hnone]
  rw [hfault, hparts, firstFault?_eq_none_iff]
  constructor
  · rintro ⟨hsome, ⟨hsound, hdistinct, -⟩, hone⟩
    exact ⟨hsome, hsound, hdistinct, hone⟩
  · rintro ⟨hsome, h⟩
    exact ⟨hsome, ⟨h.sound, h.distinct, fun _ _ => List.not_mem_nil⟩, h.oneDefault⟩

end SetupFile

/-! ## 2. Services as documents -/

namespace ServiceConfig

open Launch (Environment)

/-- The fields of a service's document, in the order in which a service is read. -/
theorem fields?_toJson (s : ServiceConfig) : s.toJson.fields? layout = some
    [some (.text s.name), some (.text s.shell), s.root.map fun root => .text root.text,
      if s.environment.isEmpty then none else some s.environment.toJson,
      if s.isDefault then some (.bool true) else none,
      if s.wantsPort then some (.bool true) else none] := by
  rcases hroot : s.root with _ | root <;> cases hempty : s.environment.isEmpty
    <;> cases hdefault : s.isDefault <;> cases hport : s.wantsPort <;>
    simp [toJson, hroot, hempty, hdefault, hport, Json.Value.object, Json.Value.fields?, layout,
      Json.named?]

/-- Every field is read as it was written, or as by default if it was left out. -/
theorem ofJson?_toJson (s : ServiceConfig) : ofJson? s.toJson = some s := by
  have hroot : Json.optional? Json.Value.text? (s.root.map fun root => .text root.text)
      = some (s.root.map (·.text)) := by
    cases s.root <;> rfl
  have henvironment : Json.orDefault? .empty Environment.ofJson?
      (if s.environment.isEmpty then none else some s.environment.toJson)
        = some s.environment := by
    split
    · next hempty =>
      exact congrArg some (Environment.eq_of_entries (List.isEmpty_iff.mp hempty).symm)
    · exact s.environment.ofJson?_toJson
  have hflag : ∀ b : Bool, Json.orDefault? false Json.Value.bool?
      (if b then some (.bool true) else none) = some b := by
    intro b
    cases b <;> rfl
  have hname : (Json.Value.text s.name).text? = some s.name := rfl
  have hshell : (Json.Value.text s.shell).text? = some s.shell := rfl
  rw [ofJson?, fields?_toJson, Option.bind_some]
  simp only [ofFields?, hroot, henvironment, hflag, hname, hshell]
  cases s with
  | mk name shell root environment isDefault wantsPort => cases root <;> rfl

theorem isWhole_toJson (s : ServiceConfig) : s.toJson.isWhole = true := by
  have henvironment := s.environment.isWhole_toJson
  rcases hroot : s.root with _ | root <;> cases hempty : s.environment.isEmpty
    <;> cases hdefault : s.isDefault <;> cases hport : s.wantsPort <;>
    simp [toJson, hroot, hempty, hdefault, hport, Json.Value.object, Json.Value.isWhole,
      Json.fieldsWhole_eq_all, Json.Value.text, henvironment]

end ServiceConfig

/-! ## 3. Setup files as texts -/

namespace Json

/-- A document that was laid out is read back with a line feed behind it. -/
theorem parse?_pretty_line {v : Value} (h : v.isWhole = true) :
    parse? (v.pretty ++ "\n") = some v := by
  have htext : v.pretty ++ "\n"
      = String.ofList ((v.pieces 0 ++ [Piece.line 0]).flatMap Piece.chars) := by
    rw [List.flatMap_append, String.ofList_append]
    rfl
  have htokens : tokensOf (v.pieces 0 ++ [Piece.line 0]) = tokensOf (v.pieces 0) := by simp
  rw [htext]
  exact parse?_of_tokensOf h htokens

end Json

namespace SetupFile

theorem ofJson?_toJson (f : SetupFile) : ofJson? f.toJson = some f := by
  have hservices : (Json.Value.arr (f.services.map (·.toJson))).list? ServiceConfig.ofJson?
      = some f.services := by
    rw [Json.Value.list?, Launch.mapM_map_some ServiceConfig.ofJson?_toJson]
  have hfields : f.toJson.fields? [("services", .required)]
      = some [some (.arr (f.services.map (·.toJson)))] := rfl
  simp only [ofJson?, hfields, hservices, Option.bind_eq_bind, Option.bind_some, Option.pure_def]

theorem isWhole_toJson (f : SetupFile) : f.toJson.isWhole = true := by
  simp [toJson, Json.Value.object, Json.Value.isWhole, Json.fieldsWhole_eq_all,
    Json.areWhole_eq_all, ServiceConfig.isWhole_toJson]

/-- **A setup file that was written is read back**, if it is valid. -/
theorem ofText_text {f : SetupFile} (h : f.validate = .ok ()) (file : Path) :
    ofText (f.text ++ "\n") file = .ok f := by
  rw [ofText, text, Json.parse?_pretty_line f.isWhole_toJson, Option.bind_some, ofJson?_toJson]
  simp [h]

/-- What was read is valid. -/
theorem validate_of_ofText {text : String} {file : Path} {f : SetupFile}
    (h : ofText text file = .ok f) : f.validate = .ok () := by
  rw [ofText] at h
  split at h
  · cases h
  · next setup _ =>
    cases hvalid : setup.validate with
    | error cause => simp [hvalid] at h
    | ok u =>
      simp only [hvalid] at h
      rw [← Except.ok.inj h]
      exact hvalid

end SetupFile

end Overseer
