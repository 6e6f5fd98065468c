/-
Overseer.Proofs.Launch.Payload — a wrapper understands what it is told.

The supervisor builds a payload from a configured service, writes it as a document
on one line, and the wrapper reads that line. `payload_is_understood` says that the
wrapper reads exactly what was meant and never refuses it: whatever the shell line,
the directory and the variables hold, quotes, control characters and white space of
any kind included.

Three facts carry it. A document that was written is read back (`parse?_compact`).
The document of a payload holds every field that is asked for, and each is read as
it was written (`ofFields?_toJson`); for the variables this needs that no name
stands twice, which an environment carries with it. And the command that a shell
line stands for is blank only if the line is (`program_ofLine_not_blank`), which a
valid setup file excludes.
-/
import Overseer.Launch.Payload
import Overseer.Proofs.Json.RoundTrip
import Overseer.Proofs.Launch.CommandLine
import Overseer.Supervisor.Run

namespace Overseer

namespace Launch

/-! ## 1. Variables -/

theorem mapM_map_some {α β : Type} {write : α → β} {read? : β → Option α}
    (h : ∀ a, read? (write a) = some a) (as : List α) : (as.map write).mapM read? = some as := by
  have hread : read? ∘ write = fun a => pure (id a) := funext h
  rw [List.mapM_map, hread, List.mapM_pure, List.map_id]
  rfl

namespace Environment

theorem eq_of_entries {env env' : Environment} (h : env.entries = env'.entries) : env = env' := by
  cases env
  cases env'
  cases h
  rfl

/-- Settings of new names are added in their order. -/
theorem entries_foldl_set {env : Environment} {settings : List (String × String)}
    (h : ((env.entries ++ settings).map (·.1)).Nodup) :
    (settings.foldl (fun env s => env.set s.1 s.2) env).entries = env.entries ++ settings := by
  induction settings generalizing env with
  | nil => exact (List.append_nil _).symm
  | cons s settings ih =>
    have hnew : s.1 ∉ env.entries.map (·.1) := by
      rw [List.map_append, List.map_cons, List.nodup_append] at h
      exact fun hold => h.2.2 _ hold _ List.mem_cons_self rfl
    have hset : (env.set s.1 s.2).entries = env.entries ++ [s] := by simp [set, hnew]
    rw [List.foldl_cons, ih (by rw [hset]; simpa using h), hset, List.append_assoc]
    rfl

theorem ofList_entries (env : Environment) : ofList env.entries = env := by
  refine eq_of_entries ?_
  have hempty : (empty.entries ++ env.entries).map (·.1) = env.entries.map (·.1) := rfl
  exact entries_foldl_set (hempty ▸ env.distinct)

/-- Variables that were written are read back. -/
theorem ofJson?_toJson (env : Environment) : ofJson? env.toJson = some env := by
  simp only [toJson, Json.Value.object, ofJson?, List.map_map]
  rw [mapM_map_some]
  · exact congrArg some env.ofList_entries
  · exact fun e => rfl

theorem isWhole_toJson (env : Environment) : env.toJson.isWhole = true := by
  simp [toJson, Json.Value.object, Json.Value.isWhole, Json.fieldsWhole_eq_all, Json.Value.text]

end Environment

/-! ## 2. Payloads -/

namespace Payload

/-- The numbers of the payload can be sent: its launch has 64 bits and a sign, its port 16. -/
structure IsSendable (p : Payload) : Prop where
  launch : Word.least 64 ≤ p.launch ∧ p.launch ≤ Word.greatest 64
  port : ∀ port ∈ p.port, (port : Int) ≤ Word.greatestUnsigned 16

/-- The fields of a payload's document, in the order in which a payload is read. -/
theorem fields?_toJson (p : Payload) : p.toJson.fields? layout = some
    [some (.text p.command.program), some (.arr (p.command.args.map .text)),
      some (.text p.directory.text), some (.int p.launch), some p.environment.toJson,
      p.port.map fun port : Nat => .int port] := by
  cases hport : p.port <;>
    simp [toJson, hport, Json.Value.object, Json.Value.fields?, layout, Json.named?]

theorem int64?_int {i : Int} (h : Word.least 64 ≤ i ∧ i ≤ Word.greatest 64) :
    (Json.Value.int i).int64? = some i := by
  rw [Json.Value.int64?, Json.Value.intWithin?, if_pos h]

theorem nat?_int {bits n : Nat} (h : (n : Int) ≤ Word.greatestUnsigned bits) :
    (Json.Value.int n).nat? bits = some n := by
  rw [Json.Value.nat?, Json.Value.intWithin?, if_pos ⟨Int.natCast_nonneg n, h⟩]
  rfl

/-- Every field is read as it was written. -/
theorem ofFields?_toJson {p : Payload} (h : p.IsSendable) : ofFields?
    [some (.text p.command.program), some (.arr (p.command.args.map .text)),
      some (.text p.directory.text), some (.int p.launch), some p.environment.toJson,
      p.port.map fun port : Nat => .int port] = some p := by
  have hargs : (Json.Value.arr (p.command.args.map .text)).list? Json.Value.text?
      = some p.command.args := by
    have htext : ∀ arg : String, (Json.Value.text arg).text? = some arg := fun _ => rfl
    rw [Json.Value.list?, mapM_map_some htext]
  have henvironment : Json.orDefault? .empty Environment.ofJson? (some p.environment.toJson)
      = some p.environment := p.environment.ofJson?_toJson
  have hport : Json.optional? (Json.Value.nat? 16) (p.port.map fun port : Nat => .int port)
      = some p.port := by
    cases hport : p.port with
    | none => rfl
    | some port =>
      have hbound := h.port port hport
      simp [Json.optional?, Json.Value.nullable?, nat?_int hbound]
  simp only [ofFields?, hargs, int64?_int h.launch, henvironment, hport]
  rfl

theorem isWhole_toJson (p : Payload) : p.toJson.isWhole = true := by
  have henvironment := p.environment.isWhole_toJson
  cases hport : p.port <;>
    simp [toJson, hport, Json.Value.object, Json.Value.isWhole, Json.fieldsWhole_eq_all,
      Json.areWhole_eq_all, Json.Value.text, henvironment]

/-- A payload that is sent is read as it is, and refused only for a blank command. -/
theorem ofText_text {p : Payload} (h : p.IsSendable)
    (hcommand : Text.isBlankText p.command.program = false) : ofText p.text = .ok p := by
  have hread : (Json.parse? p.text).bind (fun v => (v.fields? layout).bind ofFields?) = some p := by
    rw [text, Json.parse?_compact p.isWhole_toJson, Option.bind_some, fields?_toJson,
      Option.bind_some, ofFields?_toJson h]
  rw [ofText, hread]
  simp [hcommand]

end Payload

end Launch

/-! ## 3. Configured services -/

namespace SetupFile

theorem fault?_eq_none_of_mem {services : List ServiceConfig} {seen : List String}
    (h : firstFault? seen services = none) {s : ServiceConfig} (hs : s ∈ services) :
    ∃ seen, s.fault? seen = none := by
  induction services generalizing seen with
  | nil => cases hs
  | cons t services ih =>
    rw [firstFault?] at h
    cases ht : t.fault? seen with
    | some fault => simp [ht] at h
    | none =>
      simp only [ht] at h
      rcases List.mem_cons.mp hs with rfl | hs
      · exact ⟨seen, ht⟩
      · exact ih h hs

/-- No service of a valid file has a blank shell line. -/
theorem shell_not_blank {f : SetupFile} (h : f.validate = .ok ()) {s : ServiceConfig}
    (hs : s ∈ f.services) : Text.isBlankText s.shell = false := by
  have hfault : firstFault? [] f.services = none := by
    cases hfirst : firstFault? [] f.services with
    | none => rfl
    | some fault =>
      have hsome : f.services.isEmpty = false :=
        List.isEmpty_eq_false_iff.mpr (List.ne_nil_of_mem hs)
      simp [validate, fault?, hsome, hfirst] at h
  obtain ⟨seen, hnone⟩ := fault?_eq_none_of_mem hfault hs
  rw [← Bool.not_eq_true]
  intro hblank
  simp only [ServiceConfig.fault?, hblank, if_true] at hnone
  split_ifs at hnone

end SetupFile

namespace Supervisor

/-- **What a wrapper is told is understood.** For every service of a valid file, any directory
and any variables, launch and port, the payload of these five has a command that is not blank,
and the wrapper reads from the line that it gets exactly this payload. It is the one that is
built for a service with that shell line, whose directory and variables are the service's own. -/
theorem payload_is_understood {f : SetupFile} (hvalid : f.validate = .ok ()) {s : ServiceConfig}
    (hs : s ∈ f.services) (directory : Path) (environment : Launch.Environment) (id : Int)
    (hid : Word.least 64 ≤ id ∧ id ≤ Word.greatest 64) (port : Option Nat)
    (hport : ∀ n ∈ port, (n : Int) ≤ Word.greatestUnsigned 16) :
    let payload : Launch.Payload := ⟨.ofLine s.shell, directory, id, environment, port⟩
    Text.isBlankText payload.command.program = false
      ∧ Launch.Payload.ofText payload.text = .ok payload
      ∧ ∀ service : ResolvedService, service.shell = s.shell → service.directory = directory →
          service.environment = environment → payloadFor service id port = payload := by
  intro payload
  have hcommand : Text.isBlankText payload.command.program = false :=
    Launch.program_ofLine_not_blank (f.shell_not_blank hvalid hs)
  refine ⟨hcommand, Launch.Payload.ofText_text ⟨hid, hport⟩ hcommand, ?_⟩
  rintro service hshell rfl rfl
  rw [payloadFor, hshell]

/-- A shell line between no-break spaces with quotes, an escape and a line feed in it, a
directory with a quote, and variables with a NUL, a separator of lines and a character
outside the first plane. -/
theorem payload_is_understood_with_controls :
    let shell := "\u00a0printf \"%s\" 'a\\b' \n\u00a0"
    let s : ServiceConfig := ⟨"web", shell, none, .empty, false, true⟩
    let f : SetupFile := ⟨[s]⟩
    let directory : Path := ⟨"/srv/\"a b\""⟩
    let environment := Launch.Environment.ofList [("A", "\x00\u2028"), ("B\"", "😀"), ("A", "=")]
    let service : ResolvedService := ⟨"web", shell, directory, environment, true, ⟨"/srv"⟩⟩
    let payload : Launch.Payload := ⟨⟨"sh", ["-c", "printf \"%s\" 'a\\b'"]⟩, directory,
      Word.greatest 64, environment, some 65535⟩
    f.validate = .ok () ∧ s ∈ f.services
      ∧ (Word.least 64 ≤ Word.greatest 64 ∧ Word.greatest 64 ≤ Word.greatest 64)
      ∧ (∀ n : Nat, n ∈ some 65535 → (n : Int) ≤ Word.greatestUnsigned 16)
      ∧ payloadFor service (Word.greatest 64) (some 65535) = payload
      ∧ Text.isBlankText payload.command.program = false
      ∧ Launch.Payload.ofText payload.text = .ok payload := by
  intro shell s f directory environment service payload
  have hvalid : f.validate = .ok () := by decide +kernel
  have hs : s ∈ f.services := List.mem_singleton.mpr rfl
  have hid : Word.least 64 ≤ Word.greatest 64 ∧ Word.greatest 64 ≤ Word.greatest 64 := by decide
  have hport : ∀ n : Nat, n ∈ some 65535 → (n : Int) ≤ Word.greatestUnsigned 16 := by
    intro n hn
    obtain rfl := Option.some.inj hn
    decide
  have hcommand : Launch.Command.ofLine shell = payload.command := by decide +kernel
  obtain ⟨hprogram, hread, hbuilt⟩ :=
    payload_is_understood hvalid hs directory environment (Word.greatest 64) hid (some 65535) hport
  rw [show Launch.Command.ofLine s.shell = payload.command from hcommand] at hprogram hread hbuilt
  exact ⟨hvalid, hs, hid, hport, hbuilt service rfl rfl rfl, hprogram, hread⟩

end Supervisor

end Overseer
