/-
Overseer.Launch.Environment — the variables handed to a process.

An environment maps names to values and keeps the order in which names first
came up. Setting a name again replaces its value.
-/
import Overseer.Json.Value

namespace Overseer.Launch

/-- Variables and their values, one value for a name. -/
structure Environment where
  entries : List (String × String)
  distinct : (entries.map (·.1)).Nodup
deriving DecidableEq

namespace Environment

/-- No variables. -/
def empty : Environment := ⟨[], List.nodup_nil⟩

instance : Inhabited Environment := ⟨empty⟩

/-- Replaces the value of a name where it stands. -/
def replace (name value : String) (entries : List (String × String)) : List (String × String) :=
  entries.map fun e => if e.1 = name then (name, value) else e

/-- Replacing a value keeps the names. -/
theorem names_replace (name value : String) (entries : List (String × String)) :
    (replace name value entries).map (·.1) = entries.map (·.1) := by
  induction entries with
  | nil => rfl
  | cons e es ih =>
    by_cases h : e.1 = name <;> simp_all [replace]

/-- Gives a name a value. -/
def set (env : Environment) (name value : String) : Environment :=
  if h : name ∈ env.entries.map (·.1) then
    ⟨replace name value env.entries, by rw [names_replace]; exact env.distinct⟩
  else
    ⟨env.entries ++ [(name, value)], by
      simp only [List.map_append, List.map_cons, List.map_nil]
      exact List.nodup_append.2 ⟨env.distinct, by simp, by
        intro a ha b hb hab
        simp only [List.mem_singleton] at hb
        exact h (by rw [← hb, ← hab]; exact ha)⟩⟩

/-- The value of a name. -/
def get? (env : Environment) (name : String) : Option String :=
  (env.entries.find? fun e => e.1 == name).map (·.2)

/-- The environment of a list of settings; of two for one name the later counts. -/
def ofList (settings : List (String × String)) : Environment :=
  settings.foldl (fun env s => env.set s.1 s.2) empty

/-- No variable is set. -/
def isEmpty (env : Environment) : Bool := env.entries.isEmpty

/-- The environment as an object of strings. -/
def toJson (env : Environment) : Json.Value :=
  .object (env.entries.map fun e => (e.1, .text e.2))

/-- Reads an object of strings. -/
def ofJson? : Json.Value → Option Environment
  | .obj fields => do
    let settings ← fields.mapM fun f => do
      match f with
      | (some name, .str (some value)) => some (name, value)
      | _ => none
    return ofList settings
  | _ => none

end Environment

end Overseer.Launch
