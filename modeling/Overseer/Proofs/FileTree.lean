/-
Overseer.Proofs.FileTree — what a write changes, and what it leaves.

A write gives one place a new content and touches nothing else: no directory, no link
and no other file. So whatever a path led to before it leads to afterwards, except
that a file at the place that was written has the new content (`lookup_put`). From
this follow the two facts that are used: what was written is read back, unless it was
written to a device (`read_write`), and what could be read before can be read
afterwards, as it was or as what was written (`read_write_of_read`).

A path that led nowhere may lead nowhere for another reason afterwards, since a file
can now stand where nothing stood; that is why the law is about paths that lead
somewhere.
-/
import Mathlib.Tactic.SplitIfs
import Overseer.FileTree
import Overseer.Proofs.Path

namespace Overseer.FileTree

/-! ## 1. One place with a new content -/

theorem find?_put_map (files : List (Path × FileContent)) (place p : Path)
    (content : FileContent) :
    (files.map fun f => if f.1 = place then (place, content) else f).find? (·.1 == p)
      = (files.find? (·.1 == p)).map fun f => if f.1 = place then (place, content) else f := by
  rw [List.find?_map]
  refine congrArg _ (congrArg (files.find? ·) (funext fun f => ?_))
  by_cases hf : f.1 = place <;> simp [hf]

/-- The file of a name after a file was put. -/
theorem find?_put (t : FileTree) (place p : Path) (content : FileContent) :
    (t.put place content).files.find? (·.1 == p)
      = if p = place then some (place, content) else t.files.find? (·.1 == p) := by
  rw [put]
  split
  next hany =>
    rw [find?_put_map]
    by_cases hp : p = place
    · subst hp
      rcases hfind : t.files.find? (·.1 == p) with _ | f
      · simp only [List.find?_eq_none] at hfind
        obtain ⟨f, hf, hname⟩ := List.any_eq_true.mp hany
        exact absurd hname (hfind f hf)
      · have hname : f.1 = p := by simpa using List.find?_some hfind
        simp [hfind, hname]
    · rcases hfind : t.files.find? (·.1 == p) with _ | f
      · simp [hfind, hp]
      · have hname : f.1 = p := by simpa using List.find?_some hfind
        simp [hfind, hp, hname]
  next hany =>
    rw [List.find?_append]
    by_cases hp : p = place
    · subst hp
      have hnone : t.files.find? (·.1 == p) = none := by
        rw [List.find?_eq_none]
        exact fun f hf hname => hany (List.any_eq_true.mpr ⟨f, hf, hname⟩)
      simp [hnone]
    · have hother : (place == p) = false := by simpa using Ne.symm hp
      simp [hp, hother]

/-- What a name leads to when the file of a place has a new content. -/
def Node.holding (place : Path) (content : FileContent) : Node → Node
  | .directory names => .directory names
  | .file names old => .file names (if placeOf names = place then content else old)
  | .vacant names => if placeOf names = place then .file names content else .vacant names

variable {t : FileTree} {place : Path} {content : FileContent}

theorem directories_put : (t.put place content).directories = t.directories := by
  rw [put]
  split <;> rfl

theorem links_put : (t.put place content).links = t.links := by
  rw [put]
  split <;> rfl

theorem workingDirectory_put :
    (t.put place content).workingDirectory = t.workingDirectory := by
  rw [put]
  split <;> rfl

theorem entry_put (names : List (List Char)) :
    (t.put place content).entry names = (t.entry names).holding place content := by
  simp only [entry, directories_put, find?_put]
  split
  · rfl
  · by_cases hp : placeOf names = place
    · cases t.files.find? (·.1 == placeOf names) <;> simp [hp, Node.holding]
    · cases t.files.find? (·.1 == placeOf names) <;> simp [hp, Node.holding]

theorem reach_put {names : List (List Char)} {node : Node} (h : t.reach names = .ok node) :
    (t.put place content).reach names = .ok (node.holding place content) := by
  rw [reach] at h ⊢
  rw [links_put]
  split at h
  · rw [← Except.ok.inj h, entry_put]
  · split at h
    · cases h
    · next hgoal => rw [if_neg hgoal, ← Except.ok.inj h, entry_put]

theorem follow_put {node node' : Node} {part : List Char} (h : t.follow node part = .ok node') :
    (t.put place content).follow (node.holding place content) part
      = .ok (node'.holding place content) := by
  cases node with
  | vacant names => cases h
  | file names old => cases h
  | directory names =>
    rw [follow] at h
    rw [Node.holding, follow]
    split_ifs at h ⊢
    · rw [← Except.ok.inj h]
      rfl
    · rw [← Except.ok.inj h]
      rfl
    · exact reach_put h

theorem foldlM_follow_put {parts : List (List Char)} {node node' : Node}
    (h : parts.foldlM t.follow node = .ok node') :
    parts.foldlM (t.put place content).follow (node.holding place content)
      = .ok (node'.holding place content) := by
  induction parts generalizing node with
  | nil =>
    rw [← Except.ok.inj h]
    rfl
  | cons part parts ih =>
    rw [List.foldlM_cons] at h ⊢
    cases hfirst : t.follow node part with
    | error cause => simp [hfirst, bind, Except.bind] at h
    | ok next =>
      rw [hfirst] at h
      rw [follow_put hfirst]
      exact ih h

/-- A path leads where it led, and a file at the place has the new content. -/
theorem lookup_put {p : Path} {node : Node} (h : t.lookup p = .ok node) :
    (t.put place content).lookup p = .ok (node.holding place content) := by
  rw [lookup] at h ⊢
  rw [workingDirectory_put]
  split_ifs at h ⊢
  exact foldlM_follow_put h

/-! ## 2. Writing -/

/-- The path leads to a device, which keeps nothing of what is written to it. -/
def isDevice (t : FileTree) (p : Path) : Bool :=
  match t.lookup p with
  | .ok (.file _ .device) => true
  | _ => false

variable {t' : FileTree} {p : Path} {text : String}

/-- A write goes to a place to which the path leads, or is lost in a device. -/
theorem write_eq_ok (h : t.write p text = .ok t') :
    holdsNul p = false ∧ ((t.isDevice p = true ∧ t' = t)
      ∨ t.isDevice p = false ∧ ∃ names, t' = t.put (placeOf names) (.text text)
        ∧ (t.lookup p = .ok (.vacant names) ∨ ∃ old, t.lookup p = .ok (.file names old))) := by
  rw [write] at h
  split at h
  · cases h
  · next hnul =>
    refine ⟨by simpa using hnul, ?_⟩
    rw [isDevice]
    rcases hlookup : t.lookup p with cause | names | ⟨names, old⟩ | names
    · simp [hlookup] at h
    · simp [hlookup] at h
    · cases old with
      | device =>
        simp only [hlookup] at h
        exact Or.inl ⟨rfl, (Except.ok.inj h).symm⟩
      | text s =>
        simp only [hlookup] at h
        exact Or.inr ⟨rfl, names, (Except.ok.inj h).symm, Or.inr ⟨_, rfl⟩⟩
      | octets os =>
        simp only [hlookup] at h
        exact Or.inr ⟨rfl, names, (Except.ok.inj h).symm, Or.inr ⟨_, rfl⟩⟩
    · simp only [hlookup] at h
      exact Or.inr ⟨rfl, names, (Except.ok.inj h).symm, Or.inl rfl⟩

/-- What was written is there. -/
theorem lookup_write (h : t.write p text = .ok t') (hdevice : t.isDevice p = false) :
    ∃ names, t'.lookup p = .ok (.file names (.text text)) := by
  obtain ⟨-, ⟨hdevice', -⟩ | ⟨-, names, rfl, hlookup⟩⟩ := write_eq_ok h
  · simp [hdevice] at hdevice'
  · refine ⟨names, ?_⟩
    rcases hlookup with hvacant | ⟨old, hfile⟩
    · rw [lookup_put hvacant, Node.holding, if_pos rfl]
    · rw [lookup_put hfile, Node.holding, if_pos rfl]

/-- What is a file stays one, with its content or with what was written. -/
theorem lookup_file_write {q : Path} {names : List (List Char)} {old : FileContent}
    (h : t.write p text = .ok t') (hq : t.lookup q = .ok (.file names old)) :
    t'.lookup q = .ok (.file names old) ∨ t'.lookup q = .ok (.file names (.text text)) := by
  obtain ⟨-, ⟨-, rfl⟩ | ⟨-, place, rfl, -⟩⟩ := write_eq_ok h
  · exact Or.inl hq
  · rw [lookup_put hq, Node.holding]
    split
    · exact Or.inr rfl
    · exact Or.inl rfl

/-- A device takes every text and keeps none. -/
theorem write_device (h : t.write p text = .ok t') (hdevice : t.isDevice p = true) : t' = t := by
  obtain ⟨-, ⟨-, hsame⟩ | ⟨hdevice', -⟩⟩ := write_eq_ok h
  · exact hsame
  · simp [hdevice] at hdevice'

/-- A file that is there can be written. -/
theorem exists_write_of_isFile (hnul : holdsNul p = false) (h : t.isFile p = true)
    (text : String) : ∃ t', t.write p text = .ok t' := by
  rw [write, if_neg (by simp [hnul])]
  rw [isFile] at h
  rcases hlookup : t.lookup p with cause | names | ⟨names, old⟩ | names
  · simp [hlookup] at h
  · simp [hlookup] at h
  · cases old with
    | device => simp [hlookup] at h
    | text s => exact ⟨_, rfl⟩
    | octets os => exact ⟨_, rfl⟩
  · simp [hlookup] at h

/-! ## 3. Reading -/

theorem read_eq_ok_iff {s : String} : t.read p = .ok s ↔ holdsNul p = false
    ∧ ∃ names content, t.lookup p = .ok (.file names content) ∧ content.text? = some s := by
  constructor
  · intro h
    rw [read] at h
    split_ifs at h with hnul
    rcases hlookup : t.lookup p with cause | names | ⟨names, content⟩ | names
    · simp [hlookup] at h
    · simp [hlookup] at h
    · refine ⟨by simpa using hnul, names, content, rfl, ?_⟩
      cases htext : content.text? with
      | none => simp [hlookup, htext] at h
      | some s' => simpa [hlookup, htext] using h
    · simp [hlookup] at h
  · rintro ⟨hnul, names, content, hlookup, htext⟩
    rw [read, if_neg (by simp [hnul]), hlookup]
    simp only [htext]

theorem exists?_of_read {s : String} (h : t.read p = .ok s) : t.exists? p = true := by
  obtain ⟨-, names, content, hlookup, -⟩ := read_eq_ok_iff.mp h
  simp [exists?, hlookup]

/-- **What was written is read back**, unless a device took it. -/
theorem read_write (h : t.write p text = .ok t') (hdevice : t.isDevice p = false) :
    t'.read p = .ok text := by
  obtain ⟨names, hlookup⟩ := lookup_write h hdevice
  exact read_eq_ok_iff.mpr ⟨(write_eq_ok h).1, names, _, hlookup, rfl⟩

/-- **What could be read can be read**: as it was, or as what was written. -/
theorem read_write_of_read {q : Path} {old : String} (h : t.write p text = .ok t')
    (hq : t.read q = .ok old) : t'.read q = .ok old ∨ t'.read q = .ok text := by
  obtain ⟨hnul, names, content, hlookup, htext⟩ := read_eq_ok_iff.mp hq
  rcases lookup_file_write h hlookup with hsame | hnew
  · exact Or.inl (read_eq_ok_iff.mpr ⟨hnul, names, content, hsame, htext⟩)
  · exact Or.inr (read_eq_ok_iff.mpr ⟨hnul, names, _, hnew, rfl⟩)

theorem isFile_iff : t.isFile p = true
    ↔ ∃ names content, t.lookup p = .ok (.file names content) ∧ content ≠ .device := by
  rw [isFile]
  rcases t.lookup p with cause | names | ⟨names, content⟩ | names
  · simp
  · simp
  · cases content <;> simp [and_assoc]
  · simp

theorem exists?_of_isFile (h : t.isFile p = true) : t.exists? p = true := by
  obtain ⟨names, content, hlookup, -⟩ := isFile_iff.mp h
  rw [exists?, hlookup]

/-! ## 4. Seen from another directory -/

/-- A path that begins at the top leads to the same from everywhere. -/
theorem lookup_from (h : p.isAbsolute = true) (workingDirectory : Path) :
    { t with workingDirectory := workingDirectory }.lookup p = t.lookup p := by
  rw [lookup, lookup, Path.join_of_isAbsolute h, Path.join_of_isAbsolute h]
  rfl

theorem read_from (h : p.isAbsolute = true) (workingDirectory : Path) :
    { t with workingDirectory := workingDirectory }.read p = t.read p := by
  rw [read, read, lookup_from h]

end Overseer.FileTree
