/-
Overseer.Proofs.Service.Adding — adding services, one after the other.

A service is added by reading the nearest setup file, putting the service behind what
was read, and writing the whole again. Nothing of the old text is kept, so a service
that was not restored when it was read, or that was left out when it was written,
would be lost. That none is follows from two laws: a valid setup file is read back as
it was written (`SetupFile.ofText_text`), and what is in order stays in order exactly
if the new service is sound and its name is new (`SetupFile.validate_add_iff`).

`addService_keeps_setups` is the whole of it, for one call and for any number of them.
-/
import Overseer.Proofs.FileTree
import Overseer.Proofs.Service.Resolving
import Overseer.Proofs.Service.Setup

namespace Overseer

/-! ## 1. One service more -/

namespace SetupFile

/-- The old services follow one another as they did, no default among them if the new one is,
and the new one is the last. -/
theorem add_eq (f : SetupFile) (s : ServiceConfig) : f.add s
    = ⟨f.services.map (fun o => { o with isDefault := o.isDefault && !s.isDefault }) ++ [s]⟩ := by
  cases hdefault : s.isDefault with
  | true => simp [add, hdefault]
  | false => simp [add, hdefault]

theorem names_add (f : SetupFile) (s : ServiceConfig) : (f.add s).names = f.names ++ [s.name] := by
  simp [add_eq, names, Function.comp_def]

theorem isOrderly_empty : IsOrderly ⟨[]⟩ := ⟨by simp, List.nodup_nil, by simp⟩

theorem oneDefault_add {f : SetupFile} (h : f.IsOrderly) (s : ServiceConfig) :
    ((f.add s).services.filter (·.isDefault)).length ≤ 1 := by
  have hone := h.oneDefault
  cases hdefault : s.isDefault with
  | true =>
    have hnone : (f.services.map fun o => { o with isDefault := false }).filter (·.isDefault)
        = [] := by simp [List.filter_eq_nil_iff]
    simp [add, hdefault, hnone]
  | false => simpa [add, hdefault] using hone

/-- **What is in order stays in order** exactly if the new service can be run and its name is
new. -/
theorem validate_add_iff {f : SetupFile} (h : f.IsOrderly) {s : ServiceConfig} :
    (f.add s).validate = .ok () ↔ s.name ∉ f.names ∧ s.IsSound := by
  have hsome : (f.add s).services ≠ [] := by simp [add_eq]
  rw [validate_eq_ok_iff]
  constructor
  · rintro ⟨-, hnew⟩
    have hdistinct := hnew.distinct
    rw [names_add, List.nodup_append] at hdistinct
    refine ⟨fun hold => hdistinct.2.2 _ hold _ (List.mem_singleton_self _) rfl, hnew.sound s ?_⟩
    simp [add_eq]
  · rintro ⟨hname, hs⟩
    refine ⟨hsome, fun t ht => ?_, ?_, oneDefault_add h s⟩
    · rw [add_eq, List.mem_append, List.mem_map, List.mem_singleton] at ht
      obtain ⟨o, ho, rfl⟩ | rfl := ht
      · have hsound := h.sound o ho
        exact ⟨hsound.name, hsound.shell, hsound.root⟩
      · exact hs
    · rw [names_add, List.nodup_append]
      refine ⟨h.distinct, List.pairwise_singleton _ _, fun name hold name' hnew heq => hname ?_⟩
      rwa [← List.mem_singleton.mp hnew, ← heq]

/-! ## 2. Setup files in a tree -/

variable {tree : FileTree} {file : Path} {f : SetupFile}

theorem load_eq_ok_iff : load tree file = .ok f
    ↔ ∃ text, tree.read file = .ok text ∧ ofText text file = .ok f := by
  constructor
  · intro h
    rw [load] at h
    split at h
    · cases h
    · split at h
      · cases h
      · next text hread => exact ⟨text, hread, h⟩
  · rintro ⟨text, hread, htext⟩
    rw [load, if_neg (by simp [FileTree.exists?_of_read hread]), hread]
    exact htext

theorem isOrderly_of_load (h : load tree file = .ok f) : f.IsOrderly := by
  obtain ⟨text, -, htext⟩ := load_eq_ok_iff.mp h
  exact (validate_eq_ok_iff.mp (validate_of_ofText htext)).2

/-- The file was given the setup's text. The text is read back as the setup, and so is the
file, unless it is a device, which takes every text and keeps none. -/
structure IsStored (f : SetupFile) (tree : FileTree) (file : Path) (after : FileTree) : Prop where
  written : tree.write file (f.text ++ "\n") = .ok after
  accepted : ofText (f.text ++ "\n") file = .ok f
  loaded : if tree.isDevice file then after = tree else load after file = .ok f

theorem isStored_of_write {after : FileTree} (hvalid : f.validate = .ok ())
    (hwrite : tree.write file (f.text ++ "\n") = .ok after) : f.IsStored tree file after := by
  refine ⟨hwrite, ofText_text hvalid file, ?_⟩
  split
  next hdevice => exact FileTree.write_device hwrite hdevice
  next hdevice =>
    have hread := FileTree.read_write hwrite (by simpa using hdevice)
    exact load_eq_ok_iff.mpr ⟨_, hread, ofText_text hvalid file⟩

/-- A file that loads does so after a setup was stored, here or elsewhere. -/
theorem IsStored.loads {after : FileTree} {other : Path} {g : SetupFile}
    (h : f.IsStored tree file after) (hload : load tree other = .ok g) :
    ∃ g', load after other = .ok g' := by
  obtain ⟨text, hread, htext⟩ := load_eq_ok_iff.mp hload
  rcases FileTree.read_write_of_read h.written hread with hsame | hnew
  · exact ⟨g, load_eq_ok_iff.mpr ⟨text, hsame, htext⟩⟩
  · exact ⟨f, load_eq_ok_iff.mpr ⟨_, hnew, ofText_text (validate_of_ofText h.accepted) other⟩⟩

end SetupFile

/-! ## 3. One call -/

namespace Project

variable {tree : FileTree} {directory file : Path} {s : ServiceConfig}

/-- The nearest setup file, seen from a directory. -/
def nearestFile? (tree : FileTree) (directory : Path) : Option Path :=
  ((tree.workingDirectory.absolute directory).ancestors.map fileIn).find? tree.isFile

/-- Where a service is added, and what is configured there: the nearest setup file, or else an
empty one in the directory itself. -/
def target (tree : FileTree) (directory : Path) : Except Fault (Path × SetupFile) :=
  let directory := tree.workingDirectory.absolute directory
  -- Not by a match: opening one asks for the path's value, which takes long.
  (nearestFile? tree directory).elim (.ok (fileIn directory, ⟨[]⟩)) fun file =>
    (SetupFile.load tree file).map fun setup => (file, setup)

/-- The project that is found is that of the nearest setup file. -/
theorem find_eq (tree : FileTree) (directory : Path) :
    (find tree directory).map (Option.map fun p => (p.file, p.setup))
      = (nearestFile? tree directory).elim (.ok none) fun file =>
          (SetupFile.load tree file).map fun setup => some (file, setup) := by
  rw [find, nearestFile?]
  induction (tree.workingDirectory.absolute directory).ancestors with
  | nil => rfl
  | cons d rest ih =>
    rw [nearest, List.map_cons, List.find?_cons]
    cases hfile : tree.isFile (fileIn d) with
    | false => exact ih
    | true =>
      rw [if_pos rfl, Option.elim_some]
      cases SetupFile.load tree (fileIn d) <;> rfl

theorem target_eq (tree : FileTree) (directory : Path) : target tree directory
    = ((find tree (tree.workingDirectory.absolute directory)).map
        (Option.map fun p => (p.file, p.setup))).map
          fun found => found.getD (fileIn (tree.workingDirectory.absolute directory), ⟨[]⟩) := by
  rw [find_eq, target]
  cases nearestFile? tree (tree.workingDirectory.absolute directory) with
  | none => rfl
  | some file =>
    rw [Option.elim_some, Option.elim_some]
    cases SetupFile.load tree file <;> rfl

theorem run_get_bind {α : Type} (f : FileTree → ExceptT Fault (StateM FileTree) α)
    (tree : FileTree) : (get >>= f).run.run tree = (f tree).run.run tree := rfl

theorem extendSetup_run (tree : FileTree) (file : Path) (old : SetupFile) (s : ServiceConfig) :
    (extendSetup file old s).run.run tree =
      if (old.service? s.name).isSome then (.error (.serviceExists s.name), tree)
      else match (old.add s).validate with
        | .error cause => (.error (.badSetup file cause), tree)
        | .ok () => match tree.write file ((old.add s).text ++ "\n") with
          | .error cause => (.error (.failedIo cause), tree)
          | .ok after => (.ok file, after) := by
  rw [extendSetup, run_get_bind]
  split
  · rfl
  · dsimp only
    rcases (old.add s).validate with cause | _
    · rfl
    · rcases tree.write file ((old.add s).text ++ "\n") with cause | after <;> rfl

theorem insertService_run (tree : FileTree) (directory : Path) (s : ServiceConfig) :
    (insertService directory s).run.run tree = match target tree directory with
      | .error fault => (.error fault, tree)
      | .ok (file, old) => (extendSetup file old s).run.run tree := by
  rw [target_eq, insertService, run_get_bind]
  dsimp only
  -- The path is made a variable, since its value takes long.
  generalize tree.workingDirectory.absolute directory = place
  rcases find tree place with fault | _ | p <;> rfl

/-- A setup file that could not be extended has not changed, nor has any other file. -/
theorem tree_of_extendSetup_error {old : SetupFile} {fault : Fault}
    (h : ((extendSetup file old s).run.run tree).1 = .error fault) :
    ((extendSetup file old s).run.run tree).2 = tree := by
  rw [extendSetup_run] at h ⊢
  split_ifs with hold
  · rfl
  · rw [if_neg hold] at h
    rcases hvalid : (old.add s).validate with cause | _
    · rfl
    · rcases hwrite : tree.write file ((old.add s).text ++ "\n") with cause | after
      · rfl
      · rw [hvalid, hwrite] at h
        cases h

/-- Whatever keeps a service from being added, all files are as they were. -/
theorem tree_of_insertService_error {fault : Fault}
    (h : ((insertService directory s).run.run tree).1 = .error fault) :
    ((insertService directory s).run.run tree).2 = tree := by
  rw [insertService_run] at h ⊢
  rcases htarget : target tree directory with cause | ⟨file, old⟩
  · rfl
  · rw [htarget] at h
    exact tree_of_extendSetup_error h

/-- What is configured where a service is added is in order, or else the call fails. -/
theorem isOrderly_of_target {old : SetupFile} (h : target tree directory = .ok (file, old)) :
    old.IsOrderly := by
  rw [target] at h
  cases hnear : nearestFile? tree (tree.workingDirectory.absolute directory) with
  | none =>
    rw [hnear, Option.elim_none, Except.ok.injEq, Prod.mk.injEq] at h
    exact h.2 ▸ SetupFile.isOrderly_empty
  | some nearest =>
    rw [hnear, Option.elim_some] at h
    cases hload : SetupFile.load tree nearest with
    | error fault => simp [hload, Except.map] at h
    | ok setup =>
      rw [hload, Except.map, Except.ok.injEq, Prod.mk.injEq] at h
      exact h.2 ▸ SetupFile.isOrderly_of_load hload

theorem addService_eq (tree : FileTree) (directory : Path) (s : ServiceConfig) :
    addService tree directory s = (target tree directory).bind fun (file, old) =>
      if (old.service? s.name).isSome then .error (.serviceExists s.name)
      else match (old.add s).validate with
        | .error cause => .error (.badSetup file cause)
        | .ok () => match tree.write file ((old.add s).text ++ "\n") with
          | .error cause => .error (.failedIo cause)
          | .ok after => .ok (file, after) := by
  rw [addService, insertService_run]
  rcases target tree directory with fault | ⟨file, old⟩
  · rfl
  · simp only [extendSetup_run, Except.bind]
    split
    · rfl
    · rcases (old.add s).validate with cause | _
      · rfl
      · rcases tree.write file ((old.add s).text ++ "\n") with cause | after <;> rfl

/-- **When a service is added**: all that a call can do and all that it asks for. That the name
is new is not said apart, since the services would not be valid with a name twice. -/
theorem addService_eq_ok_iff {after : FileTree} : addService tree directory s = .ok (file, after)
    ↔ ∃ old, target tree directory = .ok (file, old) ∧ (old.add s).validate = .ok ()
      ∧ tree.write file ((old.add s).text ++ "\n") = .ok after := by
  rw [addService_eq]
  constructor
  · intro h
    rcases htarget : target tree directory with fault | ⟨place, old⟩
    · simp [htarget, Except.bind] at h
    · simp only [htarget, Except.bind] at h
      split_ifs at h
      rcases hvalid : (old.add s).validate with cause | u
      · simp [hvalid] at h
      · rcases hwrite : tree.write place ((old.add s).text ++ "\n") with cause | written
        · simp [hvalid, hwrite] at h
        · simp only [hvalid, hwrite, Except.ok.injEq, Prod.mk.injEq] at h
          obtain ⟨rfl, rfl⟩ := h
          exact ⟨old, rfl, hvalid, hwrite⟩
  · rintro ⟨old, htarget, hvalid, hwrite⟩
    have hname := ((SetupFile.validate_add_iff (isOrderly_of_target htarget)).mp hvalid).1
    have hold : ¬(old.service? s.name).isSome = true := fun h =>
      hname (SetupFile.service?_isSome_iff.mp h)
    simp only [htarget, Except.bind, if_neg hold, hvalid, hwrite]

/-- What a call stores, and where. -/
theorem isStored_of_addService {after : FileTree}
    (h : addService tree directory s = .ok (file, after)) :
    ∃ old, target tree directory = .ok (file, old) ∧ (old.add s).IsStored tree file after := by
  obtain ⟨old, htarget, hvalid, hwrite⟩ := addService_eq_ok_iff.mp h
  exact ⟨old, htarget, SetupFile.isStored_of_write hvalid hwrite⟩

/-! ## 4. Any number of calls -/

/-- A service that is to be added, and where. -/
structure Addition where
  directory : Path
  service : ServiceConfig

/-- The tree that a call leaves, whatever it comes to. -/
def treeAfter (tree : FileTree) (call : Addition) : FileTree :=
  ((insertService call.directory call.service).run.run tree).2

/-- The tree that calls leave, one after the other. -/
def treeAfterAll (tree : FileTree) (calls : List Addition) : FileTree := calls.foldl treeAfter tree

/-- One of the calls gave the file its text, and it is no device. -/
def IsWritten (tree : FileTree) (calls : List Addition) (file : Path) : Prop :=
  ∃ earlier call later after, calls = earlier ++ call :: later
    ∧ addService (treeAfterAll tree earlier) call.directory call.service = .ok (file, after)
    ∧ (treeAfterAll tree earlier).isDevice file = false

theorem treeAfter_of_ok (call : Addition) {after : FileTree}
    (h : addService tree call.directory call.service = .ok (file, after)) :
    treeAfter tree call = after := by
  rw [addService] at h
  rw [treeAfter]
  generalize (insertService call.directory call.service).run.run tree = left at h ⊢
  obtain ⟨fault | place, left⟩ := left
  · cases h
  · exact congrArg Prod.snd (Except.ok.inj h)

theorem treeAfter_of_error (call : Addition) {fault : Fault}
    (h : addService tree call.directory call.service = .error fault) :
    treeAfter tree call = tree := by
  have herror : ((insertService call.directory call.service).run.run tree).1 = .error fault := by
    rw [addService] at h
    generalize (insertService call.directory call.service).run.run tree = left at h ⊢
    obtain ⟨cause | place, left⟩ := left
    · cases h
      rfl
    · cases h
  exact tree_of_insertService_error herror

theorem treeAfterAll_append (tree : FileTree) (earlier later : List Addition) :
    treeAfterAll tree (earlier ++ later) = treeAfterAll (treeAfterAll tree earlier) later := by
  simp only [treeAfterAll, List.foldl_append]

theorem treeAfterAll_cons (tree : FileTree) (call : Addition) (later : List Addition) :
    treeAfterAll tree (call :: later) = treeAfterAll (treeAfter tree call) later := by
  simp only [treeAfterAll, List.foldl_cons]

/-- A file that loads does so after a call, whatever becomes of it. -/
theorem loads_treeAfter {f : SetupFile} (h : SetupFile.load tree file = .ok f)
    (call : Addition) : ∃ f', SetupFile.load (treeAfter tree call) file = .ok f' := by
  rcases hadd : addService tree call.directory call.service with fault | ⟨place, after⟩
  · rw [treeAfter_of_error _ hadd]
    exact ⟨f, h⟩
  · obtain ⟨old, -, hstored⟩ := isStored_of_addService hadd
    rw [treeAfter_of_ok _ hadd]
    exact hstored.loads h

theorem loads_treeAfterAll {f : SetupFile} (h : SetupFile.load tree file = .ok f)
    (calls : List Addition) : ∃ f', SetupFile.load (treeAfterAll tree calls) file = .ok f' := by
  induction calls generalizing tree f with
  | nil => exact ⟨f, h⟩
  | cons call calls ih =>
    obtain ⟨f', hload⟩ := loads_treeAfter h call
    rw [treeAfterAll_cons]
    exact ih hload

/-- A file that a call gave its text loads after the calls that follow. -/
theorem IsWritten.loads {calls : List Addition} (h : IsWritten tree calls file) :
    ∃ f, SetupFile.load (treeAfterAll tree calls) file = .ok f := by
  obtain ⟨earlier, call, later, after, rfl, hadd, hdevice⟩ := h
  obtain ⟨old, -, hstored⟩ := isStored_of_addService hadd
  have hload : SetupFile.load after file = .ok (old.add call.service) := by
    simpa [hdevice] using hstored.loaded
  rw [treeAfterAll_append, treeAfterAll_cons, treeAfter_of_ok _ hadd]
  exact loads_treeAfterAll hload later

/-- **Adding services loses none and leaves every setup file in order.** A call that fails
leaves the tree as it was. A call that succeeds stores what was configured there, the old
default no default any more if there is a new one, and the new service behind it. It succeeds
exactly if the service is sound, its name new and the file one that can be written. So
however many services are added, a file that loads or that was written loads afterwards, no
two of its services have one name, and one at most is the default. -/
theorem addService_keeps_setups (tree : FileTree) (directory : Path) (s : ServiceConfig) :
    let added (old : SetupFile) : SetupFile :=
      ⟨old.services.map (fun o => { o with isDefault := o.isDefault && !s.isDefault }) ++ [s]⟩
    (∀ fault, addService tree directory s = .error fault → treeAfter tree ⟨directory, s⟩ = tree)
    ∧ (∀ file after, addService tree directory s = .ok (file, after) →
        ∃ old, target tree directory = .ok (file, old) ∧ (added old).IsStored tree file after)
    ∧ (∀ file old, target tree directory = .ok (file, old) →
        ((∃ after, addService tree directory s = .ok (file, after)) ↔
          (s.name ∉ old.names ∧ isServiceName s.name = true ∧ Text.isBlankText s.shell = false
            ∧ ∀ root ∈ s.root, root.staysInside = true)
          ∧ ∃ after, tree.write file ((added old).text ++ "\n") = .ok after))
    ∧ ∀ calls file, (∃ f, SetupFile.load tree file = .ok f) ∨ IsWritten tree calls file →
        ∃ f, SetupFile.load (treeAfterAll tree calls) file = .ok f ∧ f.names.Nodup
          ∧ (f.services.filter (·.isDefault)).length ≤ 1 := by
  simp only [← SetupFile.add_eq]
  refine ⟨fun fault h => treeAfter_of_error _ h, fun file after h => isStored_of_addService h,
    fun file old htarget => ?_, fun calls file h => ?_⟩
  · have hvalid := SetupFile.validate_add_iff (s := s) (isOrderly_of_target htarget)
    constructor
    · rintro ⟨after, hadd⟩
      obtain ⟨old', htarget', hnew, hwrite⟩ := addService_eq_ok_iff.mp hadd
      obtain rfl : old = old' := by simpa [htarget] using htarget'
      obtain ⟨hname, hs⟩ := hvalid.mp hnew
      exact ⟨⟨hname, hs.name, hs.shell, hs.root⟩, after, hwrite⟩
    · rintro ⟨⟨hname, hservice, hshell, hroot⟩, after, hwrite⟩
      have hnew := hvalid.mpr ⟨hname, hservice, hshell, hroot⟩
      exact ⟨after, addService_eq_ok_iff.mpr ⟨old, htarget, hnew, hwrite⟩⟩
  · obtain ⟨f, hload⟩ : ∃ f, SetupFile.load (treeAfterAll tree calls) file = .ok f := by
      rcases h with ⟨f, hload⟩ | hwritten
      · exact loads_treeAfterAll hload calls
      · exact hwritten.loads
    have horderly := SetupFile.isOrderly_of_load hload
    exact ⟨f, hload, horderly.distinct, horderly.oneDefault⟩

/-- A service that is the default. -/
def webService : ServiceConfig := ⟨"web", "serve", none, .empty, true, false⟩

/-- A service below the project that wants to be the default and to have a port. -/
def storeService : ServiceConfig := ⟨"store", "keep", some ⟨"data"⟩, .empty, true, true⟩

/-- A project in which the first of the two is configured. -/
def webProject : FileTree := treeAfter (FileTree.ofRoot ⟨"/p"⟩) ⟨⟨"."⟩, webService⟩

/-- A second default takes the place of the first one; its name cannot be taken again, and the
file loads after both calls. -/
theorem addService_keeps_setups_with_new_default :
    let file : Path := ⟨"/p/.lantern-setup.json"⟩
    (∃ after, addService webProject ⟨"sub"⟩ storeService = .ok (file, after)
      ∧ SetupFile.IsStored ⟨[{ webService with isDefault := false }, storeService]⟩
        webProject file after)
    ∧ treeAfter webProject ⟨⟨"sub"⟩, webService⟩ = webProject
    ∧ ∃ f, SetupFile.load (treeAfterAll webProject
          [⟨⟨"sub"⟩, storeService⟩, ⟨⟨"sub"⟩, webService⟩]) file = .ok f
        ∧ f.names.Nodup ∧ (f.services.filter (·.isDefault)).length ≤ 1 := by
  have htarget : target webProject ⟨"sub"⟩ = .ok (⟨"/p/.lantern-setup.json"⟩, ⟨[webService]⟩) := by
    decide +kernel
  have hfails : addService webProject ⟨"sub"⟩ webService = .error (.serviceExists "web") := by
    rw [addService_eq, htarget]
    rfl
  have hstored := addService_keeps_setups webProject ⟨"sub"⟩ storeService
  have hrefused := addService_keeps_setups webProject ⟨"sub"⟩ webService
  refine ⟨?_, hrefused.1 _ hfails, ?_⟩
  · have hwrites := FileTree.exists_write_of_isFile (t := webProject)
      (p := ⟨"/p/.lantern-setup.json"⟩) (by decide +kernel) (by decide +kernel)
    obtain ⟨after, hadd⟩ := (hstored.2.2.1 _ _ htarget).mpr
      ⟨⟨by decide, by decide +kernel, by decide +kernel, by decide +kernel⟩, hwrites _⟩
    obtain ⟨old, htarget', hafter⟩ := hstored.2.1 _ _ hadd
    obtain rfl : (⟨[webService]⟩ : SetupFile) = old := by simpa [htarget] using htarget'
    exact ⟨after, hadd, hafter⟩
  · have hload : SetupFile.load webProject ⟨"/p/.lantern-setup.json"⟩ = .ok ⟨[webService]⟩ := by
      decide +kernel
    exact hstored.2.2.2 _ _ (Or.inl ⟨_, hload⟩)

end Project

end Overseer
