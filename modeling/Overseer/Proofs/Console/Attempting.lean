/-
Overseer.Proofs.Console.Attempting — starting services finds all of them or tries none,
and then tries each.

The law of the command is `performStart_run`. Finding the services asks the setup file and
nothing else (`findAll_run`), so a name that is not there leaves everything as it was. Once
all are found and the store is open nothing breaks off what follows: what comes of a launch
is an answer and not a failure, and printing cannot fail (`Says`). So the services are
launched one after the other, and what is printed and whether the command fails are
functions of the outcomes.

`start_tries_all_or_none` puts it in terms of the names.
-/
import Overseer.Console.Perform
import Overseer.Proofs.Service.Resolving
import Overseer.Proofs.Supervisor.Cast
import Overseer.Proofs.Supervisor.Turns

namespace Overseer.Console

open Supervisor
open Report (Style)

variable {σ α β : Type} {p : Platform σ} {settings : Settings}

/-- What comes after a command, unless the command fails. -/
theorem run_bind (c : Cmd σ α) (f : α → Cmd σ β) (s : Shell σ) :
    (c >>= f).run.run s = match c.run.run s with
      | (.ok x, s') => (f x).run.run s'
      | (.error e, s') => (.error e, s') := by
  simp only [ExceptT.run_bind, StateT.run_bind]
  rcases c.run.run s with ⟨_ | _, _⟩ <;> rfl

theorem run_get_bind (f : Shell σ → Cmd σ β) (s : Shell σ) :
    (get >>= f).run.run s = (f s).run.run s := rfl

/-! ## 1. Printing -/

/-- What is printed, on the output and on the error output. -/
structure Printed where
  out : String
  err : String

namespace Printed

/-- Nothing. -/
def nothing : Printed := ⟨"", ""⟩

/-- A line of the output. -/
def line (text : String) : Printed := ⟨text ++ "\n", ""⟩

/-- A line of the error output. -/
def complaint (text : String) : Printed := ⟨"", text ++ "\n"⟩

instance : Append Printed := ⟨fun a b => ⟨a.out ++ b.out, a.err ++ b.err⟩⟩

/-- One after the other. -/
def join : List Printed → Printed
  | [] => nothing
  | a :: rest => a ++ join rest

end Printed

/-- The shell when this was printed. -/
def Shell.printing (s : Shell σ) (a : Printed) : Shell σ :=
  { s with out := s.out ++ a.out, err := s.err ++ a.err }

theorem Shell.printing_nothing (s : Shell σ) : s.printing .nothing = s := by
  simp [printing, Printed.nothing]

theorem Shell.printing_append (s : Shell σ) (a b : Printed) :
    s.printing (a ++ b) = (s.printing a).printing b := by
  have happend : a ++ b = ⟨a.out ++ b.out, a.err ++ b.err⟩ := rfl
  simp [printing, happend, String.append_assoc]

/-- In shells of this kind the command prints this and does nothing else. -/
def Says (json colors : Bool) (c : Cmd σ Unit) (a : Printed) : Prop :=
  ∀ s, s.json = json → s.colors = colors → c.run.run s = (.ok (), s.printing a)

variable {json colors : Bool}

theorem says_pure : Says (σ := σ) json colors (pure ()) .nothing := fun s _ _ => by
  rw [Shell.printing_nothing]
  rfl

theorem Says.bind {c d : Cmd σ Unit} {a b : Printed} (hc : Says json colors c a)
    (hd : Says json colors d b) : Says json colors (c >>= fun _ => d) (a ++ b) := by
  intro s hjson hcolors
  rw [run_bind, hc s hjson hcolors, Shell.printing_append]
  exact hd _ hjson hcolors

theorem says_get {f : Shell σ → Cmd σ Unit} {a : Printed}
    (h : ∀ s, s.json = json → s.colors = colors → Says json colors (f s) a) :
    Says json colors (get >>= f) a := fun s hjson hcolors =>
  h s hjson hcolors s hjson hcolors

theorem says_forM {l : List α} {f : α → Cmd σ PUnit} {said : α → Printed}
    (h : ∀ x, Says json colors (f x) (said x)) :
    Says json colors (l.forM f) (.join (l.map said)) := by
  induction l with
  | nil => exact says_pure
  | cons x rest ih => exact (h x).bind ih

theorem says_say (text : String) : Says (σ := σ) json colors (say text) (.line text) := by
  intro s _ _
  have hsay : (say text).run.run s = (.ok (), { s with out := s.out ++ text ++ "\n" }) := rfl
  simp [hsay, Shell.printing, Printed.line, String.append_assoc]

theorem says_complain (text : String) :
    Says (σ := σ) json colors (complain text) (.complaint text) := by
  intro s _ _
  have hcomplain : (complain text).run.run s = (.ok (), { s with err := s.err ++ text ++ "\n" }) :=
    rfl
  simp [hcomplain, Shell.printing, Printed.complaint, String.append_assoc]

/-- A message behind its sign. -/
def marked (colors : Bool) (style : Style) (sign message : String) : String :=
  style.paint colors sign ++ " " ++ message

theorem says_praise (message : String) : Says (σ := σ) json colors (praise message)
    (.line (marked colors .green "✓" message)) :=
  says_get fun _ _ hcolors => hcolors ▸ says_say _

theorem says_inform (message : String) : Says (σ := σ) json colors (inform message)
    (.line (marked colors .blue "ℹ" message)) :=
  says_get fun _ _ hcolors => hcolors ▸ says_say _

theorem says_regret (message : String) : Says (σ := σ) json colors (regret message)
    (.complaint (marked colors .red "✗" message)) :=
  says_get fun _ _ hcolors => hcolors ▸ says_complain _

theorem says_tell_document (v : Json.Value) (text : Cmd σ Unit) :
    Says true colors (tell v text) (.line v.pretty) :=
  says_get fun s hjson _ => by
    rw [hjson]
    exact says_say _

theorem Says.tell {text : Cmd σ Unit} {a : Printed} (h : Says false colors text a)
    (v : Json.Value) : Says false colors (tell v text) a :=
  says_get fun s hjson _ => by
    rw [hjson]
    exact h

/-! ## 2. What is said of launches -/

/-- What is printed of one launch of several. -/
def StartResult.said (json colors : Bool) (r : StartResult) : Printed :=
  if json then .nothing
  else match r.outcome with
    | .ok report =>
      .join (report.replaced.map fun old => .line (marked colors .blue "ℹ" (stoppedText old)))
        ++ .line (marked colors .green "✓" (startedText report.record))
    | .error f => .complaint (marked colors .red "✗" s!"{r.name}: {f.message}")

theorem says_tellResult (r : StartResult) :
    Says (σ := σ) json colors (tellResult r) (r.said json colors) := by
  refine says_get fun s hjson _ => ?_
  rw [hjson, StartResult.said]
  cases json with
  | true => exact says_pure
  | false =>
    cases r.outcome with
    | ok report => exact ((says_forM fun _ => says_inform _).bind (says_praise _)).tell _
    | error f => exact says_regret _

/-- What is printed of all launches together: a document for each, or how many went well if
there are several. -/
def summary (json : Bool) (results : List StartResult) : Printed :=
  let total := results.length
  if json then .line (Json.Value.arr (results.map (·.toJson))).pretty
  else if total > 1 then .line s!"Started {total - failures results} of {total} services"
  else .nothing

/-- How the command ends after these launches. -/
def verdict (results : List StartResult) : Except Failure Unit :=
  let failed := failures results
  if failed > 0 then .error (.told s!"{failed} of {results.length} services failed to start")
  else .ok ()

theorem verdict_eq_ok_iff {results : List StartResult} :
    verdict results = .ok () ↔ ∀ r ∈ results, ∃ report, r.outcome = .ok report := by
  have hnone : failures results = 0 ↔ ∀ r ∈ results, ∃ report, r.outcome = .ok report := by
    rw [failures, List.length_eq_zero_iff, List.filter_eq_nil_iff]
    refine forall₂_congr fun r _ => ?_
    rw [StartResult.failed]
    cases r.outcome <;> simp
  rw [← hnone, verdict]
  split <;> simp <;> omega

/-- All that is printed: what is said of each launch, in order, and of all together. -/
def printedOf (json colors : Bool) (results : List StartResult) : Printed :=
  Printed.join (results.map (StartResult.said json colors)) ++ summary json results

theorem says_tellTogether (results : List StartResult) :
    Says (σ := σ) json colors (tellTogether results) (summary json results) := by
  cases json with
  | true => exact says_tell_document _ _
  | false =>
    refine Says.tell ?_ _
    rw [summary, if_neg Bool.false_ne_true]
    split
    · exact says_say _
    · exact says_pure

/-! ## 3. Launching -/

/-- What is known of launches, by the names of the services. -/
def resultsOf (services : List ResolvedService) (outcomes : List (Except Fault RunReport)) :
    List StartResult :=
  List.zipWith (fun service outcome => ⟨service.name, outcome⟩) services outcomes

theorem openStore_run (s : Shell σ) :
    (openStore (σ := σ)).run.run s = match Store.openIn s.tree s.stateDir with
      | .error cause => (.error (.fault (.store cause)), s)
      | .ok tree => (.ok (), { s with tree }) := by
  rw [openStore, run_get_bind]
  cases Store.openIn s.tree s.stateDir <;> rfl

theorem useStore_attempt (act : Act σ α) (s : Shell σ) :
    (useStore (attempt act)).run.run s
      = (.ok (act.run.run s.world).1, { s with world := (act.run.run s.world).2 }) := rfl

/-- **Every service is tried**, whatever becomes of the others. -/
theorem startEach_run (p : Platform σ) (settings : Settings) (services : List ResolvedService)
    (s : Shell σ) :
    let launched := (launchEach p settings services).run s.world
    let results := resultsOf services launched.1
    (startEach p settings services).run.run s = (.ok results,
      { s with world := launched.2 }.printing
        (.join (results.map (StartResult.said s.json s.colors)))) := by
  induction services generalizing s with
  | nil => exact congrArg (fun s' => (Except.ok [], s')) s.printing_nothing.symm
  | cons service rest ih =>
    intro launched results
    let ran := (run p settings service).run.run s.world
    let result : StartResult := ⟨service.name, ran.1⟩
    let told := { s with world := ran.2 }.printing (result.said s.json s.colors)
    have htold : (tellResult result).run.run { s with world := ran.2 } = (.ok (), told) :=
      says_tellResult result _ rfl rfl
    rw [startEach, run_bind, useStore_attempt]
    dsimp only
    rw [run_bind, htold]
    dsimp only
    rw [run_bind, ih told]
    -- Printing first and launching then is the same as the other way round.
    exact congrArg (fun s' => (Except.ok results, s'))
      (Shell.printing_append { s with world := launched.2 } _ _).symm

/-! ## 4. Finding the services -/

theorem orFail_run (x : Except Fault α) (s : Shell σ) :
    (orFail x).run.run s = (x.mapError Failure.fault, s) := by
  cases x <;> rfl

theorem mapM_orFail_run (f : α → Except Fault β) (l : List α) (s : Shell σ) :
    (l.mapM fun x => orFail (f x)).run.run s = ((l.mapM f).mapError Failure.fault, s) := by
  induction l with
  | nil => rfl
  | cons x rest ih =>
    rw [List.mapM_cons, List.mapM_cons, run_bind, orFail_run]
    cases f x with
    | error fault => rfl
    | ok y =>
      change ((rest.mapM fun x => orFail (f x)) >>= fun ys => pure (y :: ys)).run.run s = _
      rw [run_bind, ih]
      cases rest.mapM f <;> rfl

/-- The services that the setup file has for the names, or why it lacks one. -/
def resolutions (tree : FileTree) (names : List String) : Except Fault (List ResolvedService) := do
  let project ← Project.discover tree tree.workingDirectory
  (wanted names).mapM project.resolve

/-- Finding services changes nothing. -/
theorem findAll_run (names : List String) (s : Shell σ) :
    (findAll names).run.run s = ((resolutions s.tree names).mapError Failure.fault, s) := by
  have hproject : (currentProject (σ := σ)).run.run s
      = ((Project.discover s.tree s.tree.workingDirectory).mapError Failure.fault, s) := by
    rw [currentProject, run_get_bind, orFail_run]
  rw [findAll, run_bind, hproject, resolutions]
  cases Project.discover s.tree s.tree.workingDirectory with
  | error fault => rfl
  | ok project => exact mapM_orFail_run project.resolve (wanted names) s

/-- A traversal finds something for each, or stops at one for which there is nothing. -/
theorem outcome_of_mapM (f : α → Except Fault β) (l : List α) :
    match l.mapM f with
    | .ok ys => List.Forall₂ (fun x y => f x = .ok y) l ys
    | .error fault => ∃ x ∈ l, f x = .error fault := by
  induction l with
  | nil => exact .nil
  | cons x rest ih =>
    rw [List.mapM_cons]
    cases hx : f x with
    | error fault => exact ⟨x, List.mem_cons_self, hx⟩
    | ok y =>
      cases hrest : rest.mapM f with
      | error fault =>
        rw [hrest] at ih
        obtain ⟨x', hmem, hfault⟩ := ih
        exact ⟨x', List.mem_cons_of_mem x hmem, hfault⟩
      | ok ys =>
        rw [hrest] at ih
        exact .cons hx ih

theorem forall₂_of_mapM {f : α → Except Fault β} {l : List α} {ys : List β}
    (h : l.mapM f = .ok ys) : List.Forall₂ (fun x y => f x = .ok y) l ys := by
  have houtcome := outcome_of_mapM f l
  rwa [h] at houtcome

theorem error_of_mapM {f : α → Except Fault β} {l : List α} {fault : Fault}
    (h : l.mapM f = .error fault) : ∃ x ∈ l, f x = .error fault := by
  have houtcome := outcome_of_mapM f l
  rwa [h] at houtcome

theorem resolutions_eq {tree : FileTree} {project : Project}
    (hproject : Project.discover tree tree.workingDirectory = .ok project) (names : List String) :
    resolutions tree names = (wanted names).mapM project.resolve := by
  rw [resolutions, hproject]
  rfl

theorem resolutions_of_findAll {names : List String} {services : List ResolvedService}
    {s : Shell σ} (h : ((findAll names).run.run s).1 = .ok services) :
    resolutions s.tree names = .ok services := by
  rw [findAll_run] at h
  cases hfound : resolutions s.tree names with
  | error fault =>
    rw [hfound] at h
    cases h
  | ok found =>
    rw [hfound] at h
    cases h
    rfl

theorem exists_lacks_iff {setup : SetupFile} {names : List String} :
    (∃ name? ∈ wanted names, setup.Lacks name?)
      ↔ (∃ name ∈ names, name ∉ setup.names) ∨ names = [] ∧ setup.defaultService? = none := by
  cases names with
  | nil => simp [wanted, SetupFile.Lacks]
  | cons name rest => simp [wanted, SetupFile.Lacks]

theorem not_lacks_of_forall₂ {project : Project} {names? : List (Option String)}
    {services : List ResolvedService}
    (h : List.Forall₂ (fun name? service => project.resolve name? = .ok service) names? services) :
    ∀ name? ∈ names?, ¬ project.setup.Lacks name? := by
  induction h with
  | nil => exact fun _ hname => absurd hname List.not_mem_nil
  | cons hfirst _ ih =>
    refine List.forall_mem_cons.mpr ⟨fun hlacks => ?_, ih⟩
    rw [Project.resolve_eq_error_iff.mpr ⟨hlacks, rfl⟩] at hfirst
    cases hfirst

/-- What is found for names has these names. -/
theorem names_of_forall₂ {project : Project} {names : List String}
    {services : List ResolvedService} (hnames : names ≠ [])
    (h : List.Forall₂ (fun name? service => project.resolve name? = .ok service) (wanted names)
      services) : services.map (·.name) = names := by
  rw [wanted, if_neg (by simpa using hnames), List.forall₂_map_left_iff] at h
  have hsame : List.Forall₂ (· = ·) (services.map (·.name)) names := by
    rw [List.forall₂_map_left_iff]
    exact h.flip.imp fun service name hservice => Project.name_of_resolve hservice
  exact List.forall₂_eq_eq_eq ▸ hsame

/-! ## 5. The whole command -/

/-- **The law of the command.** All services are found and the store is opened, or nothing
is changed; then each is tried, and the outcomes decide what is printed and how it ends. -/
theorem performStart_run (p : Platform σ) (settings : Settings) (names : List String)
    (s : Shell σ) :
    (performStart p settings names).run.run s = match resolutions s.tree names with
      | .error fault => (.error (.fault fault), s)
      | .ok services => match Store.openIn s.tree s.stateDir with
        | .error cause => (.error (.fault (.store cause)), s)
        | .ok tree =>
          let launched := (launchEach p settings services).run s.world
          let results := resultsOf services launched.1
          (verdict results, { s with tree, world := launched.2 }.printing
            (printedOf s.json s.colors results)) := by
  rw [performStart, run_bind, findAll_run]
  cases resolutions s.tree names with
  | error fault => rfl
  | ok services =>
    change (openStore >>= _ : Cmd σ Unit).run.run s = _
    rw [run_bind, openStore_run]
    cases Store.openIn s.tree s.stateDir with
    | error cause => rfl
    | ok tree =>
      dsimp only
      rw [run_bind, startEach_run]
      dsimp only
      rw [run_bind, says_tellTogether _ _ rfl rfl]
      rw [printedOf, Shell.printing_append, verdict]
      dsimp only
      split <;> rfl

theorem outcomes_resultsOf (p : Platform σ) (settings : Settings) (services : List ResolvedService)
    (w : World σ) :
    let launched := (launchEach p settings services).run w
    (resultsOf services launched.1).map (·.outcome) = launched.1
      ∧ (resultsOf services launched.1).map (·.name) = services.map (·.name) := by
  induction services generalizing w with
  | nil => exact ⟨rfl, rfl⟩
  | cons service rest ih =>
    obtain ⟨houtcomes, hnames⟩ := ih ((run p settings service).run.run w).2
    exact ⟨congrArg _ houtcomes, congrArg _ hnames⟩

/-- **All or none, and then each.** If the setup file has no service of one of the names, or
no default one where none is named, the command fails and nothing is changed. Otherwise all
services are found and, once the store is open, each is tried, in the order of the names and
whatever became of those before it; the outcomes are told in that order, and the command
fails if and only if one of them is a failure. -/
theorem start_tries_all_or_none (p : Platform σ) (settings : Settings) (names : List String)
    {s : Shell σ} {project : Project}
    (hproject : Project.discover s.tree s.tree.workingDirectory = .ok project) :
    let last := (performStart p settings names).run.run s
    let lacking := (∃ name ∈ names, name ∉ project.setup.names)
      ∨ names = [] ∧ project.setup.defaultService? = none
    (lacking → ∃ name? ∈ wanted names, project.setup.Lacks name?
        ∧ last = (.error (.fault (project.missing name?)), s))
      ∧ (¬ lacking → ∃ services : List ResolvedService,
        List.Forall₂ (fun name? service => project.resolve name? = .ok service) (wanted names)
            services
          ∧ (∀ cause, Store.openIn s.tree s.stateDir = .error cause →
            last = (.error (.fault (.store cause)), s))
          ∧ ∀ tree, Store.openIn s.tree s.stateDir = .ok tree →
            let launched := (launchEach p settings services).run s.world
            let results := resultsOf services launched.1
            last = (verdict results, { s with tree, world := launched.2 }.printing
                (printedOf s.json s.colors results))
              ∧ results.map (·.outcome) = launched.1
              ∧ results.map (·.name) = services.map (·.name)
              ∧ (names ≠ [] → results.map (·.name) = names)
              ∧ (last.1 = .ok () ↔ ∀ outcome ∈ launched.1, ∃ report, outcome = .ok report)) := by
  intro last lacking
  have hlast : last = _ := performStart_run p settings names s
  rw [resolutions_eq hproject] at hlast
  rcases hfound : (wanted names).mapM project.resolve with fault | services
  · -- A name that cannot be resolved is one that the setup file lacks.
    rw [hfound] at hlast
    obtain ⟨name?, hname, hresolve⟩ := error_of_mapM hfound
    obtain ⟨hlacks, rfl⟩ := Project.resolve_eq_error_iff.mp hresolve
    exact ⟨fun _ => ⟨name?, hname, hlacks, hlast⟩,
      fun h => absurd (exists_lacks_iff.mp ⟨name?, hname, hlacks⟩) h⟩
  rw [hfound] at hlast
  have hresolved := forall₂_of_mapM hfound
  refine ⟨fun h => ?_, fun _ => ⟨services, hresolved, fun cause hcause => ?_, fun tree htree => ?_⟩⟩
  · obtain ⟨name?, hname, hlacks⟩ := exists_lacks_iff.mpr h
    exact absurd hlacks (not_lacks_of_forall₂ hresolved name? hname)
  · rw [hlast, hcause]
  · intro launched results
    obtain ⟨houtcomes, hnames⟩ := outcomes_resultsOf p settings services s.world
    have hend : last = (verdict results, { s with tree, world := launched.2 }.printing
        (printedOf s.json s.colors results)) := by
      rw [hlast, htree]
    refine ⟨hend, houtcomes, hnames, fun h => hnames.trans (names_of_forall₂ h hresolved), ?_⟩
    rw [hend, verdict_eq_ok_iff, ← houtcomes, List.forall_mem_map]

/-- A project with two services, of which the first runs `serve`; every process that is
started dies of a signal. -/
def twoServices (second : String) : Shell Rehearsal.Cast where
  world := ⟨.empty, 0, [], [61, 62].map fun pid => ⟨pid, true, .die, .die, .ignore, 0, [], none⟩⟩
  tree := (FileTree.ofRoot ⟨"/srv"⟩).withFile ⟨setupFileName⟩ (.text
    ((SetupFile.mk [⟨"a", "serve", none, .empty, false, false⟩,
      ⟨"b", second, none, .empty, false, false⟩]).text))
  stateDir := ⟨"/srv/state"⟩
  json := true
  colors := false
  out := ""
  err := ""

/-- The wrapper of the first launch ends before its child has started. -/
def firstFails : Platform Rehearsal.Cast :=
  castPlatform 40 fun payload =>
    if payload.launch = 1 then [.markExited 0 1 127] else [.updatePid payload.launch 62]

/-- A call of `start` for people. -/
def startFailing (names : List String) : Except Failure Unit × Shell Rehearsal.Cast :=
  (performStart firstFails (.standard ⟨"wrapper"⟩) names).run.run
    { twoServices "listen" with json := false }

theorem start_tries_all_or_none_first_fails :
    startFailing ["a", "c"] = (.error (.fault (.unknownService "c" ⟨"/srv/.lantern-setup.json"⟩)),
        { twoServices "listen" with json := false })
      ∧ ((startFailing ["a", "b"]).1, (startFailing ["a", "b"]).2.out,
          (startFailing ["a", "b"]).2.err) = (.error (.told "1 of 2 services failed to start"),
          "✓ Started 'b' (pid 62, launch 2)\nStarted 1 of 2 services\n",
          "✗ a: Process failed to start: wrapper for launch 1 exited before starting\n")
      ∧ ∃ services,
        let outcomes := ((launchEach firstFails (.standard ⟨"wrapper"⟩) services).run
          (twoServices "listen").world).1
        (resultsOf services outcomes).map (·.name) = ["a", "b"]
          ∧ ¬ ∀ outcome ∈ outcomes, ∃ report, outcome = .ok report := by
  have hfound : (Project.discover (twoServices "listen").tree
      (twoServices "listen").tree.workingDirectory).map
        (fun project => (project.file, project.setup.names))
      = .ok (⟨"/srv/.lantern-setup.json"⟩, ["a", "b"]) := by decide +kernel
  have hopen : (Store.openIn (twoServices "listen").tree (twoServices "listen").stateDir).isOk
      = true := by decide +kernel
  have hlast : ((startFailing ["a", "b"]).1, (startFailing ["a", "b"]).2.out,
      (startFailing ["a", "b"]).2.err) = (.error (.told "1 of 2 services failed to start"),
        "✓ Started 'b' (pid 62, launch 2)\nStarted 1 of 2 services\n",
        "✗ a: Process failed to start: wrapper for launch 1 exited before starting\n") := by
    decide +kernel
  rcases hproject : Project.discover (twoServices "listen").tree
    (twoServices "listen").tree.workingDirectory with fault | project
  · rw [hproject] at hfound
    cases hfound
  rcases htree : Store.openIn (twoServices "listen").tree (twoServices "listen").stateDir
    with cause | tree
  · rw [htree] at hopen
    cases hopen
  rw [hproject] at hfound
  obtain ⟨hfile, hnames⟩ := Prod.mk.inj (Except.ok.inj hfound)
  have hlaw := fun names => start_tries_all_or_none firstFails (.standard ⟨"wrapper"⟩) names
    (s := { twoServices "listen" with json := false }) hproject
  refine ⟨?_, hlast, ?_⟩
  · obtain ⟨name?, hname, hlacks, hfailed⟩ :=
      (hlaw ["a", "c"]).1 (.inl ⟨"c", by simp, by simp [hnames]⟩)
    rcases List.mem_pair.mp hname with rfl | rfl
    · exact absurd (by simp [hnames]) hlacks
    · rw [← hfile]
      exact hfailed
  · obtain ⟨services, -, -, htried⟩ := (hlaw ["a", "b"]).2 (by simp [hnames])
    obtain ⟨-, -, -, hsame, hok⟩ := htried tree htree
    refine ⟨services, hsame (by simp), fun hall => ?_⟩
    have hwent : (startFailing ["a", "b"]).1 = .ok () := hok.mpr hall
    rw [(Prod.mk.inj hlast).1] at hwent
    cases hwent

end Overseer.Console
