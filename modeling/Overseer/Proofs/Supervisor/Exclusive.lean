/-
Overseer.Proofs.Supervisor.Exclusive — running launches do not get in each other's way.

`running_launches_apart`: whatever a supervisor is told to do, one thing after
the other and from the empty store, at every point of it no two running
launches have the same command line in the same directory, and no two hold the
same port. The store checks neither. It is the launching of a service that
takes care: it stops the one launch of the same command line there can be, and
chooses a port that is not held, before it records the new launch.

Meanwhile the wrappers act, and everything they do can end launches and note
pids but not begin one. So what launching has made sure of stays true until the
record is made, and that is `Orderly`: at every point seen so far the running
launches were apart, and what is known of the present ones is a property of all
parts of their list.
-/
import Overseer.Proofs.Supervisor.Cast
import Overseer.Proofs.Supervisor.Frame
import Overseer.Proofs.Supervisor.Observed

namespace Overseer

/-- Neither of the same command line in the same directory, nor with the same port. -/
def ProcessRecord.Apart (a b : ProcessRecord) : Prop :=
  ¬ (a.command = b.command ∧ a.directory = b.directory)
    ∧ ∀ port, a.port = some port → b.port ≠ some port

theorem ProcessRecord.Apart.symm {a b : ProcessRecord} (h : a.Apart b) : b.Apart a :=
  ⟨fun hsame => h.1 ⟨hsame.1.symm, hsame.2.symm⟩, fun port hb ha => h.2 port ha hb⟩

namespace Store

/-- Any two running launches are apart. -/
def Exclusive (s : Store) : Prop := (s.running none).Pairwise ProcessRecord.Apart

theorem exclusive_iff_runners (s : Store) :
    s.Exclusive ↔ s.runners.Pairwise fun a b => a.record.Apart b.record := by
  have hrunning : s.running none = ((s.launches.filter (·.isActive)).map (·.record)).reverse := by
    simp [running]
  rw [Exclusive, hrunning, List.pairwise_reverse, runners, List.pairwise_map, List.pairwise_map]
  constructor
  · exact fun h => h.imp fun hab => hab.symm
  · exact fun h => h.imp fun hab => hab.symm

/-- Where running launches are apart they are so whichever comes first. -/
theorem Exclusive.eq_or_apart {s : Store} (hs : s.Exclusive) {a b : LaunchRow}
    (ha : a ∈ s.runners) (hb : b ∈ s.runners) : a = b ∨ a.record.Apart b.record := by
  have hpairs := (exclusive_iff_runners s).mp hs
  exact List.Pairwise.forall_of_forall_of_flip
    (R := fun a b : LaunchRow => a = b ∨ a.record.Apart b.record) (fun _ _ => Or.inl rfl)
    (hpairs.imp Or.inr) (hpairs.imp fun h => Or.inr h.symm) ha hb

end Store

namespace Supervisor

open Store (HasEnded Operation)

variable {σ : Type} {p : Platform σ} {settings : Settings}

/-! ## 1. What stays true while others act -/

/-- The store is changed by anything but new launches. -/
def BeginsNone (w w' : World σ) : Prop :=
  ∃ history : List Operation,
    (∀ op ∈ history, op.isCreate = false) ∧ w'.store = w.store.run history

/-- A property that every part of a list has if the list has it. -/
def OfParts (J : List LaunchRow → Prop) : Prop := ∀ l l', l'.Sublist l → J l → J l'

/-- All running launches seen were apart, and of those there are now `J` is known. -/
def Orderly (J : List LaunchRow → Prop) (w : World (Observed σ)) : Prop :=
  (∀ v ∈ w.moments, v.store.Exclusive) ∧ J w.store.runners

theorem ofParts_forall (P : LaunchRow → Prop) : OfParts fun l => ∀ r ∈ l, P r :=
  fun _ _ hpart h r hr => h r (hpart.subset hr)

theorem OfParts.and {J J' : List LaunchRow → Prop} (h : OfParts J) (h' : OfParts J') :
    OfParts fun l => J l ∧ J' l :=
  fun l l' hpart hl => ⟨h l l' hpart hl.1, h' l l' hpart hl.2⟩

theorem exclusive_of_sublist {s s' : Store} (hpart : s'.runners.Sublist s.runners)
    (h : s.Exclusive) : s'.Exclusive := by
  rw [Store.exclusive_iff_runners] at h ⊢
  exact h.sublist hpart

theorem Orderly.seenStep {J : List LaunchRow → Prop} (hJ : OfParts J)
    {w w' : World (Observed σ)} (hstep : SeenStep BeginsNone w w') (h : Orderly J w) :
    Orderly J w' := by
  obtain ⟨⟨history, hhistory, hstore⟩, hseen⟩ := hstep
  have hpart : w'.store.runners.Sublist w.store.runners := by
    rw [show w'.store = w.store.run history from hstore]
    exact Store.runners_run w.store hhistory
  have hnow : w'.store.Exclusive :=
    exclusive_of_sublist hpart (h.1 w.unobserved List.mem_cons_self)
  refine ⟨?_, hJ _ _ hpart h.2⟩
  intro v hv
  rw [World.moments, hseen] at hv
  rcases List.mem_cons.mp hv with rfl | hv
  · exact hnow
  rcases List.mem_cons.mp hv with rfl | hv
  · exact hnow
  · exact h.1 v hv

/-- What is known stays true until a launch is recorded. -/
theorem frame_orderly (hp : p.Within BeginsNone) {J : List LaunchRow → Prop} (hJ : OfParts J) :
    Frame p.observed (Orderly J) (fun _ => True) (fun op => op.isCreate = false) where
  platform := hp.observed.mono fun _ _ hstep h => h.seenStep hJ hstep
  checked _ _ := trivial
  note _ _ w h := ⟨List.forall_mem_cons.mpr (List.forall_mem_cons.mp h.1), h.2⟩
  write op hop w h := by
    have hpart := Store.runners_step w.store hop
    obtain ⟨hnow, hseen⟩ := List.forall_mem_cons.mp h.1
    exact ⟨List.forall_mem_cons.mpr ⟨exclusive_of_sublist hpart hnow, hseen⟩, hJ _ _ hpart h.2⟩

theorem Orderly.imp {J J' : List LaunchRow → Prop} {w : World (Observed σ)} (h : Orderly J w)
    (hJ : J w.store.runners → J' w.store.runners) : Orderly J' w := ⟨h.1, hJ h.2⟩

/-- Nothing is known of the running launches but that they are apart. -/
abbrev Tidy (w : World (Observed σ)) : Prop := Orderly (fun _ => True) w

theorem frame_tidy (hp : p.Within BeginsNone) :
    Frame p.observed Tidy (fun _ => True) (fun op => op.isCreate = false) :=
  frame_orderly hp fun _ _ _ _ => trivial

/-- An ended launch stays ended while others act. -/
theorem frame_ended (hp : p.Within BeginsNone) (id : Int) :
    Frame p.observed (fun w => Tidy w ∧ HasEnded id w.store) (fun _ => True)
      (fun op => op.isCreate = false) := by
  have hsame : (fun w : World (Observed σ) => Tidy w ∧ HasEnded id w.store)
      = Orderly fun rows => ∀ r ∈ rows, r.id ≠ id := by
    funext w
    simp only [Tidy, Orderly, and_true, Store.hasEnded_iff_runners]
  rw [hsame]
  exact frame_orderly hp (ofParts_forall _)

/-! ## 2. What launching makes sure of -/

/-- None of them has the command line in the directory. -/
def Without (command : String) (directory : Path) (rows : List LaunchRow) : Prop :=
  ∀ r ∈ rows, ¬ (r.command = command ∧ r.directory = directory)

/-- None of them holds the port. -/
def PortFree (port : Nat) (rows : List LaunchRow) : Prop := ∀ r ∈ rows, r.record.port ≠ some port

theorem mem_runners {s : Store} {r : LaunchRow} :
    r ∈ s.runners ↔ ∃ row ∈ s.launches, row.isActive = true ∧ row.bare = r := by
  simp only [Store.runners, List.mem_map, List.mem_filter]
  constructor
  · rintro ⟨row, ⟨hrow, hactive⟩, hbare⟩
    exact ⟨row, hrow, hactive, hbare⟩
  · rintro ⟨row, hrow, hactive, hbare⟩
    exact ⟨row, ⟨hrow, hactive⟩, hbare⟩

theorem without_of_activeFor?_eq_none {s : Store} {command : String} {directory : Path}
    (h : s.activeFor? command directory = none) : Without command directory s.runners := by
  intro r hr hsame
  obtain ⟨row, hrow, hactive, rfl⟩ := mem_runners.mp hr
  have hno := List.find?_eq_none.mp (Option.map_eq_none_iff.mp h) row hrow
  obtain ⟨hcommand, hdirectory⟩ : row.command = command ∧ row.directory = directory := hsame
  simp [hactive, hcommand, hdirectory] at hno

/-- Where running launches are apart the one that is found is the only one of its kind. -/
theorem id_eq_of_activeFor? {s : Store} (hs : s.Exclusive) {command : String} {directory : Path}
    {found : ProcessRecord} (h : s.activeFor? command directory = some found) :
    ∀ r ∈ s.runners, r.command = command ∧ r.directory = directory → r.id = found.id := by
  obtain ⟨row, hfind, rfl⟩ := Option.map_eq_some_iff.mp h
  have hkind : (row.isActive = true ∧ row.command = command) ∧ row.directory = directory := by
    simpa using List.find?_some hfind
  have hmem : row.bare ∈ s.runners :=
    mem_runners.mpr ⟨row, List.mem_of_find?_eq_some hfind, hkind.1.1, rfl⟩
  intro r hr hsame
  rcases hs.eq_or_apart hr hmem with rfl | hapart
  · rfl
  · exact absurd ⟨hsame.1.trans hkind.1.2.symm, hsame.2.trans hkind.2.symm⟩ hapart.1

/-- The launch of the command line in the directory is stopped, if there is one. -/
theorem replace_alike (hp : p.Within BeginsNone) (command : String) (directory : Path) :
    Does Tidy (replace p.observed settings fun s => s.activeFor? command directory)
      (fun _ => Orderly (Without command directory)) Tidy := by
  have hfind : Does Tidy (look p.observed fun s => s.activeFor? command directory)
      (fun found w => Tidy w ∧ w.store.activeFor? command directory = found) Tidy :=
    does_look (frame_tidy hp).others fun _ hw => ⟨hw, rfl⟩
  refine hfind.bind fun found => ?_
  rcases found with _ | existing
  · exact does_pure fun w hw => hw.1.imp fun _ => without_of_activeFor?_eq_none hw.2
  · have hframe := frame_orderly hp (ofParts_forall fun r =>
      r.command = command ∧ r.directory = directory → r.id = existing.id)
    refine Does.bind (Q := fun _ => Orderly (Without command directory)) ?_ fun _ =>
      does_pure fun _ hw => hw
    refine (hframe.stopRecord_ends (fun _ _ _ => trivial) fun _ => rfl).mono ?_ ?_ ?_
    · rintro w ⟨hw, hfound⟩
      exact hw.imp fun _ => id_eq_of_activeFor? (hw.1 w.unobserved List.mem_cons_self) hfound
    · rintro _ w ⟨hw, hended⟩
      refine hw.imp fun honly r hr hsame => ?_
      exact Store.hasEnded_iff_runners.mp hended r hr (honly r hr hsame)
    · exact fun w hw => hw.imp fun _ => trivial

/-- They hold no port but these. -/
def HeldAmong (used : List Nat) (rows : List LaunchRow) : Prop :=
  ∀ r ∈ rows, ∀ port, r.record.port = some port → port ∈ used

theorem ofParts_heldAmong (used : List Nat) : OfParts (HeldAmong used) := ofParts_forall _

theorem ofParts_portFree (port : Nat) : OfParts (PortFree port) := ofParts_forall _

theorem heldAmong_usedPorts (s : Store) : HeldAmong s.usedPorts s.runners := by
  intro r hr port hport
  rw [Store.usedPorts_eq_runners]
  exact List.mem_filterMap.mpr ⟨r, List.mem_reverse.mpr hr, hport⟩

theorem HeldAmong.portFree {used : List Nat} {rows : List LaunchRow} (h : HeldAmong used rows)
    {port : Nat} (hport : port ∉ used) : PortFree port rows :=
  fun r hr hheld => hport (h r hr port hheld)

theorem allocatePort_free (hp : p.Within BeginsNone) {J : List LaunchRow → Prop}
    (hJ : OfParts J) :
    Does (Orderly J) (allocatePort p.observed)
      (fun port => Orderly fun rows => J rows ∧ PortFree port rows) (Orderly J) := by
  have hused : Does (Orderly J) (look p.observed fun s => s.usedPorts)
      (fun used => Orderly fun rows => J rows ∧ HeldAmong used rows) (Orderly J) :=
    does_look (frame_orderly hp hJ).others fun w hw =>
      hw.imp fun hrows => ⟨hrows, heldAmong_usedPorts w.store⟩
  refine hused.bind fun used => ?_
  have hframe := frame_orderly hp (hJ.and (ofParts_heldAmong used))
  refine (hframe.look _).bind fun assigned => ?_
  refine (allocateFrom_unused hframe.portIsFree _ _ _).mono (fun _ hw => hw) ?_
    fun w hw => hw.imp And.left
  rintro port w ⟨hw, hunused⟩
  exact hw.imp fun hrows => ⟨hrows.1, hrows.2.portFree fun hport =>
    hunused (List.mem_append_left _ hport)⟩

theorem pickPort_free (hp : p.Within BeginsNone) {J : List LaunchRow → Prop} (hJ : OfParts J)
    (project : Path) :
    Does (Orderly J) (pickPort p.observed project)
      (fun port => Orderly fun rows => J rows ∧ PortFree port rows) (Orderly J) := by
  have hframe := frame_orderly hp hJ
  refine (hframe.look _).bind fun port? => ?_
  rcases port? with _ | port
  · exact allocatePort_free hp hJ
  have hused : Does (Orderly J) (look p.observed fun s => s.usedPorts)
      (fun used => Orderly fun rows => J rows ∧ HeldAmong used rows) (Orderly J) :=
    does_look hframe.others fun w hw =>
      hw.imp fun hrows => ⟨hrows, heldAmong_usedPorts w.store⟩
  refine hused.bind fun used => ?_
  have hallocate {J' : List LaunchRow → Prop} (hJ' : ∀ rows, J' rows → J rows) :
      Does (Orderly J') (allocatePort p.observed)
        (fun port => Orderly fun rows => J rows ∧ PortFree port rows) (Orderly J) :=
    (allocatePort_free hp hJ).pre fun _ hw => hw.imp (hJ' _)
  by_cases hheld : port ∈ used
  · simp only [List.contains_eq_mem, hheld, decide_true, if_true]
    exact hallocate fun _ => And.left
  · simp only [List.contains_eq_mem, hheld, decide_false, Bool.false_eq_true, if_false]
    have hfree := frame_orderly hp (hJ.and (ofParts_portFree port))
    refine Does.bind (Q := fun _ => Orderly fun rows => J rows ∧ PortFree port rows)
      ((hfree.portIsFree port).mono ?_ fun _ _ hw => hw).lift
      fun isFree => ?_
    · exact fun w hw => hw.imp fun hrows => ⟨hrows.1, hrows.2.portFree hheld⟩
    · cases isFree with
      | true => exact does_pure fun _ hw => hw
      | false => exact hallocate fun _ => And.left

/-! ## 3. Launching -/

/-- The port of a new launch, if it has one, is held by no other. -/
def PortFreeIf (port? : Option Nat) (rows : List LaunchRow) : Prop :=
  ∀ port ∈ port?, PortFree port rows

theorem ofParts_portFreeIf (port? : Option Nat) : OfParts (PortFreeIf port?) :=
  fun _ _ hpart h port hport => ofParts_portFree port _ _ hpart (h port hport)

theorem fits?_eq_some {bits n m : Nat} (h : fits? bits (n : Int) = some m) : n = m := by
  unfold fits? at h
  split at h
  · simpa using h
  · cases h

/-- **Recording a launch**: what was made sure of before is what it takes. -/
theorem exclusive_create {s s' : Store} (hs : s.Exclusive) {now id : Int} {key : ServiceKey}
    {command : String} {directory : Path} {port? : Option Nat}
    (hwithout : Without command directory s.runners) (hport : PortFreeIf port? s.runners)
    (hok : s.create now key command directory port? = .ok (id, s')) : s'.Exclusive := by
  rw [Store.exclusive_iff_runners] at hs ⊢
  rw [Store.runners_create hok]
  refine List.Pairwise.cons ?_ hs
  intro r hr
  refine ⟨fun hsame => hwithout r hr ⟨hsame.1.symm, hsame.2.symm⟩, ?_⟩
  intro port hnew
  rcases port? with _ | asked
  · cases hnew
  · have hasked : (s.newRow now key command directory (some asked)).port = some (asked : Int) := rfl
    rw [LaunchRow.record_port, hasked, Option.bind_some] at hnew
    obtain rfl := fits?_eq_some hnew
    exact hport asked rfl r hr

theorem run_tidy (hp : p.Within BeginsNone) (hspawn : p.SpawnsWithin BeginsNone)
    (service : ResolvedService) :
    Does Tidy (run p.observed settings service) (fun _ => Tidy) Tidy := by
  have htidy := frame_tidy hp
  refine (htidy.sweep fun _ _ => rfl).bind fun _ => ?_
  refine (htidy.replace (fun _ _ _ => trivial) fun _ _ => rfl).bind fun same => ?_
  refine (replace_alike hp service.shell service.directory).bind fun alike => ?_
  have hrest (port? : Option Nat) : Does
      (Orderly fun rows => Without service.shell service.directory rows ∧ PortFreeIf port? rows)
      (do
        let now := (← get).now
        let id ← access p.observed fun s =>
          s.create now service.key service.shell service.directory port?
        let record ← startWrapper p.observed settings service id port?
        return ⟨record, same ++ alike⟩)
      (fun (_ : RunReport) => Tidy) Tidy := by
    have hsure := frame_orderly hp ((ofParts_forall fun r =>
      ¬ (r.command = service.shell ∧ r.directory = service.directory)).and
        (ofParts_portFreeIf port?))
    refine Does.bind (does_get (Q := fun _ => Orderly fun rows =>
      Without service.shell service.directory rows ∧ PortFreeIf port? rows) fun _ hw => hw)
      fun before => ?_
    refine Does.bind (Q := fun _ => Tidy) (does_access hsure.others ?_ ?_) fun id => ?_
    · intro w id s hw hok
      obtain ⟨hnow, hseen⟩ := List.forall_mem_cons.mp hw.1
      have hnext : s.Exclusive := exclusive_create hnow hw.2.1 hw.2.2 hok
      exact ⟨List.forall_mem_cons.mpr ⟨hnext, hseen⟩, trivial⟩
    · exact fun w _ hw _ => hw.imp fun _ => trivial
    · refine Does.bind (Q := fun _ => Tidy) ?_ fun record => does_pure fun _ hw => hw
      refine (htidy.startWrapper (P := Tidy) (M := Tidy) (G := fun _ => True)
        (frame_ended hp id).toKept ?_ ?_ ?_ ?_ ?_).mono (fun _ hw => hw) (fun _ _ hw => hw.1)
          fun _ hw => hw.1
      · exact fun w _ hw =>
          hw.seenStep (fun _ _ _ _ => trivial) (hspawn.observed _ _ w)
      · exact fun w hw => htidy.note _ trivial w hw
      · exact fun _ _ => rfl
      · exact fun _ => rfl
      · exact fun _ _ _ _ => trivial
  cases hwants : service.wantsPort with
  | true =>
    refine Does.bind ?_ fun port? => hrest port?
    refine Does.map ?_
    refine (pickPort_free hp (ofParts_forall _) service.project).mono (fun _ hw => hw) ?_ ?_
    · intro port w hw
      refine hw.imp fun hrows => ⟨hrows.1, ?_⟩
      rintro _ ⟨⟩
      exact hrows.2
    · exact fun w hw => hw.imp fun _ => trivial
  | false =>
    refine Does.bind ?_ fun port? => hrest port?
    refine does_pure fun w hw => hw.imp fun hrows => ⟨hrows, ?_⟩
    rintro _ ⟨⟩

/-! ## 4. One command after the other -/

/-- What a supervisor can be told to do with launches and ports. -/
inductive Command where
  | run (service : ResolvedService)
  | kill (key : ServiceKey)
  | killAll
  | restart (service : ResolvedService)
  | signalRestart (key : ServiceKey)
  | sweep
  | listRunning (project? : Option Path)
  | listServices (project : Project)
  | assignPort (project : Path) (port : Nat)
  | cleanup (policy : RetentionPolicy)

/-- Does it, whatever comes of it. -/
def Command.perform (p : Platform σ) (settings : Settings) : Command → Act σ Unit
  | .run service => discard (Supervisor.run p settings service)
  | .kill key => discard (Supervisor.kill p settings key)
  | .killAll => discard (Supervisor.killAll p settings)
  | .restart service => discard (Supervisor.restart p settings service)
  | .signalRestart key => discard (Supervisor.signalRestart p settings key)
  | .sweep => discard (Supervisor.sweep p settings)
  | .listRunning project? => discard (Supervisor.listRunning p settings project?)
  | .listServices project => discard (Supervisor.listServices p settings project)
  | .assignPort project port => Supervisor.assignPort p project port
  | .cleanup policy => discard (Supervisor.cleanup p settings policy)

/-- Performs commands in order; one that fails does not keep the next from being performed. -/
def performAll (p : Platform σ) (settings : Settings) : List Command → StateM (World σ) Unit
  | [] => return
  | c :: rest => do
    let _ ← (c.perform p settings).run
    performAll p settings rest

namespace Kept

variable {K : World σ → Prop} {notes : Event → Prop} {writes : Operation → Prop}
  (F : Kept p K notes writes) (hnotes : ∀ tree pid s, notes (.signalled tree pid s))
  (hmarks : ∀ now id code, writes (.markExited now id code))
  (hassign : ∀ project port, writes (.assignPort project port))
  (hpass : ∀ now policy, writes (.cleanup now policy))
  (hrun : ∀ service, Does K (run p settings service) (fun _ => K) K)
include F hnotes hmarks hassign hpass hrun

/-- What outlasts the run of any service outlasts any command. -/
theorem perform (c : Command) : Does K (c.perform p settings) (fun _ => K) K := by
  have hdead : ∀ now id, writes (.markExited now id Store.foundDead) :=
    fun now id => hmarks now id _
  cases c with
  | run service => exact (hrun service).discarding
  | kill key => exact (F.kill hnotes hmarks).discarding
  | killAll => exact (F.killAll hnotes hmarks).discarding
  | restart service =>
    refine Does.discarding ((F.kill hnotes hmarks).bind fun _ => ?_)
    exact (hrun service).bind fun _ => does_pure fun _ hw => hw
  | signalRestart key => exact (F.signalRestart hnotes hdead).discarding
  | sweep => exact (F.sweep hdead).discarding
  | listRunning project? => exact (F.listRunning hdead).discarding
  | listServices project => exact (F.listServices hdead).discarding
  | assignPort project port => exact F.assignPort (hassign project port)
  | cleanup policy => exact (F.cleanup hdead fun now => hpass now policy).discarding

theorem performAll (commands : List Command) :
    Asks K (performAll p settings commands) fun _ => K := by
  induction commands with
  | nil => exact asks_pure fun _ hw => hw
  | cons c rest ih =>
    exact (F.perform hnotes hmarks hassign hpass hrun c).asks.bind fun _ => ih

end Kept

theorem mirrors_performAll (p : Platform σ) (settings : Settings) (commands : List Command) :
    Mirrors (performAll p.observed settings commands) (performAll p settings commands) := by
  induction commands with
  | nil => exact mirrors_pure ()
  | cons c rest ih =>
    refine Mirrors.bind ?_ fun _ => ih
    cases c with
    | run service => exact (mirrors_run p settings service).map _
    | kill key => exact (mirrors_kill p settings key).map _
    | killAll => exact (mirrors_killAll p settings).map _
    | restart service => exact (mirrors_restart p settings service).map _
    | signalRestart key => exact (mirrors_signalRestart p settings key).map _
    | sweep => exact (mirrors_sweep p settings).map _
    | listRunning project? => exact (mirrors_listRunning p settings project?).map _
    | listServices project => exact (mirrors_listServices p settings project).map _
    | assignPort project port => exact mirrors_assignPort p project port
    | cleanup policy => exact (mirrors_cleanup p settings policy).map _

/-- **Running launches are apart at every moment** of a run of commands from the
empty store, whatever the wrappers do to the store meanwhile but record new
launches. -/
theorem running_launches_apart (hp : p.Within BeginsNone) (hspawn : p.SpawnsWithin BeginsNone)
    (settings : Settings) (commands : List Command) (now : Int) (journal : List Event)
    (outside : σ) :
    let start : World σ := ⟨.empty, now, journal, outside⟩
    let seen := ((performAll p.observed settings commands).run start.observed).2.moments
    (∀ v ∈ seen, v.store.Exclusive)
      ∧ seen.head? = some ((performAll p settings commands).run start).2 := by
  intro start seen
  have hstart : Tidy start.observed := by
    refine ⟨?_, trivial⟩
    intro v hv
    rw [List.mem_singleton.mp hv]
    exact List.Pairwise.nil
  have htidy : Tidy ((performAll p.observed settings commands).run start.observed).2 :=
    (frame_tidy hp).performAll (fun _ _ _ => trivial) (fun _ _ _ => rfl) (fun _ _ => rfl)
      (fun _ _ => rfl) (run_tidy hp hspawn) commands start.observed hstart
  have hmirrors := (mirrors_performAll p settings commands start.observed).2
  refine ⟨htidy.1, ?_⟩
  show some _ = _
  rw [hmirrors]
  rfl

/-- Three services, of which the second has the first one's command line and
directory: the second takes over its place and its port. -/
theorem running_launches_apart_with_takeover :
    let deeds : Launch.Payload → List Operation := fun payload =>
      [.updatePid payload.launch (60 + payload.launch.toNat)]
    let p := castPlatform 50 deeds
    let service (name shell : String) : ResolvedService :=
      ⟨name, shell, ⟨"/srv"⟩, .empty, true, ⟨"/srv"⟩⟩
    let commands : List Command :=
      [.run (service "web" "serve"), .run (service "db" "serve"), .run (service "api" "listen")]
    let actor (pid : Nat) : Rehearsal.Actor := ⟨pid, true, .die, .die, .ignore, 0, [], none⟩
    let start : World Rehearsal.Cast := ⟨.empty, 0, [], [actor 61, actor 62, actor 63]⟩
    let last := ((performAll p (.standard ⟨"wrapper"⟩) commands).run start).2
    (last.store.launches.map fun r => (r.id, r.running, r.port))
        = [(3, 1, some 3002), (2, 1, some 3001), (1, 0, some 3001)]
      ∧ last.store.Exclusive := by
  intro deeds p service commands actor start last
  have hsame : ∀ w : World Rehearsal.Cast, BeginsNone w w := fun w => ⟨[], by simp, rfl⟩
  have hp : p.Within BeginsNone :=
    castPlatform_within hsame (fun _ => hsame) fun _ _ => hsame
  have hspawn : p.SpawnsWithin BeginsNone := by
    refine castPlatform_spawnsWithin fun payload w => ⟨deeds payload, ?_, rfl⟩
    intro op hop
    rw [List.mem_singleton.mp hop]
    rfl
  obtain ⟨hseen, hhead⟩ :=
    running_launches_apart hp hspawn (.standard ⟨"wrapper"⟩) commands 0 [] start.outside
  exact ⟨by decide +kernel, hseen last (List.mem_of_head? hhead)⟩

end Supervisor

end Overseer
