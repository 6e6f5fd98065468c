/-
Overseer.Proofs.Supervisor.Observed — the supervisor under observation.

Laws on what is so at every point of a run need the points. The supervisor
changes the store only after it has let the other parties act, so whoever sees
the world before and after everything that is asked of the platform misses
nothing. `Platform.observed` is a platform that does what a given one does and
keeps the worlds it sees; the `moments` of a run are these and the last one.

Observing changes nothing: `Mirrors` says that an action on the observed
platform gives the answer it gives without observation and leaves the same
world. There is one law for each of the supervisor's actions.
-/
import Overseer.Proofs.Supervisor.Triple
import Overseer.Supervisor.Inspect
import Overseer.Supervisor.Run

namespace Overseer.Supervisor

/-- The rest of the world, and the worlds that were seen, latest first. -/
structure Observed (σ : Type) where
  outside : σ
  seen : List (World σ)

variable {σ α β : Type}

namespace World

/-- The world without what was seen of it. -/
def unobserved (w : World (Observed σ)) : World σ := { w with outside := w.outside.outside }

/-- The world at the beginning of an observation. -/
def observed (w : World σ) : World (Observed σ) := { w with outside := ⟨w.outside, []⟩ }

/-- The world as it is and the worlds that were seen, latest first. -/
def moments (w : World (Observed σ)) : List (World σ) := w.unobserved :: w.outside.seen

@[simp] theorem unobserved_observed (w : World σ) : w.observed.unobserved = w := rfl

end World

/-- Does something and keeps the worlds before and after it. -/
def observing (a : StateM (World σ) α) : StateM (World (Observed σ)) α := fun w =>
  let before := w.unobserved
  let (x, after) := a.run before
  (x, { after with outside := ⟨after.outside, after :: before :: w.outside.seen⟩ })

/-- The platform under observation. -/
def Platform.observed (p : Platform σ) : Platform (Observed σ) where
  isAlive pid := observing (p.isAlive pid)
  signal pid s := observing (p.signal pid s).run
  killTree pid s := observing (p.killTree pid s).run
  portIsFree port := observing (p.portIsFree port)
  spawn program payload := observing (p.spawn program payload).run
  exited? wrapper := observing (p.exited? wrapper)
  sleep limit := observing (p.sleep limit)
  others := observing p.others

/-! ## 1. What the platform does -/

/-- One step of the platform, seen before and after. -/
def SeenStep (R : World σ → World σ → Prop) (w w' : World (Observed σ)) : Prop :=
  R w.unobserved w'.unobserved
    ∧ w'.outside.seen = w'.unobserved :: w.unobserved :: w.outside.seen

theorem seenStep_observing {R : World σ → World σ → Prop} {a : StateM (World σ) α}
    {w : World (Observed σ)} (h : R w.unobserved (a.run w.unobserved).2) :
    SeenStep R w ((observing a).run w).2 := ⟨h, rfl⟩

theorem Platform.Within.observed {p : Platform σ} {R : World σ → World σ → Prop}
    (h : p.Within R) : p.observed.Within (SeenStep R) where
  isAlive pid w := seenStep_observing (h.isAlive pid w.unobserved)
  signal pid s w := seenStep_observing (h.signal pid s w.unobserved)
  killTree pid s w := seenStep_observing (h.killTree pid s w.unobserved)
  portIsFree port w := seenStep_observing (h.portIsFree port w.unobserved)
  exited? wrapper w := seenStep_observing (h.exited? wrapper w.unobserved)
  sleep limit w := seenStep_observing (h.sleep limit w.unobserved)
  others w := seenStep_observing (h.others w.unobserved)

theorem Platform.SpawnsWithin.observed {p : Platform σ} {R : World σ → World σ → Prop}
    (h : p.SpawnsWithin R) : p.observed.SpawnsWithin (SeenStep R) :=
  fun program payload w => seenStep_observing (h program payload w.unobserved)

/-! ## 2. Observing changes nothing -/

/-- `a` under observation is `b` without. -/
def Mirrors (a : StateM (World (Observed σ)) α) (b : StateM (World σ) α) : Prop :=
  ∀ w, (a.run w).1 = (b.run w.unobserved).1
    ∧ (a.run w).2.unobserved = (b.run w.unobserved).2

/-- The same for actions that can fail. -/
def ActMirrors (a : Act (Observed σ) α) (b : Act σ α) : Prop := Mirrors a.run b.run

theorem mirrors_observing (a : StateM (World σ) α) : Mirrors (observing a) a :=
  fun _ => ⟨rfl, rfl⟩

theorem mirrors_pure (x : α) : Mirrors (σ := σ) (pure x) (pure x) := fun _ => ⟨rfl, rfl⟩

theorem Mirrors.bind {a : StateM (World (Observed σ)) α} {b : StateM (World σ) α}
    {f : α → StateM (World (Observed σ)) β} {g : α → StateM (World σ) β} (h : Mirrors a b)
    (hf : ∀ x, Mirrors (f x) (g x)) : Mirrors (a >>= f) (b >>= g) := by
  intro w
  obtain ⟨hanswer, hworld⟩ := h w
  have hafter := hf (a.run w).1 (a.run w).2
  have hnext : (g (a.run w).1).run (b.run w.unobserved).2 = (b >>= g).run w.unobserved := by
    rw [hanswer]
    rfl
  rw [hworld, hnext] at hafter
  exact hafter

/-- Only what is the same in both worlds may be used of them. -/
theorem mirrors_get {f : World (Observed σ) → StateM (World (Observed σ)) α}
    {g : World σ → StateM (World σ) α} (h : ∀ w, Mirrors (f w) (g w.unobserved)) :
    Mirrors (get >>= f) (get >>= g) := fun w => h w w

theorem ActMirrors.bind {a : Act (Observed σ) α} {b : Act σ α}
    {f : α → Act (Observed σ) β} {g : α → Act σ β} (h : ActMirrors a b)
    (hf : ∀ x, ActMirrors (f x) (g x)) : ActMirrors (a >>= f) (b >>= g) := by
  unfold ActMirrors
  rw [ExceptT.run_bind, ExceptT.run_bind]
  refine Mirrors.bind h ?_
  rintro (_ | x)
  · exact mirrors_pure _
  · exact hf x

theorem actMirrors_pure (x : α) : ActMirrors (σ := σ) (pure x) (pure x) := fun _ => ⟨rfl, rfl⟩

theorem actMirrors_throw (f : Fault) : ActMirrors (σ := σ) (α := α) (throw f) (throw f) :=
  fun _ => ⟨rfl, rfl⟩

theorem Mirrors.lift {a : StateM (World (Observed σ)) α} {b : StateM (World σ) α}
    (h : Mirrors a b) : ActMirrors (liftM a : Act (Observed σ) α) (liftM b : Act σ α) :=
  fun w => ⟨congrArg Except.ok (h w).1, (h w).2⟩

theorem actMirrors_get {f : World (Observed σ) → Act (Observed σ) α} {g : World σ → Act σ α}
    (h : ∀ w, ActMirrors (f w) (g w.unobserved)) : ActMirrors (get >>= f) (get >>= g) :=
  fun w => h w w

theorem ActMirrors.attempting {a : Act (Observed σ) α} {b : Act σ α} (h : ActMirrors a b) :
    ActMirrors (attempt a) (attempt b) := by
  unfold ActMirrors attempt
  rw [ExceptT.run_lift, ExceptT.run_lift, map_eq_pure_bind, map_eq_pure_bind]
  exact Mirrors.bind h fun x => mirrors_pure _

theorem ActMirrors.map {a : Act (Observed σ) α} {b : Act σ α} (h : ActMirrors a b) (f : α → β) :
    ActMirrors (f <$> a) (f <$> b) := by
  rw [map_eq_pure_bind, map_eq_pure_bind]
  exact h.bind fun x => actMirrors_pure _

section

variable (p : Platform σ) (settings : Settings)

theorem mirrors_access (f : Store → Except StoreFault (α × Store)) :
    ActMirrors (access p.observed f) (access p f) := by
  refine (mirrors_observing p.others).lift.bind fun _ => actMirrors_get fun w => ?_
  rcases hf : f w.store with cause | ⟨x, s⟩
  · have hf' : f w.unobserved.store = .error cause := hf
    rw [hf']
    exact actMirrors_throw _
  · have hf' : f w.unobserved.store = .ok (x, s) := hf
    rw [hf']
    exact fun _ => ⟨rfl, rfl⟩

theorem mirrors_look (f : Store → α) : ActMirrors (look p.observed f) (look p f) :=
  mirrors_access p _

theorem mirrors_markExited (id code : Int) :
    ActMirrors (markExited p.observed id code) (markExited p id code) :=
  actMirrors_get fun _ => mirrors_access p _

theorem mirrors_note (e : Event) : Mirrors (σ := σ) (note e) (note e) := fun _ => ⟨rfl, rfl⟩

theorem mirrors_check (pid : Nat) : Mirrors (check p.observed pid) (check p pid) :=
  (mirrors_observing (p.isAlive pid)).bind fun _ => (mirrors_note _).bind fun _ => mirrors_pure _

theorem mirrors_checkSome (pid? : Option Nat) :
    Mirrors (checkSome p.observed pid?) (checkSome p pid?) := by
  cases pid? with
  | none => exact mirrors_pure _
  | some pid => exact mirrors_check p pid

theorem mirrors_isRecordAlive (r : ProcessRecord) :
    Mirrors (isRecordAlive p.observed settings r) (isRecordAlive p settings r) :=
  (mirrors_checkSome p _).bind fun _ => (mirrors_checkSome p _).bind fun _ =>
    mirrors_get fun _ => mirrors_pure _

theorem mirrors_sweepEach (records : List ProcessRecord) :
    ActMirrors (sweepEach p.observed settings records) (sweepEach p settings records) := by
  induction records with
  | nil => exact actMirrors_pure _
  | cons r rest ih =>
    refine (mirrors_isRecordAlive p settings r).lift.bind fun alive => ?_
    cases alive with
    | true => exact ih
    | false => exact (mirrors_markExited p _ _).bind fun _ => ih.bind fun _ => actMirrors_pure _

theorem mirrors_sweep : ActMirrors (sweep p.observed settings) (sweep p settings) :=
  (mirrors_look p _).bind fun _ => mirrors_sweepEach p settings _

theorem mirrors_killTree (pid : Nat) (s : Signal) :
    ActMirrors (killTree p.observed pid s) (killTree p pid s) :=
  (mirrors_note _).lift.bind fun _ => mirrors_observing (p.killTree pid s).run

theorem mirrors_signalOne (pid : Nat) (s : Signal) :
    ActMirrors (signalOne p.observed pid s) (signalOne p pid s) :=
  (mirrors_note _).lift.bind fun _ => mirrors_observing (p.signal pid s).run

theorem mirrors_killTrees (s : Signal) (pids : List Nat) :
    ActMirrors (killTrees p.observed s pids) (killTrees p s pids) := by
  induction pids with
  | nil => exact actMirrors_pure _
  | cons pid rest ih => exact (mirrors_killTree p pid s).bind fun _ => ih

theorem mirrors_allDead (pids : List Nat) : Mirrors (allDead p.observed pids) (allDead p pids) := by
  induction pids with
  | nil => exact mirrors_pure _
  | cons pid rest ih =>
    refine (mirrors_check p pid).bind fun alive => ?_
    cases alive with
    | true => exact mirrors_pure _
    | false => exact ih

theorem mirrors_survivors (pids : List Nat) :
    Mirrors (survivors p.observed pids) (survivors p pids) := by
  induction pids with
  | nil => exact mirrors_pure _
  | cons pid rest ih =>
    exact (mirrors_check p pid).bind fun _ => ih.bind fun _ => mirrors_pure _

theorem mirrors_waitDead (pids : List Nat) (limit : Nat) :
    Mirrors (waitDead p.observed pids limit) (waitDead p pids limit) := by
  unfold waitDead
  induction Port.looks limit pollTime with
  | zero => exact mirrors_allDead p pids
  | succ left ih =>
    refine (mirrors_allDead p pids).bind fun dead => ?_
    cases dead with
    | true => exact mirrors_pure _
    | false => exact (mirrors_observing (p.sleep pollTime)).bind fun _ => ih

theorem mirrors_stopRecord (r : ProcessRecord) :
    ActMirrors (stopRecord p.observed settings r) (stopRecord p settings r) := by
  refine (mirrors_killTrees p _ _).bind fun _ => (mirrors_waitDead p _ _).lift.bind fun dead => ?_
  cases dead with
  | true => exact (mirrors_markExited p _ _).bind fun _ => actMirrors_pure _
  | false =>
    refine (mirrors_killTrees p _ _).bind fun _ => (mirrors_waitDead p _ _).lift.bind fun _ => ?_
    exact (mirrors_markExited p _ _).bind fun _ => actMirrors_pure _

theorem mirrors_stopEach (records : List ProcessRecord) :
    ActMirrors (stopEach p.observed settings records) (stopEach p settings records) := by
  induction records with
  | nil => exact actMirrors_pure _
  | cons r rest ih => exact (mirrors_stopRecord p settings r).bind fun _ => ih

theorem mirrors_kill (key : ServiceKey) :
    ActMirrors (kill p.observed settings key) (kill p settings key) :=
  (mirrors_sweep p settings).bind fun _ => (mirrors_look p _).bind fun _ =>
    (mirrors_stopEach p settings _).bind fun _ => actMirrors_pure _

theorem mirrors_forceStop (r : ProcessRecord) :
    ActMirrors (forceStop p.observed settings r) (forceStop p settings r) := by
  refine (mirrors_isRecordAlive p settings r).lift.bind fun alive => ?_
  cases alive with
  | false => exact (mirrors_markExited p _ _).bind fun _ => actMirrors_pure _
  | true =>
    refine (mirrors_killTrees p _ _).bind fun _ => ?_
    refine (mirrors_observing (p.sleep settings.killAllGrace)).lift.bind fun _ => ?_
    refine (mirrors_survivors p _).lift.bind fun left => ?_
    cases left with
    | nil => exact (mirrors_markExited p _ _).bind fun _ => actMirrors_pure _
    | cons pid rest =>
      refine (mirrors_killTrees p _ _).bind fun _ => ?_
      refine (mirrors_observing (p.sleep settings.killAllGrace)).lift.bind fun _ => ?_
      exact (mirrors_markExited p _ _).bind fun _ => actMirrors_pure _

theorem mirrors_forceEach (records : List ProcessRecord) :
    ActMirrors (forceEach p.observed settings records) (forceEach p settings records) := by
  induction records with
  | nil => exact actMirrors_pure _
  | cons r rest ih =>
    refine (mirrors_forceStop p settings r).attempting.bind fun outcome => ih.bind fun _ => ?_
    rcases outcome with _ | _ | _ <;> exact actMirrors_pure _

theorem mirrors_killAll : ActMirrors (killAll p.observed settings) (killAll p settings) := by
  refine (mirrors_look p _).bind fun running => ?_
  cases running with
  | nil => exact actMirrors_pure _
  | cons r rest => exact (mirrors_forceEach p settings _).bind fun _ => actMirrors_pure _

theorem mirrors_firstPassing (ports : List Nat) :
    Mirrors (Port.firstPassing p.observed.portIsFree ports)
      (Port.firstPassing p.portIsFree ports) := by
  induction ports with
  | nil => exact mirrors_pure _
  | cons port rest ih =>
    refine (mirrors_observing (p.portIsFree port)).bind fun free => ?_
    cases free with
    | true => exact mirrors_pure _
    | false => exact ih

theorem mirrors_allocatePort : ActMirrors (allocatePort p.observed) (allocatePort p) := by
  refine (mirrors_look p _).bind fun _ => (mirrors_look p _).bind fun _ => ?_
  refine (mirrors_firstPassing p _).lift.bind fun port? => ?_
  cases port? with
  | some port => exact actMirrors_pure _
  | none => exact actMirrors_throw _

theorem mirrors_pickPort (project : Path) :
    ActMirrors (pickPort p.observed project) (pickPort p project) := by
  refine (mirrors_look p _).bind fun port? => ?_
  rcases port? with _ | port
  · exact mirrors_allocatePort p
  · refine (mirrors_look p _).bind fun used => ?_
    cases hused : used.contains port with
    | true => simpa [hused] using mirrors_allocatePort p
    | false =>
      simp only [Bool.false_eq_true, if_false]
      refine (mirrors_observing (p.portIsFree port)).lift.bind fun free => ?_
      cases free with
      | true => exact actMirrors_pure _
      | false => exact mirrors_allocatePort p

theorem mirrors_replace (find : Store → Option ProcessRecord) :
    ActMirrors (replace p.observed settings find) (replace p settings find) := by
  refine (mirrors_look p _).bind fun found => ?_
  cases found with
  | none => exact actMirrors_pure _
  | some r => exact (mirrors_stopRecord p settings r).bind fun _ => actMirrors_pure _

theorem mirrors_startFault (id : Int) :
    ActMirrors (startFault p.observed id) (startFault p id) := by
  rw [startFault_eq, startFault_eq]
  exact (mirrors_access p _).attempting.bind fun _ => actMirrors_pure _

theorem mirrors_lookForPid (id : Int) (wrapper : Wrapper)
    {next : ProcessRecord → Act (Observed σ) ProcessRecord}
    {next' : ProcessRecord → Act σ ProcessRecord} (hnext : ∀ r, ActMirrors (next r) (next' r)) :
    ActMirrors (lookForPid p.observed id wrapper next) (lookForPid p id wrapper next') := by
  refine (mirrors_look p _).bind fun record? => ?_
  rcases record? with _ | record
  · exact actMirrors_throw _
  by_cases hpid : record.pid ≠ 0
  · simp only [hpid, ne_eq, not_false_eq_true, if_true]
    exact actMirrors_pure _
  · simp only [hpid, if_false]
    refine (mirrors_observing (p.exited? wrapper)).lift.bind fun exit => ?_
    cases hover : !record.running || exit.isSome with
    | true =>
      refine (mirrors_markExited p _ _).bind fun _ => (mirrors_startFault p id).bind fun _ => ?_
      exact (actMirrors_throw _).bind fun _ => hnext record
    | false => exact hnext record

theorem mirrors_pollPid (id : Int) (wrapper : Wrapper) (left : Nat) :
    ActMirrors (pollPid p.observed id wrapper left) (pollPid p id wrapper left) := by
  induction left with
  | zero =>
    rw [pollPid_zero, pollPid_zero]
    exact mirrors_lookForPid p id wrapper fun _ => actMirrors_pure _
  | succ left ih =>
    rw [pollPid_succ, pollPid_succ]
    exact mirrors_lookForPid p id wrapper fun _ =>
      (mirrors_observing (p.sleep pollTime)).lift.bind fun _ => ih

theorem mirrors_startWrapper (service : ResolvedService) (id : Int) (port : Option Nat) :
    ActMirrors (startWrapper p.observed settings service id port)
      (startWrapper p settings service id port) := by
  refine (mirrors_note _).lift.bind fun _ => ?_
  refine ActMirrors.bind (ActMirrors.attempting (mirrors_observing (p.spawn _ _).run))
    fun outcome => ?_
  rcases outcome with fault | wrapper
  · exact (mirrors_markExited p _ _).bind fun _ => actMirrors_throw _
  · exact (mirrors_access p _).bind fun _ => mirrors_pollPid p _ _ _

theorem mirrors_run (service : ResolvedService) :
    ActMirrors (run p.observed settings service) (run p settings service) := by
  refine (mirrors_sweep p settings).bind fun _ => ?_
  refine (mirrors_replace p settings _).bind fun _ =>
    (mirrors_replace p settings _).bind fun _ => ?_
  cases hwants : service.wantsPort with
  | true =>
    refine ((mirrors_pickPort p _).map some).bind fun port => actMirrors_get fun _ => ?_
    refine (mirrors_access p _).bind fun id => ?_
    exact (mirrors_startWrapper p settings service id port).bind fun _ => actMirrors_pure _
  | false =>
    refine (actMirrors_pure none).bind fun port => actMirrors_get fun _ => ?_
    refine (mirrors_access p _).bind fun id => ?_
    exact (mirrors_startWrapper p settings service id port).bind fun _ => actMirrors_pure _

theorem mirrors_restart (service : ResolvedService) :
    ActMirrors (restart p.observed settings service) (restart p settings service) :=
  (mirrors_kill p settings _).bind fun _ => (mirrors_run p settings service).bind fun _ =>
    actMirrors_pure _

theorem mirrors_signalRestart (key : ServiceKey) :
    ActMirrors (signalRestart p.observed settings key) (signalRestart p settings key) := by
  refine (mirrors_sweep p settings).bind fun _ => (mirrors_look p _).bind fun active => ?_
  rcases active with _ | record
  · exact actMirrors_throw _
  · rcases hpid : record.wrapperPid with _ | pid
    · simp only [hpid]
      exact actMirrors_throw _
    · simp only [hpid]
      refine (mirrors_signalOne p pid .usr1).bind fun reached => ?_
      cases reached with
      | true => exact actMirrors_pure _
      | false => exact actMirrors_throw _

theorem mirrors_listRunning (project? : Option Path) :
    ActMirrors (listRunning p.observed settings project?) (listRunning p settings project?) :=
  (mirrors_sweep p settings).bind fun _ => mirrors_look p _

theorem mirrors_status (s : ResolvedService) : ActMirrors (status p.observed s) (status p s) := by
  refine (mirrors_look p _).bind fun active => ?_
  cases active with
  | some record => exact actMirrors_pure _
  | none => exact (mirrors_look p _).bind fun _ => actMirrors_pure _

theorem mirrors_statusEach (services : List ResolvedService) :
    ActMirrors (statusEach p.observed services) (statusEach p services) := by
  induction services with
  | nil => exact actMirrors_pure _
  | cons s rest ih => exact (mirrors_status p s).bind fun _ => ih.bind fun _ => actMirrors_pure _

theorem mirrors_listServices (project : Project) :
    ActMirrors (listServices p.observed settings project) (listServices p settings project) :=
  (mirrors_sweep p settings).bind fun _ => mirrors_statusEach p _

theorem mirrors_cleanup (policy : RetentionPolicy) :
    ActMirrors (cleanup p.observed settings policy) (cleanup p settings policy) :=
  (mirrors_sweep p settings).bind fun _ => actMirrors_get fun _ => mirrors_access p _

theorem mirrors_assignPort (project : Path) (port : Nat) :
    ActMirrors (assignPort p.observed project port) (assignPort p project port) := by
  refine (mirrors_look p _).bind fun running => ?_
  cases hheld : running.any (holdsElsewhere project port) with
  | true =>
    simp only [if_true]
    exact (actMirrors_throw _).bind fun _ => mirrors_access p _
  | false =>
    simp only [Bool.false_eq_true, if_false]
    exact mirrors_access p _

end

end Overseer.Supervisor
