/-
Overseer.Proofs.Supervisor.Ending — when the supervisor may end a launch.

`endings_justified`: whenever sweeping, killing or replacing ends a running
launch, either the launch is marked as found dead, and at that moment neither
its child nor its wrapper is alive and it is not being started; or it is marked
as killed, and by then each of its pids is dead or was sent the signal that no
process can catch. Sweeping never ends a launch in the second way.

That a launch marked as killed is dead cannot be had: a process may outlive the
last wait, and a launch may have none yet, and it is marked none the less
(`killAll_ends_living`).

What the actions learn about processes is `Stable`: the dead stay dead and the
journal only grows, so a fact found before a wait still holds after it. Only
whether a launch is being started depends on the clock, and the clock stands
still between the last look at the launch and its end.
-/
import Mathlib.Data.List.Chain
import Overseer.Proofs.Supervisor.Cast
import Overseer.Proofs.Supervisor.Frame
import Overseer.Proofs.Supervisor.Observed

namespace Overseer.Supervisor

open Store (LaunchesSound Operation)

variable {σ : Type} {p : Platform σ} {settings : Settings} {alive : σ → Nat → Bool}

/-! ## 1. Process tables -/

/-- The store is as it was, the journal has grown, and who was dead is dead. -/
structure Onward (alive : σ → Nat → Bool) (w w' : World σ) : Prop where
  store : w'.store = w.store
  journal : w.journal <:+ w'.journal
  dead : ∀ pid, alive w.outside pid = false → alive w'.outside pid = false

/-- The platform is a table of processes, and `alive` tells who lives. Processes
die whenever they like, but the dead do not rise; the clock may move in any
way while a signal is sent or time passes. -/
structure Platform.KeepsTable (p : Platform σ) (alive : σ → Nat → Bool) : Prop where
  within : p.Within (Onward alive)
  answers : ∀ pid w, ((p.isAlive pid).run w).1 = alive ((p.isAlive pid).run w).2.outside pid
  asking : ∀ pid w, ((p.isAlive pid).run w).2.now = w.now
  waiting : ∀ w, (p.others.run w).2.now = w.now

/-- The process is dead. -/
def Dead (alive : σ → Nat → Bool) (pid : Nat) (w : World σ) : Prop := alive w.outside pid = false

/-- The process and its descendants were sent the signal. -/
def WasSent (s : Signal) (pid : Nat) (w : World σ) : Prop := .signalled true pid s ∈ w.journal

/-- Holds on once it holds. -/
def Stable (alive : σ → Nat → Bool) (J : World σ → Prop) : Prop :=
  ∀ w w', Onward alive w w' → J w → J w'

theorem stable_dead (pid : Nat) : Stable alive (Dead alive pid) := fun _ _ h => h.dead pid

theorem stable_wasSent (s : Signal) (pid : Nat) : Stable alive (WasSent s pid) :=
  fun _ _ h hsent => h.journal.subset hsent

section

variable {J J' : World σ → Prop}

theorem stable_true : Stable alive fun _ => True := fun _ _ _ _ => trivial

theorem Stable.and (h : Stable alive J) (h' : Stable alive J') :
    Stable alive fun w => J w ∧ J' w :=
  fun w w' hon hw => ⟨h w w' hon hw.1, h' w w' hon hw.2⟩

theorem Stable.or (h : Stable alive J) (h' : Stable alive J') :
    Stable alive fun w => J w ∨ J' w :=
  fun w w' hon => Or.imp (h w w' hon) (h' w w' hon)

theorem Stable.given (h : Stable alive J) (c : Prop) : Stable alive fun w => c → J w :=
  fun w w' hon hw hc => h w w' hon (hw hc)

theorem stable_forall {ι : Sort*} {J : ι → World σ → Prop} (h : ∀ i, Stable alive (J i)) :
    Stable alive fun w => ∀ i, J i w :=
  fun w w' hon hw i => h i w w' hon (hw i)

end

/-- Nothing that belongs to the launch is alive, and it is not being started. -/
def Gone (alive : σ → Nat → Bool) (settings : Settings) (r : ProcessRecord) (w : World σ) : Prop :=
  (∀ pid ∈ pidsToStop r, Dead alive pid w) ∧ isLaunching settings w.now r = false

/-- Each process of the launch is dead or was sent the signal to kill. -/
def DoneFor (alive : σ → Nat → Bool) (r : ProcessRecord) (w : World σ) : Prop :=
  ∀ pid ∈ pidsToStop r, Dead alive pid w ∨ WasSent .kill pid w

theorem stable_doneFor (r : ProcessRecord) : Stable alive (DoneFor alive r) :=
  stable_forall fun pid => ((stable_dead pid).or (stable_wasSent .kill pid)).given _

theorem forall_pidsToStop {r : ProcessRecord} {P : Nat → Prop} :
    (∀ pid ∈ pidsToStop r, P pid) ↔ (∀ pid ∈ r.childPid?, P pid) ∧ ∀ pid ∈ r.wrapperPid, P pid := by
  simp only [pidsToStop, List.mem_append, Option.mem_toList, or_imp, forall_and]
  exact and_comm

/-- Both ways of stopping a launch mean the same processes. -/
theorem forall_pidsToForce {r : ProcessRecord} {P : Nat → Prop} :
    (∀ pid ∈ pidsToForce r, P pid) ↔ ∀ pid ∈ pidsToStop r, P pid := by
  simp only [pidsToStop, pidsToForce, List.mem_append, or_comm]

namespace Platform.KeepsTable

variable (hp : p.KeepsTable alive)
include hp

theorem isAlive_of_dead {pid : Nat} {w : World σ} (h : Dead alive pid w) :
    ((p.isAlive pid).run w).1 = false := by
  rw [hp.answers]
  exact (hp.within.isAlive pid w).dead pid h

/-- Asking about a process of a launch that is gone leaves it gone. -/
theorem checkSome_gone {r : ProcessRecord} {pid? : Option Nat}
    (hpid : ∀ pid ∈ pid?, pid ∈ pidsToStop r) :
    Asks (Gone alive settings r) (checkSome p pid?)
      fun a w => a = false ∧ Gone alive settings r w := by
  rcases pid? with _ | pid
  · exact asks_pure fun _ hw => ⟨rfl, hw⟩
  have hask : Asks (Gone alive settings r) (p.isAlive pid)
      fun a w => a = false ∧ Gone alive settings r w := by
    intro w hw
    have hon := hp.within.isAlive pid w
    refine ⟨hp.isAlive_of_dead (hw.1 pid (hpid pid rfl)), ?_, ?_⟩
    · exact fun other hother => hon.dead other (hw.1 other hother)
    · rw [hp.asking]
      exact hw.2
  refine hask.bind fun a => Asks.bind (asks_note (Q := fun _ w => a = false
    ∧ Gone alive settings r w) fun _ hw => hw) fun _ => asks_pure fun _ hw => hw

theorem isRecordAlive_of_gone {r : ProcessRecord} {w : World σ} (h : Gone alive settings r w) :
    ((isRecordAlive p settings r).run w).1 = false := by
  have hasks : Asks (Gone alive settings r) (isRecordAlive p settings r) fun a _ => a = false := by
    obtain ⟨hchild, hwrapper⟩ := forall_pidsToStop.mp fun pid (hpid : pid ∈ pidsToStop r) => hpid
    refine (hp.checkSome_gone hchild).bind fun child => ?_
    refine Asks.bind (Q := fun wrapper w => child = false ∧ wrapper = false
      ∧ Gone alive settings r w) ?_ fun wrapper => ?_
    · intro w hw
      exact ⟨hw.1, hp.checkSome_gone hwrapper w hw.2⟩
    · refine Asks.bind (asks_get (Q := fun v w => child = false ∧ wrapper = false
        ∧ isLaunching settings v.now r = false) fun w hw => ⟨hw.1, hw.2.1, hw.2.2.2⟩) fun v => ?_
      refine asks_pure fun _ hw => ?_
      simp [hw.1, hw.2.1, hw.2.2]
  exact hasks w h

end Platform.KeepsTable

/-! ## 2. Ends of launches -/

/-- From the earlier world to the later one launches end only as `ok` allows: it
is told the earlier world, the record as it is stored there, and the exit code. -/
def EndsOnly (ok : World σ → ProcessRecord → Option Int → Prop) (later earlier : World σ) : Prop :=
  ∀ r r', earlier.store.launch? r.id = some r → r.running = true →
    later.store.launch? r.id = some r' → r'.running = false → ok earlier r r'.exitCode

/-- A launch may be ended as found dead if it is not alive. If force is in order
it may also be ended as killed, when each of its pids is dead or was sent the
signal to kill. -/
def Justified (p : Platform σ) (settings : Settings) (forced : Prop) (w : World σ)
    (r : ProcessRecord) (code : Option Int) : Prop :=
  (code = some Store.foundDead ∧ ((isRecordAlive p settings r).run w).1 = false)
    ∨ (forced ∧ code = some killedCode
      ∧ ∀ pid ∈ pidsToStop r, ((p.isAlive pid).run w).1 = false ∨ WasSent .kill pid w)

variable {ok : World σ → ProcessRecord → Option Int → Prop} {s₀ : Store}

theorem EndsOnly.of_store_eq {later earlier : World σ} (h : later.store = earlier.store) :
    EndsOnly ok later earlier := by
  intro r r' hr hruns hr' hover
  rw [h, hr] at hr'
  obtain rfl := Option.some.inj hr'
  rw [hruns] at hover
  cases hover

/-- Every launch that runs is one of the beginning, and launches have ended only
as `ok` allows. -/
structure Accounted (s₀ : Store) (ok : World σ → ProcessRecord → Option Int → Prop)
    (w : World (Observed σ)) : Prop where
  rows : ∀ r ∈ w.store.launches, r.record.running = true → r ∈ s₀.launches
  ends : w.moments.IsChain (EndsOnly ok)

/-- The same, and `J` holds of the world. -/
def AccountedAnd (s₀ : Store) (ok : World σ → ProcessRecord → Option Int → Prop)
    (J : World σ → Prop) (w : World (Observed σ)) : Prop :=
  Accounted s₀ ok w ∧ J w.unobserved

/-- A record of a running launch of the beginning. -/
def Listed (s₀ : Store) (r : ProcessRecord) : Prop :=
  ∃ row ∈ s₀.launches, row.isActive = true ∧ row.record = r

/-- Whoever reads a running launch reads a listed one. -/
theorem Accounted.listed {w : World (Observed σ)} (h : Accounted s₀ ok w) {r : ProcessRecord}
    (hr : Listed w.store r) : Listed s₀ r := by
  obtain ⟨row, hrow, hactive, hrecord⟩ := hr
  exact ⟨row, h.rows row hrow (LaunchRow.running_record_of_isActive hactive), hactive, hrecord⟩

theorem Accounted.seenStep {w w' : World (Observed σ)} (hstep : SeenStep (Onward alive) w w')
    (h : Accounted s₀ ok w) : Accounted s₀ ok w' := by
  obtain ⟨hon, hseen⟩ := hstep
  refine ⟨?_, ?_⟩
  · rw [show w'.store = w.store from hon.store]
    exact h.rows
  · rw [World.moments, hseen]
    refine List.isChain_cons_cons.mpr ⟨.of_store_eq rfl, ?_⟩
    exact List.isChain_cons_cons.mpr ⟨.of_store_eq hon.store, h.ends⟩

/-- Who is told of an end looks at the store only. -/
theorem isChain_moments_congr {w w' : World (Observed σ)} (hstore : w'.store = w.store)
    (hseen : w'.outside.seen = w.outside.seen) (h : w.moments.IsChain (EndsOnly ok)) :
    w'.moments.IsChain (EndsOnly ok) := by
  rw [World.moments, hseen]
  rw [World.moments] at h
  rcases hrest : w.outside.seen with _ | ⟨last, older⟩
  · exact List.isChain_singleton _
  · rw [hrest] at h
    obtain ⟨hends, holder⟩ := List.isChain_cons_cons.mp h
    refine List.isChain_cons_cons.mpr ⟨?_, holder⟩
    intro r r' hr hruns hr' hover
    exact hends r r' hr hruns (by rw [← hr']; exact congrArg (·.launch? r.id) hstore.symm) hover

section

variable (hp : p.KeepsTable alive)
include hp

theorem frame_accounted {J : World σ → Prop} (hJ : Stable alive J) :
    Frame p.observed (AccountedAnd s₀ ok J) (fun _ => True) (fun _ => False) where
  platform := hp.within.observed.mono fun _ _ hstep h => ⟨h.1.seenStep hstep, hJ _ _ hstep.1 h.2⟩
  checked _ _ := trivial
  note e _ w h := by
    refine ⟨⟨h.1.rows, isChain_moments_congr (w := w) rfl rfl h.1.ends⟩, hJ _ _ ?_ h.2⟩
    exact ⟨rfl, List.suffix_cons e _, fun _ hdead => hdead⟩
  write _ hop := hop.elim

/-! ## 3. What is learned about processes -/

theorem check_dead {J : World σ → Prop} (hJ : Stable alive J) (pid : Nat) :
    Asks (AccountedAnd s₀ ok J) (check p.observed pid)
      fun a => AccountedAnd s₀ ok fun w => J w ∧ (a = false → Dead alive pid w) := by
  have hask : Asks (AccountedAnd s₀ ok J) (p.observed.isAlive pid)
      fun a => AccountedAnd s₀ ok fun w => J w ∧ (a = false → Dead alive pid w) := by
    intro w hw
    obtain ⟨hends, hkept⟩ := (frame_accounted hp hJ).platform.isAlive pid w hw
    exact ⟨hends, hkept, fun ha => (hp.answers pid w.unobserved).symm.trans ha⟩
  refine hask.bind fun a => ?_
  have hframe : Frame p.observed
      (AccountedAnd s₀ ok fun w => J w ∧ (a = false → Dead alive pid w)) (fun _ => True)
      fun _ => False := frame_accounted hp (hJ.and ((stable_dead pid).given _))
  exact (hframe.noting trivial).bind fun _ => asks_pure fun _ hw => hw

/-- All are dead if that is the answer. -/
theorem allDead_dead {J : World σ → Prop} (hJ : Stable alive J) (pids : List Nat) :
    Asks (AccountedAnd s₀ ok J) (allDead p.observed pids)
      fun dead => AccountedAnd s₀ ok fun w =>
        J w ∧ (dead = true → ∀ pid ∈ pids, Dead alive pid w) := by
  induction pids generalizing J with
  | nil => exact asks_pure fun w hw => ⟨hw.1, hw.2, fun _ pid hpid => by cases hpid⟩
  | cons pid rest ih =>
    refine (check_dead hp hJ pid).bind fun a => ?_
    cases a with
    | true => exact asks_pure fun w hw => ⟨hw.1, hw.2.1, fun h => by cases h⟩
    | false =>
      refine (ih (hJ.and ((stable_dead pid).given _))).mono (fun _ hw => hw) ?_
      rintro dead w ⟨hends, ⟨hkept, hfirst⟩, hrest⟩
      exact ⟨hends, hkept, fun h => List.forall_mem_cons.mpr ⟨hfirst rfl, hrest h⟩⟩

theorem waitDead_dead {J : World σ → Prop} (hJ : Stable alive J) (pids : List Nat) (limit : Nat) :
    Asks (AccountedAnd s₀ ok J) (waitDead p.observed pids limit)
      fun dead => AccountedAnd s₀ ok fun w =>
        J w ∧ (dead = true → ∀ pid ∈ pids, Dead alive pid w) := by
  unfold waitDead
  induction Port.looks limit pollTime with
  | zero => exact allDead_dead hp hJ pids
  | succ left ih =>
    refine (allDead_dead hp hJ pids).bind fun dead => ?_
    cases dead with
    | true => exact asks_pure fun _ hw => hw
    | false =>
      refine Asks.bind (Q := fun _ => AccountedAnd s₀ ok J) ?_ fun _ => ih
      refine ((frame_accounted hp hJ).sleep pollTime).mono ?_ fun _ _ hw => hw
      exact fun w hw => ⟨hw.1, hw.2.1⟩

/-- Who is not among the survivors is dead. -/
theorem survivors_dead {J : World σ → Prop} (hJ : Stable alive J) (pids : List Nat) :
    Asks (AccountedAnd s₀ ok J) (survivors p.observed pids)
      fun left => AccountedAnd s₀ ok fun w =>
        J w ∧ ∀ pid ∈ pids, pid ∉ left → Dead alive pid w := by
  induction pids generalizing J with
  | nil => exact asks_pure fun w hw => ⟨hw.1, hw.2, fun pid hpid => by cases hpid⟩
  | cons pid rest ih =>
    refine (check_dead hp hJ pid).bind fun a => ?_
    refine (ih (hJ.and ((stable_dead pid).given (a = false)))).bind fun left => ?_
    refine asks_pure ?_
    rintro w ⟨hends, ⟨hkept, hfirst⟩, hrest⟩
    refine ⟨hends, hkept, List.forall_mem_cons.mpr ?_⟩
    cases a with
    | true =>
      refine ⟨fun hnot => absurd List.mem_cons_self hnot, fun other hother hnot => ?_⟩
      exact hrest other hother fun hleft => hnot (List.mem_cons_of_mem _ hleft)
    | false => exact ⟨fun _ => hfirst rfl, hrest⟩

/-- Who is signalled was sent the signal. -/
theorem killTrees_sent {J : World σ → Prop} (hJ : Stable alive J) (s : Signal) (pids : List Nat) :
    Does (AccountedAnd s₀ ok J) (killTrees p.observed s pids)
      (fun _ => AccountedAnd s₀ ok fun w => J w ∧ ∀ pid ∈ pids, WasSent s pid w)
      (Accounted s₀ ok) := by
  induction pids generalizing J with
  | nil => exact does_pure fun w hw => ⟨hw.1, hw.2, fun pid hpid => by cases hpid⟩
  | cons pid rest ih =>
    have hboth : Stable alive fun w => J w ∧ WasSent s pid w := hJ.and (stable_wasSent s pid)
    have htree : Does (AccountedAnd s₀ ok J) (killTree p.observed pid s)
        (fun _ => AccountedAnd s₀ ok fun w => J w ∧ WasSent s pid w) (Accounted s₀ ok) := by
      refine Does.bind (Q := fun _ => AccountedAnd s₀ ok fun w => J w ∧ WasSent s pid w)
        (Asks.lift (asks_note ?_)) fun _ => ?_
      · intro w hw
        obtain ⟨hends, hkept⟩ := (frame_accounted hp hJ).note (.signalled true pid s) trivial w hw
        exact ⟨hends, hkept, List.mem_cons_self⟩
      · refine (does_of_forall fun w hw => ?_).fault fun _ hw => hw.1
        exact (frame_accounted hp hboth).platform.killTree pid s w hw
    refine htree.bind fun _ => (ih hboth).mono (fun _ hw => hw) ?_ fun _ hw => hw
    rintro _ w ⟨hends, ⟨hkept, hfirst⟩, hrest⟩
    exact ⟨hends, hkept, List.forall_mem_cons.mpr ⟨hfirst, hrest⟩⟩

/-- A launch that is not alive is gone by the clock of that moment. -/
theorem isRecordAlive_gone (r : ProcessRecord) :
    Asks (Accounted s₀ ok) (isRecordAlive p.observed settings r)
      fun a w => Accounted s₀ ok w ∧ (a = false → Gone alive settings r w.unobserved) := by
  have hsome {J : World σ → Prop} (hJ : Stable alive J) (pid? : Option Nat) :
      Asks (AccountedAnd s₀ ok J) (checkSome p.observed pid?)
        fun a => AccountedAnd s₀ ok fun w =>
          J w ∧ (a = false → ∀ pid ∈ pid?, Dead alive pid w) := by
    rcases pid? with _ | pid
    · exact asks_pure fun w hw => ⟨hw.1, hw.2, fun _ pid hpid => by cases hpid⟩
    · refine (check_dead hp hJ pid).mono (fun _ hw => hw) ?_
      rintro a w ⟨hends, hkept, hdead⟩
      refine ⟨hends, hkept, fun ha other hother => ?_⟩
      obtain rfl := Option.mem_some.mp hother
      exact hdead ha
  have hstable (a : Bool) (pid? : Option Nat) :
      Stable alive fun w => a = false → ∀ pid ∈ pid?, Dead alive pid w :=
    (stable_forall fun pid => (stable_dead pid).given _).given _
  refine ((hsome stable_true r.childPid?).pre fun w hw => ⟨hw, trivial⟩).bind fun child => ?_
  refine (hsome (stable_true.and (hstable child _)) r.wrapperPid).bind fun wrapper => ?_
  refine Asks.bind (asks_get (Q := fun v w => v.now = w.now
    ∧ AccountedAnd s₀ ok (fun w => (True ∧ (child = false → ∀ pid ∈ r.childPid?, Dead alive pid w))
      ∧ (wrapper = false → ∀ pid ∈ r.wrapperPid, Dead alive pid w)) w)
    fun w hw => ⟨rfl, hw⟩) fun v => asks_pure ?_
  rintro w ⟨hnow, hends, ⟨-, hchild⟩, hwrapper⟩
  refine ⟨hends, fun ha => ?_⟩
  simp only [Bool.or_eq_false_iff] at ha
  refine ⟨forall_pidsToStop.mpr ⟨hchild ha.1.1, hwrapper ha.1.2⟩, ?_⟩
  rw [← ha.2, hnow]
  rfl

/-! ## 4. Marking -/

/-- A listed launch is marked as ended when `K` holds, which justifies it. -/
theorem markExited_accounted (hs : LaunchesSound s₀) {r : ProcessRecord} (hr : Listed s₀ r)
    {code : Int} {J K : World σ → Prop} (hwait : ∀ w, J w → K (p.others.run w).2)
    (hok : ∀ w, K w → ok w r (some (Word.wrap 32 code))) :
    Does (AccountedAnd s₀ ok J) (markExited p.observed r.id code) (fun _ => Accounted s₀ ok)
      (Accounted s₀ ok) := by
  obtain ⟨row, hrow, _, rfl⟩ := hr
  -- The other parties are seen last, so the world before the mark is the latest that was seen.
  have hothers : Asks (AccountedAnd s₀ ok J) p.observed.others
      fun _ w => AccountedAnd s₀ ok K w ∧ w.outside.seen.head? = some w.unobserved :=
    fun w hw => ⟨⟨hw.1.seenStep (hp.within.observed.others w), hwait _ hw.2⟩, rfl⟩
  refine does_markExited hothers ?_
  rintro now w ⟨⟨hends, hK⟩, hlatest⟩
  obtain ⟨older, hseen⟩ := List.head?_eq_some_iff.mp hlatest
  have hchain := hends.ends
  rw [World.moments, hseen] at hchain
  refine ⟨fun r hr hruns => hends.rows r (Store.mem_of_markExited hr hruns) hruns, ?_⟩
  rw [World.moments]
  refine hseen ▸ List.isChain_cons_cons.mpr ⟨?_, (List.isChain_cons_cons.mp hchain).2⟩
  intro r r' hr hruns hr' hover
  obtain ⟨hid, hcode⟩ := Store.exitCode_of_markExited hr hruns hr' hover
  obtain ⟨row', hrow', hid', rfl⟩ := Store.mem_of_launch? hr
  obtain rfl : row' = row := hs.eq_of_id (hends.rows row' hrow' hruns) hrow hid
  rw [hcode]
  exact hok _ hK

end

/-! ## 5. Sweeping, stopping and replacing -/

/-- What a read finds are running launches of the store. -/
def FindsRunning (find : Store → List ProcessRecord) : Prop := ∀ s, ∀ r ∈ find s, Listed s r

theorem findsRunning_running (project? : Option Path) :
    FindsRunning fun s => s.running project? := by
  intro s r hr
  obtain ⟨row, hrow, rfl⟩ := List.mem_map.mp hr
  obtain ⟨hmem, hactive⟩ := List.mem_filter.mp (List.mem_reverse.mp hrow)
  exact ⟨row, hmem, (Bool.and_eq_true_iff.mp hactive).1, rfl⟩

theorem findsRunning_active? (key : ServiceKey) :
    FindsRunning fun s => (s.active? key).toList := by
  intro s r hr
  obtain ⟨row, hfind, rfl⟩ := Option.map_eq_some_iff.mp (Option.mem_toList.mp hr)
  have hactive := List.find?_some hfind
  exact ⟨row, List.mem_of_find?_eq_some hfind, (Bool.and_eq_true_iff.mp hactive).1, rfl⟩

theorem findsRunning_activeFor? (command : String) (directory : Path) :
    FindsRunning fun s => (s.activeFor? command directory).toList := by
  intro s r hr
  obtain ⟨row, hfind, rfl⟩ := Option.map_eq_some_iff.mp (Option.mem_toList.mp hr)
  have hkind := List.find?_some hfind
  simp only [Bool.and_eq_true] at hkind
  exact ⟨row, List.mem_of_find?_eq_some hfind, hkind.1.1, rfl⟩

section

variable (hp : p.KeepsTable alive) (hs : LaunchesSound s₀)
include hp

/-- The running launches that are read are listed ones. -/
theorem look_listed {α : Type} (find : Store → α) (records : α → List ProcessRecord)
    (hfind : FindsRunning fun s => records (find s)) :
    Does (Accounted s₀ ok) (look p.observed find)
      (fun x w => Accounted s₀ ok w ∧ ∀ r ∈ records x, Listed s₀ r) (Accounted s₀ ok) :=
  does_look (fun w hw => hw.seenStep (hp.within.observed.others w)) fun w hw =>
    ⟨hw, fun r hr => hw.listed (hfind w.store r hr)⟩

include hs

section

variable (hfound : ∀ r w, Gone alive settings r w → ok w r (some Store.foundDead))
include hfound

theorem markFound_accounted {r : ProcessRecord} (hr : Listed s₀ r) :
    Does (AccountedAnd s₀ ok (Gone alive settings r)) (markExited p.observed r.id Store.foundDead)
      (fun _ => Accounted s₀ ok) (Accounted s₀ ok) := by
  refine markExited_accounted hp hs hr (K := Gone alive settings r) ?_ fun w => hfound r w
  intro w hw
  refine ⟨fun pid hpid => (hp.within.others w).dead pid (hw.1 pid hpid), ?_⟩
  rw [hp.waiting]
  exact hw.2

theorem sweepEach_accounted {records : List ProcessRecord} (hlisted : ∀ r ∈ records, Listed s₀ r) :
    Does (Accounted s₀ ok) (sweepEach p.observed settings records) (fun _ => Accounted s₀ ok)
      (Accounted s₀ ok) := by
  induction records with
  | nil => exact does_pure fun _ hw => hw
  | cons r rest ih =>
    obtain ⟨hr, hrest⟩ := List.forall_mem_cons.mp hlisted
    refine (isRecordAlive_gone hp r).lift.bind fun a => ?_
    cases a with
    | true => exact (ih hrest).pre fun _ hw => hw.1
    | false =>
      have hmark := markFound_accounted hp hs hfound hr
      refine (hmark.pre fun w hw => ⟨hw.1, hw.2 rfl⟩).bind fun _ => ?_
      exact (ih hrest).bind fun _ => does_pure fun _ hw => hw

theorem sweep_accounted :
    Does (Accounted s₀ ok) (sweep p.observed settings) (fun _ => Accounted s₀ ok)
      (Accounted s₀ ok) := by
  refine (look_listed hp _ id (findsRunning_running none)).bind fun records => ?_
  exact does_of_fact (fun _ hw => hw.2) fun hlisted =>
    (sweepEach_accounted hp hs hfound hlisted).pre fun _ hw => hw.1

end

section

variable (hkilled : ∀ r w, DoneFor alive r w → ok w r (some killedCode))
include hkilled

theorem markKilled_accounted {r : ProcessRecord} (hr : Listed s₀ r) :
    Does (AccountedAnd s₀ ok (DoneFor alive r)) (markExited p.observed r.id killedCode)
      (fun _ => Accounted s₀ ok) (Accounted s₀ ok) :=
  markExited_accounted hp hs hr (fun w => stable_doneFor r _ _ (hp.within.others w))
    fun w => hkilled r w

theorem stopRecord_accounted {r : ProcessRecord} (hr : Listed s₀ r) :
    Does (Accounted s₀ ok) (stopRecord p.observed settings r) (fun _ => Accounted s₀ ok)
      (Accounted s₀ ok) := by
  have hmark : Does (AccountedAnd s₀ ok (DoneFor alive r))
      (markExited p.observed r.id killedCode >>= fun _ => pure ()) (fun _ => Accounted s₀ ok)
      (Accounted s₀ ok) :=
    (markKilled_accounted hp hs hkilled hr).bind fun _ => does_pure fun _ hw => hw
  have hplain : Frame p.observed (AccountedAnd s₀ ok fun _ => True) (fun _ => True)
      fun _ => False := frame_accounted hp stable_true
  have hdoneFor : Frame p.observed (AccountedAnd s₀ ok (DoneFor alive r)) (fun _ => True)
      fun _ => False := frame_accounted hp (stable_doneFor r)
  refine Does.bind (Q := fun _ => AccountedAnd s₀ ok fun _ => True)
    ((hplain.killTrees fun _ _ => trivial).mono (fun w hw => ⟨hw, trivial⟩) (fun _ _ hw => hw)
      fun _ hw => hw.1) fun _ => ?_
  refine (waitDead_dead hp stable_true (pidsToStop r) settings.killGrace).lift.bind fun dead => ?_
  cases dead with
  | true => exact hmark.pre fun w hw => ⟨hw.1, fun pid hpid => Or.inl (hw.2.2 rfl pid hpid)⟩
  | false =>
    refine ((killTrees_sent hp stable_true .kill (pidsToStop r)).pre
      fun w hw => ⟨hw.1, trivial⟩).bind fun _ => ?_
    refine ((hdoneFor.waitDead (pidsToStop r) forcedGrace).pre ?_).lift.bind fun _ => hmark
    exact fun w hw => ⟨hw.1, fun pid hpid => Or.inr (hw.2.2 pid hpid)⟩

theorem stopEach_accounted {records : List ProcessRecord} (hlisted : ∀ r ∈ records, Listed s₀ r) :
    Does (Accounted s₀ ok) (stopEach p.observed settings records) (fun _ => Accounted s₀ ok)
      (Accounted s₀ ok) := by
  induction records with
  | nil => exact does_pure fun _ hw => hw
  | cons r rest ih =>
    obtain ⟨hr, hrest⟩ := List.forall_mem_cons.mp hlisted
    exact (stopRecord_accounted hp hs hkilled hr).bind fun _ => ih hrest

theorem replace_accounted {find : Store → Option ProcessRecord}
    (hfind : FindsRunning fun s => (find s).toList) :
    Does (Accounted s₀ ok) (replace p.observed settings find) (fun _ => Accounted s₀ ok)
      (Accounted s₀ ok) := by
  refine (look_listed hp find Option.toList hfind).bind fun found => ?_
  rcases found with _ | existing
  · exact does_pure fun _ hw => hw.1
  · refine does_of_fact (fun _ hw => hw.2 existing (List.mem_singleton_self _)) fun hlisted => ?_
    refine Does.bind (Q := fun _ => Accounted s₀ ok) ?_ fun _ => does_pure fun _ hw => hw
    exact (stopRecord_accounted hp hs hkilled hlisted).pre fun _ hw => hw.1

end

/-! ## 6. Killing -/

variable (hfound : ∀ r w, Gone alive settings r w → ok w r (some Store.foundDead))
  (hkilled : ∀ r w, DoneFor alive r w → ok w r (some killedCode))
include hfound hkilled

theorem kill_accounted (key : ServiceKey) :
    Does (Accounted s₀ ok) (kill p.observed settings key) (fun _ => Accounted s₀ ok)
      (Accounted s₀ ok) := by
  refine (sweep_accounted hp hs hfound).bind fun _ => ?_
  refine (look_listed hp _ id (findsRunning_running (some key.project))).bind fun records => ?_
  refine does_of_fact (fun _ hw => hw.2) fun hlisted => ?_
  refine Does.bind (Q := fun _ => Accounted s₀ ok) ?_ fun _ => does_pure fun _ hw => hw
  refine (stopEach_accounted hp hs hkilled fun r hr => ?_).pre fun _ hw => hw.1
  exact hlisted r (List.mem_filter.mp hr).1

theorem forceStop_accounted {r : ProcessRecord} (hr : Listed s₀ r) :
    Does (Accounted s₀ ok) (forceStop p.observed settings r) (fun _ => Accounted s₀ ok)
      (Accounted s₀ ok) := by
  have hmark : Does (AccountedAnd s₀ ok (DoneFor alive r))
      (markExited p.observed r.id killedCode >>= fun _ => pure true) (fun _ => Accounted s₀ ok)
      (Accounted s₀ ok) :=
    (markKilled_accounted hp hs hkilled hr).bind fun _ => does_pure fun _ hw => hw
  have hplain : Frame p.observed (AccountedAnd s₀ ok fun _ => True) (fun _ => True)
      fun _ => False := frame_accounted hp stable_true
  have hdoneFor : Frame p.observed (AccountedAnd s₀ ok (DoneFor alive r)) (fun _ => True)
      fun _ => False := frame_accounted hp (stable_doneFor r)
  refine (isRecordAlive_gone hp r).lift.bind fun a => ?_
  cases a with
  | false =>
    refine ((markFound_accounted hp hs hfound hr).pre fun w hw => ⟨hw.1, hw.2 rfl⟩).bind fun _ => ?_
    exact does_pure fun _ hw => hw
  | true =>
    refine Does.bind (Q := fun _ => AccountedAnd s₀ ok fun _ => True)
      ((hplain.killTrees fun _ _ => trivial).mono (fun w hw => ⟨hw.1, trivial⟩) (fun _ _ hw => hw)
        fun _ hw => hw.1) fun _ => ?_
    refine (hplain.sleep settings.killAllGrace).lift.bind fun _ => ?_
    refine (survivors_dead hp stable_true (pidsToForce r)).lift.bind fun left => ?_
    rcases left with _ | ⟨pid, rest⟩
    · refine hmark.pre fun w hw => ⟨hw.1, forall_pidsToForce.mp fun pid hpid => Or.inl ?_⟩
      exact hw.2.2 pid hpid List.not_mem_nil
    · have hrest : Stable alive fun w =>
          ∀ other ∈ pidsToForce r, other ∉ pid :: rest → Dead alive other w :=
        stable_forall fun other => ((stable_dead other).given _).given _
      refine ((killTrees_sent hp hrest .kill (pid :: rest)).pre fun w hw => ⟨hw.1, hw.2.2⟩).bind
        fun _ => ?_
      refine ((hdoneFor.sleep settings.killAllGrace).pre ?_).lift.bind fun _ => hmark
      rintro w ⟨hends, hothers, hsent⟩
      refine ⟨hends, forall_pidsToForce.mp fun other hother => ?_⟩
      by_cases hleft : other ∈ pid :: rest
      · exact Or.inr (hsent other hleft)
      · exact Or.inl (hothers other hother hleft)

theorem forceEach_accounted {records : List ProcessRecord} (hlisted : ∀ r ∈ records, Listed s₀ r) :
    Does (Accounted s₀ ok) (forceEach p.observed settings records) (fun _ => Accounted s₀ ok)
      (Accounted s₀ ok) := by
  induction records with
  | nil => exact does_pure fun _ hw => hw
  | cons r rest ih =>
    obtain ⟨hr, hrest⟩ := List.forall_mem_cons.mp hlisted
    refine (forceStop_accounted hp hs hfound hkilled hr).attempting.bind fun outcome => ?_
    refine (ih hrest).bind fun _ => ?_
    rcases outcome with _ | _ | _ <;> exact does_pure fun _ hw => hw

theorem killAll_accounted :
    Does (Accounted s₀ ok) (killAll p.observed settings) (fun _ => Accounted s₀ ok)
      (Accounted s₀ ok) := by
  refine (look_listed hp _ id (findsRunning_running none)).bind fun records => ?_
  refine does_of_fact (fun _ hw => hw.2) fun hlisted => ?_
  cases records with
  | nil => exact does_pure fun _ hw => hw.1
  | cons r rest =>
    refine Does.bind (Q := fun _ => Accounted s₀ ok) ?_ fun _ => does_pure fun _ hw => hw
    exact (forceEach_accounted hp hs hfound hkilled hlisted).pre fun _ hw => hw.1

end

/-! ## 7. Whatever is done -/

/-- What ends launches: sweeping, killing, and the two replacements of a launching service. -/
inductive Ending where
  | sweep
  | kill (key : ServiceKey)
  | killAll
  | replaceService (key : ServiceKey)
  | replaceCommand (command : String) (directory : Path)

/-- Does it, whatever comes of it. -/
def Ending.perform (p : Platform σ) (settings : Settings) : Ending → Act σ Unit
  | .sweep => discard (Supervisor.sweep p settings)
  | .kill key => discard (Supervisor.kill p settings key)
  | .killAll => discard (Supervisor.killAll p settings)
  | .replaceService key => discard (Supervisor.replace p settings fun s => s.active? key)
  | .replaceCommand command directory =>
    discard (Supervisor.replace p settings fun s => s.activeFor? command directory)

theorem mirrors_ending (p : Platform σ) (settings : Settings) (e : Ending) :
    ActMirrors (e.perform p.observed settings) (e.perform p settings) := by
  cases e with
  | sweep => exact (mirrors_sweep p settings).map _
  | kill key => exact (mirrors_kill p settings key).map _
  | killAll => exact (mirrors_killAll p settings).map _
  | replaceService key => exact (mirrors_replace p settings _).map _
  | replaceCommand command directory => exact (mirrors_replace p settings _).map _

theorem ending_accounted (hp : p.KeepsTable alive) (hs : LaunchesSound s₀) (e : Ending) :
    Does (Accounted s₀ (Justified p settings (e ≠ .sweep))) (e.perform p.observed settings)
      (fun _ => Accounted s₀ (Justified p settings (e ≠ .sweep)))
      (Accounted s₀ (Justified p settings (e ≠ .sweep))) := by
  have hfound : ∀ r w, Gone alive settings r w →
      Justified p settings (e ≠ .sweep) w r (some Store.foundDead) :=
    fun _ _ hgone => Or.inl ⟨rfl, hp.isRecordAlive_of_gone hgone⟩
  have hkilled (he : e ≠ .sweep) : ∀ r w, DoneFor alive r w →
      Justified p settings (e ≠ .sweep) w r (some killedCode) :=
    fun _ _ hdone => Or.inr ⟨he, rfl, fun pid hpid => (hdone pid hpid).imp_left hp.isAlive_of_dead⟩
  cases e with
  | sweep => exact (sweep_accounted hp hs hfound).discarding
  | kill key => exact (kill_accounted hp hs hfound (hkilled (by simp)) key).discarding
  | killAll => exact (killAll_accounted hp hs hfound (hkilled (by simp))).discarding
  | replaceService key =>
    exact (replace_accounted hp hs (hkilled (by simp)) (findsRunning_active? key)).discarding
  | replaceCommand command directory =>
    exact (replace_accounted hp hs (hkilled (by simp))
      (findsRunning_activeFor? command directory)).discarding

theorem castPlatform_keepsTable {wrapperPid : Nat} {deeds : Launch.Payload → List Operation} :
    (castPlatform wrapperPid deeds).KeepsTable isLiving where
  within := castPlatform_within (fun _ => ⟨rfl, List.suffix_refl _, fun _ h => h⟩)
    (fun other _ => ⟨rfl, List.suffix_refl _, fun _ h => isLiving_askAlive other h⟩)
    fun other s _ => ⟨rfl, List.suffix_refl _, fun _ h => isLiving_deliver other s h⟩
  answers pid w := askAlive_eq pid w.outside
  asking _ _ := rfl
  waiting _ := rfl

end Overseer.Supervisor
