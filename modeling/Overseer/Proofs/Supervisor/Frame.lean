/-
Overseer.Proofs.Supervisor.Frame — what each of the supervisor's actions leaves alone.

A property of the world is `Kept` if it outlasts what is asked of the platform,
with the notes on it in the journal, and some writes to the store. Each action of
the supervisor keeps every such property that permits the notes and writes it
makes, and the law on it says which these are: the launches it may end and the
pids it may signal. The laws follow the text of the actions, one for each.

A `Frame` outlasts the platform and the notes each for itself; most properties of
the store do.
-/
import Overseer.Proofs.Store.Waning
import Overseer.Proofs.Supervisor.Triple
import Overseer.Supervisor.Inspect
import Overseer.Supervisor.Run

namespace Overseer.Supervisor

open Store (HasEnded Operation)

variable {σ α : Type} {p : Platform σ} {settings : Settings}

/-- `K` outlasts what is asked of the platform, each question with the note on it, and the
permitted writes. -/
structure Kept (p : Platform σ) (K : World σ → Prop) (notes : Event → Prop)
    (writes : Operation → Prop) : Prop where
  others : Asks K p.others fun _ => K
  sleep : ∀ limit, Asks K (p.sleep limit) fun _ => K
  portIsFree : ∀ port, Asks K (p.portIsFree port) fun _ => K
  exited? : ∀ wrapper, Asks K (p.exited? wrapper) fun _ => K
  check : ∀ pid, Asks K (check p pid) fun _ => K
  killTree : ∀ pid s, notes (.signalled true pid s) → Does K (killTree p pid s) (fun _ => K) K
  signalOne : ∀ pid s, notes (.signalled false pid s) → Does K (signalOne p pid s) (fun _ => K) K
  write : ∀ op, writes op → ∀ w, K w → K { w with store := w.store.step op }

/-- `K` outlasts the platform and the permitted notes, each for itself, and the permitted
writes. -/
structure Frame (p : Platform σ) (K : World σ → Prop) (notes : Event → Prop)
    (writes : Operation → Prop) : Prop extends Kept p K notes writes where
  platform : p.Within fun w w' => K w → K w'
  checked : ∀ pid alive, notes (.checked pid alive)
  note : ∀ e, notes e → ∀ w, K w → K { w with journal := e :: w.journal }
  others := platform.others
  sleep := platform.sleep
  portIsFree := platform.portIsFree
  exited? := platform.exited?
  check pid := Asks.bind (Q := fun _ => K) (platform.isAlive pid) fun alive =>
    (asks_note (note _ (checked pid alive))).bind fun _ => asks_pure fun _ hw => hw
  killTree pid s hnotes := (asks_note (note _ hnotes)).lift.bind fun _ =>
    does_of_forall fun w => platform.killTree pid s w
  signalOne pid s hnotes := (asks_note (note _ hnotes)).lift.bind fun _ =>
    does_of_forall fun w => platform.signal pid s w

namespace Frame

variable {K : World σ → Prop} {notes : Event → Prop} {writes : Operation → Prop}
  (F : Frame p K notes writes)
include F

/-- What outlasts the platform outlasts it as far as it is asked for. -/
theorem given (c : Prop) : Frame p (fun w => c → K w) notes writes where
  platform := F.platform.mono fun _ _ hkept h hc => hkept (h hc)
  checked := F.checked
  note e he w h hc := F.note e he w (h hc)
  write op hop w h hc := F.write op hop w (h hc)

theorem noting {e : Event} (he : notes e) : Asks K (Supervisor.note e) fun _ => K :=
  asks_note (F.note e he)

end Frame

namespace Kept

variable {K E : World σ → Prop} {notes : Event → Prop} {writes : Operation → Prop}
  (F : Kept p K notes writes)
include F

/-! ## 1. Looking -/

theorem look (f : Store → α) : Does K (look p f) (fun _ => K) E :=
  does_look F.others fun _ hw => hw

theorem checkSome (pid? : Option Nat) : Asks K (checkSome p pid?) fun _ => K := by
  cases pid? with
  | none => exact asks_pure fun _ hw => hw
  | some pid => exact F.check pid

theorem isRecordAlive (r : ProcessRecord) : Asks K (isRecordAlive p settings r) fun _ => K := by
  refine (F.checkSome r.childPid?).bind fun _ => (F.checkSome r.wrapperPid).bind fun _ => ?_
  exact (asks_get (Q := fun _ => K) fun _ hw => hw).bind fun _ => asks_pure fun _ hw => hw

theorem allDead (pids : List Nat) : Asks K (allDead p pids) fun _ => K := by
  induction pids with
  | nil => exact asks_pure fun _ hw => hw
  | cons pid rest ih =>
    refine (F.check pid).bind fun alive => ?_
    cases alive with
    | true => exact asks_pure fun _ hw => hw
    | false => exact ih

theorem survivors (pids : List Nat) : Asks K (survivors p pids) fun _ => K := by
  induction pids with
  | nil => exact asks_pure fun _ hw => hw
  | cons pid rest ih =>
    exact (F.check pid).bind fun _ => ih.bind fun _ => asks_pure fun _ hw => hw

theorem pollDead (pids : List Nat) (left : Nat) : Asks K (pollDead p pids left) fun _ => K := by
  induction left with
  | zero => exact F.allDead pids
  | succ left ih =>
    refine (F.allDead pids).bind fun dead => ?_
    cases dead with
    | true => exact asks_pure fun _ hw => hw
    | false => exact (F.sleep pollTime).bind fun _ => ih

theorem waitDead (pids : List Nat) (limit : Nat) : Asks K (waitDead p pids limit) fun _ => K :=
  F.pollDead pids _

/-! ## 2. Ending launches -/

theorem killTrees {s : Signal} {pids : List Nat}
    (hnotes : ∀ pid ∈ pids, notes (.signalled true pid s)) :
    Does K (killTrees p s pids) (fun _ => K) K := by
  induction pids with
  | nil => exact does_pure fun _ hw => hw
  | cons pid rest ih =>
    refine (F.killTree pid s (hnotes pid List.mem_cons_self)).bind fun _ => ?_
    exact ih fun pid hpid => hnotes pid (List.mem_cons_of_mem _ hpid)

/-- A launch that was marked as ended does not run. -/
theorem markExited_ends {id code : Int} (hwrites : ∀ now, writes (.markExited now id code)) :
    Does K (markExited p id code) (fun _ w => K w ∧ HasEnded id w.store) E :=
  does_markExited F.others fun now w hw =>
    ⟨F.write _ (hwrites now) w hw, Store.hasEnded_markExited w.store now id code⟩

theorem markExited {id code : Int} (hwrites : ∀ now, writes (.markExited now id code)) :
    Does K (markExited p id code) (fun _ => K) E :=
  (F.markExited_ends hwrites).mono (fun _ hw => hw) (fun _ _ hw => hw.1) fun _ hw => hw

theorem sweepEach {records : List ProcessRecord}
    (hwrites : ∀ now, ∀ r ∈ records, writes (.markExited now r.id Store.foundDead)) :
    Does K (sweepEach p settings records) (fun _ => K) K := by
  induction records with
  | nil => exact does_pure fun _ hw => hw
  | cons r rest ih =>
    have hrest := ih fun now r hr => hwrites now r (List.mem_cons_of_mem _ hr)
    refine (F.isRecordAlive r).lift.bind fun alive => ?_
    cases alive with
    | true => exact hrest
    | false =>
      refine (F.markExited fun now => hwrites now r List.mem_cons_self).bind fun _ => ?_
      exact hrest.bind fun _ => does_pure fun _ hw => hw

theorem sweep (hwrites : ∀ now id, writes (.markExited now id Store.foundDead)) :
    Does K (sweep p settings) (fun _ => K) K :=
  (F.look _).bind fun _ => F.sweepEach fun now r _ => hwrites now r.id

/-- A launch that was stopped does not run. -/
theorem stopRecord_ends {r : ProcessRecord}
    (hnotes : ∀ pid ∈ pidsToStop r, ∀ s, notes (.signalled true pid s))
    (hwrites : ∀ now, writes (.markExited now r.id killedCode)) :
    Does K (stopRecord p settings r) (fun _ w => K w ∧ HasEnded r.id w.store) K := by
  have hmark : Does K (Supervisor.markExited p r.id killedCode >>= fun _ => pure ())
      (fun _ w => K w ∧ HasEnded r.id w.store) K :=
    (F.markExited_ends hwrites).bind fun _ => does_pure fun _ hw => hw
  refine (F.killTrees fun pid hpid => hnotes pid hpid .term).bind fun _ => ?_
  refine (F.waitDead (pidsToStop r) settings.killGrace).lift.bind fun dead => ?_
  cases dead with
  | true => exact hmark
  | false =>
    refine (F.killTrees fun pid hpid => hnotes pid hpid .kill).bind fun _ => ?_
    exact (F.waitDead (pidsToStop r) forcedGrace).lift.bind fun _ => hmark

theorem stopRecord {r : ProcessRecord}
    (hnotes : ∀ pid ∈ pidsToStop r, ∀ s, notes (.signalled true pid s))
    (hwrites : ∀ now, writes (.markExited now r.id killedCode)) :
    Does K (stopRecord p settings r) (fun _ => K) K :=
  (F.stopRecord_ends hnotes hwrites).mono (fun _ hw => hw) (fun _ _ hw => hw.1) fun _ hw => hw

theorem stopEach {records : List ProcessRecord}
    (hnotes : ∀ tree pid s, notes (.signalled tree pid s))
    (hwrites : ∀ now id, writes (.markExited now id killedCode)) :
    Does K (stopEach p settings records) (fun _ => K) K := by
  induction records with
  | nil => exact does_pure fun _ hw => hw
  | cons r rest ih =>
    exact (F.stopRecord (fun pid _ s => hnotes true pid s) fun now => hwrites now r.id).bind
      fun _ => ih

theorem kill {key : ServiceKey} (hnotes : ∀ tree pid s, notes (.signalled tree pid s))
    (hwrites : ∀ now id code, writes (.markExited now id code)) :
    Does K (kill p settings key) (fun _ => K) K := by
  refine (F.sweep fun now id => hwrites now id _).bind fun _ => (F.look _).bind fun _ => ?_
  exact (F.stopEach hnotes fun now id => hwrites now id _).bind fun _ => does_pure fun _ hw => hw

theorem forceStop {r : ProcessRecord} (hnotes : ∀ tree pid s, notes (.signalled tree pid s))
    (hwrites : ∀ now id code, writes (.markExited now id code)) :
    Does K (forceStop p settings r) (fun _ => K) K := by
  have hmark (code : Int) (answer : Bool) :
      Does K (Supervisor.markExited p r.id code >>= fun _ => pure answer) (fun _ => K) K :=
    (F.markExited fun now => hwrites now r.id code).bind fun _ => does_pure fun _ hw => hw
  refine (F.isRecordAlive r).lift.bind fun alive => ?_
  cases alive with
  | false => exact hmark Store.foundDead false
  | true =>
    refine (F.killTrees fun pid _ => hnotes true pid .term).bind fun _ => ?_
    refine (F.sleep settings.killAllGrace).lift.bind fun _ => ?_
    refine (F.survivors (pidsToForce r)).lift.bind fun left => ?_
    cases left with
    | nil => exact hmark killedCode true
    | cons pid rest =>
      refine (F.killTrees fun pid _ => hnotes true pid .kill).bind fun _ => ?_
      exact (F.sleep settings.killAllGrace).lift.bind fun _ => hmark killedCode true

theorem forceEach {records : List ProcessRecord}
    (hnotes : ∀ tree pid s, notes (.signalled tree pid s))
    (hwrites : ∀ now id code, writes (.markExited now id code)) :
    Does K (forceEach p settings records) (fun _ => K) K := by
  induction records with
  | nil => exact does_pure fun _ hw => hw
  | cons r rest ih =>
    refine (F.forceStop hnotes hwrites).attempting.bind fun outcome => ih.bind fun _ => ?_
    rcases outcome with _ | _ | _ <;> exact does_pure fun _ hw => hw

theorem killAll (hnotes : ∀ tree pid s, notes (.signalled tree pid s))
    (hwrites : ∀ now id code, writes (.markExited now id code)) :
    Does K (killAll p settings) (fun _ => K) K := by
  refine (F.look _).bind fun running => ?_
  cases running with
  | nil => exact does_pure fun _ hw => hw
  | cons r rest => exact (F.forceEach hnotes hwrites).bind fun _ => does_pure fun _ hw => hw

/-! ## 3. Listing and assigning -/

theorem listRunning {project? : Option Path}
    (hwrites : ∀ now id, writes (.markExited now id Store.foundDead)) :
    Does K (listRunning p settings project?) (fun _ => K) K :=
  (F.sweep hwrites).bind fun _ => F.look _

theorem status (s : ResolvedService) : Does K (status p s) (fun _ => K) K := by
  refine (F.look _).bind fun active => ?_
  cases active with
  | some record => exact does_pure fun _ hw => hw
  | none => exact (F.look _).bind fun _ => does_pure fun _ hw => hw

theorem statusEach (services : List ResolvedService) :
    Does K (statusEach p services) (fun _ => K) K := by
  induction services with
  | nil => exact does_pure fun _ hw => hw
  | cons s rest ih =>
    exact (F.status s).bind fun _ => ih.bind fun _ => does_pure fun _ hw => hw

theorem listServices {project : Project}
    (hwrites : ∀ now id, writes (.markExited now id Store.foundDead)) :
    Does K (listServices p settings project) (fun _ => K) K :=
  (F.sweep hwrites).bind fun _ => F.statusEach _

theorem update {f : Store → α × Store} {op : Operation} (hop : writes op)
    (hf : ∀ s, (f s).2 = s.step op) :
    Does K (access p fun s => .ok (f s)) (fun _ => K) E := by
  refine does_access F.others ?_ ?_
  · intro w x s hw hfs
    have hs : s = w.store.step op := by rw [← hf, Except.ok.inj hfs]
    rw [hs]
    exact F.write op hop w hw
  · intro w cause _ hfs
    cases hfs

theorem cleanup {policy : RetentionPolicy}
    (hwrites : ∀ now id, writes (.markExited now id Store.foundDead))
    (hpass : ∀ now, writes (.cleanup now policy)) :
    Does K (cleanup p settings policy) (fun _ => K) K := by
  refine (F.sweep hwrites).bind fun _ => ?_
  refine (does_get (Q := fun _ => K) fun _ hw => hw).bind fun v => ?_
  exact F.update (hpass v.now) fun _ => rfl

theorem assignPort {project : Path} {port : Nat} (hwrites : writes (.assignPort project port)) :
    Does K (assignPort p project port) (fun _ => K) K := by
  refine (F.look _).bind fun running => ?_
  have hassign : Does K (Supervisor.access p fun s => .ok ((), s.assignPort project port))
      (fun _ => K) K := F.update hwrites fun _ => rfl
  cases hheld : running.any (holdsElsewhere project port) with
  | true =>
    simp only [if_true]
    exact does_throw fun _ hw => hw
  | false => simpa using hassign

theorem signalRestart {key : ServiceKey} (hnotes : ∀ tree pid s, notes (.signalled tree pid s))
    (hwrites : ∀ now id, writes (.markExited now id Store.foundDead)) :
    Does K (signalRestart p settings key) (fun _ => K) K := by
  refine (F.sweep hwrites).bind fun _ => (F.look _).bind fun active => ?_
  rcases active with _ | record
  · exact does_throw fun _ hw => hw
  · rcases hpid : record.wrapperPid with _ | pid
    · simp only [hpid]
      exact does_throw fun _ hw => hw
    · simp only [hpid]
      refine (F.signalOne pid .usr1 (hnotes false pid .usr1)).bind fun reached => ?_
      cases reached with
      | true => exact does_pure fun _ hw => hw
      | false => exact does_throw fun _ hw => hw

/-! ## 4. Launching -/

theorem allocatePort : Does K (allocatePort p) (fun _ => K) K := by
  refine (F.look _).bind fun used => (F.look _).bind fun assigned => ?_
  exact (allocateFrom_unused F.portIsFree _ _ _).mono (fun _ hw => hw) (fun _ _ hw => hw.1)
    fun _ hw => hw

theorem pickPort (project : Path) : Does K (pickPort p project) (fun _ => K) K := by
  refine (F.look _).bind fun port? => ?_
  rcases port? with _ | port
  · exact F.allocatePort
  refine (F.look _).bind fun used => ?_
  cases hused : used.contains port with
  | true => simpa [hused] using F.allocatePort
  | false =>
    simp only [Bool.false_eq_true, if_false]
    refine (F.portIsFree port).lift.bind fun free => ?_
    cases free with
    | true => exact does_pure fun _ hw => hw
    | false => exact F.allocatePort

/-- What is ended in favour of another launch does not run any more. -/
theorem replace {find : Store → Option ProcessRecord}
    (hnotes : ∀ tree pid s, notes (.signalled tree pid s))
    (hwrites : ∀ now id, writes (.markExited now id killedCode)) :
    Does K (replace p settings find) (fun _ => K) K := by
  refine (F.look find).bind fun found => ?_
  cases found with
  | none => exact does_pure fun _ hw => hw
  | some r =>
    refine (F.stopRecord (fun pid _ s => hnotes true pid s) fun now => hwrites now r.id).bind
      fun _ => ?_
    exact does_pure fun _ hw => hw

/-- A read that can fail. -/
theorem read {f : Store → Except StoreFault α} :
    Does K (Supervisor.access p fun s => (f s).map fun x => (x, s)) (fun _ => K) K := by
  refine does_access F.others ?_ fun _ _ hw _ => hw
  intro w x s hw hfs
  rcases hread : f w.store with cause | y
  · rw [hread] at hfs
    cases hfs
  · rw [hread] at hfs
    cases hfs
    exact hw

theorem startFault (id : Int) : Does K (startFault p id) (fun _ => K) K := by
  rw [startFault_eq]
  exact F.read.attempting.bind fun _ => does_pure fun _ hw => hw

/-- A launch that is given up is marked first, and its fault is looked for then. -/
theorem giveUp {id : Int} {Q : α → World σ → Prop}
    (hended : Kept p (fun w => K w ∧ HasEnded id w.store) notes writes)
    (hwrites : ∀ now code, writes (.markExited now id code)) (code : Int) (next : Unit → Act σ α) :
    Does K (do
      let _ ← Supervisor.markExited p id code
      throw (← Supervisor.startFault p id)
      next ()) Q (fun w => K w ∧ HasEnded id w.store) := by
  refine (F.markExited_ends fun now => hwrites now code).bind fun _ => ?_
  refine (hended.startFault id).bind fun _ => ?_
  exact does_throw_bind fun _ hw => hw

/-- One look for the child's pid. The launch may not be there, or be given up. -/
theorem lookForPid {id : Int} {wrapper : Wrapper} {G : ProcessRecord → Prop}
    {next : ProcessRecord → Act σ ProcessRecord}
    (hgone : ∀ w, K w → w.store.launch? id = none → E w)
    (hgiven : ∀ code (next : Unit → Act σ ProcessRecord), Does K (do
      let _ ← Supervisor.markExited p id code
      throw (← Supervisor.startFault p id)
      next ()) (fun r w => K w ∧ G r) E)
    (hG : ∀ w r, K w → w.store.launch? id = some r → G r)
    (hnext : ∀ r, G r → Does K (next r) (fun r w => K w ∧ G r) E) :
    Does K (lookForPid p id wrapper next) (fun r w => K w ∧ G r) E := by
  have hread : Does K (Supervisor.look p fun s => s.launch? id)
      (fun record? w => K w ∧ w.store.launch? id = record?) E :=
    does_look F.others fun _ hw => ⟨hw, rfl⟩
  refine hread.bind fun record? => ?_
  rcases record? with _ | record
  · exact does_throw fun w hw => hgone w hw.1 hw.2
  refine does_of_fact (fun w hw => hG w record hw.1 hw.2) fun hrecord => ?_
  refine Does.pre (P := K) ?_ fun _ hw => hw.1
  by_cases hpid : record.pid ≠ 0
  · simp only [hpid, ne_eq, not_false_eq_true, if_true]
    exact does_pure fun _ hv => ⟨hv, hrecord⟩
  · simp only [hpid, if_false]
    refine (F.exited? wrapper).lift.bind fun exit => ?_
    cases hover : !record.running || exit.isSome with
    | true => exact hgiven _ fun _ => next record
    | false => exact hnext record hrecord

/-- Waiting for the pid gives the record as the store had it. -/
theorem pollPid {id : Int} {wrapper : Wrapper} {G : ProcessRecord → Prop}
    (hgone : ∀ w, K w → w.store.launch? id = none → E w)
    (hgiven : ∀ code (next : Unit → Act σ ProcessRecord), Does K (do
      let _ ← Supervisor.markExited p id code
      throw (← Supervisor.startFault p id)
      next ()) (fun r w => K w ∧ G r) E)
    (hG : ∀ w r, K w → w.store.launch? id = some r → G r) (left : Nat) :
    Does K (pollPid p id wrapper left) (fun r w => K w ∧ G r) E := by
  induction left with
  | zero =>
    rw [pollPid_zero]
    exact F.lookForPid hgone hgiven hG fun r hr => does_pure fun _ hw => ⟨hw, hr⟩
  | succ left ih =>
    rw [pollPid_succ]
    exact F.lookForPid hgone hgiven hG fun r _ => (F.sleep pollTime).lift.bind fun _ => ih

/-- A wrapper is started only after this was noted. A launch is marked as ended if its
wrapper cannot be started, and when it is given up. -/
theorem startsWrapper {P M : World σ → Prop} {service : ResolvedService} {id : Int}
    {port : Option Nat} {G : ProcessRecord → Prop}
    (hspawn : ∀ w, .launched (payloadFor service id port) ∈ w.journal → M w →
      K ((p.spawn settings.wrapper (payloadFor service id port)).run.run w).2)
    (hlaunched : ∀ w, P w →
      M { w with journal := .launched (payloadFor service id port) :: w.journal })
    (hmarks : Does K (Supervisor.markExited p id startFailedCode) (fun _ => E) E)
    (hgone : ∀ w, K w → w.store.launch? id = none → E w)
    (hgiven : ∀ code (next : Unit → Act σ ProcessRecord), Does K (do
      let _ ← Supervisor.markExited p id code
      throw (← Supervisor.startFault p id)
      next ()) (fun r w => K w ∧ G r) E)
    (hpid : ∀ pid, writes (.updateWrapperPid id pid))
    (hG : ∀ w r, K w → w.store.launch? id = some r → G r) :
    Does P (startWrapper p settings service id port) (fun r w => K w ∧ G r) E := by
  have hnoted : Asks P (Supervisor.note (.launched (payloadFor service id port)))
      fun _ w => .launched (payloadFor service id port) ∈ w.journal ∧ M w :=
    asks_note fun w hw => ⟨List.mem_cons_self, hlaunched w hw⟩
  have hspawned : Does (fun w => .launched (payloadFor service id port) ∈ w.journal ∧ M w)
      (p.spawn settings.wrapper (payloadFor service id port)) (fun _ => K) K :=
    does_of_forall fun w hw => hspawn w hw.1 hw.2
  refine hnoted.lift.bind fun _ => hspawned.attempting.bind fun outcome => ?_
  rcases outcome with fault | wrapper
  · exact hmarks.bind fun _ => does_throw fun _ hw => hw
  · refine (F.update (hpid wrapper.pid) fun _ => rfl).bind fun _ => ?_
    exact F.pollPid hgone hgiven hG _

/-- From the start on the launch is known by its record, or has ended when the start is
given up. -/
theorem startWrapper {P M : World σ → Prop} {service : ResolvedService} {id : Int}
    {port : Option Nat} {G : ProcessRecord → Prop}
    (hended : Kept p (fun w => K w ∧ HasEnded id w.store) notes writes)
    (hspawn : ∀ w, .launched (payloadFor service id port) ∈ w.journal → M w →
      K ((p.spawn settings.wrapper (payloadFor service id port)).run.run w).2)
    (hlaunched : ∀ w, P w →
      M { w with journal := .launched (payloadFor service id port) :: w.journal })
    (hwrites : ∀ now code, writes (.markExited now id code))
    (hpid : ∀ pid, writes (.updateWrapperPid id pid))
    (hG : ∀ w r, K w → w.store.launch? id = some r → G r) :
    Does P (startWrapper p settings service id port) (fun r w => K w ∧ G r)
      (fun w => K w ∧ HasEnded id w.store) :=
  F.startsWrapper hspawn hlaunched (F.markExited_ends fun now => hwrites now startFailedCode)
    (fun _ hw hnone => ⟨hw, Store.hasEnded_of_launch?_eq_none hnone⟩)
    (F.giveUp hended hwrites) hpid hG

end Kept

end Overseer.Supervisor
