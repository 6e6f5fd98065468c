/-
Overseer.Proofs.Supervisor.Stopping — stopping one launch, event by event.

When nobody else acts, everything that happens can be read off three things:
the store, the journal, and an account of the signals that were refused. They
are the `Ledger` of a world, and each law says which ledger an action leaves,
what was asked and signalled being the events that the journal has gained.

`stopRecord_ledger`: each process of the launch is asked to end, wrapper first;
then it is looked at the processes until all are dead or the grace period is
over; only in the second case are they forced, in the same order. `Stopping`
lists these courses and `Refusal` those that end with a refused signal, where
the launch is not marked.

`Tries` is `Does` with the fault told to whoever asks what holds after it.
-/
import Overseer.Proofs.Supervisor.Triple

namespace Overseer.Supervisor

variable {σ α β : Type} {P : World σ → Prop} {E E' : Fault → World σ → Prop}

/-! ## 1. Actions that fail for a reason -/

/-- From a world with `P` the action leads to one with `Q` for its answer, or
fails in one with `E` for its fault. -/
def Tries (P : World σ → Prop) (a : Act σ α) (Q : α → World σ → Prop)
    (E : Fault → World σ → Prop) : Prop :=
  Asks P a.run fun
    | .ok x => Q x
    | .error f => E f

section

variable {Q Q' : α → World σ → Prop} {R : β → World σ → Prop}

theorem tries_iff {a : Act σ α} : Tries P a Q E ↔ ∀ w, P w →
    (∀ x, (a.run.run w).1 = .ok x → Q x (a.run.run w).2)
      ∧ ∀ f, (a.run.run w).1 = .error f → E f (a.run.run w).2 := by
  unfold Tries Asks
  refine forall_congr' fun w => forall_congr' fun _ => ?_
  change (match (a.run.run w).1 with | .ok x => Q x | .error f => E f) (a.run.run w).2 ↔ _
  cases (a.run.run w).1 with
  | ok x => simp
  | error f => simp

/-- What is tried and cannot fail goes through. -/
theorem Tries.goes_through {a : Act σ α} (h : Tries P a Q fun _ _ => False) {w : World σ}
    (hw : P w) :
    ∃ x, (a.run.run w).1 = .ok x ∧ Q x (a.run.run w).2 := by
  obtain ⟨hdone, hnever⟩ := tries_iff.mp h w hw
  rcases hanswer : (a.run.run w).1 with f | x
  · exact (hnever f hanswer).elim
  · exact ⟨x, rfl, hdone x hanswer⟩

theorem Tries.mono {a : Act σ α} (h : Tries P a Q E) (post : ∀ x w, Q x w → Q' x w)
    (fault : ∀ f w, E f w → E' f w) : Tries P a Q' E' := by
  refine Asks.mono h (fun _ hw => hw) ?_
  rintro (f | x) w hw
  · exact fault f w hw
  · exact post x w hw

theorem tries_pure {x : α} (h : ∀ w, P w → Q x w) : Tries P (pure x) Q E := h

theorem Tries.bind {a : Act σ α} {f : α → Act σ β} (ha : Tries P a Q E)
    (hf : ∀ x, Tries (Q x) (f x) R E) : Tries P (a >>= f) R E := by
  unfold Tries
  rw [ExceptT.run_bind]
  refine Asks.bind ha ?_
  rintro (_ | x)
  · exact asks_pure fun _ hw => hw
  · exact hf x

theorem Asks.tries {a : StateM (World σ) α} (h : Asks P a Q) :
    Tries P (liftM a : Act σ α) Q E := h

/-- What is known of a ledger for some reason is known for each. -/
theorem tries_exists {ι : Type} {P : ι → World σ → Prop} {a : Act σ α}
    (h : ∀ i, Tries (P i) a Q E) : Tries (fun w => ∃ i, P i w) a Q E :=
  fun w ⟨i, hw⟩ => h i w hw

theorem asks_exists {ι : Type} {P : ι → World σ → Prop} {a : StateM (World σ) α}
    (h : ∀ i, Asks (P i) a Q) : Asks (fun w => ∃ i, P i w) a Q :=
  fun w ⟨i, hw⟩ => h i w hw

/-- What does not depend on the world may be used throughout. -/
theorem tries_and {C : Prop} {a : Act σ α} (h : C → Tries P a Q E) :
    Tries (fun w => C ∧ P w) a Q E :=
  fun w hw => h hw.1 w hw.2

theorem asks_and {C : Prop} {a : StateM (World σ) α} (h : C → Asks P a Q) :
    Asks (fun w => C ∧ P w) a Q :=
  fun w hw => h hw.1 w hw.2

/-- What outlasts an action may be carried along. -/
theorem Tries.keeping {K : World σ → Prop} {a : Act σ α} (h : Tries P a Q E)
    (hkeeps : Does K a (fun _ => K) K) :
    Tries (fun w => P w ∧ K w) a (fun x w => Q x w ∧ K w) fun f w => E f w ∧ K w := by
  rw [tries_iff]
  rintro w ⟨hw, hk⟩
  obtain ⟨hdone, hfailed⟩ := tries_iff.mp h w hw
  have hafter : K (a.run.run w).2 := hkeeps.asks w hk
  exact ⟨fun x hx => ⟨hdone x hx, hafter⟩, fun f hf => ⟨hfailed f hf, hafter⟩⟩

theorem Asks.keeping {K : World σ → Prop} {a : StateM (World σ) α} (h : Asks P a Q)
    (hkeeps : Asks K a fun _ => K) :
    Asks (fun w => P w ∧ K w) a fun x w => Q x w ∧ K w :=
  fun w hw => ⟨h w hw.1, hkeeps w hw.2⟩

/-- What is attempted does not fail: its outcome is the answer. -/
theorem Tries.attempt {a : Act σ α} {R : Except Fault α → World σ → Prop}
    (h : Tries P a (fun x => R (.ok x)) fun f => R (.error f)) :
    Tries P (Supervisor.attempt a) R E := by
  unfold Tries Supervisor.attempt
  rw [ExceptT.run_lift, map_eq_pure_bind]
  refine Asks.bind h ?_
  rintro (f | x)
  · exact asks_pure fun _ hw => hw
  · exact asks_pure fun _ hw => hw

end

/-! ## 2. Ledgers -/

/-- The store, the journal, and the faults of the signals that were refused, each
latest first. -/
structure Ledger where
  store : Store
  journal : List Event
  refused : List Fault

namespace Ledger

/-- With more events, earliest first. -/
def noting (l : Ledger) (events : List Event) : Ledger :=
  { l with journal := events.reverse ++ l.journal }

/-- With one more refused signal. -/
def refusing (l : Ledger) (f : Fault) : Ledger := { l with refused := f :: l.refused }

/-- With another store. -/
def storing (l : Ledger) (s : Store) : Ledger := { l with store := s }

@[simp] theorem noting_noting (l : Ledger) (events later : List Event) :
    (l.noting events).noting later = l.noting (events ++ later) := by
  simp [noting]

@[simp] theorem noting_storing (l : Ledger) (s : Store) (events : List Event) :
    (l.storing s).noting events = (l.noting events).storing s := rfl

@[simp] theorem storing_storing (l : Ledger) (s s' : Store) :
    (l.storing s).storing s' = l.storing s' := rfl

end Ledger

/-- The ledger of a world; the account is kept outside. -/
def World.ledger (refused : σ → List Fault) (w : World σ) : Ledger :=
  ⟨w.store, w.journal, refused w.outside⟩

variable {p : Platform σ} {settings : Settings} {refused : σ → List Fault} {l : Ledger}

/-- The world has this ledger. -/
def Shows (refused : σ → List Fault) (l : Ledger) (w : World σ) : Prop := w.ledger refused = l

theorem shows_iff {w : World σ} : Shows refused l w ↔
    w.store = l.store ∧ w.journal = l.journal ∧ refused w.outside = l.refused := by
  cases l
  simp only [Shows, World.ledger, Ledger.mk.injEq]

/-- Nobody else acts, and the account tells which signals were refused. How the
processes react, and what the clock does, is left open. -/
structure Platform.ActsAlone (p : Platform σ) (refused : σ → List Fault) : Prop where
  isAlive : ∀ pid w, Shows refused (w.ledger refused) ((p.isAlive pid).run w).2
  sleep : ∀ limit w, Shows refused (w.ledger refused) ((p.sleep limit).run w).2
  others : ∀ w, Shows refused (w.ledger refused) (p.others.run w).2
  delivered : ∀ pid s w answer, ((p.killTree pid s).run.run w).1 = .ok answer →
    Shows refused (w.ledger refused) ((p.killTree pid s).run.run w).2
  denied : ∀ pid s w f, ((p.killTree pid s).run.run w).1 = .error f →
    Shows refused ((w.ledger refused).refusing f) ((p.killTree pid s).run.run w).2

/-! ## 3. What is noted -/

/-- Processes were asked about and nothing else was done. -/
def OnlyChecks (events : List Event) : Prop := ∀ e ∈ events, ∃ pid alive, e = .checked pid alive

theorem onlyChecks_nil : OnlyChecks [] := fun _ he => absurd he List.not_mem_nil

theorem onlyChecks_singleton (pid : Nat) (alive : Bool) : OnlyChecks [.checked pid alive] :=
  fun _ he => ⟨pid, alive, List.mem_singleton.mp he⟩

theorem OnlyChecks.append {events later : List Event} (h : OnlyChecks events)
    (hlater : OnlyChecks later) : OnlyChecks (events ++ later) := by
  intro e he
  rcases List.mem_append.mp he with he | he
  · exact h e he
  · exact hlater e he

/-- One look at processes in order: the first ones are dead, the next one is alive. -/
def SeesAlive (pids : List Nat) (events : List Event) : Prop :=
  ∃ dead pid rest, pids = dead ++ pid :: rest
    ∧ events = dead.map (Event.checked · false) ++ [.checked pid true]

/-- One look at processes of which none is alive. -/
def sightsOfDead (pids : List Nat) : List Event := pids.map (Event.checked · false)

/-- So many looks or fewer see one alive, the next one sees none. -/
def FindsDead (pids : List Nat) (most : Nat) (events : List Event) : Prop :=
  ∃ looks : List (List Event), looks.length ≤ most ∧ (∀ look ∈ looks, SeesAlive pids look)
    ∧ events = looks.flatten ++ sightsOfDead pids

/-- So many looks each see one alive. -/
def FindsAlive (pids : List Nat) (count : Nat) (events : List Event) : Prop :=
  ∃ looks : List (List Event), looks.length = count ∧ (∀ look ∈ looks, SeesAlive pids look)
    ∧ events = looks.flatten

theorem onlyChecks_map (pids : List Nat) (alive : Bool) :
    OnlyChecks (pids.map (Event.checked · alive)) := by
  intro e he
  obtain ⟨pid, _, rfl⟩ := List.mem_map.mp he
  exact ⟨pid, alive, rfl⟩

theorem SeesAlive.onlyChecks {pids : List Nat} {events : List Event} (h : SeesAlive pids events) :
    OnlyChecks events := by
  obtain ⟨dead, pid, _, _, rfl⟩ := h
  exact (onlyChecks_map dead false).append (onlyChecks_singleton pid true)

theorem onlyChecks_flatten {pids : List Nat} {looks : List (List Event)}
    (h : ∀ look ∈ looks, SeesAlive pids look) : OnlyChecks looks.flatten := by
  intro e he
  obtain ⟨look, hlook, he⟩ := List.mem_flatten.mp he
  exact (h look hlook).onlyChecks e he

/-- A signal to processes and their descendants, in order. -/
def signals (s : Signal) (pids : List Nat) : List Event := pids.map (Event.signalled true · s)

/-- How many looks fit into the time before processes are forced, after the first. -/
def graceLooks (settings : Settings) : Nat := Port.looks settings.killGrace pollTime

/-- The time between the first look and the last one is the whole time of grace. -/
theorem killGrace_le_graceLooks (settings : Settings) :
    settings.killGrace ≤ graceLooks settings * pollTime := by
  simp only [graceLooks, Port.looks, pollTime]
  omega

/-- What is asked and signalled when a launch is stopped. Force is in order only
when each look up to the end of the time of grace has seen a process alive. -/
inductive Stopping (settings : Settings) (r : ProcessRecord) : List Event → Prop where
  | asked (looks : List Event)
      (dead : FindsDead (pidsToStop r) (graceLooks settings) looks) :
    Stopping settings r (signals .term (pidsToStop r) ++ looks)
  | forced (looks last : List Event)
      (passed : settings.killGrace ≤ graceLooks settings * pollTime)
      (alive : FindsAlive (pidsToStop r) (graceLooks settings + 1) looks)
      (onlyChecks : OnlyChecks last) :
    Stopping settings r
      (signals .term (pidsToStop r) ++ looks ++ signals .kill (pidsToStop r) ++ last)

/-- The same when the last signal is refused. -/
inductive Refusal (settings : Settings) (r : ProcessRecord) : List Event → Prop where
  | asked (before : List Nat) (pid : Nat) (rest : List Nat)
      (split : pidsToStop r = before ++ pid :: rest) :
    Refusal settings r (signals .term (before ++ [pid]))
  | forced (looks : List Event) (before : List Nat) (pid : Nat) (rest : List Nat)
      (alive : FindsAlive (pidsToStop r) (graceLooks settings + 1) looks)
      (split : pidsToStop r = before ++ pid :: rest) :
    Refusal settings r
      (signals .term (pidsToStop r) ++ looks ++ signals .kill (before ++ [pid]))

/-- The launch was stopped, and was marked then. -/
def HasStopped (refused : σ → List Fault) (settings : Settings) (r : ProcessRecord) (l : Ledger)
    (w : World σ) : Prop :=
  ∃ events now, Stopping settings r events
    ∧ Shows refused ((l.noting events).storing (l.store.markExited now r.id killedCode).2) w

/-- A signal was refused while the launch was being stopped. -/
def WasRefused (refused : σ → List Fault) (settings : Settings) (r : ProcessRecord) (l : Ledger)
    (f : Fault) (w : World σ) : Prop :=
  ∃ events, Refusal settings r events ∧ Shows refused ((l.noting events).refusing f) w

section

variable (hp : p.ActsAlone refused)
include hp

/-! ## 4. The store -/

theorem others_ledger : Asks (Shows refused l) p.others fun _ => Shows refused l :=
  fun w hw => (hp.others w).trans hw

theorem look_ledger (f : Store → α) :
    Tries (Shows refused l) (look p f) (fun x w => x = f l.store ∧ Shows refused l w) E := by
  refine (others_ledger hp).tries.bind fun _ => ?_
  rintro w rfl
  exact ⟨rfl, rfl⟩

theorem markExited_ledger (id code : Int) :
    Tries (Shows refused l) (markExited p id code)
      (fun _ w => ∃ now, Shows refused (l.storing (l.store.markExited now id code).2) w) E := by
  intro w hw
  obtain rfl := (hp.others w).trans hw
  exact ⟨w.now, rfl⟩

/-! ## 5. Looking at processes -/

theorem check_ledger (pid : Nat) :
    Asks (Shows refused l) (check p pid)
      fun alive => Shows refused (l.noting [.checked pid alive]) := by
  have hask : Asks (Shows refused l) (p.isAlive pid) fun _ => Shows refused l :=
    fun w hw => (hp.isAlive pid w).trans hw
  refine hask.bind fun alive => Asks.bind (Q := fun _ => Shows refused
    (l.noting [.checked pid alive])) (asks_note ?_) fun _ => asks_pure fun _ hw => hw
  rintro w rfl
  rfl

theorem checkSome_ledger (pid? : Option Nat) :
    Asks (Shows refused l) (checkSome p pid?)
      fun _ w => ∃ events, OnlyChecks events ∧ Shows refused (l.noting events) w := by
  rcases pid? with _ | pid
  · exact asks_pure fun w hw => ⟨[], onlyChecks_nil, hw⟩
  · refine (check_ledger hp pid).mono (fun _ hw => hw) fun alive w hw => ?_
    exact ⟨_, onlyChecks_singleton pid alive, hw⟩

theorem isRecordAlive_ledger (r : ProcessRecord) :
    Asks (Shows refused l) (isRecordAlive p settings r)
      fun _ w => ∃ events, OnlyChecks events ∧ Shows refused (l.noting events) w := by
  refine (checkSome_ledger hp r.childPid?).bind fun _ => asks_exists fun events => ?_
  refine asks_and fun hchild => ?_
  refine (checkSome_ledger hp r.wrapperPid).bind fun _ => asks_exists fun later => ?_
  refine asks_and fun hwrapper => ?_
  refine (asks_get (Q := fun _ => Shows refused ((l.noting events).noting later))
    fun _ hw => hw).bind fun _ => asks_pure fun w hw => ?_
  exact ⟨events ++ later, hchild.append hwrapper, by rwa [Ledger.noting_noting] at hw⟩

theorem allDead_ledger (pids : List Nat) :
    Asks (Shows refused l) (allDead p pids) fun
      | true => Shows refused (l.noting (sightsOfDead pids))
      | false => fun w => ∃ events, SeesAlive pids events ∧ Shows refused (l.noting events) w := by
  induction pids generalizing l with
  | nil => exact asks_pure fun w hw => hw
  | cons pid rest ih =>
    refine (check_ledger hp pid).bind fun alive => ?_
    cases alive with
    | true => exact asks_pure fun w hw => ⟨_, ⟨[], pid, rest, rfl, rfl⟩, hw⟩
    | false =>
      refine ih.mono (fun _ hw => hw) ?_
      rintro (_ | _) w hw
      · obtain ⟨_, ⟨dead, other, after, rfl, rfl⟩, hshows⟩ := hw
        rw [Ledger.noting_noting] at hshows
        exact ⟨_, ⟨pid :: dead, other, after, rfl, rfl⟩, hshows⟩
      · rwa [Ledger.noting_noting] at hw

theorem pollDead_ledger (pids : List Nat) (left : Nat) :
    Asks (Shows refused l) (pollDead p pids left) fun
      | true => fun w => ∃ events, FindsDead pids left events ∧ Shows refused (l.noting events) w
      | false => fun w =>
        ∃ events, FindsAlive pids (left + 1) events ∧ Shows refused (l.noting events) w := by
  induction left generalizing l with
  | zero =>
    refine (allDead_ledger hp pids).mono (fun _ hw => hw) ?_
    rintro (_ | _) w hw
    · obtain ⟨look, hlook, hshows⟩ := hw
      exact ⟨look, ⟨[look], rfl, by simpa using hlook, by simp⟩, hshows⟩
    · exact ⟨_, ⟨[], Nat.le_refl 0, by simp, rfl⟩, hw⟩
  | succ left ih =>
    refine (allDead_ledger hp pids).bind fun dead => ?_
    cases dead with
    | true =>
      refine asks_pure fun w hw => ⟨_, ⟨[], Nat.zero_le _, by simp, rfl⟩, hw⟩
    | false =>
      refine asks_exists fun look => asks_and fun hlook => ?_
      have hsleep : Asks (Shows refused (l.noting look)) (p.sleep pollTime)
          fun _ => Shows refused (l.noting look) := fun w hw => (hp.sleep pollTime w).trans hw
      refine hsleep.bind fun _ => ih.mono (fun _ hw => hw) ?_
      rintro (_ | _) w hw
      · obtain ⟨_, ⟨looks, hcount, hlooks, rfl⟩, hshows⟩ := hw
        refine ⟨look ++ looks.flatten, ⟨look :: looks, by simp [hcount], ?_, rfl⟩, ?_⟩
        · exact List.forall_mem_cons.mpr ⟨hlook, hlooks⟩
        · rwa [Ledger.noting_noting] at hshows
      · obtain ⟨_, ⟨looks, hcount, hlooks, rfl⟩, hshows⟩ := hw
        refine ⟨look ++ (looks.flatten ++ sightsOfDead pids),
          ⟨look :: looks, Nat.succ_le_succ hcount, ?_, by simp⟩, ?_⟩
        · exact List.forall_mem_cons.mpr ⟨hlook, hlooks⟩
        · rwa [Ledger.noting_noting] at hshows

/-- Of a wait that decides nothing it matters only that nothing was signalled. -/
theorem waitDead_ledger (pids : List Nat) (limit : Nat) :
    Asks (Shows refused l) (waitDead p pids limit)
      fun _ w => ∃ events, OnlyChecks events ∧ Shows refused (l.noting events) w := by
  refine (pollDead_ledger hp pids (Port.looks limit pollTime)).mono (fun _ hw => hw) ?_
  rintro (_ | _) w hw
  · obtain ⟨_, ⟨looks, _, hlooks, rfl⟩, hshows⟩ := hw
    exact ⟨_, onlyChecks_flatten hlooks, hshows⟩
  · obtain ⟨_, ⟨looks, _, hlooks, rfl⟩, hshows⟩ := hw
    exact ⟨_, (onlyChecks_flatten hlooks).append (onlyChecks_map pids false), hshows⟩

/-! ## 6. Stopping -/

theorem killTree_ledger (pid : Nat) (s : Signal) :
    Tries (Shows refused l) (killTree p pid s)
      (fun _ => Shows refused (l.noting (signals s [pid])))
      fun f => Shows refused ((l.noting (signals s [pid])).refusing f) := by
  refine Tries.bind (Q := fun _ => Shows refused (l.noting (signals s [pid])))
    (Asks.tries (asks_note ?_)) fun _ => ?_
  · rintro w rfl
    rfl
  · rw [tries_iff]
    intro w hw
    refine ⟨fun answer hanswer => (hp.delivered pid s w answer hanswer).trans hw, fun f hf => ?_⟩
    refine (hp.denied pid s w f hf).trans ?_
    rw [show w.ledger refused = _ from hw]

theorem killTrees_ledger (s : Signal) (pids : List Nat) :
    Tries (Shows refused l) (killTrees p s pids)
      (fun _ => Shows refused (l.noting (signals s pids)))
      fun f w => ∃ before pid rest, pids = before ++ pid :: rest
        ∧ Shows refused ((l.noting (signals s (before ++ [pid]))).refusing f) w := by
  induction pids generalizing l with
  | nil => exact tries_pure fun _ hw => hw
  | cons pid rest ih =>
    have hfirst : Tries (Shows refused l) (killTree p pid s)
        (fun _ => Shows refused (l.noting (signals s [pid])))
        fun f w => ∃ before other after, pid :: rest = before ++ other :: after
          ∧ Shows refused ((l.noting (signals s (before ++ [other]))).refusing f) w :=
      (killTree_ledger hp pid s).mono (fun _ _ hw => hw) fun f w hw => ⟨[], pid, rest, rfl, hw⟩
    refine hfirst.bind fun _ => ih.mono (fun _ w hw => ?_) fun f w hw => ?_
    · rwa [Ledger.noting_noting] at hw
    · obtain ⟨before, other, after, rfl, hshows⟩ := hw
      rw [Ledger.noting_noting] at hshows
      exact ⟨pid :: before, other, after, rfl, hshows⟩

/-- **A launch that is stopped is marked at the end**; one whose stopping is
refused is not. -/
theorem stopRecord_ledger (r : ProcessRecord) :
    Tries (Shows refused l) (stopRecord p settings r)
      (fun _ => HasStopped refused settings r l) (WasRefused refused settings r l) := by
  have hmark (events : List Event) (hevents : Stopping settings r events) :
      Tries (Shows refused (l.noting events)) (markExited p r.id killedCode >>= fun _ => pure ())
        (fun _ => HasStopped refused settings r l) (WasRefused refused settings r l) := by
    refine (markExited_ledger hp r.id killedCode).bind fun _ => tries_pure fun w hw => ?_
    obtain ⟨now, hw⟩ := hw
    exact ⟨events, now, hevents, hw⟩
  have hterm : Tries (Shows refused l) (killTrees p .term (pidsToStop r))
      (fun _ => Shows refused (l.noting (signals .term (pidsToStop r))))
      (WasRefused refused settings r l) := by
    refine (killTrees_ledger hp .term (pidsToStop r)).mono (fun _ _ hw => hw) ?_
    rintro f w ⟨before, pid, rest, hsplit, hw⟩
    exact ⟨_, .asked before pid rest hsplit, hw⟩
  refine hterm.bind fun _ => ?_
  refine (pollDead_ledger hp (pidsToStop r) (graceLooks settings)).tries.bind fun dead => ?_
  cases dead with
  | true =>
    refine tries_exists fun looks => tries_and fun hlooks => ?_
    rw [Ledger.noting_noting]
    exact hmark _ (.asked looks hlooks)
  | false =>
    refine tries_exists fun looks => tries_and fun hlooks => ?_
    rw [Ledger.noting_noting]
    have hkill : Tries (Shows refused (l.noting (signals .term (pidsToStop r) ++ looks)))
        (killTrees p .kill (pidsToStop r))
        (fun _ => Shows refused ((l.noting (signals .term (pidsToStop r) ++ looks)).noting
          (signals .kill (pidsToStop r))))
        (WasRefused refused settings r l) := by
      refine (killTrees_ledger hp .kill (pidsToStop r)).mono (fun _ _ hw => hw) ?_
      rintro f w ⟨before, pid, rest, hsplit, hw⟩
      rw [Ledger.noting_noting] at hw
      exact ⟨_, .forced looks before pid rest hlooks hsplit, hw⟩
    refine hkill.bind fun _ => ?_
    rw [Ledger.noting_noting]
    refine (waitDead_ledger hp (pidsToStop r) forcedGrace).tries.bind fun _ => ?_
    refine tries_exists fun last => tries_and fun hlast => ?_
    rw [Ledger.noting_noting]
    exact hmark _ (.forced looks last (killGrace_le_graceLooks settings) hlooks hlast)

end

end Overseer.Supervisor
