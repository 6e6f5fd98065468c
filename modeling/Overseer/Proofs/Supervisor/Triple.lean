/-
Overseer.Proofs.Supervisor.Triple — what the supervisor's actions are sure to do.

`Asks P a Q` says that `a`, begun in any world with `P`, ends in one with `Q`
for its answer; `Does P a Q E` says the same of an action that can fail, with
`E` for the world in which it does. There is one rule for each way of putting
actions together, so a law on a function follows the text of the function.

What the platform may do to the world meanwhile is a relation, and
`Platform.Within` says that the platform keeps to it.
-/
import Overseer.Supervisor.Run

namespace Overseer.Supervisor

variable {σ α β : Type} {P P' : World σ → Prop} {E E' : World σ → Prop}

/-! ## 1. Actions that answer -/

/-- From a world with `P` the action leads to one with `Q` for its answer. -/
def Asks (P : World σ → Prop) (a : StateM (World σ) α) (Q : α → World σ → Prop) : Prop :=
  ∀ w, P w → Q (a.run w).1 (a.run w).2

section

variable {Q Q' : α → World σ → Prop} {R : β → World σ → Prop}

theorem Asks.mono {a : StateM (World σ) α} (h : Asks P a Q) (pre : ∀ w, P' w → P w)
    (post : ∀ x w, Q x w → Q' x w) : Asks P' a Q' :=
  fun w hw => post _ _ (h w (pre w hw))

theorem Asks.pre {a : StateM (World σ) α} (h : Asks P a Q) (pre : ∀ w, P' w → P w) :
    Asks P' a Q :=
  h.mono pre fun _ _ hw => hw

theorem asks_pure {x : α} (h : ∀ w, P w → Q x w) : Asks P (pure x) Q := h

theorem Asks.bind {a : StateM (World σ) α} {f : α → StateM (World σ) β} (ha : Asks P a Q)
    (hf : ∀ x, Asks (Q x) (f x) R) : Asks P (a >>= f) R :=
  fun w hw => hf _ _ (ha w hw)

theorem asks_get {Q : World σ → World σ → Prop} (h : ∀ w, P w → Q w w) :
    Asks P (get : StateM (World σ) (World σ)) Q := h

theorem asks_note {e : Event} {Q : Unit → World σ → Prop}
    (h : ∀ w, P w → Q () { w with journal := e :: w.journal }) : Asks P (note e) Q := h

/-! ## 2. Actions that can fail -/

/-- From a world with `P` the action leads to one with `Q` for its answer, or
fails in one with `E`. -/
def Does (P : World σ → Prop) (a : Act σ α) (Q : α → World σ → Prop) (E : World σ → Prop) :
    Prop :=
  Asks P a.run fun
    | .ok x => Q x
    | .error _ => E

theorem does_iff {a : Act σ α} : Does P a Q E ↔ ∀ w, P w → match a.run.run w with
    | (.ok x, w') => Q x w'
    | (.error _, w') => E w' := by
  unfold Does Asks
  refine forall_congr' fun w => forall_congr' fun _ => ?_
  rcases a.run.run w with ⟨_ | x, w'⟩ <;> rfl

/-- What does not fail goes through. -/
theorem Does.goes_through {a : Act σ α} (h : Does P a Q fun _ => False) {w : World σ} (hw : P w) :
    ∃ x, (a.run.run w).1 = .ok x ∧ Q x (a.run.run w).2 := by
  have hafter := does_iff.mp h w hw
  rcases hrun : a.run.run w with ⟨f | x, w'⟩
  · rw [hrun] at hafter
    exact hafter.elim
  · rw [hrun] at hafter
    exact ⟨x, rfl, hafter⟩

theorem Does.mono {a : Act σ α} (h : Does P a Q E) (pre : ∀ w, P' w → P w)
    (post : ∀ x w, Q x w → Q' x w) (fault : ∀ w, E w → E' w) : Does P' a Q' E' := by
  refine Asks.mono h pre ?_
  rintro (_ | x) w hw
  · exact fault w hw
  · exact post x w hw

theorem Does.pre {a : Act σ α} (h : Does P a Q E) (pre : ∀ w, P' w → P w) : Does P' a Q E :=
  h.mono pre (fun _ _ hw => hw) fun _ hw => hw

theorem Does.fault {a : Act σ α} (h : Does P a Q E) (fault : ∀ w, E w → E' w) : Does P a Q E' :=
  h.mono (fun _ hw => hw) (fun _ _ hw => hw) fault

theorem does_pure {x : α} (h : ∀ w, P w → Q x w) : Does P (pure x) Q E := h

theorem does_throw {f : Fault} (h : ∀ w, P w → E w) : Does P (throw f : Act σ α) Q E := h

theorem Does.bind {a : Act σ α} {f : α → Act σ β} (ha : Does P a Q E)
    (hf : ∀ x, Does (Q x) (f x) R E) : Does P (a >>= f) R E := by
  unfold Does
  rw [ExceptT.run_bind]
  refine Asks.bind ha ?_
  rintro (_ | x)
  · exact asks_pure fun _ hw => hw
  · exact hf x

/-- What comes after an action that goes through. -/
theorem run_bind_of_ok {a : Act σ α} {f : α → Act σ β} {x : α} {w w' : World σ}
    (h : a.run.run w = (.ok x, w')) : (a >>= f).run.run w = (f x).run.run w' := by
  simp only [ExceptT.run_bind, StateT.run_bind, h]
  rfl

/-- Nothing comes after a failure. -/
theorem does_throw_bind {f : Fault} {next : α → Act σ β} (h : ∀ w, P w → E w) :
    Does P ((throw f : Act σ α) >>= next) R E :=
  Does.bind (Q := fun _ _ => False) (does_throw h) fun _ _ hw => hw.elim

theorem Does.map {a : Act σ α} {f : α → β} (h : Does P a (fun x => R (f x)) E) :
    Does P (f <$> a) R E := by
  rw [map_eq_pure_bind]
  exact h.bind fun _ => does_pure fun _ hw => hw

theorem Asks.lift {a : StateM (World σ) α} (h : Asks P a Q) : Does P (liftM a : Act σ α) Q E := h

theorem does_get {Q : World σ → World σ → Prop} (h : ∀ w, P w → Q w w) :
    Does P (get : Act σ (World σ)) Q E := h

/-- What is attempted does not fail: a fault is its answer. -/
theorem Does.attempt {a : Act σ α} (h : Does P a Q E) :
    Does P (attempt a) (fun x w => match x with | .ok x => Q x w | .error _ => E w) E' := by
  unfold Does Supervisor.attempt
  rw [ExceptT.run_lift, map_eq_pure_bind]
  refine Asks.bind h ?_
  rintro (_ | x)
  · exact asks_pure fun _ hw => hw
  · exact asks_pure fun _ hw => hw

end

/-- What a world with `P` says of things that do not change may be used throughout. -/
theorem does_of_fact {a : Act σ α} {G : Prop} (hG : ∀ w, P w → G) (h : G → Does P a Q E) :
    Does P a Q E :=
  fun w hw => h (hG w hw) w hw

/-- What is known and does not change may be used throughout. -/
theorem does_and {a : Act σ α} {C : Prop} (h : C → Does P a Q E) :
    Does (fun w => C ∧ P w) a Q E :=
  fun w hw => h hw.1 w hw.2

/-- What is known with the help of something that does not change. -/
theorem does_exists {ι : Type} {a : Act σ α} {P : ι → World σ → Prop}
    (h : ∀ i, Does (P i) a Q E) : Does (fun w => ∃ i, P i w) a Q E :=
  fun w ⟨i, hi⟩ => h i w hi

/-- What holds after an action whatever its answer. -/
theorem does_of_forall {a : Act σ α} {K : World σ → Prop}
    (h : ∀ w, P w → K (a.run.run w).2) : Does P a (fun _ => K) K := by
  intro w hw
  have hafter := h w hw
  rcases hrun : a.run.run w with ⟨_ | x, w'⟩
  · rwa [hrun] at hafter
  · rwa [hrun] at hafter

/-- What holds after an action whatever comes of it holds after attempting it. -/
theorem Does.attempting {a : Act σ α} {K : World σ → Prop} (h : Does P a (fun _ => K) K) :
    Does P (Supervisor.attempt a) (fun _ => K) E := by
  refine h.attempt.mono (fun _ hw => hw) ?_ fun _ hw => hw
  rintro (_ | x) w hw
  · exact hw
  · exact hw

theorem Does.discarding {a : Act σ α} {K : World σ → Prop} (h : Does K a (fun _ => K) K) :
    Does K (discard a) (fun _ => K) K :=
  h.map

/-! ## 3. The store -/

section

variable {p : Platform σ} {Q : α → World σ → Prop}

/-- The store is used after the other parties; what cannot be done leaves it. -/
theorem does_access {f : Store → Except StoreFault (α × Store)}
    (others : Asks P p.others fun _ => P')
    (done : ∀ w x s, P' w → f w.store = .ok (x, s) → Q x { w with store := s })
    (refused : ∀ w cause, P' w → f w.store = .error cause → E w) :
    Does P (access p f) Q E := by
  unfold access
  refine others.lift.bind fun _ => ?_
  refine (does_get (Q := fun v w => v = w ∧ P' w) fun w hw => ⟨rfl, hw⟩).bind fun v => ?_
  rcases hf : f v.store with cause | ⟨x, s⟩
  · refine does_throw ?_
    rintro w ⟨rfl, hw⟩
    exact refused _ _ hw hf
  · rintro w ⟨rfl, hw⟩
    exact done _ _ _ hw hf

/-- The store is used in the world that the other parties leave. -/
theorem access_run {f : Store → Except StoreFault (α × Store)} {w : World σ} {x : α} {s : Store}
    (h : f (p.others.run w).2.store = .ok (x, s)) :
    (access p f).run.run w = (.ok x, { (p.others.run w).2 with store := s }) := by
  have hothers : (liftM p.others : Act σ Unit).run.run w = (.ok (), (p.others.run w).2) := rfl
  have hget : (get : Act σ (World σ)).run.run (p.others.run w).2
      = (.ok (p.others.run w).2, (p.others.run w).2) := rfl
  rw [access, run_bind_of_ok hothers, run_bind_of_ok hget, h]
  rfl

theorem does_look {f : Store → α} (others : Asks P p.others fun _ => P')
    (seen : ∀ w, P' w → Q (f w.store) w) : Does P (look p f) Q E := by
  refine does_access others ?_ ?_
  · rintro w x s hw hf
    cases hf
    exact seen w hw
  · rintro w cause hw hf
    cases hf

/-- A launch is marked as ended at the time of the clock before the other parties act. -/
theorem does_markExited {id code : Int} {Q : Bool → World σ → Prop}
    (others : Asks P p.others fun _ => P')
    (done : ∀ now w, P' w →
      Q (w.store.markExited now id code).1
        { w with store := (w.store.markExited now id code).2 }) :
    Does P (markExited p id code) Q E := by
  unfold markExited
  refine (does_get (Q := fun _ => P) fun w hw => hw).bind fun v => ?_
  refine does_access others ?_ ?_
  · rintro w x s hw hf
    obtain ⟨rfl, rfl⟩ := Prod.mk.inj (Except.ok.inj hf)
    exact done v.now w hw
  · rintro w cause hw hf
    cases hf

end

/-- An action that may fail, as one that answers whether it did. -/
theorem Does.asks {a : Act σ α} {K : World σ → Prop} (h : Does K a (fun _ => K) K) :
    Asks K a.run fun _ => K := by
  refine Asks.mono h (fun _ hw => hw) ?_
  rintro (_ | x) w hw
  · exact hw
  · exact hw

-- The rules are all there is to know of it; unfolded it would be run on its world.
attribute [irreducible] Does

/-! ## 4. The platform -/

/-- Whatever is asked of the platform changes the world within `R`. Starting a
wrapper is not meant here. -/
structure Platform.Within (p : Platform σ) (R : World σ → World σ → Prop) : Prop where
  isAlive : ∀ pid w, R w ((p.isAlive pid).run w).2
  signal : ∀ pid s w, R w ((p.signal pid s).run.run w).2
  killTree : ∀ pid s w, R w ((p.killTree pid s).run.run w).2
  portIsFree : ∀ port w, R w ((p.portIsFree port).run w).2
  exited? : ∀ wrapper w, R w ((p.exited? wrapper).run w).2
  sleep : ∀ limit w, R w ((p.sleep limit).run w).2
  others : ∀ w, R w (p.others.run w).2

/-- Starting a wrapper changes the world within `R`. -/
def Platform.SpawnsWithin (p : Platform σ) (R : World σ → World σ → Prop) : Prop :=
  ∀ program payload w, R w ((p.spawn program payload).run.run w).2

theorem Platform.Within.mono {p : Platform σ} {R R' : World σ → World σ → Prop}
    (h : p.Within R) (hR : ∀ w w', R w w' → R' w w') : p.Within R' where
  isAlive pid w := hR _ _ (h.isAlive pid w)
  signal pid s w := hR _ _ (h.signal pid s w)
  killTree pid s w := hR _ _ (h.killTree pid s w)
  portIsFree port w := hR _ _ (h.portIsFree port w)
  exited? wrapper w := hR _ _ (h.exited? wrapper w)
  sleep limit w := hR _ _ (h.sleep limit w)
  others w := hR _ _ (h.others w)

/-! ## 5. Two actions taken apart -/

/-- Why a launch did not start is an attempt to read its last line of error output. -/
theorem startFault_eq (p : Platform σ) (id : Int) : startFault p id = do
    let line? ← attempt (access p fun s => (s.lastOfType id .stderr).map fun line => (line, s))
    return match line? with
      | .ok (some line) => .startFailed (.reported line.content)
      | _ => .startFailed (.wrapperExited id) := by
  funext w
  let line? := access p fun s => (s.lastOfType id .stderr).map fun line => (line, s)
  have hattempt : ∀ f : Except Fault (Option LogRecord) → Fault,
      (attempt line? >>= fun answer => pure (f answer) : Act σ Fault) w
        = (.ok (f (line? w).1), (line? w).2) := fun _ => rfl
  rw [hattempt]
  unfold startFault
  rcases hrun : line?.run w with ⟨_ | _ | line, w'⟩
  all_goals
    have hline : line? w = _ := hrun
    simp only [hline]

/-- One look for the child's pid; `next` goes on if nothing is decided yet. -/
def lookForPid (p : Platform σ) (id : Int) (wrapper : Wrapper)
    (next : ProcessRecord → Act σ ProcessRecord) : Act σ ProcessRecord := do
  match ← look p fun s => s.launch? id with
  | none => throw (.noProcess (.launch id))
  | some record =>
    if record.pid ≠ 0 then return record
    let exit ← p.exited? wrapper
    if !record.running || exit.isSome then
      let _ ← markExited p id ((exit.bind fun code => code).getD startFailedCode)
      throw (← startFault p id)
    next record

theorem pollPid_zero (p : Platform σ) (id : Int) (wrapper : Wrapper) :
    pollPid p id wrapper 0 = lookForPid p id wrapper fun record => pure record := by
  unfold pollPid lookForPid
  rfl

theorem pollPid_succ (p : Platform σ) (id : Int) (wrapper : Wrapper) (left : Nat) :
    pollPid p id wrapper (left + 1)
      = lookForPid p id wrapper fun _ =>
        p.sleep pollTime >>= fun _ => pollPid p id wrapper left := by
  conv => lhs; unfold pollPid
  unfold lookForPid
  rfl

/-! ## 6. Ports that are tried -/

/-- A port that passes the probe is one of those that were tried. -/
theorem firstPassing_mem {K : World σ → Prop} {probe : Nat → StateM (World σ) Bool}
    (hprobe : ∀ port, Asks K (probe port) fun _ => K) (ports : List Nat) :
    Asks K (Port.firstPassing probe ports) fun port? w => K w ∧ ∀ port ∈ port?, port ∈ ports := by
  induction ports with
  | nil => exact asks_pure fun _ hw => ⟨hw, fun _ h => by cases h⟩
  | cons port rest ih =>
    refine (hprobe port).bind fun free => ?_
    cases free with
    | true =>
      refine asks_pure fun w hw => ⟨hw, ?_⟩
      rintro _ ⟨⟩
      exact List.mem_cons_self
    | false =>
      refine ih.mono (fun _ hw => hw) ?_
      exact fun port? w hw => ⟨hw.1, fun port hport => List.mem_cons_of_mem _ (hw.2 port hport)⟩

/-- A port that is allocated is not one of the used ones. -/
theorem allocateFrom_unused {K : World σ → Prop} {probe : Nat → StateM (World σ) Bool}
    (hprobe : ∀ port, Asks K (probe port) fun _ => K) (first last : Nat) (used : List Nat) :
    Does K (Port.allocateFrom first last used probe) (fun port w => K w ∧ port ∉ used) K := by
  refine (firstPassing_mem hprobe _).lift.bind fun port? => ?_
  rcases port? with _ | port
  · exact does_throw fun _ hw => hw.1
  · refine does_pure fun w hw => ⟨hw.1, ?_⟩
    have htried := (List.mem_filter.mp (hw.2 port rfl)).2
    simpa using htried

end Overseer.Supervisor
