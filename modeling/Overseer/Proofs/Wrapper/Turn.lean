/-
Overseer.Proofs.Wrapper.Turn — what one thing that happens can do to a wrapper.

A wrapper has ten kinds of moves, and what comes of each depends on where the
wrapper stands. For its child, and for what the wrapper asks of the system, there
are only a few outcomes; `Turn` lists them and `turn_step` says that there are no
others. A law about the child then has one case for each of them.
-/
import Overseer.Wrapper.Step

namespace Overseer.Wrapper

namespace Stand

/-- The child that the wrapper holds. -/
def child? : Stand → Option Nat
  | .attending pid => some pid
  | .abandoning pid _ => some pid
  | .draining _ | .pausing _ | .probing .. | .ended _ => none

/-- The wrapper waits for the right moment to restart. -/
def isWaiting : Stand → Bool
  | .pausing _ | .probing .. => true
  | .attending _ | .abandoning .. | .draining _ | .ended _ => false

theorem child?_of_isWaiting {s : Stand} (h : s.isWaiting = true) : s.child? = none := by
  cases s with
  | pausing status => rfl
  | probing status left => rfl
  | attending pid => simp [isWaiting] at h
  | abandoning pid fault => simp [isWaiting] at h
  | draining sequel => simp [isWaiting] at h
  | ended result => simp [isWaiting] at h

end Stand

variable {σ : Type} {r r' r'' : Run σ} (t : Task) (h : Host σ)

/-! ## 1. Writing and hearing -/

/-- Nothing happened but in the store and with the output. -/
structure Quiet (r r' : Run σ) : Prop where
  deeds : r'.deeds = r.deeds
  outside : r'.outside = r.outside
  state : r'.state = r.state
  stand : r'.stand = r.stand

theorem Quiet.refl (r : Run σ) : Quiet r r := ⟨rfl, rfl, rfl, rfl⟩

theorem Quiet.trans (h₁ : Quiet r r') (h₂ : Quiet r' r'') : Quiet r r'' :=
  ⟨h₂.deeds.trans h₁.deeds, h₂.outside.trans h₁.outside, h₂.state.trans h₁.state,
    h₂.stand.trans h₁.stand⟩

theorem quiet_append (type : LogType) (content : String) (r : Run σ) :
    Quiet r (append t type content r) := ⟨rfl, rfl, rfl, rfl⟩

theorem quiet_persist (r : Run σ) (line : Line) : Quiet r (persist t r line) := by
  unfold persist
  cases line.stream with
  | out => exact quiet_append t .stdout _ r
  | err => exact quiet_append t .stderr _ r

theorem quiet_foldl_persist (lines : List Line) (r : Run σ) :
    Quiet r (lines.foldl (persist t) r) := by
  induction lines generalizing r with
  | nil => exact Quiet.refl r
  | cons line lines ih => exact (quiet_persist t r line).trans (ih _)

theorem quiet_setReader (r : Run σ) (stream : Stream) (reader? : Option Reader) :
    Quiet r (r.setReader stream reader?) := by
  cases stream <;> exact ⟨rfl, rfl, rfl, rfl⟩

theorem quiet_hear (r : Run σ) (stream : Stream) (octets : List UInt8) :
    Quiet r (r.hear stream octets) := by
  unfold Run.hear
  cases r.reader? stream with
  | none => exact Quiet.refl r
  | some reader => exact (quiet_setReader r stream _).trans ⟨rfl, rfl, rfl, rfl⟩

theorem quiet_hearEnd (r : Run σ) (stream : Stream) : Quiet r (r.hearEnd stream) := by
  unfold Run.hearEnd
  cases r.reader? stream with
  | none => exact Quiet.refl r
  | some reader => exact (quiet_setReader r stream none).trans ⟨rfl, rfl, rfl, rfl⟩

theorem quiet_giveUp (r : Run σ) : Quiet r r.giveUp := by
  unfold Run.giveUp
  split <;> exact ⟨rfl, rfl, rfl, rfl⟩

theorem quiet_cleanUp (r : Run σ) : Quiet r (cleanUp t r) := by
  unfold cleanUp
  cases t.options.cleanup with
  | none => exact Quiet.refl r
  | some policy => exact ⟨rfl, rfl, rfl, rfl⟩

/-! ## 2. Between two children and after the last one -/

/-- The wrapper goes on without a child. It waits for a restart only if one was asked
for, or if it waited before. -/
structure Rests (r r' : Run σ) : Prop where
  deeds : r'.deeds = r.deeds
  outside : r'.outside = r.outside
  state : r'.state = r.state ∨ r'.state = .terminated
  childless : r'.stand.child? = none
  waits : r'.stand.isWaiting = true → r'.state = .restarting ∨ r.stand.isWaiting = true

theorem Quiet.rests (h₁ : Quiet r r') (h₂ : Rests r' r'') : Rests r r'' where
  deeds := h₂.deeds.trans h₁.deeds
  outside := h₂.outside.trans h₁.outside
  state := h₁.state ▸ h₂.state
  childless := h₂.childless
  waits := h₁.stand ▸ h₂.waits

theorem rests_finish (code : Int) (result : Except Fault Int) (r : Run σ) :
    Rests r (finish t code result r) :=
  ⟨rfl, rfl, Or.inr rfl, rfl, fun hwaits => absurd hwaits Bool.false_ne_true⟩

theorem rests_failStart (fault : Fault) (r : Run σ) : Rests r (failStart t fault r) :=
  (quiet_append t .stderr (startDetail fault) r).rests (rests_finish t _ _ _)

theorem rests_proceed (sequel : Sequel) (r : Run σ) : Rests r (proceed t sequel r) := by
  cases sequel with
  | failed fault => exact rests_failStart t fault r
  | exited status =>
    simp only [proceed]
    by_cases hrestarting : r.state = .restarting
    · rw [if_pos hrestarting]
      exact ⟨rfl, rfl, Or.inl rfl, rfl, fun _ => Or.inl hrestarting⟩
    · rw [if_neg hrestarting]
      exact rests_finish t _ _ r

theorem rests_settle (sequel : Sequel) (r : Run σ) : Rests r (settle t sequel r) := by
  unfold settle
  cases r.out.isNone && r.err.isNone with
  | false => exact ⟨rfl, rfl, Or.inl rfl, rfl, fun hwaits => absurd hwaits Bool.false_ne_true⟩
  | true =>
    have hquiet : Quiet r (r.queue.foldl (persist t) { r with queue := [] }) :=
      (Quiet.mk rfl rfl rfl rfl : Quiet r { r with queue := [] }).trans
        (quiet_foldl_persist t r.queue _)
    exact hquiet.rests (rests_proceed t sequel _)

/-! ## 3. Asking the system -/

/-- A signal was sent to a process. -/
structure Signalled (pid : Nat) (signal : Signal) (r r' : Run σ) : Prop where
  deeds : r'.deeds = .signalled pid signal :: r.deeds
  outside : r'.outside = (h.killTree pid signal r.outside).2
  state : r'.state = r.state
  stand : r'.stand = r.stand

theorem signalled_signalChild (pid : Nat) (signal : Signal) (r : Run σ) :
    Signalled h pid signal r (signalChild h pid signal r).2 := by
  unfold signalChild
  rcases hanswer : h.killTree pid signal r.outside with ⟨_ | _, outside⟩
  · exact ⟨rfl, by rw [hanswer]; rfl, rfl, rfl⟩
  · exact ⟨rfl, by rw [hanswer]; rfl, rfl, rfl⟩

/-- The wrapper tried to start the child, with the system as in `outside`. -/
inductive Started (outside : σ) (r r' : Run σ) : Prop where
  | failed (cause : IoFault) (spawn : h.spawn t.order outside = (.error cause, r'.outside))
      (deeds : r'.deeds = r.deeds) (stand : ∃ result, r'.stand = .ended result)
  | attended (pid : Nat) (spawn : h.spawn t.order outside = (.ok pid, r'.outside))
      (deeds : r'.deeds = .started pid :: r.deeds) (stand : r'.stand = .attending pid)
  | abandoned (pid : Nat) (fault : Fault) (between : σ)
      (spawn : h.spawn t.order outside = (.ok pid, between))
      (kill : r'.outside = (h.killTree pid .kill between).2)
      (deeds : r'.deeds = .signalled pid .kill :: .started pid :: r.deeds)
      (stand : r'.stand = .abandoning pid fault)

theorem started_startChild (again : Bool) (r : Run σ) :
    Started t h r.outside r (startChild t h again r) := by
  unfold startChild
  rcases hspawn : h.spawn t.order r.outside with ⟨cause | pid, outside⟩
  · exact .failed cause hspawn rfl ⟨_, rfl⟩
  · simp only
    split
    next cause hupdate =>
      obtain ⟨hdeeds, houtside, _, _⟩ := signalled_signalChild h pid .kill
        (Run.note (.started pid)
          { r with outside, state := .starting, out := some .empty, err := some .empty })
      exact .abandoned pid (.store cause) outside hspawn houtside hdeeds rfl
    next store hupdate => exact .attended pid hspawn rfl rfl

/-- The system was not asked, or only whether a port is free. -/
def Looked (outside outside' : σ) : Prop :=
  outside' = outside ∨ ∃ port, outside' = (h.portIsFree port outside).2

/-! ## 4. Turns -/

/-- What can come of one thing that happens. -/
inductive Turn (r r' : Run σ) : Prop where
  /-- Lines are heard or written, other parties act, or nothing fits. -/
  | quiet (same : Quiet r r')
  /-- The wrapper goes on without a child, as before. -/
  | rested (childless : r.stand.child? = none) (outside : σ) (looked : Looked h r.outside outside)
      (rests : Rests { r with outside } r')
  /-- The child has ended. -/
  | reaped (pid : Nat) (child : r.stand.child? = some pid)
      (rests : Rests (r.note (.reaped pid)) r')
  /-- A request to restart says nothing new. -/
  | restartHeard (same : Quiet (r.note (.heard .restart)) r')
  /-- The child is asked to end so that it can be started again. -/
  | restartTried (pid : Nat) (stand : r.stand = .attending pid) (running : r.state = .running)
      (deeds : r'.deeds = .signalled pid .term :: .heard .restart :: r.deeds)
      (outside : r'.outside = (h.killTree pid .term r.outside).2)
      (state : r'.state = .restarting ∨ r'.state = .running) (same : r'.stand = r.stand)
  /-- The child was asked to end already. -/
  | shutdownHeard (pid : Nat) (stand : r.stand = .attending pid)
      (deeds : r'.deeds = .heard .shutdown :: r.deeds) (outside : r'.outside = r.outside)
      (state : r'.state.acceptsShutdown = false) (same : r'.stand = r.stand)
  /-- The child is asked to end for good. -/
  | shutdownTried (pid : Nat) (stand : r.stand = .attending pid)
      (deeds : r'.deeds = .signalled pid .term :: .heard .shutdown :: r.deeds)
      (outside : r'.outside = (h.killTree pid .term r.outside).2)
      (state : r'.state = .shuttingDown) (same : r'.stand = r.stand)
  /-- A restart that was waited for is called off. -/
  | calledOff (waiting : r.stand.isWaiting = true) (deeds : r'.deeds = .heard .shutdown :: r.deeds)
      (outside : r'.outside = r.outside) (state : r'.state = .terminated)
      (stand : ∃ result, r'.stand = .ended result)
  /-- The child is started again. -/
  | restarted (waiting : r.stand.isWaiting = true) (outside : σ)
      (looked : Looked h r.outside outside) (started : Started t h outside r r')

theorem Turn.of_started {outside : σ} (hwaiting : r.stand.isWaiting = true)
    (hlooked : Looked h r.outside outside) (hstarted : Started t h outside { r with outside } r') :
    Turn t h r r' := by
  refine .restarted hwaiting outside hlooked ?_
  cases hstarted with
  | failed cause spawn deeds stand => exact .failed cause spawn deeds stand
  | attended pid spawn deeds stand => exact .attended pid spawn deeds stand
  | abandoned pid fault between spawn kill deeds stand =>
    exact .abandoned pid fault between spawn kill deeds stand

theorem turn_requestRestart {pid : Nat} (hstand : r.stand = .attending pid) :
    Turn t h r (requestRestart t h pid (r.note (.heard .restart))) := by
  unfold requestRestart
  by_cases haccepts : (r.note (.heard .restart)).state.acceptsRestart = true
  · rw [if_pos haccepts]
    have hrunning : r.state = .running := by
      cases hstate : r.state <;> simp [Run.note, hstate, State.acceptsRestart] at haccepts ⊢
    obtain ⟨hdeeds, houtside, hstate, hsame⟩ := signalled_signalChild h pid .term
      { append t .stdout "Restart signal received" (r.note (.heard .restart)) with
        state := .restarting }
    simp only
    rcases hanswer : signalChild h pid .term
      { append t .stdout "Restart signal received" (r.note (.heard .restart)) with
        state := .restarting } with ⟨_ | fault, r'⟩
    · rw [hanswer] at hdeeds houtside hstate hsame
      exact .restartTried pid hstand hrunning hdeeds houtside (Or.inl hstate) hsame
    · rw [hanswer] at hdeeds houtside hstate hsame
      exact .restartTried pid hstand hrunning hdeeds houtside (Or.inr rfl) hsame
  · rw [if_neg haccepts]
    exact .restartHeard (Quiet.refl _)

theorem turn_requestShutdown {pid : Nat} (hstand : r.stand = .attending pid) :
    Turn t h r (requestShutdown h pid (r.note (.heard .shutdown))) := by
  unfold requestShutdown
  by_cases haccepts : (r.note (.heard .shutdown)).state.acceptsShutdown = true
  · rw [if_pos haccepts]
    simp only
    cases (r.note (.heard .shutdown)).state == .restarting with
    | true => exact .shutdownHeard pid hstand rfl rfl rfl rfl
    | false =>
      obtain ⟨hdeeds, houtside, hstate, hsame⟩ := signalled_signalChild h pid .term
        { r.note (.heard .shutdown) with state := .shuttingDown }
      exact .shutdownTried pid hstand hdeeds houtside hstate hsame
  · rw [if_neg haccepts]
    exact .shutdownHeard pid hstand rfl rfl (Bool.eq_false_iff.mpr haccepts) rfl

theorem turn_probePort (port : Nat) (status : ExitStatus) (left : Nat)
    (hwaiting : r.stand.isWaiting = true) :
    Turn t h r (probePort t h port status left r) := by
  unfold probePort
  have hlooked : Looked h r.outside (h.portIsFree port r.outside).2 := Or.inr ⟨port, rfl⟩
  rcases hfree : h.portIsFree port r.outside with ⟨_ | _, outside⟩
  · rw [hfree] at hlooked
    refine .rested (Stand.child?_of_isWaiting hwaiting) outside hlooked ?_
    cases left with
    | zero => exact (quiet_append t .stderr _ _).rests (rests_finish t _ _ _)
    | succ left => exact ⟨rfl, rfl, Or.inl rfl, rfl, fun _ => Or.inr hwaiting⟩
  · rw [hfree] at hlooked
    exact .of_started t h hwaiting hlooked (started_startChild t h true { r with outside })

theorem turn_endPause (status : ExitStatus) (hwaiting : r.stand.isWaiting = true) :
    Turn t h r (endPause t h status r) := by
  unfold endPause
  cases t.payload.port with
  | none => exact .restarted hwaiting r.outside (Or.inl rfl) (started_startChild t h true r)
  | some port => exact turn_probePort t h port status _ hwaiting

theorem turn_callOff (code : Int) (result : Except Fault Int)
    (hwaiting : r.stand.isWaiting = true) :
    Turn t h r (finish t code result { r.note (.heard .shutdown) with state := .shuttingDown }) :=
  .calledOff hwaiting rfl rfl rfl ⟨result, rfl⟩

theorem turn_takeRequest (control : Control) (r : Run σ) :
    Turn t h r (takeRequest t h control r) := by
  unfold takeRequest
  cases hstand : r.stand with
  | attending pid =>
    cases control with
    | restart => exact turn_requestRestart t h hstand
    | shutdown => exact turn_requestShutdown t h hstand
  | pausing status =>
    cases control with
    | restart => exact .restartHeard (Quiet.refl _)
    | shutdown => exact turn_callOff t h _ _ (by rw [hstand]; rfl)
  | probing status left =>
    cases control with
    | restart => exact .restartHeard (Quiet.refl _)
    | shutdown => exact turn_callOff t h _ _ (by rw [hstand]; rfl)
  | abandoning pid fault => exact .quiet (Quiet.refl r)
  | draining sequel => exact .quiet (Quiet.refl r)
  | ended result => exact .quiet (Quiet.refl r)

theorem turn_takeExit (status : ExitStatus) (r : Run σ) :
    Turn t h r (takeExit t status r) := by
  unfold takeExit
  split
  next pid hstand => exact .reaped pid (by rw [hstand]; rfl) (rests_settle t _ _)
  next pid fault hstand => exact .reaped pid (by rw [hstand]; rfl) (rests_settle t _ _)
  next => exact .quiet (Quiet.refl r)

theorem turn_settleIfDraining (hquiet : Quiet r r') :
    Turn t h r (settleIfDraining t r') := by
  unfold settleIfDraining
  split
  next sequel hstand =>
    have hchildless : r.stand.child? = none := by rw [← hquiet.stand, hstand]; rfl
    exact .rested hchildless r.outside (Or.inl rfl) (hquiet.rests (rests_settle t sequel r'))
  next => exact .quiet hquiet

/-- **Every move of a wrapper is one of the turns.** -/
theorem turn_step (r : Run σ) (m : Move) : Turn t h r (step t h r m) := by
  cases m with
  | wrote stream octets => exact .quiet (quiet_hear r stream octets)
  | closed stream => exact turn_settleIfDraining t h (quiet_hearEnd r stream)
  | take =>
    simp only [step]
    split
    next pid line queue hstand hqueue =>
      exact .quiet ((⟨rfl, rfl, rfl, rfl⟩ : Quiet r { r with queue }).trans
        (quiet_persist t _ line))
    next => exact .quiet (Quiet.refl r)
  | request control => exact turn_takeRequest t h control r
  | exited status => exact turn_takeExit t h status r
  | drainTimeOver =>
    simp only [step]
    split
    next sequel hstand =>
      exact .rested (by rw [hstand]; rfl) r.outside (Or.inl rfl)
        ((quiet_giveUp r).rests (rests_settle t sequel _))
    next => exact .quiet (Quiet.refl r)
  | pauseOver =>
    simp only [step]
    split
    next status hstand => exact turn_endPause t h status (by rw [hstand]; rfl)
    next => exact .quiet (Quiet.refl r)
  | lookDue =>
    simp only [step]
    split
    next status left port hstand hport =>
      exact turn_probePort t h port status left (by rw [hstand]; rfl)
    next => exact .quiet (Quiet.refl r)
  | clock now => exact .quiet ⟨rfl, rfl, rfl, rfl⟩
  | others use => exact .quiet ⟨rfl, rfl, rfl, rfl⟩

/-- A run begins with the start of a child. -/
theorem started_begin (store : Store) (now : Int) (outside : σ) :
    ∃ r₀ r₁ : Run σ, r₀.deeds = [] ∧ Started t h outside r₀ r₁
      ∧ Quiet r₁ (begin t h store now outside) := by
  have hstarted := started_startChild t h false
    (⟨store, now, outside, .starting, .ended (.ok 0), 1, none, none, [], []⟩ : Run σ)
  refine ⟨_, _, rfl, hstarted, ?_⟩
  unfold begin
  simp only
  split
  next => exact quiet_cleanUp t _
  next => exact Quiet.refl _

end Overseer.Wrapper
