/-
Overseer.Proofs.Wrapper.Outcome — what one thing that happens can come to.

A wrapper ends a launch in two ways only: a child has ended and no restart follows, or
a child could not be started. Up to the end it writes lines and leaves the launches of
the store alone (`WritesOnly`), and what it knows of an exit code is said by its stand.
`Comes` lists what a move can come to with the code that the wrapper knows at that
move, and `comes_step` says that there is nothing else. `Turn` and `Passage` do the
same for the children and for the lines.
-/
import Overseer.Proofs.Wrapper.Chronicle

namespace Overseer.Wrapper

open Store (Operation)

variable {σ : Type} (t : Task) (h : Host σ) {r r' r'' : Run σ}

/-! ## 1. Up to the end -/

/-- The child that was started last, by deeds latest first. -/
def lastStarted : List Deed → Option Nat
  | [] => none
  | .started pid :: _ => some pid
  | _ :: earlier => lastStarted earlier

/-- What becomes of the store are operations of it. -/
def Uses (r r' : Run σ) : Prop := ∃ history, r'.store = r.store.run history

theorem Uses.refl (r : Run σ) : Uses r r := ⟨[], rfl⟩

theorem Uses.trans (h₁ : Uses r r') (h₂ : Uses r' r'') : Uses r r'' := by
  obtain ⟨history, hfirst⟩ := h₁
  obtain ⟨later, hsecond⟩ := h₂
  exact ⟨history ++ later, by rw [hsecond, hfirst, Store.run_append]⟩

theorem uses_of_step (op : Operation) (hstore : r'.store = r.store.step op) : Uses r r' :=
  ⟨[op], hstore⟩

/-- Lines are written, or none. No launch of the store is touched and no child started,
and the store has given out no more numbers than the wrapper. -/
structure WritesOnly (r r' : Run σ) : Prop where
  uses : Uses r r'
  launches : r'.store.launches = r.store.launches
  now : r'.now = r.now
  child : lastStarted r'.deeds = lastStarted r.deeds
  room : r'.store.lastOutput - r.store.lastOutput ≤ r'.nextLine - r.nextLine

theorem writesOnly_of_same (hstore : r'.store = r.store) (hnow : r'.now = r.now)
    (hchild : lastStarted r'.deeds = lastStarted r.deeds) (hnext : r'.nextLine = r.nextLine) :
    WritesOnly r r' :=
  ⟨⟨[], hstore⟩, by rw [hstore], hnow, hchild, by rw [hstore, hnext]; omega⟩

theorem WritesOnly.trans (h₁ : WritesOnly r r') (h₂ : WritesOnly r' r'') : WritesOnly r r'' where
  uses := h₁.uses.trans h₂.uses
  launches := h₂.launches.trans h₁.launches
  now := h₂.now.trans h₁.now
  child := h₂.child.trans h₁.child
  room := by
    have := h₁.room
    have := h₂.room
    omega

theorem writesOnly_append (type : LogType) (content : String) (r : Run σ) :
    WritesOnly r (append t type content r) := by
  have hstep : (append t type content r).store
      = r.store.step (.append r.now t.payload.launch t.key r.nextLine content type) := rfl
  refine ⟨uses_of_step _ hstep, ?_, rfl, rfl, ?_⟩
  · simp only [append]
    split
    next htaken =>
      obtain ⟨_, _, rfl⟩ := Store.append_eq_ok_iff.mp htaken
      rfl
    next => rfl
  · simp only [append]
    split
    next htaken =>
      obtain ⟨_, _, rfl⟩ := Store.append_eq_ok_iff.mp htaken
      simp only
      omega
    next => omega

theorem writesOnly_persist (line : Line) (r : Run σ) : WritesOnly r (persist t r line) := by
  unfold persist
  cases line.stream with
  | out => exact writesOnly_append t .stdout _ r
  | err => exact writesOnly_append t .stderr _ r

theorem writesOnly_foldl_persist (lines : List Line) (r : Run σ) :
    WritesOnly r (lines.foldl (persist t) r) := by
  induction lines generalizing r with
  | nil => exact writesOnly_of_same rfl rfl rfl rfl
  | cons line lines ih => exact (writesOnly_persist t line r).trans (ih _)

theorem writesOnly_signalChild (pid : Nat) (signal : Signal) (r : Run σ) :
    WritesOnly r (signalChild h pid signal r).2 := by
  unfold signalChild
  rcases h.killTree pid signal r.outside with ⟨_ | _, outside⟩
  · exact writesOnly_of_same rfl rfl rfl rfl
  · exact writesOnly_of_same rfl rfl rfl rfl

/-- The room for all that is written is room for the rest of it. -/
theorem WritesOnly.hasRoom (hwrites : WritesOnly r r') (hroom : HasRoom r r'') :
    HasRoom r' r'' := by
  have := hwrites.room
  unfold HasRoom at *
  omega

/-! ## 2. What the wrapper knows of a code -/

/-- The exit code that the launch will have if nothing else comes between, or has. -/
def Stand.code? : Stand → Option Int
  | .draining (.exited status) => some status.number
  | .pausing status => some status.number
  | .probing status _ => some status.number
  | .ended (.ok code) => some code
  | .attending _ | .abandoning .. | .draining (.failed _) | .ended (.error _) => none

/-- The code with which a sequel can end the launch. -/
def Sequel.code? : Sequel → Option Int
  | .exited status => some status.number
  | .failed _ => none

/-- What comes of a move, when `code?` is the code that the wrapper knows then. -/
inductive Comes (code? : Option Int) (r r' : Run σ) : Prop where
  | kept (writes : WritesOnly r r') (same : r'.stand = r.stand)
  | waits (writes : WritesOnly r r') (going : r'.stand.isOver = false)
      (childless : r'.stand.child? = none) (known : r'.stand.code? = code?)
  | begun (pid : Nat) (uses : Uses r r') (child : r'.stand.child? = some pid)
      (started : lastStarted r'.deeds = some pid)
  | finished (code : Int) (known : code? = some code) (last : Run σ) (writes : WritesOnly r last)
      (ends : r' = finish t code (.ok code) last)
  | failed (fault : Fault) (last : Run σ) (writes : WritesOnly r last)
      (ends : r' = failStart t fault last)

variable {t} {code? : Option Int}

theorem Comes.after (hwrites : WritesOnly r r') (hsame : r'.stand = r.stand)
    (hcomes : Comes t code? r' r'') : Comes t code? r r'' := by
  cases hcomes with
  | kept writes same => exact .kept (hwrites.trans writes) (same.trans hsame)
  | waits writes going childless known => exact .waits (hwrites.trans writes) going childless known
  | begun pid uses child started => exact .begun pid (hwrites.uses.trans uses) child started
  | finished code known last writes ends =>
    exact .finished code known last (hwrites.trans writes) ends
  | failed fault last writes ends => exact .failed fault last (hwrites.trans writes) ends

variable (t)

theorem comes_proceed (sequel : Sequel) (r : Run σ) :
    Comes t sequel.code? r (proceed t sequel r) := by
  have hsame : WritesOnly r r := writesOnly_of_same rfl rfl rfl rfl
  cases sequel with
  | failed fault => exact .failed fault r hsame rfl
  | exited status =>
    simp only [proceed]
    split
    next hrestarting => exact .waits (writesOnly_of_same rfl rfl rfl rfl) rfl rfl rfl
    next hother => exact .finished _ rfl r hsame rfl

theorem comes_settle (sequel : Sequel) (r : Run σ) :
    Comes t sequel.code? r (settle t sequel r) := by
  unfold settle
  cases r.out.isNone && r.err.isNone with
  | false =>
    refine .waits (writesOnly_of_same rfl rfl rfl rfl) rfl rfl ?_
    cases sequel <;> rfl
  | true =>
    have hemptied : WritesOnly r { r with queue := [] } := writesOnly_of_same rfl rfl rfl rfl
    have hwrites := hemptied.trans (writesOnly_foldl_persist t r.queue { r with queue := [] })
    exact (comes_proceed t sequel _).after hwrites (quiet_foldl_persist t r.queue _).stand

/-- A child is started, or the launch is ended because there is none. -/
theorem startChild_outcome (again : Bool) (r : Run σ) :
    (∃ pid, Uses r (startChild t h again r) ∧ (startChild t h again r).stand.child? = some pid
        ∧ lastStarted (startChild t h again r).deeds = some pid)
      ∨ ∃ fault last, WritesOnly r last ∧ startChild t h again r = failStart t fault last := by
  unfold startChild
  rcases h.spawn t.order r.outside with ⟨cause | pid, outside⟩
  · have hsame : WritesOnly r { r with outside, state := .starting } :=
      writesOnly_of_same rfl rfl rfl rfl
    exact Or.inr ⟨_, _, hsame, rfl⟩
  · refine Or.inl ⟨pid, ?_⟩
    simp only
    split
    next cause hupdate =>
      have hkill := writesOnly_signalChild h pid .kill (Run.note (.started pid)
        { r with outside, state := .starting, out := some .empty, err := some .empty })
      exact ⟨hkill.uses, rfl, hkill.child⟩
    next store hupdate =>
      replace hupdate : r.store.updatePid t.payload.launch pid = .ok store := hupdate
      have hnoted : Uses r { r with store } :=
        uses_of_step (.updatePid t.payload.launch pid) (by simp only [Store.step, hupdate])
      have hmarked := writesOnly_append t .started (startedText again pid) { r with store }
      exact ⟨hnoted.trans hmarked.uses, rfl, rfl⟩

theorem comes_startChild (again : Bool) (r : Run σ) : Comes t code? r (startChild t h again r) := by
  obtain ⟨pid, huses, hchild, hstarted⟩ | ⟨fault, last, hwrites, hends⟩ :=
    startChild_outcome t h again r
  · exact .begun pid huses hchild hstarted
  · exact .failed fault last hwrites hends

theorem comes_probePort (port : Nat) (status : ExitStatus) (left : Nat) (r : Run σ) :
    Comes t (some status.number) r (probePort t h port status left r) := by
  unfold probePort
  rcases h.portIsFree port r.outside with ⟨_ | _, outside⟩
  · have hasked : WritesOnly r { r with outside } := writesOnly_of_same rfl rfl rfl rfl
    cases left with
    | zero => exact .finished _ rfl _ (hasked.trans (writesOnly_append t .stderr _ _)) rfl
    | succ left => exact .waits (writesOnly_of_same rfl rfl rfl rfl) rfl rfl rfl
  · have hasked : WritesOnly r { r with outside } := writesOnly_of_same rfl rfl rfl rfl
    exact Comes.after hasked rfl (comes_startChild t h true { r with outside })

theorem comes_endPause (status : ExitStatus) (r : Run σ) :
    Comes t (some status.number) r (endPause t h status r) := by
  unfold endPause
  cases t.payload.port with
  | none => exact comes_startChild t h true r
  | some port => exact comes_probePort t h port status _ r

theorem comes_requestRestart (pid : Nat) (r : Run σ) :
    Comes t code? r (requestRestart t h pid r) := by
  unfold requestRestart
  split
  · have hsaid : WritesOnly r
        { append t .stdout "Restart signal received" r with state := .restarting } :=
      (writesOnly_append t .stdout _ r).trans (writesOnly_of_same rfl rfl rfl rfl)
    have hkill := hsaid.trans (writesOnly_signalChild h pid .term _)
    have hsame := (signalled_signalChild h pid .term
      { append t .stdout "Restart signal received" r with state := .restarting }).stand
    simp only
    rcases hanswer : signalChild h pid .term
      { append t .stdout "Restart signal received" r with state := .restarting }
      with ⟨_ | fault, r'⟩
    · rw [hanswer] at hkill hsame
      exact .kept hkill hsame
    · rw [hanswer] at hkill hsame
      have hfailed := writesOnly_append t .stderr s!"Restart failed: {fault.message}" r'
      exact .kept ((hkill.trans hfailed).trans (writesOnly_of_same rfl rfl rfl rfl)) hsame
  · exact .kept (writesOnly_of_same rfl rfl rfl rfl) rfl

theorem comes_requestShutdown (pid : Nat) (r : Run σ) :
    Comes t code? r (requestShutdown h pid r) := by
  have hasked : WritesOnly r { r with state := .shuttingDown } := writesOnly_of_same rfl rfl rfl rfl
  unfold requestShutdown
  split
  · simp only
    split
    · exact .kept hasked rfl
    · exact .kept (hasked.trans (writesOnly_signalChild h pid .term _))
        (signalled_signalChild h pid .term { r with state := .shuttingDown }).stand
  · exact .kept (writesOnly_of_same rfl rfl rfl rfl) rfl

theorem comes_takeRequest (control : Control) (r : Run σ) :
    Comes t r.stand.code? r (takeRequest t h control r) := by
  have hheard : WritesOnly r (r.note (.heard control)) := writesOnly_of_same rfl rfl rfl rfl
  have hcalledOff : WritesOnly r { r.note (.heard control) with state := .shuttingDown } :=
    writesOnly_of_same rfl rfl rfl rfl
  unfold takeRequest
  cases hstand : r.stand with
  | attending pid =>
    cases control with
    | restart => exact Comes.after hheard rfl (comes_requestRestart t h pid _)
    | shutdown => exact Comes.after hheard rfl (comes_requestShutdown t h pid _)
  | pausing status =>
    cases control with
    | restart => exact .kept hheard rfl
    | shutdown => exact .finished _ rfl _ hcalledOff rfl
  | probing status left =>
    cases control with
    | restart => exact .kept hheard rfl
    | shutdown => exact .finished _ rfl _ hcalledOff rfl
  | abandoning pid fault => exact .kept (writesOnly_of_same rfl rfl rfl rfl) rfl
  | draining sequel => exact .kept (writesOnly_of_same rfl rfl rfl rfl) rfl
  | ended result => exact .kept (writesOnly_of_same rfl rfl rfl rfl) rfl

/-- The code that the wrapper knows when something happens: if its child ends, the code of
that end, unless the child was given up. -/
def Run.codeAt? (r : Run σ) : Move → Option Int
  | .exited status =>
    match r.stand with
    | .attending _ => some status.number
    | stand => stand.code?
  | _ => r.stand.code?

theorem comes_takeExit (status : ExitStatus) (r : Run σ) :
    Comes t (r.codeAt? (.exited status)) r (takeExit t status r) := by
  have hreaped : ∀ pid, WritesOnly r (r.note (.reaped pid)) :=
    fun pid => writesOnly_of_same rfl rfl rfl rfl
  unfold takeExit Run.codeAt?
  cases hstand : r.stand with
  | attending pid => exact Comes.after (hreaped pid) rfl (comes_settle t (.exited status) _)
  | abandoning pid fault => exact Comes.after (hreaped pid) rfl (comes_settle t (.failed fault) _)
  | draining sequel => exact .kept (writesOnly_of_same rfl rfl rfl rfl) rfl
  | pausing status => exact .kept (writesOnly_of_same rfl rfl rfl rfl) rfl
  | probing status left => exact .kept (writesOnly_of_same rfl rfl rfl rfl) rfl
  | ended result => exact .kept (writesOnly_of_same rfl rfl rfl rfl) rfl

theorem Hears.writesOnly (hhears : Hears r r') (hstore : r'.store = r.store) : WritesOnly r r' :=
  writesOnly_of_same hstore hhears.now (congrArg lastStarted hhears.quiet.deeds)
    (congrArg Ledger.next hhears.ledger)

theorem store_hear (r : Run σ) (stream : Stream) (octets : List UInt8) :
    (r.hear stream octets).store = r.store := by
  unfold Run.hear
  cases r.reader? stream with
  | none => rfl
  | some reader => cases stream <;> rfl

theorem store_hearEnd (r : Run σ) (stream : Stream) : (r.hearEnd stream).store = r.store := by
  unfold Run.hearEnd
  cases r.reader? stream with
  | none => rfl
  | some reader => cases stream <;> rfl

theorem store_giveUp (r : Run σ) : r.giveUp.store = r.store := by
  unfold Run.giveUp
  split <;> rfl

/-- **What comes of every move of a wrapper's own.** -/
theorem comes_step (r : Run σ) {m : Move} (hown : m.isOwn = true) :
    Comes t (r.codeAt? m) r (step t h r m) := by
  have hsame : Comes t (r.codeAt? m) r r := .kept (writesOnly_of_same rfl rfl rfl rfl) rfl
  cases m with
  | wrote stream octets =>
    have hhears := hears_hear r stream octets
    exact .kept (hhears.writesOnly (store_hear r stream octets)) hhears.quiet.stand
  | closed stream =>
    have hhears := hears_hearEnd r stream
    have hwrites := hhears.writesOnly (store_hearEnd r stream)
    simp only [step, settleIfDraining, Run.codeAt?]
    split
    next sequel hstand =>
      have hcode : r.stand.code? = sequel.code? := by
        rw [← hhears.quiet.stand, hstand]
        cases sequel <;> rfl
      rw [hcode]
      exact Comes.after hwrites hhears.quiet.stand (comes_settle t sequel _)
    next => exact .kept hwrites hhears.quiet.stand
  | take =>
    simp only [step]
    split
    next pid line queue hstand hqueue =>
      have htaken : WritesOnly r { r with queue } := writesOnly_of_same rfl rfl rfl rfl
      exact .kept (htaken.trans (writesOnly_persist t line _))
        (quiet_persist t { r with queue } line).stand
    next => exact hsame
  | request control => exact comes_takeRequest t h control r
  | exited status => exact comes_takeExit t status r
  | drainTimeOver =>
    have hhears := hears_giveUp r
    simp only [step, Run.codeAt?]
    split
    next sequel hstand =>
      have hcode : r.stand.code? = sequel.code? := by
        rw [hstand]
        cases sequel <;> rfl
      rw [hcode]
      exact Comes.after (hhears.writesOnly (store_giveUp r)) hhears.quiet.stand
        (comes_settle t sequel _)
    next => exact hsame
  | pauseOver =>
    simp only [step, Run.codeAt?]
    split
    next status hstand =>
      rw [hstand]
      exact comes_endPause t h status r
    next => exact hsame
  | lookDue =>
    simp only [step, Run.codeAt?]
    split
    next status left port hstand hport =>
      rw [hstand]
      exact comes_probePort t h port status left r
    next => exact hsame
  | clock now => cases hown
  | others use => cases hown

/-! ## 3. The beginning, and after the end -/

/-- A run begins with the start of a child, and if there is one with a cleanup of the store. -/
theorem begin_eq (store : Store) (now : Int) (outside : σ) :
    let first := startChild t h false (.blank store now outside)
    ∃ tidied, begin t h store now outside = { first with store := first.store.run tidied }
      ∧ ∀ result, first.stand = .ended result → tidied = [] := by
  intro first
  unfold begin
  dsimp only
  split
  next pid hattends =>
    have hgoing : ∀ result, first.stand ≠ .ended result := fun result hended => by
      rw [show first.stand = .attending pid from hattends] at hended
      cases hended
    unfold cleanUp
    cases t.options.cleanup with
    | none => exact ⟨[], rfl, fun _ _ => rfl⟩
    | some policy =>
      exact ⟨[.cleanup _ policy], rfl, fun result hended => absurd hended (hgoing result)⟩
  next => exact ⟨[], rfl, fun _ _ => rfl⟩

/-- A launch that is over stays so. -/
theorem stand_step_of_ended {result : Except Fault Int} (hended : r.stand = .ended result)
    (m : Move) : (step t h r m).stand = .ended result := by
  cases m with
  | wrote stream octets => exact (quiet_hear r stream octets).stand.trans hended
  | closed stream =>
    have hheard := (quiet_hearEnd r stream).stand.trans hended
    simp only [step, settleIfDraining, hheard]
  | request control => simp only [step, takeRequest, hended]
  | exited status => simp only [step, takeExit, hended]
  | _ => simp only [step, hended]

theorem stand_perform_of_ended {result : Except Fault Int} (hended : r.stand = .ended result)
    (moves : List Move) : (perform t h r moves).stand = .ended result := by
  induction moves generalizing r with
  | nil => exact hended
  | cons m moves ih => exact ih (stand_step_of_ended t h hended m)

end Overseer.Wrapper
