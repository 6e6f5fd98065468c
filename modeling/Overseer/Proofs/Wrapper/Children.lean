/-
Overseer.Proofs.Wrapper.Children — the children of a wrapper, one after the other.

Whatever happens to a wrapper and in which order, it has at most one child at a
time, it signals no process but that child, it starts none after it was asked to
shut down, and it leaves none behind (`one_child_at_a_time`). The proof reads the
list of deeds: `Orderly` says that each of them was permitted by those before it.
What keeps a wrapper orderly is `Custody`: the child that it holds is the one that
was started and not reaped, and after a request to shut down it is in a state from
which there is no way to another start.

That the deeds are what the system was really asked, no more and no less, is
`recorded_perform`: a host that writes down every call itself ends with the same list.
-/
import Overseer.Proofs.Wrapper.Turn

namespace Overseer.Wrapper

variable {σ : Type} {t : Task} {h : Host σ} {r r' : Run σ}

/-! ## 1. Deeds in order -/

/-- The children that were started and not reaped yet, by deeds latest first. -/
def unreaped : List Deed → List Nat
  | [] => []
  | .started pid :: earlier => pid :: unreaped earlier
  | .reaped pid :: earlier => (unreaped earlier).erase pid
  | .signalled _ _ :: earlier => unreaped earlier
  | .heard _ :: earlier => unreaped earlier

/-- A deed that earlier ones permit. -/
def Permitted (earlier : List Deed) : Deed → Prop
  | .started _ => unreaped earlier = [] ∧ .heard .shutdown ∉ earlier
  | .reaped pid => unreaped earlier = [pid]
  | .signalled pid _ => unreaped earlier = [pid]
  | .heard _ => True

/-- Every deed was permitted. -/
def Orderly : List Deed → Prop
  | [] => True
  | deed :: earlier => Permitted earlier deed ∧ Orderly earlier

theorem Orderly.permitted {later earlier : List Deed} {deed : Deed}
    (ho : Orderly (later ++ deed :: earlier)) : Permitted earlier deed := by
  induction later with
  | nil => exact ho.1
  | cons d later ih => exact ih ho.2

/-! ## 2. The invariant -/

/-- There is no way from here to the start of another child. -/
def Run.IsClosing (r : Run σ) : Prop :=
  r.state.acceptsShutdown = false ∧ r.stand.isWaiting = false

theorem Rests.isClosing (hrests : Rests r r') (hr : r.IsClosing) : r'.IsClosing := by
  obtain ⟨hstate, hwaiting⟩ := hr
  have hstate' : r'.state.acceptsShutdown = false := by
    rcases hrests.state with hsame | hover
    · rw [hsame]
      exact hstate
    · rw [hover]
      rfl
  refine ⟨hstate', Bool.eq_false_iff.mpr fun hwaits => ?_⟩
  rcases hrests.waits hwaits with hrestarting | hbefore
  · rw [hrestarting] at hstate'
    exact absurd hstate' (by decide)
  · rw [hwaiting] at hbefore
    exact absurd hbefore (by decide)

/-- The wrapper holds the child that it has to answer for, and no other. -/
structure Custody (r : Run σ) : Prop where
  orderly : Orderly r.deeds
  child : unreaped r.deeds = r.stand.child?.toList
  closing : .heard .shutdown ∈ r.deeds → r.IsClosing

theorem Custody.unreaped_of_child (hc : Custody r) {pid : Nat}
    (hchild : r.stand.child? = some pid) : unreaped r.deeds = [pid] := by
  rw [hc.child, hchild]
  rfl

theorem Custody.unreaped_of_childless (hc : Custody r) (hnone : r.stand.child? = none) :
    unreaped r.deeds = [] := by
  rw [hc.child, hnone]
  rfl

theorem custody_of_started {outside : σ} (horderly : Orderly r.deeds)
    (hnone : unreaped r.deeds = []) (hopen : .heard .shutdown ∉ r.deeds)
    (hstarted : Started t h outside r r') : Custody r' := by
  have hstart : ∀ pid, Orderly (.started pid :: r.deeds) := fun pid => ⟨⟨hnone, hopen⟩, horderly⟩
  cases hstarted with
  | failed cause spawn deeds stand =>
    obtain ⟨result, hended⟩ := stand
    refine ⟨by rw [deeds]; exact horderly, by rw [deeds, hended]; exact hnone, ?_⟩
    rw [deeds]
    exact fun hheard => absurd hheard hopen
  | attended pid spawn deeds stand =>
    refine ⟨by rw [deeds]; exact hstart pid, ?_, ?_⟩
    · rw [deeds, stand, unreaped, hnone]
      rfl
    · rw [deeds]
      exact fun hheard => absurd hheard (by simpa using hopen)
  | abandoned pid fault between spawn kill deeds stand =>
    have hchild : unreaped (.started pid :: r.deeds) = [pid] := by rw [unreaped, hnone]
    refine ⟨by rw [deeds]; exact ⟨hchild, hstart pid⟩, ?_, ?_⟩
    · rw [deeds, stand]
      exact hchild
    · rw [deeds]
      exact fun hheard => absurd hheard (by simpa using hopen)

/-- **Every turn keeps the custody.** -/
theorem Custody.turn (hc : Custody r) (hturn : Turn t h r r') : Custody r' := by
  cases hturn with
  | quiet same =>
    obtain ⟨hdeeds, _, hstate, hstand⟩ := same
    refine ⟨by rw [hdeeds]; exact hc.orderly, by rw [hdeeds, hstand]; exact hc.child, ?_⟩
    rw [hdeeds, Run.IsClosing, hstate, hstand]
    exact hc.closing
  | rested childless outside looked rests =>
    have hdeeds : r'.deeds = r.deeds := rests.deeds
    refine ⟨by rw [hdeeds]; exact hc.orderly, ?_, ?_⟩
    · rw [hdeeds, hc.unreaped_of_childless childless, rests.childless]
      rfl
    · rw [hdeeds]
      exact fun hheard => rests.isClosing (hc.closing hheard)
  | reaped pid child rests =>
    have hdeeds : r'.deeds = .reaped pid :: r.deeds := rests.deeds
    have hpid := hc.unreaped_of_child child
    refine ⟨by rw [hdeeds]; exact ⟨hpid, hc.orderly⟩, ?_, ?_⟩
    · rw [hdeeds, unreaped, hpid, rests.childless]
      simp
    · rw [hdeeds]
      intro hheard
      have hbefore : .heard .shutdown ∈ r.deeds := by simpa using hheard
      exact rests.isClosing (hc.closing hbefore)
  | restartHeard same =>
    have hdeeds : r'.deeds = .heard .restart :: r.deeds := same.deeds
    have hstate : r'.state = r.state := same.state
    have hstand : r'.stand = r.stand := same.stand
    refine ⟨by rw [hdeeds]; exact ⟨trivial, hc.orderly⟩, ?_, ?_⟩
    · rw [hdeeds, hstand]
      exact hc.child
    · rw [hdeeds, Run.IsClosing, hstate, hstand]
      exact fun hheard => hc.closing (by simpa using hheard)
  | restartTried pid stand running deeds outside state same =>
    have hpid : unreaped r.deeds = [pid] := hc.unreaped_of_child (by rw [stand]; rfl)
    refine ⟨by rw [deeds]; exact ⟨hpid, trivial, hc.orderly⟩, ?_, ?_⟩
    · rw [deeds, same]
      exact hc.child
    -- A wrapper that was asked to shut down does not try to restart.
    · rw [deeds]
      intro hheard
      have hclosed := (hc.closing (by simpa using hheard)).1
      rw [running] at hclosed
      exact absurd hclosed (by decide)
  | shutdownHeard pid stand deeds outside state same =>
    refine ⟨by rw [deeds]; exact ⟨trivial, hc.orderly⟩, by rw [deeds, same]; exact hc.child, ?_⟩
    exact fun _ => ⟨state, by rw [same, stand]; rfl⟩
  | shutdownTried pid stand deeds outside state same =>
    have hpid : unreaped r.deeds = [pid] := hc.unreaped_of_child (by rw [stand]; rfl)
    refine ⟨by rw [deeds]; exact ⟨hpid, trivial, hc.orderly⟩, ?_, ?_⟩
    · rw [deeds, same]
      exact hc.child
    · exact fun _ => ⟨by rw [state]; rfl, by rw [same, stand]; rfl⟩
  | calledOff waiting deeds outside state stand =>
    obtain ⟨result, hended⟩ := stand
    refine ⟨by rw [deeds]; exact ⟨trivial, hc.orderly⟩, ?_, ?_⟩
    · rw [deeds, unreaped, hc.unreaped_of_childless (Stand.child?_of_isWaiting waiting), hended]
      rfl
    · exact fun _ => ⟨by rw [state]; rfl, by rw [hended]; rfl⟩
  | restarted waiting outside looked started =>
    have hnone := hc.unreaped_of_childless (Stand.child?_of_isWaiting waiting)
    refine custody_of_started hc.orderly hnone ?_ started
    intro hheard
    have hclosed := (hc.closing hheard).2
    rw [waiting] at hclosed
    exact absurd hclosed (by decide)

theorem custody_begin (t : Task) (h : Host σ) (store : Store) (now : Int) (outside : σ) :
    Custody (begin t h store now outside) := by
  obtain ⟨r₀, r₁, hdeeds, hstarted, hquiet⟩ := started_begin t h store now outside
  have hc : Custody r₁ := by
    refine custody_of_started ?_ ?_ ?_ hstarted
    · rw [hdeeds]
      trivial
    · rw [hdeeds]
      rfl
    · rw [hdeeds]
      exact List.not_mem_nil
  exact hc.turn (t := t) (h := h) (.quiet hquiet)

theorem custody_perform (hc : Custody r) (moves : List Move) :
    Custody (perform t h r moves) := by
  induction moves generalizing r with
  | nil => exact hc
  | cons m moves ih => exact ih (hc.turn (turn_step t h r m))

/-! ## 3. What a wrapper does with its children -/

/-- **One child at a time.** In every run, a child was started only when every child
before it was reaped and no request to shut down was heard, a signal was sent only to
the child that was not reaped yet, and a run that is over leaves no child behind. -/
theorem one_child_at_a_time (t : Task) (h : Host σ) (store : Store) (now : Int) (outside : σ)
    (moves : List Move) :
    let r := perform t h (begin t h store now outside) moves
    (∀ later pid earlier, r.deeds = later ++ .started pid :: earlier →
        unreaped earlier = [] ∧ .heard .shutdown ∉ earlier)
      ∧ (∀ later pid signal earlier, r.deeds = later ++ .signalled pid signal :: earlier →
          unreaped earlier = [pid])
      ∧ ∀ result, r.stand = .ended result → unreaped r.deeds = [] := by
  intro r
  obtain ⟨horderly, hchild, _⟩ : Custody r :=
    custody_perform (custody_begin t h store now outside) moves
  refine ⟨?_, ?_, ?_⟩
  · intro later pid earlier hsplit
    rw [hsplit] at horderly
    exact horderly.permitted
  · intro later pid signal earlier hsplit
    rw [hsplit] at horderly
    exact horderly.permitted
  · intro result hended
    rw [hchild, hended]
    rfl

/-- A task with no port and the usual options. -/
def Task.plain : Task where
  payload := ⟨⟨"serve", []⟩, ⟨"/srv"⟩, 1, .empty, none⟩
  key := ⟨"web", ⟨"/srv"⟩⟩
  options := .standard

/-- A host on which nothing fails; it numbers the children through. -/
def Host.obliging : Host Nat where
  spawn _ := fun n => (.ok (n + 1), n + 1)
  killTree _ _ := fun n => (.ok true, n)
  portIsFree _ := fun n => (true, n)

/-- A restart and a shutdown, each followed by the end of the child. -/
theorem one_child_at_a_time_through_restart :
    let ends : List Move := [.exited (.signal .term), .closed .out, .closed .err]
    let moves := [.request .restart] ++ ends ++ [.pauseOver, .request .shutdown] ++ ends
    let r := perform .plain .obliging (begin .plain .obliging .empty 0 7) moves
    let first : List Deed := [.reaped 8, .signalled 8 .term, .heard .restart, .started 8]
    r.deeds = .reaped 9 :: .signalled 9 .term :: .heard .shutdown :: .started 9 :: first
      ∧ (unreaped first = [] ∧ .heard .shutdown ∉ first)
      ∧ unreaped (.heard .shutdown :: .started 9 :: first) = [9]
      ∧ unreaped r.deeds = [] := by
  intro ends moves r first
  obtain ⟨hstarts, hsignals, hend⟩ := one_child_at_a_time .plain .obliging .empty 0 7 moves
  have hdeeds : r.deeds
      = .reaped 9 :: .signalled 9 .term :: .heard .shutdown :: .started 9 :: first := by
    decide +kernel
  have hended : r.stand = .ended (.ok 143) := by rfl
  refine ⟨hdeeds, ?_, ?_, ?_⟩
  · exact hstarts [.reaped 9, .signalled 9 .term, .heard .shutdown] 9 first hdeeds
  · exact hsignals [.reaped 9] 9 .term _ hdeeds
  · exact hend (.ok 143) hended

/-! ## 4. Deeds and the system -/

/-- A deed for which the system was asked. -/
def Deed.isAsked : Deed → Bool
  | .started _ | .signalled _ _ => true
  | .reaped _ | .heard _ => false

/-- A host that answers like another one and writes down every child that it
starts and every signal that it is to send, latest first. -/
def Host.recording (h : Host σ) : Host (σ × List Deed) where
  spawn order := fun (outside, asked) =>
    match h.spawn order outside with
    | (.ok pid, outside) => (.ok pid, outside, .started pid :: asked)
    | (.error cause, outside) => (.error cause, outside, asked)
  killTree pid signal := fun (outside, asked) =>
    let (answer, outside) := h.killTree pid signal outside
    (answer, outside, .signalled pid signal :: asked)
  portIsFree port := fun (outside, asked) =>
    let (free, outside) := h.portIsFree port outside
    (free, outside, asked)

theorem recording_spawn (h : Host σ) (order : Order) (outside : σ × List Deed) :
    (∃ pid, (h.recording.spawn order outside).1 = .ok pid
        ∧ (h.recording.spawn order outside).2.2 = .started pid :: outside.2)
      ∨ ∃ cause, (h.recording.spawn order outside).1 = .error cause
        ∧ (h.recording.spawn order outside).2.2 = outside.2 := by
  rcases hspawn : h.spawn order outside.1 with ⟨cause | pid, outside'⟩
  · exact Or.inr ⟨cause, by simp [Host.recording, hspawn]⟩
  · exact Or.inl ⟨pid, by simp [Host.recording, hspawn]⟩

theorem recording_killTree (h : Host σ) (pid : Nat) (signal : Signal) (outside : σ × List Deed) :
    (h.recording.killTree pid signal outside).2.2 = .signalled pid signal :: outside.2 := rfl

theorem recording_portIsFree (h : Host σ) (port : Nat) (outside : σ × List Deed) :
    (h.recording.portIsFree port outside).2.2 = outside.2 := rfl

/-- What the system was asked is what the wrapper did. -/
def Recorded (r : Run (σ × List Deed)) : Prop := r.outside.2 = r.deeds.filter Deed.isAsked

theorem Looked.asked_eq {outside outside' : σ × List Deed}
    (hlooked : Looked h.recording outside outside') : outside'.2 = outside.2 := by
  rcases hlooked with rfl | ⟨port, rfl⟩
  · rfl
  · exact recording_portIsFree h port outside

theorem recorded_of_started {outside : σ × List Deed} {r r' : Run (σ × List Deed)}
    (hasked : outside.2 = r.deeds.filter Deed.isAsked)
    (hstarted : Started t h.recording outside r r') : Recorded r' := by
  have hspawn := recording_spawn h t.order outside
  unfold Recorded
  cases hstarted with
  | failed cause spawn deeds stand =>
    rw [spawn] at hspawn
    obtain ⟨pid, hok, _⟩ | ⟨_, _, hsame⟩ := hspawn
    · cases hok
    · rw [deeds, ← hasked]
      exact hsame
  | attended pid spawn deeds stand =>
    rw [spawn] at hspawn
    obtain ⟨_, hok, hmore⟩ | ⟨cause, herror, _⟩ := hspawn
    · cases hok
      simp only [deeds, Deed.isAsked, List.filter_cons, ← hasked]
      exact hmore
    · cases herror
  | abandoned pid fault between spawn kill deeds stand =>
    rw [spawn] at hspawn
    obtain ⟨_, hok, hmore⟩ | ⟨cause, herror, _⟩ := hspawn
    · cases hok
      have hkill := recording_killTree h pid .kill between
      simp only [deeds, Deed.isAsked, List.filter_cons, ← hasked]
      rw [kill, hkill]
      exact congrArg _ hmore
    · cases herror

theorem Recorded.turn {r r' : Run (σ × List Deed)} (hr : Recorded r)
    (hturn : Turn t h.recording r r') : Recorded r' := by
  have hr : r.outside.2 = r.deeds.filter Deed.isAsked := hr
  cases hturn with
  | quiet same =>
    rw [Recorded, same.outside, same.deeds]
    exact hr
  | rested childless outside looked rests =>
    rw [Recorded, rests.outside, rests.deeds]
    exact looked.asked_eq.trans hr
  | reaped pid child rests =>
    rw [Recorded, rests.outside, rests.deeds]
    exact hr
  | restartHeard same =>
    rw [Recorded, same.outside, same.deeds]
    exact hr
  | restartTried pid stand running deeds outside state same =>
    rw [Recorded, outside, deeds, recording_killTree, hr]
    rfl
  | shutdownHeard pid stand deeds outside state same =>
    rw [Recorded, outside, deeds]
    exact hr
  | shutdownTried pid stand deeds outside state same =>
    rw [Recorded, outside, deeds, recording_killTree, hr]
    rfl
  | calledOff waiting deeds outside state stand =>
    rw [Recorded, outside, deeds]
    exact hr
  | restarted waiting outside looked started =>
    exact recorded_of_started (looked.asked_eq.trans hr) started

/-- **The deeds are what the system was asked**, in the same order. -/
theorem recorded_perform (t : Task) (h : Host σ) (store : Store) (now : Int) (outside : σ)
    (moves : List Move) :
    Recorded (perform t h.recording (begin t h.recording store now (outside, [])) moves) := by
  have hbegin : Recorded (begin t h.recording store now (outside, [])) := by
    obtain ⟨r₀, r₁, hdeeds, hstarted, hquiet⟩ :=
      started_begin t h.recording store now (outside, [])
    have hr : Recorded r₁ := recorded_of_started (by rw [hdeeds]; rfl) hstarted
    exact hr.turn (t := t) (h := h) (.quiet hquiet)
  generalize begin t h.recording store now (outside, []) = r at hbegin
  induction moves generalizing r with
  | nil => exact hbegin
  | cons m moves ih => exact ih _ (hbegin.turn (turn_step t h.recording r m))

end Overseer.Wrapper
