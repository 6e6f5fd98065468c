/-
Overseer.Proofs.Supervisor.Journal — the journal says what the platform was asked.

Laws on whom the supervisor signals read the journal, and the supervisor writes it
itself. `performAll_recorded` says that it writes the truth: a platform that keeps a
record of every question about a process, every signal and every wrapper started ends
with what is in the journal, in the same order, whatever it answers.

Between a note and the question that it announces, and between a question and the note
of its answer, journal and record differ. So the agreement is `Kept` by each question
together with its note, and it is no `Frame`.
-/
import Overseer.Proofs.Supervisor.Exclusive

namespace Overseer.Supervisor

variable {σ α : Type} {p : Platform σ} {settings : Settings}

/-! ## 1. A platform that keeps a record -/

/-- The rest of the world, and what the platform was asked, latest first. -/
structure Recorded (σ : Type) where
  outside : σ
  asked : List Event

/-- Does something and adds to the record, which may depend on the answer. -/
def recording (added : α → List Event) (a : StateM (World σ) α) :
    StateM (World (Recorded σ)) α := fun w =>
  let (x, after) := a.run { w with outside := w.outside.outside }
  (x, { after with outside := ⟨after.outside, added x ++ w.outside.asked⟩ })

/-- The platform with a record of what it was asked that concerns processes. -/
def Platform.recorded (p : Platform σ) : Platform (Recorded σ) where
  isAlive pid := recording (fun alive => [.checked pid alive]) (p.isAlive pid)
  signal pid s := recording (fun _ => [.signalled false pid s]) (p.signal pid s).run
  killTree pid s := recording (fun _ => [.signalled true pid s]) (p.killTree pid s).run
  portIsFree port := recording (fun _ => []) (p.portIsFree port)
  spawn program payload := recording (fun _ => [.launched payload]) (p.spawn program payload).run
  exited? wrapper := recording (fun _ => []) (p.exited? wrapper)
  sleep limit := recording (fun _ => []) (p.sleep limit)
  others := recording (fun _ => []) p.others

/-- The journal is left alone. -/
def SameJournal (w w' : World σ) : Prop := w'.journal = w.journal

/-! ## 2. Journal and record -/

/-- Something that the platform was asked. -/
def Event.isAsked : Event → Bool
  | .delivered _ => false
  | _ => true

/-- The record has what is in the journal. -/
def Agrees (w : World (Recorded σ)) : Prop := w.outside.asked = w.journal.filter Event.isAsked

/-- The record has what is in the journal, but for the last note. -/
def Announced (e : Event) (w : World (Recorded σ)) : Prop :=
  e :: w.outside.asked = w.journal.filter Event.isAsked

theorem note_announces (e : Event) (he : e.isAsked = true) :
    Asks Agrees (note e) fun _ => Announced (σ := σ) e := by
  refine asks_note fun w hw => ?_
  show e :: w.outside.asked = (e :: w.journal).filter Event.isAsked
  rw [List.filter_cons_of_pos he, hw]

section

variable {w : World (Recorded σ)}

theorem agrees_recording {a : StateM (World σ) α}
    (ha : SameJournal { w with outside := w.outside.outside }
      (a.run { w with outside := w.outside.outside }).2)
    (h : Agrees w) : Agrees ((recording (fun _ => []) a).run w).2 := by
  refine h.trans ?_
  exact congrArg (List.filter Event.isAsked) ha.symm

/-- What was announced is asked. -/
theorem agrees_of_announced {e : Event} {a : StateM (World σ) α}
    (ha : SameJournal { w with outside := w.outside.outside }
      (a.run { w with outside := w.outside.outside }).2)
    (h : Announced e w) : Agrees ((recording (fun _ => [e]) a).run w).2 := by
  refine h.trans ?_
  exact congrArg (List.filter Event.isAsked) ha.symm

end

theorem kept_agrees (hp : p.Within SameJournal) :
    Kept p.recorded Agrees (fun _ => True) fun _ => True where
  others w := agrees_recording (hp.others _)
  sleep limit w := agrees_recording (hp.sleep limit _)
  portIsFree port w := agrees_recording (hp.portIsFree port _)
  exited? wrapper w := agrees_recording (hp.exited? wrapper _)
  check pid w h := by
    have hasked : ((p.recorded.isAlive pid).run w).2.outside.asked
        = .checked pid ((p.recorded.isAlive pid).run w).1 :: w.outside.asked := rfl
    have hjournal : ((p.recorded.isAlive pid).run w).2.journal = w.journal := hp.isAlive pid _
    show ((p.recorded.isAlive pid).run w).2.outside.asked = _
    rw [hasked, h, ← hjournal]
    rfl
  killTree pid s _ := (note_announces (.signalled true pid s) rfl).lift.bind fun _ =>
    does_of_forall fun _ hw => agrees_of_announced (hp.killTree pid s _) hw
  signalOne pid s _ := (note_announces (.signalled false pid s) rfl).lift.bind fun _ =>
    does_of_forall fun _ hw => agrees_of_announced (hp.signal pid s _) hw
  write _ _ _ h := h

/-! ## 3. Commands -/

section

variable (hp : p.Within SameJournal) (hspawn : p.SpawnsWithin SameJournal)
include hp hspawn

theorem startWrapper_agrees (service : ResolvedService) (id : Int) (port? : Option Nat) :
    Does Agrees (startWrapper p.recorded settings service id port?) (fun _ => Agrees) Agrees := by
  have hkept := kept_agrees hp
  have hnote : ∀ w : World (Recorded σ), Agrees w → Announced _ _ :=
    fun w hw => note_announces (.launched (payloadFor service id port?)) rfl w hw
  refine (hkept.startsWrapper (G := fun _ => True) ?_ hnote (hkept.markExited fun _ => trivial)
    (fun _ hw _ => hw) ?_ (fun _ => trivial) fun _ _ _ _ => trivial).mono (fun _ hw => hw)
      (fun _ _ hw => hw.1) fun _ hw => hw
  · exact fun w _ hw => agrees_of_announced (hspawn _ _ _) hw
  · intro code next
    refine (hkept.markExited fun _ => trivial).bind fun _ => (hkept.startFault id).bind fun _ => ?_
    exact does_throw_bind fun _ hw => hw

theorem run_agrees (service : ResolvedService) :
    Does Agrees (run p.recorded settings service) (fun _ => Agrees) Agrees := by
  have hkept := kept_agrees hp
  have hreplace (find : Store → Option ProcessRecord) :
      Does Agrees (replace p.recorded settings find) (fun _ => Agrees) Agrees :=
    hkept.replace (fun _ _ _ => trivial) fun _ _ => trivial
  refine (hkept.sweep fun _ _ => trivial).bind fun _ => (hreplace _).bind fun same => ?_
  refine (hreplace _).bind fun alike => ?_
  have hrest (port? : Option Nat) : Does Agrees
      (do
        let now := (← get).now
        let id ← access p.recorded fun s =>
          s.create now service.key service.shell service.directory port?
        let record ← startWrapper p.recorded settings service id port?
        return ⟨record, same ++ alike⟩)
      (fun (_ : RunReport) => Agrees) Agrees := by
    refine Does.bind (does_get (Q := fun _ => Agrees) fun _ hw => hw) fun before => ?_
    refine Does.bind (Q := fun _ => Agrees) (does_access hkept.others ?_ ?_) fun id => ?_
    · exact fun _ _ _ hw _ => hw
    · exact fun _ _ hw _ => hw
    · exact (startWrapper_agrees hp hspawn service id port?).bind fun _ => does_pure fun _ hw => hw
  cases hwants : service.wantsPort with
  | true => exact Does.bind (Does.map (hkept.pickPort service.project)) fun port? => hrest port?
  | false => exact Does.bind (does_pure fun _ hw => hw) fun port? => hrest port?

/-- **The journal says what the platform was asked**, no more and no less and in the same
order: which processes the supervisor looked at and what it saw, which it signalled, and
which wrappers it started. -/
theorem performAll_recorded (settings : Settings) (commands : List Command) (store : Store)
    (now : Int) (outside : σ) :
    let start : World (Recorded σ) := ⟨store, now, [], ⟨outside, []⟩⟩
    let last := ((performAll p.recorded settings commands).run start).2
    last.outside.asked = last.journal.filter Event.isAsked := by
  intro start
  have hall : Asks Agrees (performAll p.recorded settings commands) fun _ => Agrees :=
    (kept_agrees hp).performAll (fun _ _ _ => trivial) (fun _ _ _ => trivial)
      (fun _ _ => trivial) (fun _ _ => trivial) (run_agrees hp hspawn) commands
  exact hall start rfl

end

end Overseer.Supervisor
