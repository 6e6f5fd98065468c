/-
Overseer.Proofs.Supervisor.Forcing — ending everything, launch by launch.

`killAll_sorts_running`: when nobody else acts, ending everything does not fail.
Each launch that ran is dealt with, in the order of numbers and whatever came of
those before it, and the report names it once: as killed, as dead already, or as
one for which a signal was refused. The store says the same of it, and all else
in the store is as it was.

`Forcing` lists what is asked and signalled for one launch, up to the pause and
from the pause on. A `Dealt` is the part of one launch in the whole, and the
whole is the fold of these parts over the ledger (`forceEach_ledger`). What has
become of the rows is read off the fold, since each part marks its own launch.

Pauses are not in the journal. A platform that counts them keeps each with the
journal of its moment, so that a pause has a place among the events.
-/
import Overseer.Proofs.Supervisor.Killing

namespace Overseer.Supervisor

open Store (Numbered Operation find?_of_inOrder numbered_run)

variable {σ : Type} {p : Platform σ} {settings : Settings} {refused : σ → List Fault}
  {pauses : σ → List (Nat × List Event)} {l : Ledger} {r : ProcessRecord}
  {E : Fault → World σ → Prop}

/-! ## 1. Looking at the processes of a launch -/

/-- Processes were asked about, with these answers. -/
def sights (seen : List (Nat × Bool)) : List Event := seen.map fun look => .checked look.1 look.2

/-- Those that were seen alive. -/
def living (seen : List (Nat × Bool)) : List Nat := (seen.filter (·.2)).map (·.1)

/-- One of them was seen alive. -/
def SeenAlive (seen : List (Nat × Bool)) : Prop := ∃ look ∈ seen, look.2 = true

theorem sights_append (seen later : List (Nat × Bool)) :
    sights (seen ++ later) = sights seen ++ sights later := List.map_append

theorem seenAlive_append {seen later : List (Nat × Bool)} :
    SeenAlive (seen ++ later) ↔ SeenAlive seen ∨ SeenAlive later := by
  simp [SeenAlive, or_and_right, exists_or]

section

variable (hp : p.ActsAlone refused)
include hp

theorem survivors_ledger (pids : List Nat) :
    Asks (Shows refused l) (survivors p pids) fun left w =>
      ∃ seen, (seen.map Prod.fst = pids ∧ left = living seen)
        ∧ Shows refused (l.noting (sights seen)) w := by
  induction pids generalizing l with
  | nil => exact asks_pure fun w hw => ⟨[], ⟨rfl, rfl⟩, hw⟩
  | cons pid rest ih =>
    refine (check_ledger hp pid).bind fun alive => ih.bind fun others => ?_
    refine asks_exists fun seen => asks_and fun ⟨hpids, hleft⟩ => asks_pure fun w hw => ?_
    rw [Ledger.noting_noting] at hw
    refine ⟨(pid, alive) :: seen, ⟨by rw [List.map_cons, hpids], ?_⟩, hw⟩
    cases alive <;> simp [living, hleft]

theorem checkSome_sights (pid? : Option Nat) :
    Asks (Shows refused l) (checkSome p pid?) fun alive w =>
      ∃ seen, (seen.map Prod.fst = pid?.toList ∧ (alive = true ↔ SeenAlive seen))
        ∧ Shows refused (l.noting (sights seen)) w := by
  rcases pid? with _ | pid
  · exact asks_pure fun w hw => ⟨[], ⟨rfl, by simp [SeenAlive]⟩, hw⟩
  · refine (check_ledger hp pid).mono (fun _ hw => hw) fun alive w hw => ?_
    exact ⟨[(pid, alive)], ⟨rfl, by simp [SeenAlive]⟩, hw⟩

/-- A launch is asked about child first. It is alive if a process of it is seen
alive, and otherwise only if it has no process yet. -/
theorem isRecordAlive_sights (r : ProcessRecord) :
    Asks (Shows refused l) (isRecordAlive p settings r) fun alive w =>
      ∃ seen, (seen.map Prod.fst = pidsToForce r ∧ (SeenAlive seen → alive = true)
          ∧ (alive = true → SeenAlive seen ∨ pidsToForce r = []))
        ∧ Shows refused (l.noting (sights seen)) w := by
  refine (checkSome_sights hp r.childPid?).bind fun child => asks_exists fun first => ?_
  refine asks_and fun ⟨hfirst, hchild⟩ => ?_
  refine (checkSome_sights hp r.wrapperPid).bind fun wrapper => asks_exists fun second => ?_
  refine asks_and fun ⟨hsecond, hwrapper⟩ => ?_
  refine (asks_get (Q := fun _ => Shows refused ((l.noting (sights first)).noting (sights second)))
    fun _ hw => hw).bind fun v => asks_pure fun w hw => ?_
  rw [Ledger.noting_noting, ← sights_append] at hw
  refine ⟨first ++ second, ⟨by rw [List.map_append, hfirst, hsecond]; rfl, ?_, ?_⟩, hw⟩
  · intro hseen
    rw [seenAlive_append, ← hchild, ← hwrapper] at hseen
    rcases hseen with rfl | rfl <;> simp
  · intro halive
    rw [seenAlive_append, ← hchild, ← hwrapper]
    simp only [Bool.or_eq_true] at halive
    refine halive.imp_right fun hstarting => ?_
    simp only [isLaunching, Bool.and_eq_true, beq_iff_eq, Option.isNone_iff_eq_none] at hstarting
    simp [pidsToForce, ProcessRecord.childPid?, hstarting.1.1, hstarting.1.2]

end

/-! ## 2. What is done about one launch -/

/-- What comes of one launch, and when it was marked if it was. -/
inductive Fate where
  | killed (now : Int)
  | alreadyDead (now : Int)
  | failed (fault : Fault)

/-- What whoever forces the launch is told. -/
def Fate.outcome : Fate → Except Fault Bool
  | .killed _ => .ok true
  | .alreadyDead _ => .ok false
  | .failed fault => .error fault

/-- The store in which the launch has met its fate. -/
def Fate.mark (id : Int) (s : Store) : Fate → Store
  | .killed now => (s.markExited now id killedCode).2
  | .alreadyDead now => (s.markExited now id Store.foundDead).2
  | .failed _ => s

/-- What is asked and signalled for a launch, up to the pause and from the pause
on. Only who was seen alive after the pause is forced. -/
inductive Forcing (r : ProcessRecord) : Fate → List Event → List Event → Prop where
  | alreadyDead (now : Int) (first : List (Nat × Bool))
      (every : first.map Prod.fst = pidsToForce r) (dead : ¬ SeenAlive first) :
    Forcing r (.alreadyDead now) (sights first) []
  | killed (now : Int) (first later : List (Nat × Bool))
      (every : first.map Prod.fst = pidsToForce r)
      (going : SeenAlive first ∨ pidsToForce r = [])
      (again : later.map Prod.fst = pidsToForce r) :
    Forcing r (.killed now) (sights first ++ signals .term (pidsToForce r))
      (sights later ++ signals .kill (living later))
  | refused (fault : Fault) (first : List (Nat × Bool)) (before : List Nat) (pid : Nat)
      (rest : List Nat) (every : first.map Prod.fst = pidsToForce r) (going : SeenAlive first)
      (split : pidsToForce r = before ++ pid :: rest) :
    Forcing r (.failed fault) (sights first ++ signals .term (before ++ [pid])) []
  | forceRefused (fault : Fault) (first later : List (Nat × Bool)) (before : List Nat)
      (pid : Nat) (rest : List Nat) (every : first.map Prod.fst = pidsToForce r)
      (going : SeenAlive first) (again : later.map Prod.fst = pidsToForce r)
      (split : living later = before ++ pid :: rest) :
    Forcing r (.failed fault) (sights first ++ signals .term (pidsToForce r))
      (sights later ++ signals .kill (before ++ [pid]))

/-- The part of one launch in ending everything. -/
structure Dealt where
  record : ProcessRecord
  fate : Fate
  asked : List Event
  forced : List Event

/-- The ledger when the launch has been dealt with. -/
def Dealt.enter (l : Ledger) (d : Dealt) : Ledger where
  store := d.fate.mark d.record.id l.store
  journal := (d.asked ++ d.forced).reverse ++ l.journal
  refused := match d.fate with
    | .failed fault => fault :: l.refused
    | _ => l.refused

/-! ## 3. Pauses -/

/-- The platform counts its pauses: how long each was, and the journal then. -/
structure Platform.CountsPauses (p : Platform σ) (pauses : σ → List (Nat × List Event)) :
    Prop where
  slept : ∀ limit w, (limit, w.journal) ∈ pauses ((p.sleep limit).run w).2.outside
  kept : p.Within fun w w' => ∀ x ∈ pauses w.outside, x ∈ pauses w'.outside

/-- A pause of this length was made when the ledger was this one. -/
def PausedAt (pauses : σ → List (Nat × List Event)) (limit : Nat) (l : Ledger) (w : World σ) :
    Prop :=
  (limit, l.journal) ∈ pauses w.outside

/-- A pause that was made stays made. -/
theorem frame_paused (hq : p.CountsPauses pauses) (limit : Nat) (l : Ledger) :
    Frame p (PausedAt pauses limit l) (fun _ => True) fun _ => True where
  platform := hq.kept.mono fun _ _ hkept => hkept _
  checked _ _ := trivial
  note _ _ _ h := h
  write _ _ _ h := h

/-- A launch has been dealt with, and nothing was done after a pause without that pause. -/
def HasDealt (refused : σ → List Fault) (pauses : σ → List (Nat × List Event))
    (settings : Settings) (r : ProcessRecord) (l : Ledger) (outcome : Except Fault Bool)
    (w : World σ) : Prop :=
  ∃ d : Dealt, d.record = r ∧ d.fate.outcome = outcome
    ∧ Forcing d.record d.fate d.asked d.forced ∧ Shows refused (d.enter l) w
    ∧ (d.forced ≠ [] → PausedAt pauses settings.killAllGrace (l.noting d.asked) w)

/-- All launches of a list have been dealt with, one after the other. -/
structure AllDealt (refused : σ → List Fault) (pauses : σ → List (Nat × List Event))
    (settings : Settings) (records : List ProcessRecord) (l : Ledger) (dealt : List Dealt)
    (w : World σ) : Prop where
  each : dealt.map (·.record) = records
  course : ∀ d ∈ dealt, Forcing d.record d.fate d.asked d.forced
  ledger : Shows refused (dealt.foldl Dealt.enter l) w
  paused : ∀ before d later, dealt = before ++ d :: later → d.forced ≠ [] →
    PausedAt pauses settings.killAllGrace ((before.foldl Dealt.enter l).noting d.asked) w

/-- What became of launches that have been dealt with. -/
def bucketsOf (dealt : List Dealt) : KillBuckets where
  killed := dealt.filterMap fun d => match d.fate with
    | .killed _ => some d.record
    | _ => none
  failed := dealt.filterMap fun d => match d.fate with
    | .failed fault => some ⟨d.record, fault⟩
    | _ => none
  alreadyDead := dealt.filterMap fun d => match d.fate with
    | .alreadyDead _ => some d.record
    | _ => none

/-- The report on launches that have been dealt with. -/
def reportOn (dealt : List Dealt) : KillAllReport where
  toKillBuckets := bucketsOf dealt
  summary := ⟨dealt.length, (bucketsOf dealt).killed.length, (bucketsOf dealt).failed.length,
    (bucketsOf dealt).alreadyDead.length⟩
  message? := if dealt.isEmpty then some nothingToKill else none

/-- The buckets with one more launch, at the head of the one it belongs in. -/
def KillBuckets.adding (buckets : KillBuckets) (r : ProcessRecord) : Fate → KillBuckets
  | .killed _ => { buckets with killed := r :: buckets.killed }
  | .alreadyDead _ => { buckets with alreadyDead := r :: buckets.alreadyDead }
  | .failed fault => { buckets with failed := ⟨r, fault⟩ :: buckets.failed }

theorem bucketsOf_cons (d : Dealt) (dealt : List Dealt) :
    bucketsOf (d :: dealt) = (bucketsOf dealt).adding d.record d.fate := by
  obtain ⟨record, fate, asked, forced⟩ := d
  cases fate <;> rfl

theorem AllDealt.nil {w : World σ} (hw : Shows refused l w) :
    AllDealt refused pauses settings [] l [] w where
  each := rfl
  course := by simp
  ledger := hw
  paused := by simp

/-- The launch that is dealt with first, and then the others. -/
theorem AllDealt.cons {d : Dealt} {dealt : List Dealt} {records : List ProcessRecord} {w : World σ}
    (hforcing : Forcing d.record d.fate d.asked d.forced)
    (hpause : d.forced ≠ [] → PausedAt pauses settings.killAllGrace (l.noting d.asked) w)
    (h : AllDealt refused pauses settings records (d.enter l) dealt w) :
    AllDealt refused pauses settings (d.record :: records) l (d :: dealt) w where
  each := by rw [List.map_cons, h.each]
  course := List.forall_mem_cons.mpr ⟨hforcing, h.course⟩
  ledger := h.ledger
  paused := by
    rintro (_ | ⟨first, before⟩) other later hsplit
    · obtain ⟨rfl, _⟩ := List.cons.inj hsplit
      exact hpause
    · obtain ⟨rfl, hrest⟩ := List.cons.inj hsplit
      exact h.paused before other later hrest

/-- If there were any, the numbers of the report are the number of launches and
the lengths of the buckets, and there is nothing more to say. -/
theorem AllDealt.report {r : ProcessRecord} {records : List ProcessRecord} {dealt : List Dealt}
    {w : World σ} (h : AllDealt refused pauses settings (r :: records) l dealt w) :
    { toKillBuckets := bucketsOf dealt
      summary := ⟨(r :: records).length, (bucketsOf dealt).killed.length,
        (bucketsOf dealt).failed.length, (bucketsOf dealt).alreadyDead.length⟩ }
      = reportOn dealt := by
  obtain _ | ⟨d, dealt⟩ := dealt
  · exact absurd h.each (by simp)
  · simp [reportOn, ← h.each]

/-! ## 4. Forcing -/

section

variable (hp : p.ActsAlone refused)
include hp

/-- A launch that is marked in the end has been dealt with. -/
theorem mark_dealt (hq : p.CountsPauses pauses) {l : Ledger} {code : Int} {answer : Bool}
    {asked forced : List Event} {fate : Int → Fate}
    (hfate : ∀ now, (fate now).outcome = .ok answer ∧ Forcing r (fate now) asked forced
      ∧ Dealt.enter l ⟨r, fate now, asked, forced⟩
        = (l.noting (asked ++ forced)).storing (l.store.markExited now r.id code).2) :
    Tries (fun w => Shows refused (l.noting (asked ++ forced)) w
        ∧ (forced ≠ [] → PausedAt pauses settings.killAllGrace (l.noting asked) w))
      (markExited p r.id code >>= fun _ => pure answer)
      (fun x => HasDealt refused pauses settings r l (.ok x))
      fun f => HasDealt refused pauses settings r l (.error f) := by
  have hpaused := (frame_paused hq settings.killAllGrace (l.noting asked)).given (forced ≠ [])
  have hmark := (markExited_ledger (l := l.noting (asked ++ forced)) (E := fun _ _ => False)
    hp r.id code).keeping (hpaused.markExited fun _ => trivial)
  refine (hmark.mono (fun _ _ hw => hw) fun _ _ hw => hw.1.elim).bind fun _ => tries_pure ?_
  rintro w ⟨⟨now, hshows⟩, hpause⟩
  obtain ⟨houtcome, hforcing, henter⟩ := hfate now
  exact ⟨⟨r, fate now, asked, forced⟩, rfl, houtcome, hforcing, henter ▸ hshows, hpause⟩

theorem sleep_paused (hq : p.CountsPauses pauses) (limit : Nat) :
    Asks (Shows refused l) (p.sleep limit)
      fun _ w => Shows refused l w ∧ PausedAt pauses limit l w := by
  rintro w rfl
  exact ⟨hp.sleep limit w, hq.slept limit w⟩

/-- Who was seen alive after the pause is forced, and the launch is marked. -/
theorem forceLeft_ledger (hq : p.CountsPauses pauses) {first : List (Nat × Bool)}
    (hfirst : first.map Prod.fst = pidsToForce r)
    (hgoing : SeenAlive first ∨ pidsToForce r = []) :
    Tries (fun w => Shows refused (l.noting (sights first ++ signals .term (pidsToForce r))) w
        ∧ PausedAt pauses settings.killAllGrace
          (l.noting (sights first ++ signals .term (pidsToForce r))) w)
      (do
        let left ← survivors p (pidsToForce r)
        unless left.isEmpty do
          killTrees p .kill left
          p.sleep settings.killAllGrace
        let _ ← markExited p r.id killedCode
        return true)
      (fun x => HasDealt refused pauses settings r l (.ok x))
      fun f => HasDealt refused pauses settings r l (.error f) := by
  generalize hasked : sights first ++ signals .term (pidsToForce r) = asked
  have hpaused := frame_paused hq settings.killAllGrace (l.noting asked)
  have hlook : Asks (fun w => Shows refused (l.noting asked) w
        ∧ PausedAt pauses settings.killAllGrace (l.noting asked) w)
      (survivors p (pidsToForce r))
      fun left w => ∃ later, (later.map Prod.fst = pidsToForce r ∧ left = living later)
        ∧ Shows refused (l.noting (asked ++ sights later)) w
        ∧ PausedAt pauses settings.killAllGrace (l.noting asked) w := by
    refine Asks.mono ((survivors_ledger hp (pidsToForce r)).keeping
      (hpaused.survivors (pidsToForce r))) (fun _ hw => hw) ?_
    rintro left w ⟨⟨later, hlater, hw⟩, hpause⟩
    exact ⟨later, hlater, Ledger.noting_noting l asked _ ▸ hw, hpause⟩
  refine hlook.tries.bind fun left => ?_
  refine tries_exists fun later => tries_and fun ⟨hlater, hliving⟩ => ?_
  subst hliving
  have hmark : Tries (fun w =>
        Shows refused (l.noting (asked ++ (sights later ++ signals .kill (living later)))) w
          ∧ PausedAt pauses settings.killAllGrace (l.noting asked) w)
      (markExited p r.id killedCode >>= fun _ => pure true)
      (fun x => HasDealt refused pauses settings r l (.ok x))
      fun f => HasDealt refused pauses settings r l (.error f) := by
    have hforcing (now : Int) : Forcing r (.killed now) asked
        (sights later ++ signals .kill (living later)) :=
      hasked ▸ .killed now first later hfirst hgoing hlater
    exact fun w hw => mark_dealt hp hq (fun now => ⟨rfl, hforcing now, rfl⟩) w
      ⟨hw.1, fun _ => hw.2⟩
  cases hleft : living later with
  | nil =>
    rw [hleft] at hmark
    simpa [signals] using hmark
  | cons pid rest =>
    rw [← hleft]
    have hkill : Tries (fun w => Shows refused (l.noting (asked ++ sights later)) w
          ∧ PausedAt pauses settings.killAllGrace (l.noting asked) w)
        (killTrees p .kill (living later))
        (fun _ w =>
          Shows refused (l.noting (asked ++ (sights later ++ signals .kill (living later)))) w
            ∧ PausedAt pauses settings.killAllGrace (l.noting asked) w)
        fun f => HasDealt refused pauses settings r l (.error f) := by
      refine ((killTrees_ledger hp .kill (living later)).keeping
        (hpaused.killTrees fun _ _ => trivial)).mono (fun _ w hw => ?_) ?_
      · rwa [Ledger.noting_noting, List.append_assoc] at hw
      · rintro f w ⟨⟨before, last, after, hsplit, hw⟩, hpause⟩
        have halive : SeenAlive first := hgoing.resolve_right fun hnone => by
          rw [hnone, List.map_eq_nil_iff] at hlater
          simp [hlater, living] at hleft
        refine ⟨⟨r, .failed f, asked, sights later ++ signals .kill (before ++ [last])⟩, rfl, rfl,
          ?_, ?_, fun _ => hpause⟩
        · exact hasked ▸ .forceRefused f first later before last after hfirst halive hlater hsplit
        · simpa [Dealt.enter, Ledger.noting, Ledger.refusing, Fate.mark] using hw
    have hpass : Tries (fun w =>
          Shows refused (l.noting (asked ++ (sights later ++ signals .kill (living later)))) w
            ∧ PausedAt pauses settings.killAllGrace (l.noting asked) w)
        (liftM (p.sleep settings.killAllGrace) : Act σ Unit)
        (fun _ w =>
          Shows refused (l.noting (asked ++ (sights later ++ signals .kill (living later)))) w
            ∧ PausedAt pauses settings.killAllGrace (l.noting asked) w)
        fun f => HasDealt refused pauses settings r l (.error f) := by
      refine Asks.tries (Asks.keeping (fun w hw => ?_) (hpaused.sleep settings.killAllGrace))
      exact (hp.sleep settings.killAllGrace w).trans hw
    rw [show (living later).isEmpty = false by rw [hleft]; rfl]
    simpa using hkill.bind fun _ => hpass.bind fun _ => hmark

theorem forceStop_ledger (hq : p.CountsPauses pauses) (r : ProcessRecord) :
    Tries (Shows refused l) (forceStop p settings r)
      (fun x => HasDealt refused pauses settings r l (.ok x))
      fun f => HasDealt refused pauses settings r l (.error f) := by
  refine (isRecordAlive_sights hp r).tries.bind fun alive => ?_
  refine tries_exists fun first => tries_and fun ⟨hfirst, hseen, hgoing⟩ => ?_
  cases alive with
  | false =>
    have hdead : ¬ SeenAlive first := fun h => by simpa using hseen h
    have hforcing (now : Int) : Forcing r (.alreadyDead now) (sights first) [] :=
      .alreadyDead now first hfirst hdead
    refine fun w hw => mark_dealt hp hq (fun now => ⟨rfl, hforcing now, rfl⟩) w
      ⟨?_, fun h => absurd rfl h⟩
    rwa [List.append_nil]
  | true =>
    replace hgoing := hgoing rfl
    have hterm : Tries (Shows refused (l.noting (sights first)))
        (killTrees p .term (pidsToForce r))
        (fun _ => Shows refused (l.noting (sights first ++ signals .term (pidsToForce r))))
        fun f => HasDealt refused pauses settings r l (.error f) := by
      refine (killTrees_ledger hp .term (pidsToForce r)).mono (fun _ w hw => ?_) ?_
      · rwa [Ledger.noting_noting] at hw
      · rintro f w ⟨before, pid, rest, hsplit, hw⟩
        -- A process that is signalled at all is one that the launch has.
        have halive : SeenAlive first := hgoing.resolve_right fun hnone => by
          simp [hnone] at hsplit
        rw [Ledger.noting_noting] at hw
        refine ⟨⟨r, .failed f, sights first ++ signals .term (before ++ [pid]), []⟩, rfl, rfl,
          .refused f first before pid rest hfirst halive hsplit, ?_, fun h => absurd rfl h⟩
        simpa [Dealt.enter, Ledger.noting, Ledger.refusing, Fate.mark] using hw
    refine hterm.bind fun _ => (sleep_paused hp hq settings.killAllGrace).tries.bind fun _ => ?_
    exact forceLeft_ledger hp hq hfirst hgoing

/-- Each launch of a list is dealt with, whatever came of those before it. -/
theorem forceEach_ledger (hq : p.CountsPauses pauses) (records : List ProcessRecord) :
    Tries (Shows refused l) (forceEach p settings records)
      (fun buckets w => ∃ dealt, buckets = bucketsOf dealt
        ∧ AllDealt refused pauses settings records l dealt w) E := by
  induction records generalizing l with
  | nil =>
    exact tries_pure fun w hw => ⟨[], rfl, AllDealt.nil hw⟩
  | cons r rest ih =>
    refine (forceStop_ledger hp hq r).attempt.bind fun outcome => ?_
    refine tries_exists fun d => ?_
    refine tries_and fun hrecord => tries_and fun houtcome => tries_and fun hforcing => ?_
    subst hrecord houtcome
    have hpaused := (frame_paused hq settings.killAllGrace (l.noting d.asked)).given (d.forced ≠ [])
    refine (((ih (l := d.enter l)).keeping
      (hpaused.forceEach (fun _ _ _ => trivial) fun _ _ _ => trivial)).mono
        (fun _ _ hw => hw) fun _ _ hw => hw.1).bind fun buckets => ?_
    obtain ⟨record, fate, asked, forced⟩ := d
    have hdone : Tries (fun w => (∃ dealt, buckets = bucketsOf dealt
          ∧ AllDealt refused pauses settings rest (Dealt.enter l ⟨record, fate, asked, forced⟩)
            dealt w)
          ∧ (forced ≠ [] → PausedAt pauses settings.killAllGrace (l.noting asked) w))
        (pure (buckets.adding record fate) : Act σ KillBuckets)
        (fun buckets w => ∃ dealt, buckets = bucketsOf dealt
          ∧ AllDealt refused pauses settings (record :: rest) l dealt w) E := by
      refine tries_pure ?_
      rintro w ⟨⟨dealt, rfl, hdealt⟩, hpause⟩
      exact ⟨_, (bucketsOf_cons ⟨record, fate, asked, forced⟩ dealt).symm,
        hdealt.cons hforcing hpause⟩
    cases fate with
    | killed now => exact hdone
    | alreadyDead now => exact hdone
    | failed fault => exact hdone

end

/-! ## 5. What becomes of the launches -/

/-- The record of a launch that has met its fate. -/
def Fate.record (r : ProcessRecord) : Fate → ProcessRecord
  | .killed now => { r with running := false, finish := some now, exitCode := some killedCode }
  | .alreadyDead now =>
    { r with running := false, finish := some now, exitCode := some Store.foundDead }
  | .failed _ => r

/-- The launches that were dealt with have met their fates, and all else in the
store is as it was. -/
structure HaveMet (s s' : Store) (dealt : List Dealt) : Prop where
  met : ∀ d ∈ dealt, s'.launch? d.record.id = some (d.fate.record d.record)
  others : s'.launches.filter (fun r => decide (r.id ∉ dealt.map (·.record.id)))
    = s.launches.filter fun r => decide (r.id ∉ dealt.map (·.record.id))
  rest : s' = { s with launches := s'.launches }

/-- A launch that ran meets its fate as it is dealt with. -/
theorem haveMet_mark {s : Store} (hs : Numbered s) {d : Dealt}
    (hran : ∃ row ∈ s.launches, row.isActive = true ∧ row.record = d.record) :
    HaveMet s (d.fate.mark d.record.id s) [d]
      ∧ Numbered (d.fate.mark d.record.id s) := by
  obtain ⟨row, hrow, hactive, hrecord⟩ := hran
  have hid : row.id = d.record.id := congrArg ProcessRecord.id hrecord
  have hother : (fun r : LaunchRow => decide (r.id ∉ [d].map (·.record.id)))
      = fun r => r.id != d.record.id := by
    funext r
    simp [bne, Bool.beq_eq_decide_eq]
  have hmark (now code : Int)
      (hfate : d.fate.record d.record
        = { d.record with running := false, finish := some now, exitCode := some code })
      (hfits : Word.wrap 32 code = code) :
      HaveMet s (s.markExited now d.record.id code).2 [d] := by
    refine ⟨List.forall_mem_singleton.mpr ?_, ?_, Store.markExited_rest s now _ code⟩
    · rw [hfate, ← hid, Store.launch?_markExited hs.order hrow hactive, hrecord, hfits]
    · rw [hother]
      exact Store.filter_markExited_others s now d.record.id code
  obtain ⟨record, fate, asked, forced⟩ := d
  cases fate with
  | killed now =>
    exact ⟨hmark now killedCode rfl (by decide),
      numbered_run hs [.markExited now record.id killedCode]⟩
  | alreadyDead now =>
    exact ⟨hmark now Store.foundDead rfl (by decide),
      numbered_run hs [.markExited now record.id Store.foundDead]⟩
  | failed fault =>
    refine ⟨⟨List.forall_mem_singleton.mpr ?_, rfl, rfl⟩, hs⟩
    show s.launch? record.id = some record
    rw [← hid, Store.launch?, find?_of_inOrder hs.order hrow, Option.map_some, hrecord]

theorem HaveMet.cons {s s' s'' : Store} {d : Dealt} {dealt : List Dealt} (h : HaveMet s s' [d])
    (hlater : HaveMet s' s'' dealt) (hnew : d.record.id ∉ dealt.map (·.record.id)) :
    HaveMet s s'' (d :: dealt) := by
  refine ⟨List.forall_mem_cons.mpr ⟨?_, hlater.met⟩, ?_, ?_⟩
  · refine (Store.launch?_of_filter hlater.others fun r hr => ?_).trans
      (h.met d (List.mem_singleton_self d))
    exact decide_eq_true (hr ▸ hnew)
  · have hboth (rows : List LaunchRow) :
        rows.filter (fun r => decide (r.id ∉ (d :: dealt).map (·.record.id)))
          = (rows.filter fun r => decide (r.id ∉ dealt.map (·.record.id))).filter
            fun r => decide (r.id ∉ [d].map (·.record.id)) := by
      rw [List.filter_filter]
      refine List.filter_congr fun r _ => ?_
      simp
    rw [hboth, hboth, hlater.others, List.filter_comm, h.others, List.filter_comm]
  · calc s'' = { s' with launches := s''.launches } := hlater.rest
      _ = { s with launches := s''.launches } := by rw [h.rest]

/-- So do all launches that were dealt with. -/
theorem haveMet_of_dealt {dealt : List Dealt} {l : Ledger}
    (hs : Numbered l.store)
    (hdistinct : (dealt.map (·.record.id)).Nodup)
    (hran : ∀ d ∈ dealt, ∃ row ∈ l.store.launches, row.isActive = true ∧ row.record = d.record) :
    HaveMet l.store (dealt.foldl Dealt.enter l).store dealt := by
  induction dealt generalizing l with
  | nil => exact ⟨by simp, rfl, rfl⟩
  | cons d dealt ih =>
    obtain ⟨hnew, hdistinct⟩ := List.nodup_cons.mp hdistinct
    obtain ⟨hfirst, hran⟩ := List.forall_mem_cons.mp hran
    obtain ⟨hmet, hs'⟩ := haveMet_mark hs hfirst
    -- The rows of the others are still there when the first launch has been marked.
    have hstill : ∀ e ∈ dealt,
        ∃ row ∈ (d.enter l).store.launches, row.isActive = true ∧ row.record = e.record := by
      intro e he
      obtain ⟨row, hrow, hactive, hrecord⟩ := hran e he
      have hother : row.id ∉ [d].map (·.record.id) := fun hmem => by
        have hid : row.id = e.record.id := congrArg ProcessRecord.id hrecord
        rw [List.map_singleton, List.mem_singleton, hid] at hmem
        exact hnew (List.mem_map.mpr ⟨e, he, hmem⟩)
      have hkept : row ∈ l.store.launches.filter
          fun r => decide (r.id ∉ [d].map (·.record.id)) :=
        List.mem_filter.mpr ⟨hrow, by simpa using hother⟩
      rw [← hmet.others] at hkept
      exact ⟨row, (List.mem_filter.mp hkept).1, hactive, hrecord⟩
    exact hmet.cons (ih hs' hdistinct hstill) hnew

/-! ## 6. The report -/

/-- Each launch is named once. -/
theorem perm_bucketsOf (dealt : List Dealt) :
    ((bucketsOf dealt).killed ++ (bucketsOf dealt).failed.map (·.record)
      ++ (bucketsOf dealt).alreadyDead).Perm (dealt.map (·.record)) := by
  induction dealt with
  | nil => exact List.Perm.refl []
  | cons d dealt ih =>
    rw [bucketsOf_cons, List.map_cons]
    obtain ⟨record, fate, asked, forced⟩ := d
    cases fate with
    | killed now => exact ih.cons record
    | alreadyDead now => exact List.perm_middle.trans (ih.cons record)
    | failed fault =>
      simp only [KillBuckets.adding, List.map_cons, List.append_assoc, List.cons_append]
      rw [List.append_assoc] at ih
      exact List.perm_middle.trans (ih.cons record)

/-- Each bucket is in the order in which the launches were dealt with. -/
theorem sublist_bucketsOf (dealt : List Dealt) :
    (bucketsOf dealt).killed.Sublist (dealt.map (·.record))
      ∧ ((bucketsOf dealt).failed.map (·.record)).Sublist (dealt.map (·.record))
      ∧ (bucketsOf dealt).alreadyDead.Sublist (dealt.map (·.record)) := by
  induction dealt with
  | nil => exact ⟨.slnil, .slnil, .slnil⟩
  | cons d dealt ih =>
    obtain ⟨hkilled, hfailed, hdead⟩ := ih
    rw [bucketsOf_cons, List.map_cons]
    obtain ⟨record, fate, asked, forced⟩ := d
    cases fate with
    | killed now => exact ⟨hkilled.cons_cons record, hfailed.cons record, hdead.cons record⟩
    | alreadyDead now => exact ⟨hkilled.cons record, hfailed.cons record, hdead.cons_cons record⟩
    | failed fault => exact ⟨hkilled.cons record, hfailed.cons_cons record, hdead.cons record⟩

theorem mem_bucketsOf (dealt : List Dealt) :
    (∀ r ∈ (bucketsOf dealt).killed, ∃ d ∈ dealt, d.record = r ∧ ∃ now, d.fate = .killed now)
      ∧ (∀ f ∈ (bucketsOf dealt).failed,
          ∃ d ∈ dealt, d.record = f.record ∧ d.fate = .failed f.fault)
      ∧ ∀ r ∈ (bucketsOf dealt).alreadyDead,
        ∃ d ∈ dealt, d.record = r ∧ ∃ now, d.fate = .alreadyDead now := by
  refine ⟨fun r hr => ?_, fun f hf => ?_, fun r hr => ?_⟩
  · obtain ⟨d, hd, hr⟩ := List.mem_filterMap.mp hr
    split at hr
    · rename_i now hfate
      exact ⟨d, hd, Option.some.inj hr, now, hfate⟩
    · cases hr
  · obtain ⟨d, hd, hf⟩ := List.mem_filterMap.mp hf
    split at hf
    · rename_i fault hfate
      obtain rfl := Option.some.inj hf
      exact ⟨d, hd, rfl, hfate⟩
    · cases hf
  · obtain ⟨d, hd, hr⟩ := List.mem_filterMap.mp hr
    split at hr
    · rename_i now hfate
      exact ⟨d, hd, Option.some.inj hr, now, hfate⟩
    · cases hr

/-! ## 7. Ending everything -/

/-- What ending everything comes to. The report names each launch that ran, once
and by rising numbers. The numbers of its summary are those of its lists, and
together they make up the number of launches that ran. Who is in it as killed has
the code of killed launches, who was dead already has the code of those who are
found dead, and who could not be ended runs and has not changed. Nothing else in
the store has changed. -/
structure KilledAll (start after : World σ) (report : KillAllReport) : Prop where
  once : (report.killed ++ report.failed.map (·.record) ++ report.alreadyDead).Perm
    (start.store.running none)
  distinct : (start.store.running none).Pairwise fun r later => r.id < later.id
  ordered : report.killed.Pairwise (fun r later => r.id < later.id)
    ∧ report.failed.Pairwise (fun f later => f.record.id < later.record.id)
    ∧ report.alreadyDead.Pairwise fun r later => r.id < later.id
  found : report.summary.found = (start.store.running none).length
  counted : report.summary.killed = report.killed.length
    ∧ report.summary.failed = report.failed.length
    ∧ report.summary.alreadyDead = report.alreadyDead.length
  total : report.summary.found
    = report.summary.killed + report.summary.failed + report.summary.alreadyDead
  message : report.message? = some nothingToKill ↔ start.store.running none = []
  killed : ∀ r ∈ report.killed, ∃ now, after.store.launch? r.id = some { r with
    running := false, finish := some now, exitCode := some killedCode }
  failed : ∀ f ∈ report.failed, f.record.running = true
    ∧ after.store.launch? f.record.id = some f.record
  alreadyDead : ∀ r ∈ report.alreadyDead, ∃ now, after.store.launch? r.id = some { r with
    running := false, finish := some now, exitCode := some Store.foundDead }
  others : after.store.launches.filter
      (fun row => decide (row.id ∉ (start.store.running none).map (·.id)))
    = start.store.launches.filter
      fun row => decide (row.id ∉ (start.store.running none).map (·.id))
  rest : after.store = { start.store with launches := after.store.launches }

theorem AllDealt.killedAll {start after : World σ} {dealt : List Dealt}
    (hs : Numbered start.store)
    (h : AllDealt refused pauses settings (start.store.running none) (start.ledger refused) dealt
      after) : KilledAll start after (reportOn dealt) := by
  have hrising := hs.running
  have hids : dealt.map (·.record.id) = (start.store.running none).map (·.id) := by
    rw [← h.each, List.map_map]
    rfl
  have hran : ∀ d ∈ dealt, ∃ row ∈ start.store.launches,
      row.isActive = true ∧ row.record = d.record :=
    fun d hd => Store.mem_running_none.mp (h.each ▸ List.mem_map_of_mem hd)
  have hdistinct : (dealt.map (·.record.id)).Nodup := by
    rw [hids]
    exact (List.pairwise_map.mpr hrising).imp fun hlt => Int.ne_of_lt hlt
  have hmet : HaveMet start.store after.store dealt := by
    rw [show after.store = (dealt.foldl Dealt.enter (start.ledger refused)).store from
      congrArg Ledger.store h.ledger]
    exact haveMet_of_dealt (l := start.ledger refused) hs hdistinct hran
  have hperm := perm_bucketsOf dealt
  obtain ⟨hkilled, hfailed, hdead⟩ := sublist_bucketsOf dealt
  rw [h.each] at hperm hkilled hfailed hdead
  obtain ⟨hmemKilled, hmemFailed, hmemDead⟩ := mem_bucketsOf dealt
  have hfailures := hrising.sublist hfailed
  rw [List.pairwise_map] at hfailures
  have hlength : dealt.length = (start.store.running none).length := by
    rw [← h.each, List.length_map]
  refine ⟨hperm, hrising, ⟨hrising.sublist hkilled, hfailures, hrising.sublist hdead⟩, hlength,
    ⟨rfl, rfl, rfl⟩, ?_, ?_, ?_, ?_, ?_, ?_, hmet.rest⟩
  · have hsum := hperm.length_eq
    simp only [List.length_append, List.length_map, ← hlength] at hsum
    exact hsum.symm
  · rw [← h.each, List.map_eq_nil_iff, ← List.isEmpty_iff]
    cases hnone : dealt.isEmpty <;> simp [reportOn, hnone]
  · intro r hr
    obtain ⟨d, hd, rfl, now, hfate⟩ := hmemKilled r hr
    exact ⟨now, by rw [hmet.met d hd, hfate]; rfl⟩
  · intro f hf
    obtain ⟨d, hd, hrecord, hfate⟩ := hmemFailed f hf
    obtain ⟨row, hrow, hactive, hrow'⟩ := hran d hd
    rw [← hrecord]
    refine ⟨?_, by rw [hmet.met d hd, hfate]; rfl⟩
    rw [← hrow']
    exact LaunchRow.running_record_of_isActive hactive
  · intro r hr
    obtain ⟨d, hd, rfl, now, hfate⟩ := hmemDead r hr
    exact ⟨now, by rw [hmet.met d hd, hfate]; rfl⟩
  · rw [← hids]
    exact hmet.others

/-- **What ending everything comes to**, and what was asked, signalled and waited
for on the way. Each launch that ran has its own part in this, whatever came of
the parts before. -/
theorem killAll_sorts_running (hp : p.ActsAlone refused) (hq : p.CountsPauses pauses)
    (settings : Settings) (s : Store) (hs : Numbered s) (now : Int) (journal : List Event)
    (outside : σ) :
    let start : World σ := ⟨s, now, journal, outside⟩
    let run := (killAll p settings).run.run start
    ∃ report dealt, run.1 = .ok report ∧ report = reportOn dealt
      ∧ AllDealt refused pauses settings (start.store.running none) (start.ledger refused) dealt
        run.2
      ∧ KilledAll start run.2 report := by
  intro start run
  have hkill : Tries (Shows refused (start.ledger refused)) (killAll p settings)
      (fun report w => ∃ dealt, report = reportOn dealt
        ∧ AllDealt refused pauses settings (start.store.running none) (start.ledger refused) dealt
            w)
      fun _ _ => False := by
    refine (look_ledger hp _).bind fun records => tries_and fun hrecords => ?_
    rw [show start.store.running none = records from hrecords.symm]
    cases records with
    | nil => exact tries_pure fun w hw => ⟨[], rfl, AllDealt.nil hw⟩
    | cons r rest =>
      refine (forceEach_ledger hp hq (r :: rest)).bind fun buckets => tries_pure ?_
      rintro w ⟨dealt, rfl, hdealt⟩
      exact ⟨dealt, hdealt.report, hdealt⟩
  obtain ⟨report, hreport, dealt, rfl, hdealt⟩ := hkill.goes_through rfl
  exact ⟨_, dealt, hreport, rfl, hdealt, hdealt.killedAll hs⟩

/-! ## 8. Counting pauses -/

/-- The rest of the world, and the pauses with the journal of each, latest first. -/
structure Timed (σ : Type) where
  outside : σ
  pauses : List (Nat × List Event)

/-- Does something and notes the pauses that it is said to make. -/
def timing {α : Type} (made : World (Timed σ) → List (Nat × List Event))
    (a : StateM (World σ) α) : StateM (World (Timed σ)) α := fun w =>
  let (x, after) := a.run { w with outside := w.outside.outside }
  (x, { after with outside := ⟨after.outside, made w ++ w.outside.pauses⟩ })

/-- The platform with a count of its pauses. -/
def Platform.timed (p : Platform σ) : Platform (Timed σ) where
  isAlive pid := timing (fun _ => []) (p.isAlive pid)
  signal pid s := timing (fun _ => []) (p.signal pid s).run
  killTree pid s := timing (fun _ => []) (p.killTree pid s).run
  portIsFree port := timing (fun _ => []) (p.portIsFree port)
  spawn program payload := timing (fun _ => []) (p.spawn program payload).run
  exited? wrapper := timing (fun _ => []) (p.exited? wrapper)
  sleep limit := timing (fun w => [(limit, w.journal)]) (p.sleep limit)
  others := timing (fun _ => []) p.others

/-- Every platform can be made to count its pauses. -/
theorem Platform.timed_countsPauses (p : Platform σ) : p.timed.CountsPauses Timed.pauses where
  slept _ _ := List.mem_cons_self
  kept :=
    { isAlive := fun _ _ _ hx => hx
      signal := fun _ _ _ _ hx => hx
      killTree := fun _ _ _ _ hx => hx
      portIsFree := fun _ _ _ hx => hx
      exited? := fun _ _ _ hx => hx
      sleep := fun _ _ _ hx => List.mem_cons_of_mem _ hx
      others := fun _ _ hx => hx }

/-- Counting pauses changes nothing else. -/
theorem Platform.ActsAlone.timed (hp : p.ActsAlone refused) :
    p.timed.ActsAlone fun outside => refused outside.outside where
  isAlive pid w := hp.isAlive pid { w with outside := w.outside.outside }
  sleep limit w := hp.sleep limit { w with outside := w.outside.outside }
  others w := hp.others { w with outside := w.outside.outside }
  delivered pid s w := hp.delivered pid s { w with outside := w.outside.outside }
  denied pid s w := hp.denied pid s { w with outside := w.outside.outside }

/-- Of five launches one is dead, one ends when it is asked to, one has a process
that must not be signalled, one has a child that dies of force only, and one has
no process yet. -/
theorem killAll_sorts_running_of_five :
    let p := (castPlatform 40 fun _ => []).tallied.timed
    let refused (outside : Timed (Tallied Rehearsal.Cast)) := outside.outside.refused
    let settings : Settings := ⟨⟨"wrapper"⟩, 0, 100, 5000⟩
    let launch (name : String) : Operation := .create 0 ⟨name, ⟨"/srv"⟩⟩ "serve" ⟨"/srv"⟩ none
    let history := [launch "a", .updatePid 1 50, launch "b", .updatePid 2 51, launch "c",
      .updateWrapperPid 3 41, .updatePid 3 52, launch "d", .updateWrapperPid 4 42, .updatePid 4 53,
      launch "e"]
    let actor (pid : Nat) (term kill : Rehearsal.Reaction) : Rehearsal.Actor :=
      ⟨pid, true, term, kill, .ignore, 0, [], none⟩
    let cast : Rehearsal.Cast := [actor 51 .die .die, actor 52 .die .die, actor 41 .deny .deny,
      actor 53 .ignore .die, actor 42 .die .die]
    let start : World (Timed (Tallied Rehearsal.Cast)) :=
      ⟨Store.empty.run history, 3, [], ⟨⟨cast, []⟩, []⟩⟩
    let run := (killAll p settings).run.run start
    Numbered (Store.empty.run history)
      ∧ (∃ report dealt, run.1 = .ok report
        ∧ AllDealt refused Timed.pauses settings (start.store.running none) (start.ledger refused)
          dealt run.2
        ∧ KilledAll start run.2 report ∧ report.killed.map (·.id) = [2, 4, 5]
        ∧ report.failed.map (fun f => (f.record.id, f.fault)) = [(3, .denied (.signal 41))]
        ∧ report.alreadyDead.map (·.id) = [1])
      ∧ (run.2.store.launches.map fun r => (r.id, r.running, r.exitCode))
        = [(5, 0, some (-9)), (4, 0, some (-9)), (3, 1, none), (2, 0, some (-9)),
          (1, 0, some (-1))] := by
  intro p refused settings launch history actor cast start run
  have hs : Numbered (Store.empty.run history) :=
    numbered_run Store.launchesSound_empty.numbered history
  obtain ⟨report, dealt, hreport, _, hdealt, hkilled⟩ := killAll_sorts_running
    (castPlatform_tallied_actsAlone 40 fun _ => []).timed (Platform.timed_countsPauses _)
    settings _ hs 3 [] ⟨⟨cast, []⟩, []⟩
  have hnames : run.1.toOption.map (fun report => (report.killed.map (·.id),
      report.failed.map (fun f => (f.record.id, f.fault)), report.alreadyDead.map (·.id)))
      = some ([2, 4, 5], [(3, .denied (.signal 41))], [1]) := by decide +kernel
  rw [show run.1 = .ok report from hreport] at hnames
  simp only [Except.toOption, Option.map_some, Option.some.injEq, Prod.mk.injEq] at hnames
  obtain ⟨hnamesKilled, hnamesFailed, hnamesDead⟩ := hnames
  exact ⟨hs, ⟨report, dealt, hreport, hdealt, hkilled, hnamesKilled, hnamesFailed, hnamesDead⟩,
    by decide +kernel⟩

end Overseer.Supervisor
