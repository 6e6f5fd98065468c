/-
Overseer.Proofs.Wrapper.ExitCode — one code for the end of a launch, in all places.

What the last step of a wrapper does to the store is the whole end of the launch.
`Closed` says that the code stands in the line that marks the end, that it is read back
from this line, and that the record has it. The code is that of the child that was
started last, since the wrapper knows no other (`Fated`).

`ends_with_one_code` puts this together. When a child could not be started, or the store
refused its pid, the line in front of the mark says why, and that is what is told to
whoever started the launch.
-/
import Overseer.Proofs.Supervisor.Waiting
import Overseer.Proofs.Text.Decimal
import Overseer.Proofs.Wrapper.Outcome

namespace Overseer

/-! ## 1. A code in a line and in a record -/

namespace Supervisor

theorem wrap_of_fits {code : Int} (hleast : Word.least 32 ≤ code)
    (hgreatest : code ≤ Word.greatest 32) : Word.wrap 32 code = code := by
  rw [Word.least_32] at hleast
  rw [Word.greatest_32] at hgreatest
  rw [Word.wrap, Word.size_32, Int.bmod_def]
  omega

/-- The number that a text ends with is read back, if it has 32 bits. -/
theorem lastNumber?_of_fits (before : String) {code : Int} (hleast : Word.least 32 ≤ code)
    (hgreatest : code ≤ Word.greatest 32) :
    lastNumber? (before ++ " " ++ toString code) = some code := by
  have hlist : (before ++ " " ++ toString code).toList
      = before.toList ++ ' ' :: (toString code).toList := by simp
  rw [lastNumber?, hlist, Text.pieces_append_number, List.getLast?_concat, Option.bind_some,
    Text.decimalWithin?, String.toList_ofList, Text.decimal?_toString, Option.filter_some,
    decide_eq_true hleast, decide_eq_true hgreatest, Bool.and_self, if_pos rfl]

end Supervisor

namespace Store

/-- The record of a launch when it has been marked: one that ran has ended now, and one
that did not is as it was. -/
theorem launch?_markExited_eq {s : Store} (hs : LaunchesSound s) {id : Int} {record : ProcessRecord}
    (hrecord : s.launch? id = some record) (now code : Int) :
    (s.markExited now id code).2.launch? id = some (if record.running then { record with
      running := false, finish := some now, exitCode := some (Word.wrap 32 code) }
      else record) := by
  obtain ⟨row, hrow, rfl, rfl⟩ := mem_of_launch? hrecord
  rw [hs.record_running hrow]
  by_cases hactive : row.isActive = true
  · rw [if_pos hactive]
    exact launch?_markExited hs.inOrder hrow hactive now code
  · have hidle : ¬ ∃ r ∈ s.launches, r.id = row.id ∧ r.isActive = true := by
      rintro ⟨r, hr, hid, hruns⟩
      rw [eq_of_inOrder hs.inOrder hr hrow hid] at hruns
      exact hactive hruns
    rw [if_neg hactive, markExited_of_not_active hidle, hrecord]

end Store

namespace Wrapper

open Store (LaunchesSound Operation)
open Supervisor (Platform World scan startFault)

variable {σ : Type} (t : Task) (h : Host σ) {r r' : Run σ}

/-! ## 2. The last child -/

/-- The end of a child that the wrapper takes notice of: which child it was, and how it ended. -/
def fate? (r : Run σ) : Move → Option (Nat × ExitStatus)
  | .exited status => r.stand.child?.map fun pid => (pid, status)
  | _ => none

/-- The ends of all children, one after the other. -/
def fates : Run σ → List Move → List (Nat × ExitStatus)
  | _, [] => []
  | r, m :: moves => (fate? r m).toList ++ fates (step t h r m) moves

/-- The wrapper holds the child that it started last, and the code that it knows is the
code of that child. -/
structure Fated (ends : List (Nat × ExitStatus)) (r : Run σ) : Prop where
  held : ∀ pid, r.stand.child? = some pid → lastStarted r.deeds = some pid
  known : ∀ code, r.stand.code? = some code → ∃ pid status,
    ends.getLast? = some (pid, status) ∧ status.number = code ∧ lastStarted r.deeds = some pid

theorem Stand.code?_of_child? {s : Stand} {pid : Nat} (hs : s.child? = some pid) :
    s.code? = none := by
  cases s with
  | attending pid => rfl
  | abandoning pid fault => rfl
  | draining sequel => cases hs
  | pausing status => cases hs
  | probing status left => cases hs
  | ended result => cases hs

/-- The result of a launch that is over. -/
def Stand.result? : Stand → Option (Except Fault Int)
  | .ended result => some result
  | .attending _ | .abandoning .. | .draining _ | .pausing _ | .probing .. => none

theorem Stand.eq_ended {s : Stand} {result : Except Fault Int} (hresult : s.result? = some result) :
    s = .ended result := by
  cases s with
  | ended result' => rw [Option.some.inj hresult]
  | _ => cases hresult

variable {t h} {ends : List (Nat × ExitStatus)}

/-- A wrapper that knows a code has no child of which it could take notice. -/
theorem fate?_of_code? {code : Int} (hcode : r.stand.code? = some code) (m : Move) :
    fate? r m = none := by
  have hnone : r.stand.child? = none := by
    cases hchild : r.stand.child? with
    | none => rfl
    | some pid =>
      rw [Stand.code?_of_child? hchild] at hcode
      cases hcode
  cases m with
  | exited status => simp [fate?, hnone]
  | _ => rfl

/-- The code that the wrapper knows at a move is that of the child that was started last. -/
theorem Fated.codeAt? (hr : Fated ends r) {m : Move} {code : Int}
    (hcode : r.codeAt? m = some code) :
    ∃ pid status, (ends ++ (fate? r m).toList).getLast? = some (pid, status)
      ∧ status.number = code ∧ lastStarted r.deeds = some pid := by
  by_cases hknown : r.stand.code? = some code
  · rw [fate?_of_code? hknown, Option.toList_none, List.append_nil]
    exact hr.known code hknown
  · cases m with
    | exited status =>
      simp only [Run.codeAt?] at hcode
      split at hcode
      next pid hstand =>
        refine ⟨pid, status, ?_, Option.some.inj hcode, hr.held pid (by rw [hstand]; rfl)⟩
        simp [fate?, hstand, Stand.child?]
      next => exact absurd hcode hknown
    | _ => exact absurd hcode hknown

theorem Fated.same (hr : Fated ends r) (m : Move) (hstand : r'.stand = r.stand)
    (hchild : lastStarted r'.deeds = lastStarted r.deeds) :
    Fated (ends ++ (fate? r m).toList) r' := by
  constructor
  · rw [hstand, hchild]
    exact hr.held
  · intro code hcode
    rw [hstand] at hcode
    rw [fate?_of_code? hcode, Option.toList_none, List.append_nil, hchild]
    exact hr.known code hcode

/-- Where the wrapper holds a child, it knows no code. -/
theorem fated_of_child {pid : Nat} (hchild : r.stand.child? = some pid)
    (hstarted : lastStarted r.deeds = some pid) : Fated ends r := by
  constructor
  · intro pid' hchild'
    rw [hstarted, ← hchild, hchild']
  · intro code hcode
    rw [Stand.code?_of_child? hchild] at hcode
    cases hcode

/-- Where there is no child, the wrapper knows what it is told. -/
theorem fated_of_childless (hchildless : r.stand.child? = none)
    (hknown : ∀ code, r.stand.code? = some code → ∃ pid status,
      ends.getLast? = some (pid, status) ∧ status.number = code ∧ lastStarted r.deeds = some pid) :
    Fated ends r := by
  refine ⟨fun pid hchild => ?_, hknown⟩
  rw [hchildless] at hchild
  cases hchild

theorem fated_of_failStart (fault : Fault) (last : Run σ) : Fated ends (failStart t fault last) :=
  fated_of_childless rfl fun _ hcode => nomatch hcode

theorem Fated.comes (hr : Fated ends r) {m : Move} (hcomes : Comes t (r.codeAt? m) r r') :
    Fated (ends ++ (fate? r m).toList) r' := by
  cases hcomes with
  | kept writes same => exact hr.same m same writes.child
  | waits writes going childless known =>
    refine fated_of_childless childless fun code hcode => ?_
    rw [writes.child]
    exact hr.codeAt? (known ▸ hcode)
  | begun pid uses child started => exact fated_of_child child started
  | finished code known last writes ends =>
    subst ends
    refine fated_of_childless rfl fun code' hcode => ?_
    obtain rfl : code = code' := Option.some.inj hcode
    have hstarted : lastStarted (finish t code (.ok code) last).deeds = lastStarted r.deeds :=
      writes.child
    rw [hstarted]
    exact hr.codeAt? known
  | failed fault last writes ends =>
    subst ends
    exact fated_of_failStart fault last

theorem Fated.step (hr : Fated ends r) (m : Move) :
    Fated (ends ++ (fate? r m).toList) (step t h r m) := by
  cases hown : m.isOwn with
  | true => exact hr.comes (comes_step t h r hown)
  | false =>
    cases m with
    | others use => exact hr.same _ rfl rfl
    | clock now => exact hr.same _ rfl rfl
    | _ => cases hown

theorem Fated.perform (hr : Fated ends r) (moves : List Move) :
    Fated (ends ++ fates t h r moves) (perform t h r moves) := by
  induction moves generalizing r ends with
  | nil => rwa [fates, List.append_nil]
  | cons m moves ih =>
    have hall := ih (hr.step (t := t) (h := h) m)
    rw [List.append_assoc] at hall
    exact hall

variable (t h)

/-- What a run begins with: a child, or the end of the launch because there is none. -/
theorem begin_outcome (store : Store) (now : Int) (outside : σ) :
    (∃ pid, Uses (.blank store now outside) (begin t h store now outside)
        ∧ (begin t h store now outside).stand.child? = some pid
        ∧ lastStarted (begin t h store now outside).deeds = some pid)
      ∨ ∃ fault last, WritesOnly (.blank store now outside) last
        ∧ begin t h store now outside = failStart t fault last
        ∧ startChild t h false (.blank store now outside) = failStart t fault last := by
  obtain ⟨tidied, hbegin, hnone⟩ := begin_eq t h store now outside
  rw [hbegin]
  obtain ⟨pid, huses, hchild, hstarted⟩ | ⟨fault, last, hwrites, hends⟩ :=
    startChild_outcome t h false (.blank store now outside)
  · exact Or.inl ⟨pid, huses.trans ⟨tidied, rfl⟩, hchild, hstarted⟩
  · refine Or.inr ⟨fault, last, hwrites, ?_, hends⟩
    rw [hnone (.error fault) (by rw [hends]; rfl), hends]
    rfl

theorem fated_begin (store : Store) (now : Int) (outside : σ) :
    Fated [] (begin t h store now outside) := by
  obtain ⟨pid, _, hchild, hstarted⟩ | ⟨fault, last, _, hends, _⟩ :=
    begin_outcome t h store now outside
  · exact fated_of_child hchild hstarted
  · rw [hends]
    exact fated_of_failStart fault last

/-! ## 3. The end of a launch -/

/-- A wrapper uses the store by its operations. -/
theorem uses_finish (code : Int) (result : Except Fault Int) (r : Run σ) :
    Uses r (finish t code result r) :=
  (writesOnly_append t .exited s!"Process exited with code {code}" r).uses.trans
    (uses_of_step (.markExited r.now t.payload.launch code) rfl)

theorem uses_failStart (fault : Fault) (r : Run σ) : Uses r (failStart t fault r) :=
  (writesOnly_append t .stderr (startDetail fault) r).uses.trans
    (uses_finish t startFailedCode _ _)

theorem Comes.uses {t : Task} {code? : Option Int} (hcomes : Comes t code? r r') : Uses r r' := by
  cases hcomes with
  | kept writes same => exact writes.uses
  | waits writes going childless known => exact writes.uses
  | begun pid uses child started => exact uses
  | finished code known last writes ends =>
    exact ends ▸ writes.uses.trans (uses_finish t code _ last)
  | failed fault last writes ends => exact ends ▸ writes.uses.trans (uses_failStart t fault last)

theorem uses_step (r : Run σ) {m : Move} (hfair : m.IsFair) : Uses r (step t h r m) := by
  cases hown : m.isOwn with
  | true => exact (comes_step t h r hown).uses
  | false =>
    cases m with
    | others use =>
      obtain ⟨history, rfl⟩ := hfair
      exact ⟨history, rfl⟩
    | clock now => exact .refl r
    | _ => cases hown

theorem uses_begin (store : Store) (now : Int) (outside : σ) :
    Uses (.blank store now outside) (begin t h store now outside) := by
  obtain ⟨pid, huses, _⟩ | ⟨fault, last, hwrites, hends, _⟩ := begin_outcome t h store now outside
  · exact huses
  · exact hends ▸ hwrites.uses.trans (uses_failStart t fault last)

theorem uses_perform (r : Run σ) (moves : List Move) (hfair : ∀ m ∈ moves, m.IsFair) :
    Uses r (perform t h r moves) := by
  induction moves generalizing r with
  | nil => exact .refl r
  | cons m moves ih =>
    obtain ⟨hm, hmoves⟩ := List.forall_mem_cons.mp hfair
    exact (uses_step t h r hm).trans (ih _ hmoves)

theorem Uses.sound (huses : Uses r r') (hs : LaunchesSound r.store) : LaunchesSound r'.store := by
  obtain ⟨history, hstore⟩ := huses
  rw [hstore]
  exact Store.launchesSound_run hs history

/-- The run ends after some moves and not before: `r` is the run just before its end, and
`r'` right after it. -/
inductive EndsAfter (store : Store) (now : Int) (outside : σ) : List Move → Run σ → Run σ → Prop
  where
  | atOnce : EndsAfter store now outside [] (.blank store now outside) (begin t h store now outside)
  | later (moves : List Move) (m : Move)
      (going : (perform t h (begin t h store now outside) moves).stand.isOver = false) :
      EndsAfter store now outside (moves ++ [m]) (perform t h (begin t h store now outside) moves)
        (step t h (perform t h (begin t h store now outside) moves) m)

/-- A launch was ended with a code. The newest line of the store marks it, and whoever waits
for the launch reads the code in this line. The record has the code too, unless another
party ended the launch before. -/
structure Closed (code : Int) (older : List OutputRow) (r r' : Run σ) : Prop where
  mark : ∃ mark line, r'.store.output = mark :: older
    ∧ mark.launch = t.payload.launch ∧ mark.key = t.key ∧ MarksEnd mark
    ∧ mark.content = s!"Process exited with code {code}"
    ∧ mark.record = .ok line ∧ ∀ message, scan message [line] = some (.exited (some code))
  record : ∀ record, r.store.launch? t.payload.launch = some record →
    r'.store.launch? t.payload.launch = some (if record.running then { record with
      running := false, finish := some r.now, exitCode := some code } else record)

theorem closed_finish (code : Int) (hleast : Word.least 32 ≤ code)
    (hgreatest : code ≤ Word.greatest 32) (result : Except Fault Int) (hwrites : WritesOnly r r')
    (hs : LaunchesSound r.store) (hroom : HasRoom r' (finish t code result r')) :
    Closed t code r'.store.output r (finish t code result r') := by
  constructor
  · obtain ⟨houtput, _⟩ := (adds_finish t code result r').store hroom
    have hread : Supervisor.lastNumber? s!"Process exited with code {code}" = some code :=
      Supervisor.lastNumber?_of_fits "Process exited with code" hleast hgreatest
    refine ⟨_, _, houtput, rfl, rfl, rfl, rfl, rfl, fun _ => ?_⟩
    exact congrArg (fun number => some (Supervisor.WaitOutcome.exited number)) hread
  · intro record hrecord
    have hmarked := writesOnly_append t .exited s!"Process exited with code {code}" r'
    have hall := hwrites.trans hmarked
    have hbefore : (append t .exited s!"Process exited with code {code}" r').store.launch?
        t.payload.launch = some record := by
      rw [Store.launch?, hall.launches]
      exact hrecord
    have hafter := Store.launch?_markExited_eq (hall.uses.sound hs) hbefore r.now code
    rw [Supervisor.wrap_of_fits hleast hgreatest] at hafter
    rw [← hafter, ← hwrites.now]
    rfl

theorem perform_append_singleton (r : Run σ) (moves : List Move) (m : Move) :
    perform t h r (moves ++ [m]) = step t h (perform t h r moves) m := by
  simp [perform]

/-- Every run that is over ended after some of its moves. -/
theorem exists_endsAfter (store : Store) (now : Int) (outside : σ) {moves : List Move}
    {result : Except Fault Int}
    (hended : (perform t h (begin t h store now outside) moves).stand = .ended result) :
    ∃ upTo later r r', moves = upTo ++ later ∧ EndsAfter t h store now outside upTo r r'
      ∧ r'.stand = .ended result := by
  induction moves using List.reverseRecOn with
  | nil => exact ⟨[], [], _, _, rfl, .atOnce, hended⟩
  | append_singleton moves m ih =>
    rw [perform_append_singleton] at hended
    cases hbefore : (perform t h (begin t h store now outside) moves).stand with
    | ended result' =>
      rw [stand_step_of_ended t h hbefore m] at hended
      obtain rfl : result' = result := Stand.ended.inj hended
      obtain ⟨upTo, later, r, r', rfl, hends, hresult⟩ := ih hbefore
      exact ⟨upTo, later ++ [m], r, r', List.append_assoc .., hends, hresult⟩
    | _ => exact ⟨moves ++ [m], [], _, _, (List.append_nil _).symm,
        .later moves m (by rw [hbefore]; rfl), hended⟩

theorem EndsAfter.eq_perform {store : Store} {now : Int} {outside : σ} {moves : List Move}
    (hends : EndsAfter t h store now outside moves r r') :
    r' = perform t h (begin t h store now outside) moves := by
  cases hends with
  | atOnce => rfl
  | later moves m going => rw [perform_append_singleton]

theorem EndsAfter.sound {store : Store} {now : Int} {outside : σ} {moves : List Move}
    (hends : EndsAfter t h store now outside moves r r') (hfair : ∀ m ∈ moves, m.IsFair)
    (hs : LaunchesSound store) : LaunchesSound r.store := by
  cases hends with
  | atOnce => exact hs
  | later moves m going =>
    have hmoves : ∀ m ∈ moves, m.IsFair := fun m hm => hfair m (List.mem_append_left _ hm)
    exact ((uses_begin t h store now outside).trans (uses_perform t h _ moves hmoves)).sound hs

theorem mem_of_mem_fates {pid : Nat} {status : ExitStatus} {moves : List Move}
    (hfate : (pid, status) ∈ fates t h r moves) : .exited status ∈ moves := by
  induction moves generalizing r with
  | nil => cases hfate
  | cons m moves ih =>
    rcases List.mem_append.mp hfate with hnow | hlater
    · cases m with
      | exited status' =>
        simp only [fate?, Option.mem_toList, Option.map_eq_some_iff, Prod.mk.injEq] at hnow
        obtain ⟨_, _, _, rfl⟩ := hnow
        exact List.mem_cons_self
      | _ => cases hnow
    · exact List.mem_cons_of_mem _ (ih hlater)

theorem number_nonneg (status : ExitStatus) : 0 ≤ status.number := by
  cases status <;> simp only [ExitStatus.number] <;> omega

theorem roomy_append (r : Run σ) (moves moves' : List Move) :
    Roomy t h r (moves ++ moves')
      ↔ Roomy t h r moves ∧ Roomy t h (perform t h r moves) moves' := by
  induction moves generalizing r with
  | nil => simp [Roomy, perform]
  | cons m moves ih =>
    simp only [List.cons_append, Roomy, ih, and_assoc]
    rfl

/-- The two ways in which a launch ends: with the code of a child, or because none could be
started. -/
theorem EndsAfter.outcome {store : Store} {now : Int} {outside : σ} {moves : List Move}
    (hends : EndsAfter t h store now outside moves r r')
    (hfirst : HasRoom (.blank store now outside) (startChild t h false (.blank store now outside)))
    (hroomy : Roomy t h (begin t h store now outside) moves) {result : Except Fault Int}
    (hresult : r'.stand = .ended result) :
    ∃ last, WritesOnly r last ∧ HasRoom last r'
      ∧ ((∃ code, result = .ok code ∧ r' = finish t code (.ok code) last)
        ∨ ∃ fault, result = .error fault ∧ r' = failStart t fault last) := by
  cases hends with
  | atOnce =>
    obtain ⟨pid, _, hchild, _⟩ | ⟨fault, last, hwrites, hbegin, hstart⟩ :=
      begin_outcome t h store now outside
    · rw [hresult] at hchild
      cases hchild
    · rw [hbegin] at hresult
      rw [hstart] at hfirst
      obtain rfl : .error fault = result := Stand.ended.inj hresult
      exact ⟨last, hwrites, hbegin ▸ hwrites.hasRoom hfirst, Or.inr ⟨fault, rfl, hbegin⟩⟩
  | later moves m going =>
    have hroom := ((roomy_append t h _ moves [m]).mp hroomy).2.1
    cases hown : m.isOwn with
    | false =>
      have hsame : (step t h (perform t h (begin t h store now outside) moves) m).stand
          = (perform t h (begin t h store now outside) moves).stand := by
        cases m with
        | others use => rfl
        | clock now => rfl
        | _ => cases hown
      rw [← hsame, hresult] at going
      cases going
    | true =>
      cases comes_step t h (perform t h (begin t h store now outside) moves) hown with
      | kept writes same =>
        rw [← same, hresult] at going
        cases going
      | waits writes going' childless known =>
        rw [hresult] at going'
        cases going'
      | begun pid uses child started =>
        rw [hresult] at child
        cases child
      | finished code known last writes ends =>
        rw [ends] at hresult
        obtain rfl : .ok code = result := Stand.ended.inj hresult
        exact ⟨last, writes, writes.hasRoom hroom, Or.inl ⟨code, rfl, ends⟩⟩
      | failed fault last writes ends =>
        rw [ends] at hresult
        obtain rfl : .error fault = result := Stand.ended.inj hresult
        exact ⟨last, writes, writes.hasRoom hroom, Or.inr ⟨fault, rfl, ends⟩⟩

/-- Why a launch did not start is told by the line in front of the one that marks its end. -/
theorem startFault_of_lines {τ : Type} (p : Platform τ) {w : World τ} {mark line : OutputRow}
    {older : List OutputRow} (houtput : (p.others.run w).2.store.output = mark :: line :: older)
    (hmark : MarksEnd mark) (hline : line.type = LogType.stderr.text) :
    ((startFault p line.launch).run.run w).1 = .ok (.startFailed (.reported line.content)) := by
  have htype : mark.type ≠ LogType.stderr.text := by
    intro hsame
    exact absurd (text_injective (hmark.symm.trans hsame)) (by decide)
  have hlast : (p.others.run w).2.store.lastOfType line.launch .stderr = .ok (some line.shown) := by
    have htyped : line.record = .ok line.shown :=
      OutputRow.record_of_isTyped ⟨.stderr, hline⟩
    rw [Store.lastOfType, houtput, List.find?_cons_of_neg (by simp [htype]),
      List.find?_cons_of_pos (by simp [hline])]
    simp only [htyped]
    rfl
  have hread := Supervisor.access_run (p := p) (w := w)
    (f := fun s => (s.lastOfType line.launch .stderr).map fun line => (line, s))
    (by simp only [hlast]; rfl)
  simp only [startFault, ExceptT.run, StateT.run] at hread ⊢
  rw [hread]
  rfl

/-- **One code for the end of a launch.** A run that is over ended after some of its moves,
and right then the launch was ended in the store. If the result is a code, it is that of
the child that was started last, and it is the code in the line that marks the end, the
code read from this line, and the code of the record unless another party ended the
launch before. If a child could not be started, or the store refused its pid, at the first
start or at a later one, all this holds of code 127, and the line in front of the mark says
why; this is what is told to whoever started the launch. -/
theorem ends_with_one_code (history : List Operation) (now : Int) (outside : σ)
    (moves : List Move) (hfair : ∀ m ∈ moves, m.IsFair)
    (hfits : ∀ status, .exited status ∈ moves → status.number ≤ Word.greatest 32)
    (hfirst : HasRoom (.blank (.run .empty history) now outside)
      (startChild t h false (.blank (.run .empty history) now outside)))
    (hroomy : Roomy t h (begin t h (.run .empty history) now outside) moves)
    (result : Except Fault Int)
    (hended : (perform t h (begin t h (.run .empty history) now outside) moves).stand
      = .ended result) :
    ∃ upTo later r r', moves = upTo ++ later
      ∧ EndsAfter t h (.run .empty history) now outside upTo r r' ∧ r'.stand = .ended result
      ∧ match result with
        | .ok code => (∃ older, Closed t code older r r')
          ∧ ∃ pid status, lastStarted r'.deeds = some pid
            ∧ (fates t h (begin t h (.run .empty history) now outside) upTo).getLast?
              = some (pid, status)
            ∧ code = status.number
        | .error fault => ∃ line older, Closed t startFailedCode (line :: older) r r'
          ∧ line.launch = t.payload.launch ∧ line.type = LogType.stderr.text
          ∧ line.content = startDetail fault
          ∧ ∀ (τ : Type) (p : Platform τ) (w : World τ), (p.others.run w).2.store = r'.store →
            ((startFault p t.payload.launch).run.run w).1
              = .ok (.startFailed (.reported (startDetail fault))) := by
  obtain ⟨upTo, later, r, r', rfl, hends, hresult⟩ := exists_endsAfter t h _ now outside hended
  refine ⟨upTo, later, r, r', rfl, hends, hresult, ?_⟩
  have hs : LaunchesSound r.store :=
    hends.sound t h (fun m hm => hfair m (List.mem_append_left _ hm))
      (Store.launchesSound_run Store.launchesSound_empty history)
  obtain ⟨last, hwrites, hroom, ⟨code, rfl, rfl⟩ | ⟨fault, rfl, rfl⟩⟩ :=
    hends.outcome t h hfirst ((roomy_append t h _ upTo later).mp hroomy).1 hresult
  · have hfated :=
      (fated_begin t h (.run .empty history) now outside).perform (t := t) (h := h) upTo
    rw [← hends.eq_perform, List.nil_append] at hfated
    obtain ⟨pid, status, hlast, rfl, hstarted⟩ := hfated.known code rfl
    have hgreatest : status.number ≤ Word.greatest 32 :=
      hfits status (List.mem_append_left _ (mem_of_mem_fates t h (List.mem_of_getLast? hlast)))
    have hleast : Word.least 32 ≤ status.number := by
      have := number_nonneg status
      rw [Word.least_32]
      omega
    exact ⟨⟨_, closed_finish t _ hleast hgreatest _ hwrites hs hroom⟩, pid, status, hstarted, hlast,
      rfl⟩
  · have hsaid := writesOnly_append t .stderr (startDetail fault) last
    have hroom' : HasRoom last (append t .stderr (startDetail fault) last) := by
      unfold HasRoom at hroom ⊢
      simp only [failStart, finish, append] at hroom ⊢
      omega
    obtain ⟨houtput, _⟩ := (adds_append t .stderr (startDetail fault) last).store hroom'
    have hclosed := closed_finish t startFailedCode (by decide) (by decide) (.error fault)
      (hwrites.trans hsaid) hs (hsaid.hasRoom hroom)
    rw [houtput] at hclosed
    let line := rowOf t last.now last.store.lastOutput last.nextLine (.stderr, startDetail fault)
    refine ⟨line, last.store.output, hclosed, rfl, rfl, rfl, fun τ p w hstore => ?_⟩
    obtain ⟨mark, _, hmark, _, _, hend, _⟩ := hclosed.mark
    have hlines : (p.others.run w).2.store.output = mark :: line :: last.store.output :=
      (congrArg Store.output hstore).trans hmark
    have htold : ((startFault p line.launch).run.run w).1
        = .ok (.startFailed (.reported line.content)) := startFault_of_lines p hlines hend rfl
    exact htold

/-- A host that starts one child and no other. -/
def Host.once : Host Nat where
  spawn _ := fun n => if n = 7 then (.ok 8, 8) else (.error (.os .noEntry), n)
  killTree _ _ := fun n => (.ok true, n)
  portIsFree _ := fun n => (true, n)

/-- A child is restarted. The second one exits with code 3, or it cannot be started; or its pid
is refused, as that of the first one may be. -/
theorem ends_with_one_code_after_restart :
    let history : List Operation := [.create 0 ⟨"web", ⟨"/srv"⟩⟩ "serve" ⟨"/srv"⟩ none]
    let ends (status : ExitStatus) : List Move := [.exited status, .closed .out, .closed .err]
    let restarts := .request .restart :: ends (.signal .term) ++ [.pauseOver]
    let refuses : Move := .others fun s => s.run [.rejectPids true]
    let missing : Fault := .startFailed (.command "serve" (.os .noEntry))
    let refused : Fault := .store .pidRejected
    let fails (h : Host Nat) (history : List Operation) (moves : List Move) (fault : Fault) :
        Prop :=
      ∃ upTo later r r', moves = upTo ++ later
        ∧ EndsAfter .plain h (.run .empty history) 5 7 upTo r r'
        ∧ r'.stand = .ended (.error fault)
        ∧ ∃ line older, Closed .plain 127 (line :: older) r r' ∧ line.content = startDetail fault
    (fates .plain .obliging (begin .plain .obliging (.run .empty history) 5 7)
          (restarts ++ ends (.code 3)) = [(8, .signal .term), (9, .code 3)]
        ∧ ∃ upTo later r r', restarts ++ ends (.code 3) = upTo ++ later
          ∧ EndsAfter .plain .obliging (.run .empty history) 5 7 upTo r r'
          ∧ ∃ older, Closed .plain 3 older r r')
      ∧ fails .once history restarts missing
      ∧ fails .obliging (history ++ [.rejectPids true]) (ends (.signal .kill)) refused
      ∧ fails .obliging history (refuses :: restarts ++ ends (.signal .kill)) refused := by
  intro history ends restarts refuses missing refused fails
  have hfair (status : ExitStatus) : ∀ m ∈ refuses :: restarts ++ ends status, m.IsFair := by
    refine List.forall_mem_cons.mpr ⟨⟨[.rejectPids true], rfl⟩, ?_⟩
    simp [restarts, ends, Move.IsFair]
  have hfits : ∀ status, .exited status ∈ refuses :: restarts ++ ends (.code 3) →
      status.number ≤ Word.greatest 32 := by
    simp [refuses, restarts, ends, ExitStatus.number, Signal.term]
  have hfits' : ∀ status, .exited status ∈ refuses :: restarts ++ ends (.signal .kill) →
      status.number ≤ Word.greatest 32 := by
    simp [refuses, restarts, ends, ExitStatus.number, Signal.term, Signal.kill]
  have hfails (h : Host Nat) (history : List Operation) (moves : List Move) (fault : Fault)
      (hmoves : ∀ m ∈ moves, m ∈ refuses :: restarts ++ ends (.signal .kill))
      (hfirst : HasRoom (.blank (.run .empty history) 5 7)
        (startChild .plain h false (.blank (.run .empty history) 5 7)))
      (hroomy : Roomy .plain h (begin .plain h (.run .empty history) 5 7) moves)
      (hended : (perform .plain h (begin .plain h (.run .empty history) 5 7) moves).stand.result?
        = some (.error fault)) : fails h history moves fault := by
    obtain ⟨upTo, later, r, r', hsplit, hends, hresult, line, older, hclosed, _, _, htold, _⟩ :=
      ends_with_one_code .plain h history 5 7 moves (fun m hm => hfair _ m (hmoves m hm))
        (fun status hm => hfits' status (hmoves _ hm)) hfirst hroomy (.error fault)
        (Stand.eq_ended hended)
    exact ⟨upTo, later, r, r', hsplit, hends, hresult, line, older, hclosed, htold⟩
  obtain ⟨upTo, later, r, r', hsplit, hends, _, hclosed, _⟩ :=
    ends_with_one_code .plain .obliging history 5 7 (restarts ++ ends (.code 3))
      (fun m hm => hfair _ m (List.mem_cons_of_mem _ hm))
      (fun status hm => hfits status (List.mem_cons_of_mem _ hm)) (by decide +kernel)
      (by decide +kernel) (.ok 3) (Stand.eq_ended (by decide +kernel))
  refine ⟨⟨by decide +kernel, upTo, later, r, r', hsplit, hends, hclosed⟩, ?_, ?_, ?_⟩
  · exact hfails _ _ _ _ (fun m hm => List.mem_cons_of_mem _ (List.mem_append_left _ hm))
      (by decide +kernel) (by decide +kernel) (by decide +kernel)
  · exact hfails _ _ _ _ (fun m hm => List.mem_append_right (refuses :: restarts) hm)
      (by decide +kernel) (by decide +kernel) (by decide +kernel)
  · exact hfails _ _ _ _ (fun m hm => hm) (by decide +kernel) (by decide +kernel)
      (by decide +kernel)

end Wrapper

end Overseer
