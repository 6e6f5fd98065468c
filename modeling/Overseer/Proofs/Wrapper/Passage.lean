/-
Overseer.Proofs.Wrapper.Passage — what one thing that happens adds to the output.

Lines are written in seven places, and each of them is numbered whether or not
the store takes it. `Ledger` is all that a new line depends on, so that what is
written can be told apart from what else happens to the store. `Passage` lists
what one move can add: lines of the child, a request to restart, the start of a
child, or the end of the launch; `passage_step` says that there is nothing else.
`Turn` does the same for the children and does not look at the output.
-/
import Overseer.Proofs.Wrapper.Turn
import Overseer.Proofs.Store.Operations

namespace Overseer.Wrapper

/-! ## 1. Lines under the next number -/

/-- The lines of a store with the highest number given out, and the number of the
wrapper's next line. -/
structure Ledger where
  output : List OutputRow
  last : Int
  next : Int

/-- A line that the wrapper is about to write. -/
abbrev Draft := LogType × String

variable (t : Task)

/-- The row of a line, under a number of the store and one of the wrapper. -/
def rowOf (now last next : Int) (e : Draft) : OutputRow :=
  ⟨last + 1, t.payload.launch, t.key, next, e.2, e.1.text, now⟩

/-- The rows of lines that are written one after the other. -/
def rowsOf (now : Int) : Int → Int → List Draft → List OutputRow
  | _, _, [] => []
  | last, next, e :: es => rowOf t now last next e :: rowsOf now (last + 1) (next + 1) es

namespace Ledger

/-- Writes a line; a store without a number left does not take it. -/
def write (now : Int) (l : Ledger) (e : Draft) : Ledger :=
  if l.last < lastNumber then
    ⟨rowOf t now l.last l.next e :: l.output, l.last + 1, l.next + 1⟩
  else { l with next := l.next + 1 }

theorem next_foldl_write (now : Int) (es : List Draft) (l : Ledger) :
    (es.foldl (write t now) l).next = l.next + es.length := by
  induction es generalizing l with
  | nil => simp
  | cons e es ih =>
    have hnext : (write t now l e).next = l.next + 1 := by
      unfold write
      split <;> rfl
    rw [List.foldl_cons, ih, hnext, List.length_cons]
    omega

/-- With a number left for each of them, all lines are taken. -/
theorem foldl_write (now : Int) (es : List Draft) (l : Ledger)
    (hroom : l.last + es.length ≤ lastNumber) :
    es.foldl (write t now) l
      = ⟨(rowsOf t now l.last l.next es).reverse ++ l.output, l.last + es.length,
          l.next + es.length⟩ := by
  induction es generalizing l with
  | nil => simp [rowsOf]
  | cons e es ih =>
    rw [List.length_cons] at hroom
    have hwrite : write t now l e
        = ⟨rowOf t now l.last l.next e :: l.output, l.last + 1, l.next + 1⟩ := by
      unfold write
      rw [if_pos (by omega)]
    rw [List.foldl_cons, hwrite, ih _ (by simp only; omega)]
    simp only [rowsOf, List.reverse_cons, List.append_assoc, List.singleton_append,
      List.length_cons, mk.injEq, true_and]
    omega

end Ledger

variable {σ : Type} {r r' r'' : Run σ}

/-- The part of a run on which new lines depend. -/
def Run.ledger (r : Run σ) : Ledger := ⟨r.store.output, r.store.lastOutput, r.nextLine⟩

theorem ledger_append (type : LogType) (content : String) (r : Run σ) :
    (append t type content r).ledger = r.ledger.write t r.now (type, content) := by
  unfold Ledger.write
  by_cases hroom : r.ledger.last < lastNumber
  · rw [if_pos hroom]
    simp only [append, Run.ledger, Store.append_eq_ok_iff.mpr ⟨hroom, rfl, rfl⟩]
    rfl
  · rw [if_neg hroom]
    cases hstore : r.store.append r.now t.payload.launch t.key r.nextLine content type with
    | ok taken => exact absurd (Store.append_eq_ok_iff.mp hstore).1 hroom
    | error fault => simp only [append, Run.ledger, hstore]

/-! ## 2. Deeds and lines together -/

/-- Deeds were done and lines written, both in the given order, and no time passed. -/
structure Adds (r r' : Run σ) (deeds : List Deed) (es : List Draft) : Prop where
  deeds : r'.deeds = deeds.reverse ++ r.deeds
  now : r'.now = r.now
  ledger : r'.ledger = es.foldl (Ledger.write t r.now) r.ledger

theorem Adds.refl (r : Run σ) : Adds t r r [] [] := ⟨rfl, rfl, rfl⟩

variable {t} in
theorem Adds.trans {deeds deeds' : List Deed} {es es' : List Draft}
    (h₁ : Adds t r r' deeds es) (h₂ : Adds t r' r'' deeds' es') :
    Adds t r r'' (deeds ++ deeds') (es ++ es') where
  deeds := by rw [h₂.deeds, h₁.deeds, List.reverse_append, List.append_assoc]
  now := h₂.now.trans h₁.now
  ledger := by rw [h₂.ledger, h₁.now, h₁.ledger, List.foldl_append]

theorem adds_append (type : LogType) (content : String) (r : Run σ) :
    Adds t r (append t type content r) [] [(type, content)] :=
  ⟨rfl, rfl, ledger_append t type content r⟩

/-- None of the lines marks a start or the end. -/
def Plain (es : List Draft) : Prop := ∀ e ∈ es, e.1.isMarker = false

theorem plain_nil : Plain [] := by simp [Plain]

theorem Plain.append {es es' : List Draft} (h₁ : Plain es) (h₂ : Plain es') :
    Plain (es ++ es') := by
  intro e he
  rcases List.mem_append.mp he with he | he
  · exact h₁ e he
  · exact h₂ e he

theorem plain_stderr (content : String) : Plain [(.stderr, content)] := by
  intro e he
  rw [List.mem_singleton.mp he]
  rfl

theorem adds_persist (r : Run σ) (line : Line) :
    ∃ es, Plain es ∧ Adds t r (persist t r line) [] es := by
  unfold persist
  cases line.stream with
  | out =>
    refine ⟨_, ?_, adds_append t .stdout _ r⟩
    intro e he
    rw [List.mem_singleton.mp he]
    rfl
  | err => exact ⟨_, plain_stderr _, adds_append t .stderr _ r⟩

theorem adds_foldl_persist (lines : List Line) (r : Run σ) :
    ∃ es, Plain es ∧ Adds t r (lines.foldl (persist t) r) [] es := by
  induction lines generalizing r with
  | nil => exact ⟨[], plain_nil, Adds.refl t r⟩
  | cons line lines ih =>
    obtain ⟨es, hes, hline⟩ := adds_persist t r line
    obtain ⟨es', hes', hlines⟩ := ih (persist t r line)
    exact ⟨es ++ es', hes.append hes', hline.trans hlines⟩

theorem adds_finish (code : Int) (result : Except Fault Int) (r : Run σ) :
    Adds t r (finish t code result r) [] [(.exited, s!"Process exited with code {code}")] := by
  have hadds := adds_append t .exited s!"Process exited with code {code}"
    { r with state := .terminated }
  refine ⟨rfl, rfl, ?_⟩
  obtain ⟨houtput, hlast⟩ := Store.markExited_output
    (append t .exited s!"Process exited with code {code}" { r with state := .terminated }).store
    r.now t.payload.launch code
  have hledger : (finish t code result r).ledger
      = (append t .exited s!"Process exited with code {code}"
          { r with state := .terminated }).ledger := by
    simp only [Run.ledger, Ledger.mk.injEq]
    exact ⟨houtput, hlast, rfl⟩
  rw [hledger]
  exact hadds.ledger

theorem adds_signalChild (h : Host σ) (pid : Nat) (signal : Signal) (r : Run σ) :
    Adds t r (signalChild h pid signal r).2 [.signalled pid signal] [] := by
  unfold signalChild
  rcases h.killTree pid signal r.outside with ⟨_ | _, outside⟩
  · exact ⟨rfl, rfl, rfl⟩
  · exact ⟨rfl, rfl, rfl⟩

/-! ## 3. The places where lines are written -/

/-- The run is over. -/
def Stand.isOver : Stand → Bool
  | .ended _ => true
  | .attending _ | .abandoning .. | .draining _ | .pausing _ | .probing .. => false

theorem Stand.exists_ended {s : Stand} (hover : s.isOver = true) : ∃ result, s = .ended result := by
  cases s with
  | ended result => exact ⟨result, rfl⟩
  | _ => cases hover

/-- A restart was asked for, and there is no child yet in place of the old one. -/
def Run.Owes (r : Run σ) : Prop := r.state = .restarting ∨ r.stand.isWaiting = true

/-- The launch is ended: after other lines comes the one that marks the end. -/
structure Ends (r r' : Run σ) (deeds : List Deed) : Prop where
  fresh : ∀ pid, .started pid ∉ deeds
  lines : ∃ es content, Plain es ∧ Adds t r r' deeds (es ++ [(.exited, content)])
  stand : r'.stand.isOver = true

/-- Lines of the child are written, or none. -/
structure Goes (r r' : Run σ) (deeds : List Deed) : Prop where
  fresh : ∀ pid, .started pid ∉ deeds
  lines : ∃ es, Plain es ∧ Adds t r r' deeds es ∧ (r.stand.isOver = true → es = [])
  stand : r'.stand.isOver = r.stand.isOver
  owes : r'.Owes → r.Owes

variable {t} in
/-- Deeds and lines in front of the end. -/
theorem Adds.ends {deeds deeds' : List Deed} {es : List Draft} (hadds : Adds t r r' deeds es)
    (hes : Plain es) (hfresh : ∀ pid, .started pid ∉ deeds) (hends : Ends t r' r'' deeds') :
    Ends t r r'' (deeds ++ deeds') := by
  obtain ⟨hfresh', ⟨es', content, hes', hadds'⟩, hover⟩ := hends
  refine ⟨?_, ⟨es ++ es', content, hes.append hes', ?_⟩, hover⟩
  · intro pid hpid
    rcases List.mem_append.mp hpid with hpid | hpid
    · exact hfresh pid hpid
    · exact hfresh' pid hpid
  · rw [List.append_assoc]
    exact hadds.trans hadds'

theorem ends_finish (code : Int) (result : Except Fault Int) (r : Run σ) :
    Ends t r (finish t code result r) [] :=
  ⟨by simp, ⟨[], _, plain_nil, adds_finish t code result r⟩, rfl⟩

theorem ends_failStart (fault : Fault) (r : Run σ) : Ends t r (failStart t fault r) [] :=
  (adds_append t .stderr (startDetail fault) r).ends (plain_stderr _) (by simp)
    (ends_finish t _ _ _)

/-- The child is started: the store takes its pid and the start is marked, or the
store does not take it and the child is killed, or there is none. -/
inductive Opens (r r' : Run σ) : Prop where
  | failed (ends : Ends t r r' [])
  | attended (pid : Nat) (again : Bool)
      (taken : ∃ store, r.store.updatePid t.payload.launch pid = .ok store)
      (adds : Adds t r r' [.started pid] [(.started, startedText again pid)])
      (stand : r'.stand.isOver = false) (settled : ¬ r'.Owes)
  | abandoned (pid : Nat)
      (refused : ∃ cause, r.store.updatePid t.payload.launch pid = .error cause)
      (adds : Adds t r r' [.started pid, .signalled pid .kill] [])
      (stand : r'.stand.isOver = false) (settled : ¬ r'.Owes)

theorem opens_startChild (h : Host σ) (again : Bool) (r : Run σ) :
    Opens t r (startChild t h again r) := by
  unfold startChild
  rcases h.spawn t.order r.outside with ⟨cause | pid, outside⟩
  · refine .failed ?_
    have hsame : Adds t r { r with outside, state := .starting } [] [] := ⟨rfl, rfl, rfl⟩
    exact hsame.ends plain_nil (by simp) (ends_failStart t _ _)
  · simp only
    split
    next cause hupdate =>
      have hkill := adds_signalChild t h pid .kill (Run.note (.started pid)
        { r with outside, state := .starting, out := some .empty, err := some .empty })
      have hstate := (signalled_signalChild h pid .kill (Run.note (.started pid)
        { r with outside, state := .starting, out := some .empty, err := some .empty })).state
      refine .abandoned pid ⟨cause, hupdate⟩ ⟨hkill.deeds, hkill.now, hkill.ledger⟩ rfl ?_
      rintro (howes | howes)
      · rw [hstate] at howes
        cases howes
      · cases howes
    next store hupdate =>
      obtain ⟨houtput, hlast⟩ := Store.updatePid_output hupdate
      refine .attended pid again ⟨store, hupdate⟩ ⟨rfl, rfl, ?_⟩ rfl ?_
      · refine (ledger_append t .started (startedText again pid) _).trans ?_
        simp only [Run.ledger, List.foldl_cons, List.foldl_nil, Run.note, houtput, hlast]
      · rintro (howes | howes)
        · cases howes
        · cases howes

/-! ## 4. Passages -/

/-- What one move can add. -/
inductive Passage (r r' : Run σ) : Prop where
  | goes (deeds : List Deed) (goes : Goes t r r' deeds)
  | ends (deeds : List Deed) (going : r.stand.isOver = false) (ends : Ends t r r' deeds)
  | asked (pid : Nat) (es : List Draft) (plain : Plain es) (going : r.stand.isOver = false)
      (adds : Adds t r r' [.heard .restart, .signalled pid .term]
        ((.stdout, "Restart signal received") :: es))
      (stand : r'.stand.isOver = false)
  | opens (owes : r.Owes) (going : r.stand.isOver = false) (opens : Opens t r r')

variable (h : Host σ)

/-- Nothing is written, and the wrapper stands where it stood. -/
theorem Goes.of_same (hdeeds : r'.deeds = r.deeds) (hnow : r'.now = r.now)
    (hledger : r'.ledger = r.ledger) (hstate : r'.state = r.state) (hstand : r'.stand = r.stand) :
    Goes t r r' [] :=
  ⟨by simp, ⟨[], plain_nil, ⟨hdeeds, hnow, hledger⟩, fun _ => rfl⟩, by rw [hstand],
    by unfold Run.Owes; rw [hstate, hstand]; exact id⟩

variable {t} in
/-- Deeds and lines in front of more. -/
theorem Adds.passage {deeds : List Deed} {es : List Draft} (hadds : Adds t r r' deeds es)
    (hes : Plain es) (hfresh : ∀ pid, .started pid ∉ deeds) (hgoing : r.stand.isOver = false)
    (hover : r'.stand.isOver = false) (howes : r'.Owes → r.Owes)
    (hnext : Ends t r' r'' [] ∨ Goes t r' r'' []) : Passage t r r'' := by
  rcases hnext with hends | ⟨hfresh', ⟨es', hes', hadds', _⟩, hover', howes'⟩
  · exact .ends (deeds ++ []) hgoing (hadds.ends hes hfresh hends)
  · refine .goes (deeds ++ []) ⟨by simpa using hfresh, ⟨es ++ es', hes.append hes', ?_, ?_⟩, ?_,
      howes ∘ howes'⟩
    · exact hadds.trans hadds'
    · rw [hgoing]
      intro hcontra
      cases hcontra
    · rw [hover', hover, hgoing]

/-- What comes after the last output of a child. -/
theorem ends_or_goes_proceed (sequel : Sequel) (r : Run σ) (hgoing : r.stand.isOver = false) :
    Ends t r (proceed t sequel r) [] ∨ Goes t r (proceed t sequel r) [] := by
  cases sequel with
  | failed fault => exact Or.inl (ends_failStart t fault r)
  | exited status =>
    simp only [proceed]
    by_cases hrestarting : r.state = .restarting
    · rw [if_pos hrestarting]
      refine Or.inr ⟨by simp, ⟨[], plain_nil, ⟨rfl, rfl, rfl⟩, fun _ => rfl⟩, hgoing.symm, ?_⟩
      exact fun _ => Or.inl hrestarting
    · rw [if_neg hrestarting]
      exact Or.inl (ends_finish t _ _ r)

theorem passage_settle {deeds : List Deed} (sequel : Sequel) (hadds : Adds t r r' deeds [])
    (hfresh : ∀ pid, .started pid ∉ deeds) (hgoing : r.stand.isOver = false)
    (hstate : r'.state = r.state) (hover : r'.stand.isOver = false)
    (hwaits : r'.stand.isWaiting = r.stand.isWaiting) : Passage t r (settle t sequel r') := by
  have howes : r'.Owes → r.Owes := by
    unfold Run.Owes
    rw [hstate, hwaits]
    exact id
  unfold settle
  cases r'.out.isNone && r'.err.isNone with
  | false =>
    refine hadds.passage plain_nil hfresh hgoing hover howes (Or.inr ?_)
    refine ⟨by simp, ⟨[], plain_nil, ⟨rfl, rfl, rfl⟩, fun _ => rfl⟩, hover.symm, ?_⟩
    rintro (hrestarting | hwaiting)
    · exact Or.inl hrestarting
    · cases hwaiting
  | true =>
    have hquiet := quiet_foldl_persist t r'.queue { r' with queue := [] }
    obtain ⟨es, hes, hlines⟩ := adds_foldl_persist t r'.queue { r' with queue := [] }
    have hheard : Adds t r' (r'.queue.foldl (persist t) { r' with queue := [] }) [] es :=
      ⟨hlines.deeds, hlines.now, hlines.ledger⟩
    have hstand : (r'.queue.foldl (persist t) { r' with queue := [] }).stand = r'.stand :=
      hquiet.stand
    refine (hadds.trans hheard).passage hes (by simpa using hfresh) hgoing ?_ ?_ ?_
    · rw [hstand, hover]
    · intro hlater
      refine howes ?_
      unfold Run.Owes at hlater ⊢
      rw [hquiet.state, hstand] at hlater
      exact hlater
    · exact ends_or_goes_proceed t sequel _ (by rw [hstand, hover])

theorem passage_requestRestart {pid : Nat} (hstand : r.stand = .attending pid) :
    Passage t r (requestRestart t h pid (r.note (.heard .restart))) := by
  have hgoing : r.stand.isOver = false := by rw [hstand]; rfl
  unfold requestRestart
  by_cases haccepts : (r.note (.heard .restart)).state.acceptsRestart = true
  · rw [if_pos haccepts]
    have hwritten : Adds t r
        { append t .stdout "Restart signal received" (r.note (.heard .restart)) with
          state := .restarting }
        [.heard .restart] [(.stdout, "Restart signal received")] :=
      ⟨rfl, rfl, ledger_append t .stdout _ (r.note (.heard .restart))⟩
    have hkill := adds_signalChild t h pid .term
      { append t .stdout "Restart signal received" (r.note (.heard .restart)) with
        state := .restarting }
    have hsame := (signalled_signalChild h pid .term
      { append t .stdout "Restart signal received" (r.note (.heard .restart)) with
        state := .restarting }).stand
    simp only
    rcases hanswer : signalChild h pid .term
      { append t .stdout "Restart signal received" (r.note (.heard .restart)) with
        state := .restarting } with ⟨_ | fault, r'⟩
    · rw [hanswer] at hkill hsame
      refine .asked pid [] plain_nil hgoing (hwritten.trans hkill) ?_
      exact (congrArg Stand.isOver hsame).trans hgoing
    · rw [hanswer] at hkill hsame
      have hfailed := adds_append t .stderr s!"Restart failed: {fault.message}" r'
      refine .asked pid _ (plain_stderr s!"Restart failed: {fault.message}") hgoing
        ((hwritten.trans hkill).trans ⟨hfailed.deeds, hfailed.now, hfailed.ledger⟩) ?_
      exact (congrArg Stand.isOver hsame).trans hgoing
  · rw [if_neg haccepts]
    exact .goes [.heard .restart] ⟨by simp, ⟨[], plain_nil, ⟨rfl, rfl, rfl⟩, fun _ => rfl⟩, rfl, id⟩

theorem passage_requestShutdown {pid : Nat} (hstand : r.stand = .attending pid) :
    Passage t r (requestShutdown h pid (r.note (.heard .shutdown))) := by
  unfold requestShutdown
  by_cases haccepts : (r.note (.heard .shutdown)).state.acceptsShutdown = true
  · rw [if_pos haccepts]
    simp only
    -- The state is another one now, and the child is still attended to: nothing is owed.
    have hsettled : ∀ r' : Run σ, r'.state = .shuttingDown → r'.stand = r.stand → ¬ r'.Owes := by
      rintro r' hstate hsame (howes | howes)
      · rw [hstate] at howes
        cases howes
      · rw [hsame, hstand] at howes
        cases howes
    cases (r.note (.heard .shutdown)).state == .restarting with
    | true =>
      refine .goes [.heard .shutdown]
        ⟨by simp, ⟨[], plain_nil, ⟨rfl, rfl, rfl⟩, fun _ => rfl⟩, rfl, ?_⟩
      exact fun howes => absurd howes (hsettled _ rfl rfl)
    | false =>
      have hkill := adds_signalChild t h pid .term
        { r.note (.heard .shutdown) with state := .shuttingDown }
      obtain ⟨_, _, hstate, hsame⟩ := signalled_signalChild h pid .term
        { r.note (.heard .shutdown) with state := .shuttingDown }
      have hheard : Adds t r { r.note (.heard .shutdown) with state := .shuttingDown }
          [.heard .shutdown] [] := ⟨rfl, rfl, rfl⟩
      rw [if_neg Bool.false_ne_true]
      refine .goes ([.heard .shutdown] ++ [.signalled pid .term])
        ⟨by simp, ⟨[], plain_nil, hheard.trans hkill, fun _ => rfl⟩, ?_, ?_⟩
      · exact congrArg Stand.isOver hsame
      · exact fun howes => absurd howes (hsettled _ hstate hsame)
  · rw [if_neg haccepts]
    exact .goes [.heard .shutdown]
      ⟨by simp, ⟨[], plain_nil, ⟨rfl, rfl, rfl⟩, fun _ => rfl⟩, rfl, id⟩

theorem Stand.isOver_of_isWaiting {s : Stand} (hwaiting : s.isWaiting = true) :
    s.isOver = false := by
  cases s with
  | pausing status => rfl
  | probing status left => rfl
  | attending pid => simp [isWaiting] at hwaiting
  | abandoning pid fault => simp [isWaiting] at hwaiting
  | draining sequel => simp [isWaiting] at hwaiting
  | ended result => simp [isWaiting] at hwaiting

/-- Only the part of a run on which lines depend counts, and its deeds. -/
theorem Opens.of_same {r₀ : Run σ} (hopens : Opens t r₀ r') (hstore : r₀.store = r.store)
    (hdeeds : r₀.deeds = r.deeds) (hnow : r₀.now = r.now) (hnext : r₀.nextLine = r.nextLine) :
    Opens t r r' := by
  have hadds : ∀ {deeds es}, Adds t r₀ r' deeds es → Adds t r r' deeds es := by
    intro deeds es hadds
    have hledger : r₀.ledger = r.ledger := by rw [Run.ledger, Run.ledger, hstore, hnext]
    exact ⟨by rw [← hdeeds]; exact hadds.deeds, by rw [← hnow]; exact hadds.now,
      by rw [← hnow, ← hledger]; exact hadds.ledger⟩
  cases hopens with
  | failed ends =>
    obtain ⟨hfresh, ⟨es, content, hes, hlines⟩, hover⟩ := ends
    exact .failed ⟨hfresh, ⟨es, content, hes, hadds hlines⟩, hover⟩
  | attended pid again taken adds stand settled =>
    exact .attended pid again (hstore ▸ taken) (hadds adds) stand settled
  | abandoned pid refused adds stand settled =>
    exact .abandoned pid (hstore ▸ refused) (hadds adds) stand settled

theorem passage_probePort (port : Nat) (status : ExitStatus) (left : Nat)
    (hwaiting : r.stand.isWaiting = true) :
    Passage t r (probePort t h port status left r) := by
  have hgoing := Stand.isOver_of_isWaiting hwaiting
  unfold probePort
  rcases h.portIsFree port r.outside with ⟨_ | _, outside⟩
  · cases left with
    | zero =>
      have hwritten := adds_append t .stderr s!"Port {port} still in use, restart abandoned"
        { r with outside }
      have hends := hwritten.ends (plain_stderr _) (by simp)
        (ends_finish t status.number (.ok status.number) _)
      obtain ⟨hfresh, ⟨es, content, hes, hlines⟩, hover⟩ := hends
      exact .ends _ hgoing
        ⟨hfresh, ⟨es, content, hes, ⟨hlines.deeds, hlines.now, hlines.ledger⟩⟩, hover⟩
    | succ left =>
      refine .goes [] ⟨by simp, ⟨[], plain_nil, ⟨rfl, rfl, rfl⟩, fun _ => rfl⟩, hgoing.symm, ?_⟩
      exact fun _ => Or.inr hwaiting
  · have hopens : Opens t r (startChild t h true { r with outside }) :=
      (opens_startChild t h true { r with outside }).of_same t rfl rfl rfl rfl
    exact .opens (Or.inr hwaiting) hgoing hopens

theorem passage_endPause (status : ExitStatus) (hwaiting : r.stand.isWaiting = true) :
    Passage t r (endPause t h status r) := by
  unfold endPause
  cases t.payload.port with
  | none =>
    exact .opens (Or.inr hwaiting) (Stand.isOver_of_isWaiting hwaiting)
      (opens_startChild t h true r)
  | some port => exact passage_probePort t h port status _ hwaiting

/-- A restart that is waited for is called off. -/
theorem passage_callOff (code : Int) (result : Except Fault Int)
    (hwaiting : r.stand.isWaiting = true) :
    Passage t r
      (finish t code result { r.note (.heard .shutdown) with state := .shuttingDown }) := by
  have hheard : Adds t r { r.note (.heard .shutdown) with state := .shuttingDown }
      [.heard .shutdown] [] := ⟨rfl, rfl, rfl⟩
  exact .ends _ (Stand.isOver_of_isWaiting hwaiting)
    (hheard.ends plain_nil (by simp) (ends_finish t code result _))

theorem passage_takeRequest (control : Control) (r : Run σ) :
    Passage t r (takeRequest t h control r) := by
  have hheard : Passage t r (r.note (.heard .restart)) :=
    .goes [.heard .restart] ⟨by simp, ⟨[], plain_nil, ⟨rfl, rfl, rfl⟩, fun _ => rfl⟩, rfl, id⟩
  have hsame : Passage t r r := .goes [] (.of_same t rfl rfl rfl rfl rfl)
  unfold takeRequest
  cases hstand : r.stand with
  | attending pid =>
    cases control with
    | restart => exact passage_requestRestart t h hstand
    | shutdown => exact passage_requestShutdown t h hstand
  | pausing status =>
    cases control with
    | restart => exact hheard
    | shutdown => exact passage_callOff t _ _ (by rw [hstand]; rfl)
  | probing status left =>
    cases control with
    | restart => exact hheard
    | shutdown => exact passage_callOff t _ _ (by rw [hstand]; rfl)
  | abandoning pid fault => exact hsame
  | draining sequel => exact hsame
  | ended result => exact hsame

theorem passage_takeExit (status : ExitStatus) (r : Run σ) :
    Passage t r (takeExit t status r) := by
  have hreaped : ∀ pid, Adds t r (r.note (.reaped pid)) [.reaped pid] [] :=
    fun pid => ⟨rfl, rfl, rfl⟩
  unfold takeExit
  split
  next pid hstand =>
    have hgoing : r.stand.isOver = false := by rw [hstand]; rfl
    exact passage_settle t _ (hreaped pid) (by simp) hgoing rfl hgoing rfl
  next pid fault hstand =>
    have hgoing : r.stand.isOver = false := by rw [hstand]; rfl
    exact passage_settle t _ (hreaped pid) (by simp) hgoing rfl hgoing rfl
  next => exact .goes [] (.of_same t rfl rfl rfl rfl rfl)

/-- The output of a child is heard, and lines are at most queued. -/
structure Hears (r r' : Run σ) : Prop where
  quiet : Quiet r r'
  now : r'.now = r.now
  ledger : r'.ledger = r.ledger

theorem hears_setReader (r : Run σ) (stream : Stream) (reader? : Option Reader)
    (lines : List String) : Hears r ((r.setReader stream reader?).enqueue stream lines) := by
  cases stream <;> exact ⟨⟨rfl, rfl, rfl, rfl⟩, rfl, rfl⟩

theorem hears_hear (r : Run σ) (stream : Stream) (octets : List UInt8) :
    Hears r (r.hear stream octets) := by
  unfold Run.hear
  cases r.reader? stream with
  | none => exact ⟨Quiet.refl r, rfl, rfl⟩
  | some reader => exact hears_setReader r stream _ _

theorem hears_hearEnd (r : Run σ) (stream : Stream) : Hears r (r.hearEnd stream) := by
  unfold Run.hearEnd
  cases r.reader? stream with
  | none => exact ⟨Quiet.refl r, rfl, rfl⟩
  | some reader => exact hears_setReader r stream none _

theorem hears_giveUp (r : Run σ) : Hears r r.giveUp := by
  unfold Run.giveUp
  split <;> exact ⟨⟨rfl, rfl, rfl, rfl⟩, rfl, rfl⟩

theorem Hears.goes (hhears : Hears r r') : Goes t r r' [] :=
  .of_same t hhears.quiet.deeds hhears.now hhears.ledger hhears.quiet.state hhears.quiet.stand

theorem Hears.passage_settle (hhears : Hears r r') {sequel : Sequel}
    (hstand : r'.stand = .draining sequel) : Passage t r (settle t sequel r') := by
  have hbefore : r.stand = .draining sequel := by rw [← hhears.quiet.stand, hstand]
  have hadds : Adds t r r' [] [] := ⟨hhears.quiet.deeds, hhears.now, hhears.ledger⟩
  exact Wrapper.passage_settle t sequel hadds (fun _ => List.not_mem_nil) (by rw [hbefore]; rfl)
    hhears.quiet.state (by rw [hstand]; rfl) (by rw [hstand, hbefore])

/-- The wrapper or its child does something: neither other parties nor the clock. -/
def Move.isOwn : Move → Bool
  | .others _ | .clock _ => false
  | .wrote .. | .closed _ | .take | .request _ | .exited _ | .drainTimeOver | .pauseOver
  | .lookDue => true

/-- **Every move of a wrapper's own is one of the passages.** -/
theorem passage_step (r : Run σ) {m : Move} (hown : m.isOwn = true) :
    Passage t r (step t h r m) := by
  have hsame : Passage t r r := .goes [] (.of_same t rfl rfl rfl rfl rfl)
  cases m with
  | wrote stream octets => exact .goes [] ((hears_hear r stream octets).goes t)
  | closed stream =>
    have hhears := hears_hearEnd r stream
    simp only [step, settleIfDraining]
    split
    next sequel hstand => exact hhears.passage_settle t hstand
    next => exact .goes [] (hhears.goes t)
  | take =>
    simp only [step]
    split
    next pid line queue hstand hqueue =>
      obtain ⟨es, hes, hlines⟩ := adds_persist t { r with queue } line
      obtain ⟨_, _, hstate, hsame⟩ := quiet_persist t { r with queue } line
      refine .goes [] ⟨by simp, ⟨es, hes, ⟨hlines.deeds, hlines.now, hlines.ledger⟩, ?_⟩, ?_, ?_⟩
      · rw [hstand]
        intro hover
        cases hover
      · rw [hsame]
      · unfold Run.Owes
        rw [hstate, hsame]
        exact id
    next => exact hsame
  | request control => exact passage_takeRequest t h control r
  | exited status => exact passage_takeExit t status r
  | drainTimeOver =>
    simp only [step]
    split
    next sequel hstand =>
      have hhears := hears_giveUp r
      exact hhears.passage_settle t (hhears.quiet.stand.trans hstand)
    next => exact hsame
  | pauseOver =>
    simp only [step]
    split
    next status hstand => exact passage_endPause t h status (by rw [hstand]; rfl)
    next => exact hsame
  | lookDue =>
    simp only [step]
    split
    next status left port hstand hport =>
      exact passage_probePort t h port status left (by rw [hstand]; rfl)
    next => exact hsame
  | clock now => cases hown
  | others use => cases hown

end Overseer.Wrapper
