/-
Overseer.Proofs.Wrapper.Remarks — what a wrapper says of its own.

Beside the lines of its children a wrapper writes lines of its own: the marks of starts
and of the end, that it takes up a request to restart, and what fails. `ownLines` tells
which of them a move brings, by looking at where the wrapper stands before and after it.
On the normal output there is but one text, and on the error output there are three
kinds (`IsOwn`). Writing them leaves alone what the children have said and is not yet in
the store (`Writes`).
-/
import Overseer.Proofs.Wrapper.Outcome

namespace Overseer.Wrapper

variable {σ : Type} (t : Task) (h : Host σ) {r r' r'' : Run σ}

/-! ## 1. Lines of a child and lines of the wrapper -/

/-- How a line of a child is stored. -/
def Line.draft (line : Line) : Draft :=
  match line.stream with
  | .out => (.stdout, Log.stripClearScreen line.text)
  | .err => (.stderr, line.text)

/-- The lines with which a launch ends. -/
def endLines : Except Fault Int → List Draft
  | .ok code => [(.exited, s!"Process exited with code {code}")]
  | .error fault =>
    [(.stderr, startDetail fault), (.exited, s!"Process exited with code {startFailedCode}")]

/-- The lines with which a launch ends, if it does. -/
def closingLines : Stand → List Draft
  | .ended result => endLines result
  | .attending _ | .abandoning .. | .draining _ | .pausing _ | .probing .. => []

/-- What the wrapper says to a request to restart. -/
def askLines (r : Run σ) : List Draft :=
  match r.stand with
  | .attending pid =>
    if r.state.acceptsRestart then
      (.stdout, "Restart signal received") ::
        match (h.killTree pid .term r.outside).1 with
        | .ok _ => []
        | .error fault => [(.stderr, s!"Restart failed: {fault.message}")]
    else []
  | _ => []

/-- What the wrapper says when a restart is given up because of the port. -/
def portLines (m : Move) : Stand → List Draft
  | .ended (.ok _) =>
    match m, t.payload.port with
    | .pauseOver, some port | .lookDue, some port =>
      [(.stderr, s!"Port {port} still in use, restart abandoned")]
    | _, _ => []
  | _ => []

/-- What the wrapper says when it started a child or could not. -/
def openingLines (again : Bool) : Stand → List Draft
  | .attending pid => [(.started, startedText again pid)]
  | stand => closingLines stand

/-- How many children were started. -/
def Run.children (r : Run σ) : Nat :=
  r.deeds.countP fun
    | .started _ => true
    | _ => false

/-- What the wrapper says when a child was started again or the launch has ended. -/
def laterLines (m : Move) (r r' : Run σ) : List Draft :=
  if r.children < r'.children then openingLines true r'.stand
  else if r.stand.isOver then []
  else portLines t m r'.stand ++ closingLines r'.stand

/-- The lines that the wrapper writes of its own at a move. -/
def ownLines (r : Run σ) (m : Move) : List Draft :=
  (match m with
    | .request .restart => askLines h r
    | _ => []) ++ laterLines t m r (step t h r m)

/-- The lines of the wrapper's own from a point on. -/
def ownLinesAfter : Run σ → List Move → List Draft
  | _, [] => []
  | r, m :: moves => ownLines t h r m ++ ownLinesAfter (step t h r m) moves

/-! ## 2. What these lines say -/

/-- What a wrapper says of its own, marks aside: that it takes up a request to restart, and
on the error output what fails. That no child could be started is said when the run ends
with this fault, and nowhere else. -/
def IsOwn (s : Stand) (e : Draft) : Prop :=
  match e.1 with
  | .stdout => e.2 = "Restart signal received"
  | .stderr => (∃ fault : Fault, e.2 = s!"Restart failed: {fault.message}")
    ∨ (∃ port, t.payload.port = some port ∧ e.2 = s!"Port {port} still in use, restart abandoned")
    ∨ ∃ fault, s = .ended (.error fault) ∧ e.2 = startDetail fault
  | .started | .exited => True

variable {t} in
/-- What was said of its own before is so after the end. -/
theorem IsOwn.later {s s' : Stand} {e : Draft} (hown : IsOwn t s e)
    (hstays : ∀ result, s = .ended result → s' = .ended result) : IsOwn t s' e := by
  unfold IsOwn at hown ⊢
  cases htype : e.1 with
  | stdout => simpa only [htype] using hown
  | stderr =>
    simp only [htype] at hown ⊢
    obtain hrestart | hport | ⟨fault, hended, hspoken⟩ := hown
    · exact Or.inl hrestart
    · exact Or.inr (Or.inl hport)
    · exact Or.inr (Or.inr ⟨fault, hstays _ hended, hspoken⟩)
  | started => trivial
  | exited => trivial

theorem isOwn_closingLines (s : Stand) : ∀ e ∈ closingLines s, IsOwn t s e := by
  cases s with
  | ended result =>
    cases result with
    | ok code => exact List.forall_mem_singleton.mpr trivial
    | error fault =>
      simp only [closingLines, endLines, List.forall_mem_cons]
      exact ⟨Or.inr (Or.inr ⟨fault, rfl, rfl⟩), trivial, List.forall_mem_nil _⟩
  | _ => exact List.forall_mem_nil _

theorem isOwn_openingLines (again : Bool) (s : Stand) :
    ∀ e ∈ openingLines again s, IsOwn t s e := by
  unfold openingLines
  split
  · exact List.forall_mem_singleton.mpr trivial
  · exact isOwn_closingLines t s

theorem isOwn_portLines (m : Move) (s : Stand) : ∀ e ∈ portLines t m s, IsOwn t s e := by
  have hsaid : ∀ port, t.payload.port = some port → ∀ e ∈ [((.stderr : LogType),
      s!"Port {port} still in use, restart abandoned")], IsOwn t s e :=
    fun port hport => List.forall_mem_singleton.mpr (Or.inr (Or.inl ⟨port, hport, rfl⟩))
  unfold portLines
  split
  · split
    next hport => exact hsaid _ hport
    next hport => exact hsaid _ hport
    next => exact List.forall_mem_nil _
  · exact List.forall_mem_nil _

theorem isOwn_askLines (r : Run σ) (s : Stand) : ∀ e ∈ askLines h r, IsOwn t s e := by
  unfold askLines
  split
  · split
    · refine List.forall_mem_cons.mpr ⟨rfl, ?_⟩
      split
      · exact List.forall_mem_nil _
      · exact List.forall_mem_singleton.mpr (Or.inl ⟨_, rfl⟩)
    · exact List.forall_mem_nil _
  · exact List.forall_mem_nil _

theorem isOwn_ownLines (r : Run σ) (m : Move) :
    ∀ e ∈ ownLines t h r m, IsOwn t (step t h r m).stand e := by
  have hask : ∀ e ∈ (match m with | .request .restart => askLines h r | _ => []),
      IsOwn t (step t h r m).stand e := by
    split
    · exact isOwn_askLines t h r _
    · exact List.forall_mem_nil _
  have hlater : ∀ e ∈ laterLines t m r (step t h r m), IsOwn t (step t h r m).stand e := by
    unfold laterLines
    split
    · exact isOwn_openingLines t true _
    · split
      · exact List.forall_mem_nil _
      · exact List.forall_mem_append.mpr ⟨isOwn_portLines t m _, isOwn_closingLines t _⟩
  exact List.forall_mem_append.mpr ⟨hask, hlater⟩

theorem isOwn_ownLinesAfter (r : Run σ) (moves : List Move) :
    ∀ e ∈ ownLinesAfter t h r moves, IsOwn t (perform t h r moves).stand e := by
  induction moves generalizing r with
  | nil => exact List.forall_mem_nil _
  | cons m moves ih =>
    refine List.forall_mem_append.mpr ⟨fun e he => ?_, ih (step t h r m)⟩
    exact (isOwn_ownLines t h r m e he).later fun _ hended =>
      stand_perform_of_ended t h hended moves

/-! ## 3. Writing leaves the output -/

/-- Lines are written. The readers and the queue stay as they are, and no child is started. -/
structure Writes (es : List Draft) (r r' : Run σ) : Prop where
  lines : ∃ deeds, Adds t r r' deeds es
  children : r'.children = r.children
  out : r'.out = r.out
  err : r'.err = r.err
  queue : r'.queue = r.queue

theorem Writes.refl (r : Run σ) : Writes t [] r r :=
  ⟨⟨[], Adds.refl t r⟩, rfl, rfl, rfl, rfl⟩

variable {t} in
theorem Writes.trans {es es' : List Draft} (h₁ : Writes t es r r') (h₂ : Writes t es' r' r'') :
    Writes t (es ++ es') r r'' := by
  obtain ⟨deeds, hadds⟩ := h₁.lines
  obtain ⟨deeds', hadds'⟩ := h₂.lines
  exact ⟨⟨deeds ++ deeds', hadds.trans hadds'⟩, h₂.children.trans h₁.children,
    h₂.out.trans h₁.out, h₂.err.trans h₁.err, h₂.queue.trans h₁.queue⟩

theorem writes_append (type : LogType) (content : String) (r : Run σ) :
    Writes t [(type, content)] r (append t type content r) :=
  ⟨⟨[], adds_append t type content r⟩, rfl, rfl, rfl, rfl⟩

theorem writes_persist (line : Line) (r : Run σ) :
    Writes t [line.draft] r (persist t r line) := by
  unfold persist Line.draft
  cases line.stream with
  | out => exact writes_append t .stdout _ r
  | err => exact writes_append t .stderr _ r

theorem writes_foldl_persist (lines : List Line) (r : Run σ) :
    Writes t (lines.map Line.draft) r (lines.foldl (persist t) r) := by
  induction lines generalizing r with
  | nil => exact .refl t r
  | cons line lines ih => exact (writes_persist t line r).trans (ih _)

theorem writes_finish (code : Int) (result : Except Fault Int) (r : Run σ) :
    Writes t [(.exited, s!"Process exited with code {code}")] r (finish t code result r) :=
  ⟨⟨[], adds_finish t code result r⟩, rfl, rfl, rfl, rfl⟩

theorem writes_failStart (fault : Fault) (r : Run σ) :
    Writes t (endLines (.error fault)) r (failStart t fault r) :=
  (writes_append t .stderr (startDetail fault) r).trans (writes_finish t _ _ _)

theorem writes_signalChild (pid : Nat) (signal : Signal) (r : Run σ) :
    Writes t [] r (signalChild h pid signal r).2 := by
  unfold signalChild
  rcases h.killTree pid signal r.outside with ⟨_ | _, outside⟩
  · exact ⟨⟨[.signalled pid signal], rfl, rfl, rfl⟩, rfl, rfl, rfl, rfl⟩
  · exact ⟨⟨[.signalled pid signal], rfl, rfl, rfl⟩, rfl, rfl, rfl, rfl⟩

theorem writes_heard (control : Control) (r : Run σ) :
    Writes t [] r (r.note (.heard control)) :=
  ⟨⟨[.heard control], rfl, rfl, rfl⟩, rfl, rfl, rfl, rfl⟩

/-- A signal is refused if the system says so. -/
theorem signalChild_refused (pid : Nat) (signal : Signal) (r : Run σ) :
    (signalChild h pid signal r).1
      = match (h.killTree pid signal r.outside).1 with
        | .ok _ => none
        | .error fault => some fault := by
  unfold signalChild
  rcases h.killTree pid signal r.outside with ⟨_ | _, outside⟩
  · rfl
  · rfl

theorem writes_requestRestart {pid : Nat} (hstand : r.stand = .attending pid) :
    Writes t (askLines h r) r (requestRestart t h pid r) := by
  simp only [requestRestart, askLines, hstand]
  split
  next haccepts =>
    let said : Run σ := { append t .stdout "Restart signal received" r with state := .restarting }
    have hsaid : Writes t [(.stdout, "Restart signal received")] r said :=
      ⟨⟨[], rfl, rfl, ledger_append t .stdout _ r⟩, rfl, rfl, rfl, rfl⟩
    have hkill := hsaid.trans (writes_signalChild t h pid .term said)
    have hrefused : (signalChild h pid .term said).1 = _ := signalChild_refused h pid .term said
    have hsame : said.outside = r.outside := rfl
    rw [hsame] at hrefused
    rcases hsignal : signalChild h pid .term said with ⟨refused?, after⟩
    rw [hsignal] at hkill hrefused
    cases hanswer : (h.killTree pid .term r.outside).1 with
    | ok delivered =>
      rw [hanswer] at hrefused
      subst hrefused
      exact hkill
    | error fault =>
      rw [hanswer] at hrefused
      subst hrefused
      exact hkill.trans ⟨⟨[], rfl, rfl, ledger_append t .stderr _ after⟩, rfl, rfl, rfl, rfl⟩
  next => exact .refl t r

theorem writes_requestShutdown (pid : Nat) (r : Run σ) :
    Writes t [] r (requestShutdown h pid r) := by
  have hasked : Writes t [] r { r with state := .shuttingDown } :=
    ⟨⟨[], rfl, rfl, rfl⟩, rfl, rfl, rfl, rfl⟩
  unfold requestShutdown
  split
  · simp only
    split
    · exact hasked
    · exact hasked.trans (writes_signalChild t h pid .term _)
  · exact .refl t r

end Overseer.Wrapper
