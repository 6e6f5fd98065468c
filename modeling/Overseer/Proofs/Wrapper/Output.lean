/-
Overseer.Proofs.Wrapper.Output — nothing that a child says is lost.

The rows of a launch are lines of its children mixed with the wrapper's own (`Mixed`).
`output_is_kept` says that for each output those of the children are all the lines that
they wrote to it, in their order, and none twice: `Kept` is the invariant. The condition
is that no output is given up that is still open (`InTime`).
-/
import Overseer.Proofs.Wrapper.Keeping

namespace Overseer.Wrapper

variable {σ : Type} (t : Task) (h : Host σ) {r r' : Run σ}
  {written : Stream → List (List UInt8)} {stored : List Line}

/-! ## 1. What is written in a whole run, and what is stored -/

/-- After the end of a child its outputs are closed in time: none is given up. -/
def InTime : Run σ → List Move → Prop
  | _, [] => True
  | r, m :: moves => r.givesUp m = false ∧ InTime (step t h r m) moves

instance decidableInTime : (r : Run σ) → (moves : List Move) → Decidable (InTime t h r moves)
  | _, [] => isTrue trivial
  | r, m :: moves =>
    have := decidableInTime (step t h r m) moves
    inferInstanceAs (Decidable (r.givesUp m = false ∧ InTime t h (step t h r m) moves))

/-- What each child has written to an output after some moves, latest child first. -/
def writtenAfter (stream : Stream) : Run σ → List Move → List (List UInt8) → List (List UInt8)
  | _, [], written => written
  | r, m :: moves, written =>
    writtenAfter stream (step t h r m) moves (grow stream m r (step t h r m) written)

/-- What the children write to an output in a run, one child after the other. -/
def outputs (stream : Stream) (store : Store) (now : Int) (outside : σ) (moves : List Move) :
    List (List UInt8) :=
  let first := begin t h store now outside
  (writtenAfter t h stream first moves (List.replicate first.children [])).reverse

/-- Rows are lines of the children and lines of the wrapper's own, mixed in some order. -/
inductive Mixed : List OutputRow → List Line → List Draft → Prop
  | nil : Mixed [] [] []
  | child {row : OutputRow} {line : Line} {rows : List OutputRow} {lines : List Line}
      {own : List Draft} (type : row.type = line.draft.1.text)
      (content : row.content = line.draft.2) (rest : Mixed rows lines own) :
      Mixed (row :: rows) (line :: lines) own
  | own {row : OutputRow} {e : Draft} {rows : List OutputRow} {lines : List Line}
      {own : List Draft} (type : row.type = e.1.text) (content : row.content = e.2)
      (rest : Mixed rows lines own) : Mixed (row :: rows) lines (e :: own)

theorem Mixed.append {rows rows' : List OutputRow} {lines lines' : List Line}
    {own own' : List Draft} (h₁ : Mixed rows lines own) (h₂ : Mixed rows' lines' own') :
    Mixed (rows ++ rows') (lines ++ lines') (own ++ own') := by
  induction h₁ with
  | nil => exact h₂
  | child type content rest ih => exact .child type content ih
  | own type content rest ih => exact .own type content ih

/-- The rows of lines of the children, with those of the wrapper behind them. -/
theorem mixed_rowsOf (now last next : Int) (lines : List Line) (own : List Draft) :
    Mixed (rowsOf t now last next (lines.map Line.draft ++ own)) lines own := by
  induction lines generalizing last next with
  | cons line lines ih => exact .child rfl rfl (ih _ _)
  | nil =>
    induction own generalizing last next with
    | nil => exact .nil
    | cons e own ih => exact .own rfl rfl (ih _ _)

/-! ## 2. The output is kept through a run -/

/-- One move, seen in the chronicle. -/
theorem Kept.entries {log : List Entry} (hk : Kept written stored r) (htold : Told t r log)
    {m : Move} (hroom : HasRoom r (Wrapper.step t h r m)) (hkeeps : r.givesUp m = false) :
    ∃ lines, Mixed (rows (if m.isOwn then Wrapper.entries t r (Wrapper.step t h r m) else [])) lines
        (ownLines t h r m)
      ∧ Kept (fun stream => grow stream m r (Wrapper.step t h r m) (written stream))
        (stored ++ lines) (Wrapper.step t h r m) := by
  cases hown : m.isOwn with
  | true =>
    obtain ⟨lines, ⟨deeds, hadds⟩, hkept⟩ := hk.step t h hown hkeeps
    refine ⟨lines, ?_, hkept⟩
    rw [if_pos rfl, hadds.entries htold.numbered.bounded hroom, rows_append, rows_flatMap_ofDeed,
      rows_map_wrote, List.nil_append]
    exact mixed_rowsOf t _ _ _ lines _
  | false =>
    cases m with
    | others use =>
      have hnone : ownLines t h r (.others use) = [] := laterLines_of_same t _ rfl rfl
      refine ⟨[], hnone ▸ .nil, ?_⟩
      have hsame : (Wrapper.step t h r (.others use)).children = r.children := rfl
      rw [grow_of_silent rfl hsame, List.append_nil]
      exact hk.same rfl rfl rfl id
    | clock now =>
      have hnone : ownLines t h r (.clock now) = [] := laterLines_of_same t _ rfl rfl
      refine ⟨[], hnone ▸ .nil, ?_⟩
      have hsame : (Wrapper.step t h r (.clock now)).children = r.children := rfl
      rw [grow_of_silent rfl hsame, List.append_nil]
      exact hk.same rfl rfl rfl id
    | _ => cases hown

variable {t h} in
/-- The output is kept through all moves. -/
theorem Kept.perform {log : List Entry} (hk : Kept written stored r) (htold : Told t r log)
    (moves : List Move) (hfair : ∀ m ∈ moves, m.IsFair) (hroomy : Roomy t h r moves)
    (hintime : InTime t h r moves) :
    ∃ lines, Mixed (rows (chronicle t h r moves)) lines (ownLinesAfter t h r moves)
      ∧ Kept (fun stream => writtenAfter t h stream r moves (written stream)) (stored ++ lines)
        (perform t h r moves) := by
  induction moves generalizing r log written stored with
  | nil => exact ⟨[], .nil, by rw [List.append_nil]; exact hk⟩
  | cons m moves ih =>
    obtain ⟨hm, hmoves⟩ := List.forall_mem_cons.mp hfair
    obtain ⟨lines, hmixed, hkept⟩ := hk.entries t h htold hroomy.1 hintime.1
    have hnext : Told t (Wrapper.step t h r m) (log ++ chronicle t h r [m]) :=
      htold.perform t h [m] (List.forall_mem_singleton.mpr hm) ⟨hroomy.1, trivial⟩
    obtain ⟨lines', hmixed', hkept'⟩ := ih hkept hnext hmoves hroomy.2 hintime.2
    refine ⟨lines ++ lines', ?_, ?_⟩
    · rw [chronicle, rows_append]
      exact hmixed.append hmixed'
    · rw [← List.append_assoc]
      exact hkept'

/-- A run begins with nothing heard. -/
theorem kept_begin (store : Store) (now : Int) (outside : σ) :
    Kept (fun _ => List.replicate (begin t h store now outside).children []) []
      (begin t h store now outside) := by
  obtain ⟨tidied, hbegin, _⟩ := begin_eq t h store now outside
  have hblank : Kept (fun _ => []) [] (.blank store now outside) := by
    refine ⟨fun stream => ?_, fun stream reader hopen => ?_, fun _ => ⟨rfl, fun stream => ?_⟩⟩
    · cases stream <;> rfl
    · cases stream <;> cases hopen
    · cases stream <;> rfl
  let first := startChild t h false (.blank store now outside)
  have hstarted : Kept (fun _ => List.replicate first.children []) [] first := by
    cases begins_startChild t h false (.blank store now outside) with
    | started lines children out err queue busy =>
      rw [children]
      exact hblank.started rfl out err queue busy
    | failed fault writes stand =>
      rw [writes.children]
      exact hblank.writes t writes fun _ => rfl
  have hchildren : (begin t h store now outside).children = first.children := by
    rw [hbegin]
    rfl
  rw [hchildren, hbegin]
  exact hstarted.same rfl rfl rfl id

/-! ## 3. The rows of one output -/

theorem type_injective {stream stream' : Stream} (hsame : stream.type = stream'.type) :
    stream = stream' := by
  cases stream <;> cases stream' <;> first | rfl | cases hsame

theorem draft_type (line : Line) : line.draft.1 = line.stream.type := by
  unfold Line.draft
  cases line.stream <;> rfl

/-- The rows of an output, with whatever told apart by its content that the wrapper says of
its own. -/
theorem Mixed.rows_of_stream {rows : List OutputRow} {lines : List Line} {own : List Draft}
    (hmixed : Mixed rows lines own) {stream : Stream} {p : String → Bool}
    (hown : ∀ e ∈ own, e.1 = stream.type → p e.2 = false) :
    (rows.filter fun row => row.type = stream.type.text && p row.content).map (·.content)
      = ((textsOf stream lines).map fun text => (Line.draft ⟨stream, text⟩).2).filter p := by
  induction hmixed with
  | nil => rfl
  | @child row line rows lines own type content rest ih =>
    rw [draft_type] at type
    by_cases hs : line.stream = stream
    · have htexts : textsOf stream (line :: lines) = line.text :: textsOf stream lines := by
        simp [textsOf, hs]
      have hcontent : (Line.draft ⟨stream, line.text⟩).2 = row.content := by
        rw [content, ← hs]
      rw [htexts, List.map_cons, hcontent, List.filter_cons, List.filter_cons, ← ih hown, type, hs]
      cases p row.content <;> simp
    · have htexts : textsOf stream (line :: lines) = textsOf stream lines := by
        simp [textsOf, hs]
      have hother : row.type ≠ stream.type.text := by
        rw [type]
        exact fun hsame => hs (type_injective (text_injective hsame))
      rw [htexts, List.filter_cons_of_neg (by simp [hother])]
      exact ih hown
  | @own row e rows lines own type content rest ih =>
    obtain ⟨he, hown⟩ := List.forall_mem_cons.mp hown
    have hout : (decide (row.type = stream.type.text) && p row.content) = false := by
      by_cases hs : e.1 = stream.type
      · rw [content, he hs, Bool.and_false]
      · have hother : row.type ≠ stream.type.text := by
          rw [type]
          exact fun hsame => hs (text_injective hsame)
        rw [decide_eq_false hother, Bool.false_and]
    rw [List.filter_cons_of_neg (by rw [hout]; exact Bool.false_ne_true)]
    exact ih hown

/-- The first lines of a chronicle are the wrapper's own. -/
theorem mixed_begin (history : List Store.Operation) (now : Int) (outside : σ)
    (hfirst : HasRoom (.blank (.run .empty history) now outside)
      (startChild t h false (.blank (.run .empty history) now outside))) :
    Mixed (rows (entries t (.blank (.run .empty history) now outside)
        (startChild t h false (.blank (.run .empty history) now outside)))) []
      (openingLines false (begin t h (.run .empty history) now outside).stand) := by
  obtain ⟨deeds, hadds⟩ := (begins_startChild t h false _).lines
  obtain ⟨tidied, hbegin, _⟩ := begin_eq t h (.run .empty history) now outside
  rw [hbegin, hadds.entries (bounded_empty_run history) hfirst, rows_append, rows_flatMap_ofDeed,
    rows_map_wrote, List.nil_append]
  exact mixed_rowsOf t _ _ _ [] _

/-- **No output is lost, doubled or put in another order.** When every output is closed in
time after the end of its child and the store takes the wrapper's lines, the rows of a launch
are, by rising number, lines of its children mixed with lines of the wrapper's own. The lines
of the children from one output are the lines that they wrote to it, one child after the
other, as far as the run has come, and all of them when it is over: octets cut at the
newlines, each piece read as text. So if the wrapper's own lines are told apart by what they
say, what is left of an output's rows are these lines, and what would clear the screen is
taken out of the normal output. -/
theorem output_is_kept (history : List Store.Operation) (now : Int) (outside : σ)
    (moves : List Move) (hfair : ∀ m ∈ moves, m.IsFair)
    (hfirst : HasRoom (.blank (.run .empty history) now outside)
      (startChild t h false (.blank (.run .empty history) now outside)))
    (hroomy : Roomy t h (begin t h (.run .empty history) now outside) moves)
    (hintime : InTime t h (begin t h (.run .empty history) now outside) moves) :
    let first := begin t h (.run .empty history) now outside
    let stored := rows (story t h (.run .empty history) now outside moves)
    let own := openingLines false first.stand ++ ownLinesAfter t h first moves
    let said := fun stream => (outputs t h stream (.run .empty history) now outside moves).flatMap
      fun octets => (cut octets).map lineText
    (stored.Pairwise fun a b => a.id < b.id)
      ∧ (∀ e ∈ own, IsOwn t (perform t h first moves).stand e)
      ∧ (∃ lines, Mixed stored lines own ∧ (∀ stream, textsOf stream lines <+: said stream)
        ∧ ∀ result, (perform t h first moves).stand = .ended result →
          ∀ stream, textsOf stream lines = said stream)
      ∧ ∀ result, (perform t h first moves).stand = .ended result →
        ∀ (stream : Stream) (p : String → Bool), (∀ e ∈ own, e.1 = stream.type → p e.2 = false) →
          (stored.filter fun row => row.type = stream.type.text && p row.content).map (·.content)
            = ((said stream).map fun text => (Line.draft ⟨stream, text⟩).2).filter p := by
  intro first stored own said
  have htold := told_begin t h (bounded_empty_run history) now outside hfirst
  have hnumbered := (htold.perform t h moves hfair hroomy).numbered
  obtain ⟨lines, hrest, hkept⟩ := (kept_begin t h (.run .empty history) now outside).perform htold
    moves hfair hroomy hintime
  have hmixed : Mixed stored lines own := by
    have hrows : stored = rows (entries t (.blank (.run .empty history) now outside)
        (startChild t h false (.blank (.run .empty history) now outside)))
          ++ rows (chronicle t h first moves) := rows_append _ _
    rw [hrows]
    exact (mixed_begin t h history now outside hfirst).append hrest
  have hall : ∀ stream, textsOf stream lines ++ textsOf stream (perform t h first moves).queue
      ++ (perform t h first moves).unfinished stream = said stream := by
    intro stream
    have hsaid : linesOf = fun octets => (cut octets).map lineText := funext linesOf_eq
    have hlines := hkept.lines stream
    rw [List.nil_append, hsaid] at hlines
    exact hlines
  have hover : ∀ result, (perform t h first moves).stand = .ended result →
      ∀ stream, textsOf stream lines = said stream := by
    intro result hended stream
    obtain ⟨hqueue, hclosed⟩ := hkept.idle (by rw [hended]; rfl)
    have hstream := hall stream
    rw [hqueue, Run.unfinished, hclosed, textsOf_nil, List.append_nil] at hstream
    rw [← hstream]
    exact (List.append_nil _).symm
  have hown : ∀ e ∈ own, IsOwn t (perform t h first moves).stand e :=
    List.forall_mem_append.mpr
      ⟨fun e he => (isOwn_openingLines t false _ e he).later fun _ hended =>
        stand_perform_of_ended t h hended moves, isOwn_ownLinesAfter t h first moves⟩
  refine ⟨hnumbered.ascending, hown, ⟨lines, hmixed, fun stream => ?_, hover⟩, ?_⟩
  · rw [← hall stream, List.append_assoc]
    exact List.prefix_append _ _
  · intro result hended stream p hp
    rw [hmixed.rows_of_stream hp, hover result hended stream]

/-- Two children with a restart between them. The first leaves a line unfinished, and an octet
of it is no text. -/
theorem output_is_kept_through_restart :
    let ends (status : ExitStatus) : List Move := [.exited status, .closed .err, .closed .out]
    let moves := [.wrote .out [117, 112, 10, 255], .take, .wrote .err [110, 111, 13, 10],
      .request .restart, .wrote .out [33]] ++ ends (.signal .term)
      ++ [.pauseOver, .wrote .out [117, 112, 10], .wrote .err [98, 121, 101]] ++ ends (.code 0)
    let stored := rows (story .plain .obliging .empty 0 7 moves)
    InTime .plain .obliging (begin .plain .obliging .empty 0 7) moves
      ∧ (stored.filter fun row => row.type = LogType.stdout.text
          && row.content != "Restart signal received").map (·.content) = ["up", "\uFFFD!", "up"]
      ∧ (stored.filter fun row => row.type = LogType.stderr.text && !row.content.isEmpty).map
          (·.content) = ["no", "bye"] := by
  intro ends moves stored
  have hfair : ∀ m ∈ moves, m.IsFair := by
    simp [moves, ends, Move.IsFair]
  have hintime : InTime .plain .obliging (begin .plain .obliging .empty 0 7) moves := by
    decide +kernel
  obtain ⟨_, hown, _, hrows⟩ := output_is_kept .plain .obliging [] 0 7 moves hfair
    (by decide +kernel) (by decide +kernel) hintime
  refine ⟨hintime, ?_, ?_⟩
  · refine (hrows (.ok 0) rfl .out (· != "Restart signal received") fun e he htype => ?_).trans
      (by decide +kernel)
    have hspoken : IsOwn .plain _ e := hown e he
    have htype : e.1 = .stdout := htype
    simp only [IsOwn, htype] at hspoken
    simp [hspoken]
  · exact (hrows (.ok 0) rfl .err (!·.isEmpty) (by decide +kernel)).trans (by decide +kernel)

end Overseer.Wrapper
