/-
Overseer.Proofs.Wrapper.Chronicle — the lines of a launch, in order.

The chronicle of a run says what the wrapper did and which lines it wrote, one
after the other. It is read off the run from outside: deeds and lines are those
that are new after a move, and a pid was noted if the store took it. What other
parties write or delete is not in it.

`lines_in_order` is what those rely on who read the output of a launch: its lines
are numbered from 1 on, across all restarts; the line that marks the end is the
last one and the only one of its kind; the line that marks a start follows the
noting of a child's pid at once, and there is no other; and between two starts
there is a request to restart. `Told` is the invariant, kept by each passage.
-/
import Overseer.Proofs.Store.OutputTable
import Overseer.Proofs.Wrapper.Children
import Overseer.Proofs.Wrapper.Passage

namespace Overseer

/-- The lines that a later store has beyond an earlier one, by rising number. -/
def Store.linesSince (earlier later : Store) : List OutputRow :=
  (later.output.filter fun r => decide (earlier.lastOutput < r.id)).reverse

namespace Wrapper

variable {σ : Type} (t : Task) (h : Host σ)

/-! ## 1. The chronicle -/

/-- One thing in the chronicle of a wrapper. -/
inductive Entry where
  | did (deed : Deed)
  /-- The store took the pid of the child that was just started. -/
  | noted (pid : Nat)
  | wrote (row : OutputRow)

/-- The line of an entry. -/
def Entry.row? : Entry → Option OutputRow
  | .wrote row => some row
  | .did _ | .noted _ => none

/-- The lines of a chronicle. -/
def rows (log : List Entry) : List OutputRow := log.filterMap Entry.row?

/-- The entries of a deed, with the store as it was before. -/
def Entry.ofDeed (s : Store) : Deed → List Entry
  | .started pid =>
    match s.updatePid t.payload.launch pid with
    | .ok _ => [.did (.started pid), .noted pid]
    | .error _ => [.did (.started pid)]
  | deed => [.did deed]

/-- What is new after a move: first the deeds and then the lines. -/
def entries (r r' : Run σ) : List Entry :=
  (r'.deeds.take (r'.deeds.length - r.deeds.length)).reverse.flatMap (Entry.ofDeed t r.store)
    ++ (r.store.linesSince r'.store).map .wrote

/-- The chronicle of what happens from a point on. -/
def chronicle : Run σ → List Move → List Entry
  | _, [] => []
  | r, m :: moves =>
    (if m.isOwn then entries t r (step t h r m) else []) ++ chronicle (step t h r m) moves

/-- A run before its first child. -/
def Run.blank (store : Store) (now : Int) (outside : σ) : Run σ where
  store := store
  now := now
  outside := outside
  state := .starting
  stand := .ended (.ok 0)
  nextLine := 1
  out := none
  err := none
  queue := []
  deeds := []

/-- The chronicle of a run from its beginning. The first start is told as it was
before the clean-up after it. -/
def story (store : Store) (now : Int) (outside : σ) (moves : List Move) : List Entry :=
  entries t (.blank store now outside) (startChild t h false (.blank store now outside))
    ++ chronicle t h (begin t h store now outside) moves

/-! ## 2. What is asked of the surroundings -/

/-- The store has a number left for every line that is written from `r` to `r'`; it
refuses a line for no other reason (`Store.append_eq_ok_iff`). -/
def HasRoom (r r' : Run σ) : Prop :=
  r.store.lastOutput + (r'.nextLine - r.nextLine) ≤ lastNumber

/-- The store takes every line that is written from a point on. -/
def Roomy : Run σ → List Move → Prop
  | _, [] => True
  | r, m :: moves => HasRoom r (step t h r m) ∧ Roomy (step t h r m) moves

instance (r r' : Run σ) : Decidable (HasRoom r r') :=
  inferInstanceAs (Decidable (r.store.lastOutput + (r'.nextLine - r.nextLine) ≤ lastNumber))

instance decidableRoomy : (r : Run σ) → (moves : List Move) → Decidable (Roomy t h r moves)
  | _, [] => isTrue trivial
  | r, m :: moves =>
    have := decidableRoomy (step t h r m) moves
    inferInstanceAs (Decidable (HasRoom r (step t h r m) ∧ Roomy t h (step t h r m) moves))

/-- Other parties use the store by its operations. -/
def Move.IsFair : Move → Prop
  | .others use => ∃ history, use = fun s => s.run history
  | _ => True

/-! ## 3. New entries -/

variable {t} {r r' : Run σ} {log : List Entry}

/-- The rows of lines, one by one. -/
theorem mem_rowsOf {now last next : Int} {es : List Draft} {row : OutputRow}
    (hrow : row ∈ rowsOf t now last next es) :
    (∃ e ∈ es, row.type = e.1.text ∧ row.content = e.2)
      ∧ (row.launch = t.payload.launch ∧ row.key = t.key)
      ∧ last < row.id ∧ row.id ≤ last + es.length := by
  induction es generalizing last next with
  | nil => cases hrow
  | cons e es ih =>
    rw [List.length_cons]
    rcases List.mem_cons.mp hrow with rfl | hrow
    · refine ⟨⟨e, List.mem_cons_self, rfl, rfl⟩, ⟨rfl, rfl⟩, ?_, ?_⟩
      · simp only [rowOf]
        omega
      · simp only [rowOf]
        omega
    · obtain ⟨⟨e', he', htext⟩, hown, hlow, hhigh⟩ := ih hrow
      exact ⟨⟨e', List.mem_cons_of_mem _ he', htext⟩, hown, by omega, by omega⟩

theorem pairwise_rowsOf (now last next : Int) (es : List Draft) :
    (rowsOf t now last next es).Pairwise fun a b => a.id < b.id := by
  induction es generalizing last next with
  | nil => exact List.Pairwise.nil
  | cons e es ih =>
    refine List.Pairwise.cons ?_ (ih _ _)
    intro row hrow
    exact (mem_rowsOf hrow).2.2.1

theorem map_line_rowsOf (now last : Int) (n : Nat) (es : List Draft) :
    (rowsOf t now last n es).map (·.line) = (List.range' n es.length).map Int.ofNat := by
  induction es generalizing last n with
  | nil => rfl
  | cons e es ih =>
    have hnext : (n : Int) + 1 = ((n + 1 : Nat) : Int) := rfl
    simp only [rowsOf, List.map_cons, hnext, ih, List.length_cons, List.range'_succ]
    rfl

theorem length_rowsOf (now last next : Int) (es : List Draft) :
    (rowsOf t now last next es).length = es.length := by
  induction es generalizing last next with
  | nil => rfl
  | cons e es ih => simp [rowsOf, ih]

theorem rowsOf_append (now last next : Int) (es es' : List Draft) :
    rowsOf t now last next (es ++ es')
      = rowsOf t now last next es
        ++ rowsOf t now (last + es.length) (next + es.length) es' := by
  induction es generalizing last next with
  | nil => simp [rowsOf]
  | cons e es ih =>
    have hlast : last + 1 + (es.length : Int) = last + ((es.length + 1 : Nat) : Int) := by omega
    have hnext : next + 1 + (es.length : Int) = next + ((es.length + 1 : Nat) : Int) := by omega
    simp only [rowsOf, List.cons_append, ih, List.length_cons, hlast, hnext]

/-- No line of the store has a number above the highest one. -/
def Bounded (s : Store) : Prop := ∀ row ∈ s.output, row.id ≤ s.lastOutput

theorem bounded_run {s : Store} (hs : Bounded s) (history : List Store.Operation) :
    Bounded (s.run history) ∧ s.lastOutput ≤ (s.run history).lastOutput := by
  refine Store.run_induction (P := fun s' => Bounded s' ∧ s.lastOutput ≤ s'.lastOutput) ?_
    ⟨hs, Int.le_refl _⟩ history
  rintro s' op ⟨hs', hle⟩
  have hchange := Store.outputChange_step s' op
  refine ⟨?_, Int.le_trans hle hchange.lastOutput_le⟩
  intro row hrow
  cases hchange with
  | dropped output last =>
    rw [last]
    exact hs' row (output.subset hrow)
  | added new room number typed output last =>
    rw [output] at hrow
    rw [last]
    rcases List.mem_cons.mp hrow with rfl | hrow
    · exact Int.le_refl _
    · have := hs' row hrow
      omega

/-- What the lines and numbers of the store are after a passage with room. -/
theorem Adds.store {deeds : List Deed} {es : List Draft} (hadds : Adds t r r' deeds es)
    (hroom : HasRoom r r') :
    r'.store.output = (rowsOf t r.now r.store.lastOutput r.nextLine es).reverse ++ r.store.output
      ∧ r'.store.lastOutput = r.store.lastOutput + es.length
      ∧ r'.nextLine = r.nextLine + es.length := by
  have hnext : r'.nextLine = r.nextLine + es.length := by
    have := congrArg Ledger.next hadds.ledger
    rwa [Ledger.next_foldl_write] at this
  have hledger := hadds.ledger
  unfold HasRoom at hroom
  rw [Ledger.foldl_write t r.now es r.ledger
    (by simp only [Run.ledger]; omega)] at hledger
  exact ⟨congrArg Ledger.output hledger, congrArg Ledger.last hledger, hnext⟩

/-- The new entries of a passage are its deeds and its lines. -/
theorem Adds.entries {deeds : List Deed} {es : List Draft} (hadds : Adds t r r' deeds es)
    (hbounded : Bounded r.store) (hroom : HasRoom r r') :
    entries t r r' = deeds.flatMap (Entry.ofDeed t r.store)
      ++ (rowsOf t r.now r.store.lastOutput r.nextLine es).map .wrote := by
  have hdeeds : (r'.deeds.take (r'.deeds.length - r.deeds.length)).reverse = deeds := by
    rw [hadds.deeds, List.length_append, Nat.add_sub_cancel, List.take_left, List.reverse_reverse]
  have hnew : r.store.linesSince r'.store = rowsOf t r.now r.store.lastOutput r.nextLine es := by
    have hold : r.store.output.filter (fun row => decide (r.store.lastOutput < row.id)) = [] := by
      rw [List.filter_eq_nil_iff]
      intro row hrow
      have := hbounded row hrow
      simpa using this
    have hall : (rowsOf t r.now r.store.lastOutput r.nextLine es).filter
        (fun row => decide (r.store.lastOutput < row.id))
          = rowsOf t r.now r.store.lastOutput r.nextLine es := by
      rw [List.filter_eq_self]
      intro row hrow
      simpa using (mem_rowsOf hrow).2.2.1
    rw [Store.linesSince, (hadds.store hroom).1, List.filter_append, hold, List.append_nil,
      List.filter_reverse, hall, List.reverse_reverse]
  rw [Wrapper.entries, hdeeds, hnew]

/-! ## 4. Numbers -/

theorem rows_append (log log' : List Entry) : rows (log ++ log') = rows log ++ rows log' :=
  List.filterMap_append

theorem rows_map_wrote (new : List OutputRow) : rows (new.map .wrote) = new := by
  induction new with
  | nil => rfl
  | cons row new ih =>
    simp only [rows, List.map_cons, List.filterMap_cons, Entry.row?] at ih ⊢
    rw [ih]

theorem rows_flatMap_ofDeed (s : Store) (deeds : List Deed) :
    rows (deeds.flatMap (Entry.ofDeed t s)) = [] := by
  induction deeds with
  | nil => rfl
  | cons deed deeds ih =>
    rw [List.flatMap_cons, rows_append, ih, List.append_nil]
    cases deed with
    | started pid =>
      simp only [Entry.ofDeed]
      cases s.updatePid t.payload.launch pid <;> rfl
    | reaped pid => rfl
    | signalled pid signal => rfl
    | heard control => rfl

/-- The lines of a chronicle are the launch's own and numbered through. -/
structure Numbered (t : Task) (r : Run σ) (log : List Entry) : Prop where
  bounded : Bounded r.store
  lines : (rows log).map (·.line) = (List.range' 1 (rows log).length).map Int.ofNat
  next : r.nextLine = (1 + (rows log).length : Nat)
  ascending : (rows log).Pairwise fun a b => a.id < b.id
  below : ∀ row ∈ rows log, row.id ≤ r.store.lastOutput
  own : ∀ row ∈ rows log, row.launch = t.payload.launch ∧ row.key = t.key

theorem Numbered.adds {deeds : List Deed} {es : List Draft} (hnumbered : Numbered t r log)
    (hadds : Adds t r r' deeds es) (hroom : HasRoom r r') :
    Numbered t r' (log ++ entries t r r') := by
  obtain ⟨hbounded, hlines, hnext, hascending, hbelow, hown⟩ := hnumbered
  obtain ⟨houtput, hlast, hnext'⟩ := hadds.store hroom
  have hrows : rows (log ++ entries t r r')
      = rows log ++ rowsOf t r.now r.store.lastOutput r.nextLine es := by
    rw [hadds.entries hbounded hroom, rows_append, rows_append, rows_flatMap_ofDeed,
      rows_map_wrote, List.nil_append]
  constructor
  · intro row hrow
    rw [houtput] at hrow
    rw [hlast]
    rcases List.mem_append.mp hrow with hrow | hrow
    · exact (mem_rowsOf (List.mem_reverse.mp hrow)).2.2.2
    · have := hbounded row hrow
      omega
  · rw [hrows, List.map_append, hlines, hnext, map_line_rowsOf, List.length_append, length_rowsOf,
      ← List.range'_append_1, List.map_append]
  · rw [hrows, List.length_append, length_rowsOf, hnext', hnext]
    omega
  · rw [hrows]
    refine List.pairwise_append.mpr ⟨hascending, pairwise_rowsOf _ _ _ es, ?_⟩
    intro a ha b hb
    have hle := hbelow a ha
    have hlt := (mem_rowsOf hb).2.2.1
    omega
  · intro row hrow
    rw [hrows] at hrow
    rw [hlast]
    rcases List.mem_append.mp hrow with hrow | hrow
    · have := hbelow row hrow
      omega
    · exact (mem_rowsOf hrow).2.2.2
  · intro row hrow
    rw [hrows] at hrow
    rcases List.mem_append.mp hrow with hrow | hrow
    · exact hown row hrow
    · exact (mem_rowsOf hrow).2.1

/-! ## 5. Marks -/

/-- The line marks a start. -/
def MarksStart (row : OutputRow) : Prop := row.type = LogType.started.text

/-- The line marks the end. -/
def MarksEnd (row : OutputRow) : Prop := row.type = LogType.exited.text

/-- The wrapper took up a request to restart, wrote so and asked the child to end. -/
def AsksRestart (log : List Entry) : Prop :=
  ∃ before pid row after,
    log = before ++ .did (.heard .restart) :: .did (.signalled pid .term) :: .wrote row :: after
      ∧ row.type = LogType.stdout.text ∧ row.content = "Restart signal received"

theorem AsksRestart.append (hasks : AsksRestart log) (later : List Entry) :
    AsksRestart (log ++ later) := by
  obtain ⟨before, pid, row, after, rfl, hrow⟩ := hasks
  exact ⟨before, pid, row, after ++ later, by simp, hrow⟩

/-- An element of a list that was made longer was there before, or it is new. -/
theorem append_eq_append_cons {α : Type} {log new a b : List α} {x : α}
    (h : log ++ new = a ++ x :: b) :
    (∃ b', log = a ++ x :: b' ∧ b = b' ++ new) ∨ ∃ a', a = log ++ a' ∧ new = a' ++ x :: b := by
  rcases List.append_eq_append_iff.mp h with ⟨a', ha, hnew⟩ | ⟨b', hlog, hb⟩
  · exact Or.inr ⟨a', ha, hnew⟩
  · cases b' with
    | nil => exact Or.inr ⟨[], by simpa using hlog.symm, by simpa using hb.symm⟩
    | cons y b' =>
      obtain ⟨rfl, rfl⟩ := List.cons.inj hb
      exact Or.inl ⟨b', hlog, rfl⟩

/-- After every start there is a request to restart. -/
def Asked (log : List Entry) : Prop :=
  ∀ a row b, log = a ++ .wrote row :: b → MarksStart row → AsksRestart b

/-- Starts are marked at the noting of a pid and nowhere else, and between two of
them a restart is asked for. -/
structure Marked (log : List Entry) : Prop where
  marked : ∀ a pid b, log = a ++ .noted pid :: b →
    (∃ a', a = a' ++ [.did (.started pid)])
      ∧ ∃ again row c, b = .wrote row :: c ∧ MarksStart row ∧ row.content = startedText again pid
  noted : ∀ a row b, log = a ++ .wrote row :: b → MarksStart row → ∃ a' pid, a = a' ++ [.noted pid]
  asked : ∀ a row b row' c, log = a ++ .wrote row :: (b ++ .wrote row' :: c) →
    MarksStart row → MarksStart row' → AsksRestart b

theorem marked_nil : Marked [] := by
  constructor <;> simp

/-- Nothing is noted, and no line marks a start. -/
def Unmarked (new : List Entry) : Prop :=
  (∀ pid, .noted pid ∉ new) ∧ ∀ row, .wrote row ∈ new → ¬ MarksStart row

theorem Marked.append {new : List Entry} (hlog : Marked log) (hnew : Unmarked new) :
    Marked (log ++ new) := by
  obtain ⟨hmarked, hnoted, hasked⟩ := hlog
  constructor
  · intro a pid b hsplit
    rcases append_eq_append_cons hsplit with ⟨b', hlog, rfl⟩ | ⟨a', _, hin⟩
    · obtain ⟨hstarted, again, row, c, rfl, hrow⟩ := hmarked a pid b' hlog
      exact ⟨hstarted, again, row, c ++ new, rfl, hrow⟩
    · exact absurd (hin ▸ List.mem_append_right _ List.mem_cons_self) (hnew.1 pid)
  · intro a row b hsplit hrow
    rcases append_eq_append_cons hsplit with ⟨b', hlog, rfl⟩ | ⟨a', _, hin⟩
    · exact hnoted a row b' hlog hrow
    · exact absurd hrow (hnew.2 row (hin ▸ List.mem_append_right _ List.mem_cons_self))
  · intro a row b row' c hsplit hrow hrow'
    rw [← List.cons_append, ← List.append_assoc] at hsplit
    rcases append_eq_append_cons hsplit with ⟨c', hlog, rfl⟩ | ⟨a', _, hin⟩
    · rw [List.append_assoc, List.cons_append] at hlog
      exact hasked a row b row' c' hlog hrow hrow'
    · exact absurd hrow' (hnew.2 row' (hin ▸ List.mem_append_right _ List.mem_cons_self))

/-- A start is marked, for which a restart was asked for after the start before it. -/
theorem Marked.start {pid : Nat} (again : Bool) {row : OutputRow} (hlog : Marked log)
    (hasked : Asked log) (hrow : MarksStart row) (hcontent : row.content = startedText again pid) :
    Marked (log ++ [.did (.started pid), .noted pid, .wrote row]) := by
  constructor
  · intro a pid' b hsplit
    rcases append_eq_append_cons hsplit with ⟨b', hbefore, rfl⟩ | ⟨a', ha, hin⟩
    · obtain ⟨hstarted, again', row', c, rfl, hrow'⟩ := hlog.marked a pid' b' hbefore
      exact ⟨hstarted, again', row', _, rfl, hrow'⟩
    · rcases a' with _ | ⟨_, _ | ⟨_, _ | ⟨_, rest⟩⟩⟩
      · simp at hin
      · simp only [List.cons_append, List.nil_append, List.cons.injEq, Entry.noted.injEq] at hin
        obtain ⟨rfl, rfl, rfl⟩ := hin
        exact ⟨⟨log, ha⟩, again, row, [], rfl, hrow, hcontent⟩
      · simp at hin
      · simp at hin
  · intro a row' b hsplit hrow'
    rcases append_eq_append_cons hsplit with ⟨b', hbefore, rfl⟩ | ⟨a', ha, hin⟩
    · exact hlog.noted a row' b' hbefore hrow'
    · rcases a' with _ | ⟨_, _ | ⟨_, _ | ⟨_, rest⟩⟩⟩
      · simp at hin
      · simp at hin
      · simp only [List.cons_append, List.nil_append, List.cons.injEq] at hin
        obtain ⟨rfl, rfl, _⟩ := hin
        exact ⟨log ++ [.did (.started pid)], pid, by simpa using ha⟩
      · simp at hin
  · intro a row₁ b row₂ c hsplit hrow₁ hrow₂
    rw [← List.cons_append, ← List.append_assoc] at hsplit
    rcases append_eq_append_cons hsplit with ⟨c', hbefore, rfl⟩ | ⟨a', ha, hin⟩
    · rw [List.append_assoc, List.cons_append] at hbefore
      exact hlog.asked a row₁ b row₂ c' hbefore hrow₁ hrow₂
    · rcases append_eq_append_cons ha.symm with ⟨b', hbefore, rfl⟩ | ⟨a'', _, hin'⟩
      · exact (hasked a row₁ b' hbefore hrow₁).append a'
      -- Nothing of what is new before the second start marks a start.
      · subst hin'
        rcases a'' with _ | ⟨_, _ | ⟨_, _ | ⟨_, rest⟩⟩⟩
        · simp at hin
        · simp at hin
        · simp at hin
        · simp at hin

/-! ## 6. The invariant -/

/-- The chronicle tells the run as far as it has come. -/
structure Told (t : Task) (r : Run σ) (log : List Entry) : Prop where
  numbered : Numbered t r log
  marked : Marked log
  owes : r.stand.isOver = false → r.Owes → Asked log
  going : r.stand.isOver = false → ∀ row ∈ rows log, ¬ MarksEnd row
  ended : r.stand.isOver = true →
    ∃ earlier last, rows log = earlier ++ [last] ∧ MarksEnd last ∧ ∀ row ∈ earlier, ¬ MarksEnd row

theorem text_injective {a b : LogType} (h : a.text = b.text) : a = b := by
  have hread := congrArg LogType.ofText? h
  rw [LogType.ofText?_text, LogType.ofText?_text] at hread
  exact Option.some.inj hread

/-- Lines that are plain mark neither a start nor the end. -/
theorem Plain.not_marks {es : List Draft} (hes : Plain es) {now last next : Int} {row : OutputRow}
    (hrow : row ∈ rowsOf t now last next es) : ¬ MarksStart row ∧ ¬ MarksEnd row := by
  obtain ⟨⟨e, he, htype, _⟩, _⟩ := mem_rowsOf hrow
  have hplain := hes e he
  constructor
  · intro hstart
    rw [text_injective (htype.symm.trans hstart)] at hplain
    cases hplain
  · intro hend
    rw [text_injective (htype.symm.trans hend)] at hplain
    cases hplain

/-- No pid is noted where no child is started. -/
theorem noted_not_mem {s : Store} {deeds : List Deed} (hfresh : ∀ pid, .started pid ∉ deeds)
    (pid : Nat) : .noted pid ∉ deeds.flatMap (Entry.ofDeed t s) := by
  intro hmem
  obtain ⟨deed, hdeed, hin⟩ := List.mem_flatMap.mp hmem
  cases deed with
  | started pid' => exact hfresh pid' hdeed
  | reaped pid' => simp [Entry.ofDeed] at hin
  | signalled pid' signal => simp [Entry.ofDeed] at hin
  | heard control => simp [Entry.ofDeed] at hin

theorem wrote_not_mem {s : Store} {deeds : List Deed} (row : OutputRow) :
    .wrote row ∉ deeds.flatMap (Entry.ofDeed t s) := by
  intro hmem
  have hrow : row ∈ rows (deeds.flatMap (Entry.ofDeed t s)) :=
    List.mem_filterMap.mpr ⟨_, hmem, rfl⟩
  rw [rows_flatMap_ofDeed] at hrow
  cases hrow

theorem unmarked_entries {s : Store} {deeds : List Deed} {new : List OutputRow}
    (hfresh : ∀ pid, .started pid ∉ deeds) (hnew : ∀ row ∈ new, ¬ MarksStart row) :
    Unmarked (deeds.flatMap (Entry.ofDeed t s) ++ new.map .wrote) := by
  constructor
  · intro pid hmem
    rcases List.mem_append.mp hmem with hmem | hmem
    · exact noted_not_mem hfresh pid hmem
    · simp at hmem
  · intro row hmem
    rcases List.mem_append.mp hmem with hmem | hmem
    · exact absurd hmem (wrote_not_mem row)
    · exact hnew row (by simpa using hmem)

/-- What is unmarked adds no start after which a restart would have to be asked for. -/
theorem Asked.append {new : List Entry} (hlog : Asked log) (hnew : Unmarked new) :
    Asked (log ++ new) := by
  intro a row b hsplit hrow
  rcases append_eq_append_cons hsplit with ⟨b', hbefore, rfl⟩ | ⟨a', _, hin⟩
  · exact (hlog a row b' hbefore hrow).append new
  · exact absurd hrow (hnew.2 row (hin ▸ List.mem_append_right _ List.mem_cons_self))

/-- The lines of a chronicle after a passage. -/
theorem Adds.rows {deeds : List Deed} {es : List Draft} (hadds : Adds t r r' deeds es)
    (hbounded : Bounded r.store) (hroom : HasRoom r r') (log : List Entry) :
    rows (log ++ Wrapper.entries t r r')
      = rows log ++ rowsOf t r.now r.store.lastOutput r.nextLine es := by
  rw [hadds.entries hbounded hroom, rows_append, rows_append, rows_flatMap_ofDeed, rows_map_wrote,
    List.nil_append]

theorem Told.goes {deeds : List Deed} (htold : Told t r log) (hgoes : Goes t r r' deeds)
    (hroom : HasRoom r r') : Told t r' (log ++ entries t r r') := by
  obtain ⟨hnumbered, hmarked, howes, hgoing, hended⟩ := htold
  obtain ⟨hfresh, ⟨es, hes, hadds, hnone⟩, hover, howes'⟩ := hgoes
  have hrows := hadds.rows hnumbered.bounded hroom log
  have hunmarked : Unmarked (entries t r r') := by
    rw [hadds.entries hnumbered.bounded hroom]
    exact unmarked_entries hfresh fun row hrow => (hes.not_marks hrow).1
  refine ⟨hnumbered.adds hadds hroom, hmarked.append hunmarked, ?_, ?_, ?_⟩
  · intro hopen howing
    exact (howes (hover ▸ hopen) (howes' howing)).append hunmarked
  · intro hopen row hrow
    rw [hrows] at hrow
    rcases List.mem_append.mp hrow with hrow | hrow
    · exact hgoing (hover ▸ hopen) row hrow
    · exact (hes.not_marks hrow).2
  · intro hclosed
    rw [hrows, hnone (hover ▸ hclosed)]
    simpa [rowsOf] using hended (hover ▸ hclosed)

/-- The line that marks the end comes last. -/
theorem told_of_ends {deeds : List Deed} (hnumbered : Numbered t r log) (hmarked : Marked log)
    (hnone : ∀ row ∈ rows log, ¬ MarksEnd row) (hends : Ends t r r' deeds)
    (hroom : HasRoom r r') : Told t r' (log ++ entries t r r') := by
  obtain ⟨hfresh, ⟨es, content, hes, hadds⟩, hover⟩ := hends
  have hentries := hadds.entries hnumbered.bounded hroom
  have hrows := hadds.rows hnumbered.bounded hroom log
  rw [rowsOf_append] at hentries hrows
  refine ⟨hnumbered.adds hadds hroom, ?_, ?_, ?_, ?_⟩
  · refine hmarked.append ?_
    rw [hentries]
    refine unmarked_entries hfresh fun row hrow => ?_
    rcases List.mem_append.mp hrow with hrow | hrow
    · exact (hes.not_marks hrow).1
    · rw [List.mem_singleton.mp hrow]
      intro hstart
      exact absurd (text_injective (a := .exited) (b := .started) hstart) (by decide)
  · intro hopen
    rw [hover] at hopen
    cases hopen
  · intro hopen
    rw [hover] at hopen
    cases hopen
  · intro _
    refine ⟨rows log ++ rowsOf t r.now r.store.lastOutput r.nextLine es,
      rowOf t r.now (r.store.lastOutput + es.length) (r.nextLine + es.length) (.exited, content),
      ?_, rfl, ?_⟩
    · rw [hrows, List.append_assoc]
      rfl
    · intro row hrow
      rcases List.mem_append.mp hrow with hrow | hrow
      · exact hnone row hrow
      · exact (hes.not_marks hrow).2

theorem Told.asked {pid : Nat} {es : List Draft} (htold : Told t r log) (hes : Plain es)
    (hgoing : r.stand.isOver = false)
    (hadds : Adds t r r' [.heard .restart, .signalled pid .term]
      ((.stdout, "Restart signal received") :: es))
    (hover : r'.stand.isOver = false) (hroom : HasRoom r r') :
    Told t r' (log ++ entries t r r') := by
  obtain ⟨hnumbered, hmarked, _, hnone, _⟩ := htold
  have hentries := hadds.entries hnumbered.bounded hroom
  have hrows := hadds.rows hnumbered.bounded hroom log
  have hplain : Plain ((.stdout, "Restart signal received") :: es) := by
    intro e he
    rcases List.mem_cons.mp he with rfl | he
    · rfl
    · exact hes e he
  have hunmarked : Unmarked (entries t r r') := by
    rw [hentries]
    exact unmarked_entries (by simp) fun row hrow => (hplain.not_marks hrow).1
  refine ⟨hnumbered.adds hadds hroom, hmarked.append hunmarked, ?_, ?_, ?_⟩
  -- Whatever was marked before, the request comes after it.
  · intro _ _ a row b hsplit hrow
    rcases append_eq_append_cons hsplit with ⟨b', _, rfl⟩ | ⟨a', _, hin⟩
    · rw [hentries]
      exact ⟨b', pid, _, _, rfl, rfl, rfl⟩
    · exact absurd hrow (hunmarked.2 row (hin ▸ List.mem_append_right _ List.mem_cons_self))
  · intro _ row hrow
    rw [hrows] at hrow
    rcases List.mem_append.mp hrow with hrow | hrow
    · exact hnone hgoing row hrow
    · exact (hplain.not_marks hrow).2
  · intro hclosed
    rw [hover] at hclosed
    cases hclosed

theorem told_of_opens (hnumbered : Numbered t r log) (hmarked : Marked log) (hasked : Asked log)
    (hnone : ∀ row ∈ rows log, ¬ MarksEnd row) (hopens : Opens t r r') (hroom : HasRoom r r') :
    Told t r' (log ++ entries t r r') := by
  cases hopens with
  | failed ends => exact told_of_ends hnumbered hmarked hnone ends hroom
  | attended pid again taken adds stand settled =>
    obtain ⟨store, htaken⟩ := taken
    have hrows := adds.rows hnumbered.bounded hroom log
    have hentries : entries t r r' = [.did (.started pid), .noted pid, .wrote
        (rowOf t r.now r.store.lastOutput r.nextLine (.started, startedText again pid))] := by
      rw [adds.entries hnumbered.bounded hroom]
      simp [Entry.ofDeed, htaken, rowsOf]
    refine ⟨hnumbered.adds adds hroom, ?_, fun _ howes => absurd howes settled, ?_, ?_⟩
    · rw [hentries]
      exact hmarked.start again hasked rfl rfl
    · intro _ row hrow
      rw [hrows] at hrow
      rcases List.mem_append.mp hrow with hrow | hrow
      · exact hnone row hrow
      · rw [List.mem_singleton.mp hrow]
        intro hend
        exact absurd (text_injective (a := .started) (b := .exited) hend) (by decide)
    · intro hclosed
      rw [stand] at hclosed
      cases hclosed
  | abandoned pid refused adds stand settled =>
    obtain ⟨cause, hrefused⟩ := refused
    have hrows := adds.rows hnumbered.bounded hroom log
    have hentries : entries t r r' = [.did (.started pid), .did (.signalled pid .kill)] := by
      rw [adds.entries hnumbered.bounded hroom]
      simp [Entry.ofDeed, hrefused, rowsOf]
    refine ⟨hnumbered.adds adds hroom, ?_, fun _ howes => absurd howes settled, ?_, ?_⟩
    · rw [hentries]
      exact hmarked.append ⟨by simp, by simp⟩
    · intro _ row hrow
      rw [hrows, rowsOf, List.append_nil] at hrow
      exact hnone row hrow
    · intro hclosed
      rw [stand] at hclosed
      cases hclosed

/-- **Every passage keeps the chronicle true.** -/
theorem Told.passage (htold : Told t r log) (hpassage : Passage t r r') (hroom : HasRoom r r') :
    Told t r' (log ++ entries t r r') := by
  cases hpassage with
  | goes deeds goes => exact htold.goes goes hroom
  | ends deeds going ends =>
    exact told_of_ends htold.numbered htold.marked (htold.going going) ends hroom
  | asked pid es plain going adds stand => exact htold.asked plain going adds stand hroom
  | opens owes going opens =>
    exact told_of_opens htold.numbered htold.marked (htold.owes going owes) (htold.going going)
      opens hroom

/-- What other parties do to the store, and the time, is not part of the chronicle. -/
theorem Told.others (htold : Told t r log) (history : List Store.Operation)
    (hstore : r'.store = r.store.run history) (hnext : r'.nextLine = r.nextLine)
    (hstate : r'.state = r.state) (hstand : r'.stand = r.stand) : Told t r' log := by
  obtain ⟨⟨hbounded, hlines, hline, hascending, hbelow, hown⟩, hmarked, howes, hgoing, hended⟩ :=
    htold
  obtain ⟨hbounded', hle⟩ := bounded_run hbounded history
  refine ⟨⟨?_, hlines, hnext.trans hline, hascending, ?_, hown⟩, hmarked, ?_, ?_, ?_⟩
  · rw [hstore]
    exact hbounded'
  · intro row hrow
    rw [hstore]
    exact Int.le_trans (hbelow row hrow) hle
  · rw [hstand, Run.Owes, hstate, hstand]
    exact howes
  · rw [hstand]
    exact hgoing
  · rw [hstand]
    exact hended

variable (t)

theorem told_begin {store : Store} (hbounded : Bounded store) (now : Int) (outside : σ)
    (hroom : HasRoom (.blank store now outside)
      (startChild t h false (.blank store now outside))) :
    Told t (begin t h store now outside)
      (entries t (.blank store now outside) (startChild t h false (.blank store now outside))) := by
  have hblank : Numbered t (Run.blank store now outside) [] :=
    ⟨hbounded, rfl, rfl, List.Pairwise.nil, by simp [rows], by simp [rows]⟩
  have hstarted := told_of_opens hblank marked_nil (by simp [Asked]) (by simp [rows])
    (opens_startChild t h false (.blank store now outside)) hroom
  rw [List.nil_append] at hstarted
  unfold begin
  dsimp only
  split
  · unfold cleanUp
    cases t.options.cleanup with
    | none => exact hstarted
    | some policy =>
      exact hstarted.others [.cleanup _ policy] rfl rfl rfl rfl
  · exact hstarted

theorem Told.perform (htold : Told t r log) (moves : List Move) (hfair : ∀ m ∈ moves, m.IsFair)
    (hroomy : Roomy t h r moves) : Told t (perform t h r moves) (log ++ chronicle t h r moves) := by
  induction moves generalizing r log with
  | nil => rwa [chronicle, List.append_nil]
  | cons m moves ih =>
    obtain ⟨hroom, hroomy⟩ := hroomy
    have hstep : Told t (step t h r m)
        (log ++ if m.isOwn then entries t r (step t h r m) else []) := by
      cases hown : m.isOwn with
      | true => exact htold.passage (passage_step t h r hown) hroom
      | false =>
        rw [if_neg Bool.false_ne_true, List.append_nil]
        have hm := hfair m List.mem_cons_self
        cases m with
        | others use =>
          obtain ⟨history, rfl⟩ := hm
          exact htold.others history rfl rfl rfl rfl
        | clock now => exact htold.others [] rfl rfl rfl rfl
        | _ => cases hown
    have hall := ih hstep (fun m hm => hfair m (List.mem_cons_of_mem _ hm)) hroomy
    rw [List.append_assoc] at hall
    exact hall

/-! ## 7. The lines of a launch -/

theorem bounded_empty_run (history : List Store.Operation) : Bounded (Store.empty.run history) :=
  (bounded_run (s := .empty) (by simp [Bounded, Store.empty]) history).1

/-- **The lines of a launch are in order.** In every run in which the store takes the
wrapper's lines, they are numbered 1, 2, … in the order of the store; when the run is
over the last of them, and no other, marks the end; a child's start is marked at once
when its pid is noted, and only then, so the mark comes before all that the child
writes; and between two starts the wrapper took up a request to restart. The store may
refuse the pid of any child, the first or a later one: it was made to before the run, or
other parties make it (`Store.Operation.rejectPids`). -/
theorem lines_in_order (history : List Store.Operation) (now : Int) (outside : σ)
    (moves : List Move) (hfair : ∀ m ∈ moves, m.IsFair)
    (hfirst : HasRoom (.blank (.run .empty history) now outside)
      (startChild t h false (.blank (.run .empty history) now outside)))
    (hroomy : Roomy t h (begin t h (.run .empty history) now outside) moves) :
    let r := perform t h (begin t h (.run .empty history) now outside) moves
    let log := story t h (.run .empty history) now outside moves
    ((rows log).map (·.line) = (List.range' 1 (rows log).length).map Int.ofNat
        ∧ ((rows log).Pairwise fun a b => a.id < b.id)
        ∧ ∀ row ∈ rows log, row.launch = t.payload.launch ∧ row.key = t.key)
      ∧ (∀ result, r.stand = .ended result →
          ∃ earlier last, rows log = earlier ++ [last] ∧ MarksEnd last
            ∧ ∀ row ∈ earlier, ¬ MarksEnd row)
      ∧ ((∀ a pid b, log = a ++ .noted pid :: b →
            (∃ a', a = a' ++ [.did (.started pid)])
              ∧ ∃ again row c, b = .wrote row :: c ∧ MarksStart row
                ∧ row.content = startedText again pid)
          ∧ ∀ a row b, log = a ++ .wrote row :: b → MarksStart row →
            ∃ a' pid, a = a' ++ [.noted pid])
      ∧ ∀ a row b row' c, log = a ++ .wrote row :: (b ++ .wrote row' :: c) →
          MarksStart row → MarksStart row' → AsksRestart b := by
  intro r log
  have htold : Told t r log :=
    (told_begin t h (bounded_empty_run history) now outside hfirst).perform t h moves hfair hroomy
  obtain ⟨⟨_, hlines, _, hascending, _, hown⟩, ⟨hmarked, hnoted, hasked⟩, _, _, hended⟩ := htold
  refine ⟨⟨hlines, hascending, hown⟩, ?_, ⟨hmarked, hnoted⟩, hasked⟩
  intro result hstand
  exact hended (by rw [hstand]; rfl)

/-- Two restarts. Before the first one another party clears the service; at the second one the
store refuses the child's pid, and the line of that child is kept although no start is marked. -/
theorem lines_in_order_through_restarts :
    let history : List Store.Operation := [.create 0 ⟨"web", ⟨"/srv"⟩⟩ "serve" ⟨"/srv"⟩ none]
    let ends : List Move := [.exited (.signal .term), .closed .out, .closed .err]
    let clears : Move := .others fun s => s.run [.clear ⟨"web", ⟨"/srv"⟩⟩]
    let refuses : Move := .others fun s => s.run [.rejectPids true]
    let moves := [.wrote .out [117, 112, 10], .take, .request .restart] ++ ends
      ++ [clears, .pauseOver, .request .restart] ++ ends
      ++ [refuses, .pauseOver, .wrote .err [117, 112, 10]] ++ ends
    let log := story .plain .obliging (.run .empty history) 0 7 moves
    (rows log).map (fun row => (row.line, row.type))
        = [(1, "processStarted"), (2, "stdout"), (3, "stdout"), (4, "processStarted"),
          (5, "stdout"), (6, "stderr"), (7, "stderr"), (8, "processExited")]
      ∧ (rows log).map (·.line) = (List.range' 1 (rows log).length).map Int.ofNat
      ∧ ((rows log).Pairwise fun a b => a.id < b.id)
      ∧ ∃ earlier last, rows log = earlier ++ [last] ∧ MarksEnd last
        ∧ ∀ row ∈ earlier, ¬ MarksEnd row := by
  intro history ends clears refuses moves log
  have hends : ∀ m ∈ ends, m.IsFair := by simp [ends, Move.IsFair]
  have hclears : clears.IsFair := ⟨[.clear ⟨"web", ⟨"/srv"⟩⟩], rfl⟩
  have hrefuses : refuses.IsFair := ⟨[.rejectPids true], rfl⟩
  have hfair : ∀ m ∈ moves, m.IsFair := by
    simp only [moves, List.forall_mem_append, List.forall_mem_cons]
    exact ⟨⟨⟨⟨⟨⟨trivial, trivial, trivial, by simp⟩, hends⟩, hclears, trivial, trivial, by simp⟩,
      hends⟩, hrefuses, trivial, trivial, by simp⟩, hends⟩
  obtain ⟨⟨hlines, hascending, _⟩, hended, _⟩ := lines_in_order .plain .obliging history 0 7 moves
    hfair (by decide +kernel) (by decide +kernel)
  obtain ⟨result, hresult⟩ : ∃ result, (perform .plain .obliging
      (begin .plain .obliging (.run .empty history) 0 7) moves).stand = .ended result :=
    Stand.exists_ended (by decide +kernel)
  exact ⟨by decide +kernel, hlines, hascending, hended result hresult⟩

end Wrapper

end Overseer
