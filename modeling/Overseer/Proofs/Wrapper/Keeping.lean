/-
Overseer.Proofs.Wrapper.Keeping — what a child says on its way to the store.

What the children wrote to an output is at any time in three places: in the store, in
the queue, and in the reader of the output as the beginning of a line. `Kept` says that
these are, in this order, the lines of all that was written, one child after the other.
Every move keeps it and writes the lines that it takes from the queue, with the wrapper's
own behind them (`Kept.step`). There is one exception: an output may be given up that is
still open some time after the end of its child (`Run.givesUp`).
-/
import Overseer.Proofs.Wrapper.Reader
import Overseer.Proofs.Wrapper.Remarks

namespace Overseer.Wrapper

variable {σ : Type} (t : Task) (h : Host σ) {r r' : Run σ}

/-! ## 1. The output of a child on its way to the store -/

/-- The texts of the lines of one output. -/
def textsOf (stream : Stream) (lines : List Line) : List String :=
  (lines.filter fun line => line.stream = stream).map (·.text)

theorem textsOf_append (stream : Stream) (lines lines' : List Line) :
    textsOf stream (lines ++ lines') = textsOf stream lines ++ textsOf stream lines' := by
  simp [textsOf]

theorem textsOf_nil (stream : Stream) : textsOf stream [] = [] := rfl

theorem textsOf_map (stream stream' : Stream) (texts : List String) :
    textsOf stream' (texts.map fun text => ⟨stream, text⟩)
      = if stream' = stream then texts else [] := by
  by_cases hsame : stream' = stream
  · simp [textsOf, hsame, Function.comp_def, List.filter_map]
  · simp [textsOf, hsame, Ne.symm hsame, Function.comp_def, List.filter_map]

/-- What the reader of an output gives when the output is closed. -/
def Run.unfinished (r : Run σ) (stream : Stream) : List String :=
  ((r.reader? stream).map Reader.close).getD []

/-- There is no child, nor output of one. -/
def Stand.isIdle : Stand → Bool
  | .pausing _ | .probing .. | .ended _ => true
  | .attending _ | .abandoning .. | .draining _ => false

theorem Stand.isIdle_of_isWaiting {s : Stand} (hwaiting : s.isWaiting = true) :
    s.isIdle = true := by
  cases s with
  | pausing status => rfl
  | probing status left => rfl
  | attending pid => cases hwaiting
  | abandoning pid fault => cases hwaiting
  | draining sequel => cases hwaiting
  | ended result => cases hwaiting

/-- What the children wrote is in the store, in the queue or in a reader, and in this order:
`stored` are the lines of children in the store, and `written` is what each child wrote
to an output, latest child first. -/
structure Kept (written : Stream → List (List UInt8)) (stored : List Line) (r : Run σ) : Prop where
  lines : ∀ stream, textsOf stream stored ++ textsOf stream r.queue ++ r.unfinished stream
    = (written stream).reverse.flatMap linesOf
  held : ∀ stream reader, r.reader? stream = some reader → ∃ octets earlier,
    written stream = octets :: earlier ∧ reader = (Reader.empty.feed octets).2
  idle : r.stand.isIdle = true → r.queue = [] ∧ ∀ stream, r.reader? stream = none

variable {written : Stream → List (List UInt8)} {stored : List Line}

theorem reader?_congr (hout : r'.out = r.out) (herr : r'.err = r.err) (stream : Stream) :
    r'.reader? stream = r.reader? stream := by
  cases stream with
  | out => exact hout
  | err => exact herr

/-- Only the output counts. -/
theorem Kept.same (hk : Kept written stored r) (hout : r'.out = r.out) (herr : r'.err = r.err)
    (hqueue : r'.queue = r.queue) (hidle : r'.stand.isIdle = true → r.stand.isIdle = true) :
    Kept written stored r' := by
  have hreader := reader?_congr hout herr
  obtain ⟨hlines, hheld, hnone⟩ := hk
  refine ⟨?_, ?_, ?_⟩
  · simpa only [Run.unfinished, hreader, hqueue] using hlines
  · simpa only [hreader] using hheld
  · intro hrests
    simpa only [hreader, hqueue] using hnone (hidle hrests)

theorem Kept.writes {es : List Draft} (hk : Kept written stored r) (hw : Writes t es r r')
    (hidle : r'.stand.isIdle = true → r.stand.isIdle = true) : Kept written stored r' :=
  hk.same hw.out hw.err hw.queue hidle

/-- A line of the queue is stored. -/
theorem Kept.take (hk : Kept written stored r) {line : Line} {queue : List Line}
    (hqueue : r.queue = line :: queue) (hbusy : r.stand.isIdle = false) :
    Kept written (stored ++ [line]) { r with queue } := by
  refine ⟨fun stream => ?_, hk.held, fun hrests => ?_⟩
  · have hlines := hk.lines stream
    rw [hqueue, ← List.singleton_append, textsOf_append, ← List.append_assoc] at hlines
    rw [textsOf_append]
    exact hlines
  · have hrests : r.stand.isIdle = true := hrests
    rw [hbusy] at hrests
    cases hrests

/-- The whole queue is stored when no output is open any more. -/
theorem Kept.drained (hk : Kept written stored r) (hclosed : ∀ stream, r.reader? stream = none)
    (hout : r'.out = r.out) (herr : r'.err = r.err) (hqueue : r'.queue = []) :
    Kept written (stored ++ r.queue) r' := by
  have hreader : ∀ stream, r'.reader? stream = none := fun stream =>
    (reader?_congr hout herr stream).trans (hclosed stream)
  refine ⟨fun stream => ?_, fun stream reader hopen => ?_, fun _ => ⟨hqueue, hreader⟩⟩
  · have hlines := hk.lines stream
    rw [Run.unfinished, hclosed] at hlines
    rw [textsOf_append, hqueue, textsOf_nil, List.append_nil, Run.unfinished, hreader]
    exact hlines
  · rw [hreader] at hopen
    cases hopen

theorem reader?_setReader (r : Run σ) (stream stream' : Stream) (reader? : Option Reader) :
    (r.setReader stream reader?).reader? stream'
      = if stream' = stream then reader? else r.reader? stream' := by
  cases stream <;> cases stream' <;> rfl

/-- What an output gives when octets were heard from it: lines, while the reader goes on, or
the rest as well when it is closed. -/
structure Gives (reader : Reader) (octets : List UInt8) (texts : List String)
    (after : Option Reader) : Prop where
  goes : ∀ reader', after = some reader' → reader' = (reader.feed octets).2
  lines : texts ++ (after.map Reader.close).getD []
    = (reader.feed octets).1 ++ (reader.feed octets).2.close

/-- Octets of the child that is there are heard. -/
theorem Kept.heard (hk : Kept written stored r) {stream : Stream} {reader : Reader}
    (hopen : r.reader? stream = some reader) {latest : List UInt8} {earlier : List (List UInt8)}
    (hwritten : written stream = latest :: earlier) {octets : List UInt8} {texts : List String}
    {after : Option Reader} (hgives : Gives reader octets texts after) :
    Kept (fun s => if s = stream then (latest ++ octets) :: earlier else written s) stored
      ((r.setReader stream after).enqueue stream texts) := by
  obtain ⟨_, _, hwritten', hreader⟩ := hk.held stream reader hopen
  obtain ⟨rfl, rfl⟩ := List.cons.inj (hwritten.symm.trans hwritten')
  have hfeed : Reader.empty.feed (latest ++ octets)
      = ((Reader.empty.feed latest).1 ++ (reader.feed octets).1, (reader.feed octets).2) := by
    rw [Reader.feed_append, ← hreader]
  have hreader? : ∀ s, ((r.setReader stream after).enqueue stream texts).reader? s
      = if s = stream then after else r.reader? s := fun s =>
    (reader?_congr rfl rfl s).trans (reader?_setReader r stream s after)
  have hqueue : ((r.setReader stream after).enqueue stream texts).queue
      = r.queue ++ texts.map fun text => ⟨stream, text⟩ := by
    cases stream <;> rfl
  refine ⟨fun s => ?_, fun s reader' hopen' => ?_, fun hrests => ?_⟩
  · have hlines := hk.lines s
    rw [Run.unfinished] at hlines ⊢
    rw [hqueue, hreader?, textsOf_append, textsOf_map]
    by_cases hs : s = stream
    · subst hs
      have hlatest : linesOf latest = (Reader.empty.feed latest).1 ++ reader.close := by
        rw [hreader]
        rfl
      have hall : linesOf (latest ++ octets) = (Reader.empty.feed latest).1
          ++ (texts ++ (after.map Reader.close).getD []) := by
        rw [hgives.lines, ← List.append_assoc, linesOf, hfeed]
      rw [hopen, hwritten, List.reverse_cons, List.flatMap_append, List.flatMap_singleton, hlatest,
        ← List.append_assoc] at hlines
      have hbefore := List.append_cancel_right hlines
      simp only [if_true, List.reverse_cons, List.flatMap_append, List.flatMap_singleton, hall]
      rw [← List.append_assoc, hbefore]
      simp only [List.append_assoc]
    · simpa only [if_neg hs, List.append_nil] using hlines
  · rw [hreader?] at hopen'
    by_cases hs : s = stream
    · rw [if_pos hs] at hopen'
      exact ⟨latest ++ octets, earlier, if_pos hs, by rw [hfeed, hgives.goes reader' hopen']⟩
    · rw [if_neg hs] at hopen'
      simpa only [if_neg hs] using hk.held s reader' hopen'
  · have hrests : r.stand.isIdle = true := by
      cases stream <;> exact hrests
    rw [(hk.idle hrests).2] at hopen
    cases hopen

theorem Kept.hearEnd (hk : Kept written stored r) (stream : Stream) :
    Kept written stored (r.hearEnd stream) := by
  unfold Run.hearEnd
  cases hopen : r.reader? stream with
  | none => exact hk
  | some reader =>
    obtain ⟨latest, earlier, hwritten, _⟩ := hk.held stream reader hopen
    have hgives : Gives reader [] reader.close none := ⟨by simp, by simp [Reader.feed_nil]⟩
    have hheard := hk.heard hopen hwritten hgives
    rw [List.append_nil] at hheard
    have hsame : (fun s => if s = stream then latest :: earlier else written s) = written := by
      funext s
      by_cases hs : s = stream
      · rw [if_pos hs, hs, hwritten]
      · rw [if_neg hs]
    rwa [hsame] at hheard

/-- A child is started where there was none. -/
theorem Kept.started (hk : Kept written stored r) (hidle : r.stand.isIdle = true)
    (hout : r'.out = some .empty) (herr : r'.err = some .empty) (hqueue : r'.queue = r.queue)
    (hbusy : r'.stand.isIdle = false) :
    Kept (fun stream => [] :: written stream) stored r' := by
  obtain ⟨hempty, hnone⟩ := hk.idle hidle
  have hreader : ∀ stream, r'.reader? stream = some .empty := by
    intro stream
    cases stream with
    | out => exact hout
    | err => exact herr
  refine ⟨fun stream => ?_, fun stream reader hopen => ?_, fun hrests => ?_⟩
  · have hlines := hk.lines stream
    rw [Run.unfinished, hnone] at hlines
    rw [hqueue, Run.unfinished, hreader, List.reverse_cons, List.flatMap_append, ← hlines]
    exact (List.append_nil _).symm
  · rw [hreader] at hopen
    exact ⟨[], written stream, rfl, (Option.some.inj hopen).symm⟩
  · rw [hbusy] at hrests
    cases hrests

/-! ## 2. One move -/

/-- What the children wrote to an output when one more thing has happened, latest child first. -/
def grow (stream : Stream) (m : Move) (r r' : Run σ) (written : List (List UInt8)) :
    List (List UInt8) :=
  if r.children < r'.children then [] :: written
  else
    match m with
    | .wrote s octets =>
      if s = stream ∧ (r.reader? s).isSome then written.modifyHead (· ++ octets) else written
    | _ => written

/-- The wrapper gives up an output that is still open after the end of its child. -/
def Run.givesUp (r : Run σ) : Move → Bool
  | .drainTimeOver =>
    match r.stand with
    | .draining _ => true
    | _ => false
  | _ => false

/-- Nobody writes to an output. -/
def Move.isSilent : Move → Bool
  | .wrote .. => false
  | .closed _ | .take | .request _ | .exited _ | .drainTimeOver | .pauseOver | .lookDue | .clock _
  | .others _ => true

theorem grow_of_silent {m : Move} (hm : m.isSilent = true) (hchildren : r'.children = r.children)
    (written : Stream → List (List UInt8)) :
    (fun stream => grow stream m r r' (written stream)) = written := by
  funext stream
  have hsame : ¬ r.children < r'.children := by omega
  cases m with
  | wrote s octets => cases hm
  | _ => exact if_neg hsame

theorem grow_of_started (m : Move) (hchildren : r.children < r'.children)
    (written : Stream → List (List UInt8)) :
    (fun stream => grow stream m r r' (written stream)) = fun stream => [] :: written stream := by
  funext stream
  exact if_pos hchildren

/-- What a move comes to for the output: it stores lines of the children, and the wrapper's
own behind them. -/
def Carries (m : Move) (written : Stream → List (List UInt8)) (stored : List Line)
    (own : List Draft) (r r' : Run σ) : Prop :=
  ∃ lines, (∃ deeds, Adds t r r' deeds (lines.map Line.draft ++ own))
    ∧ Kept (fun stream => grow stream m r r' (written stream)) (stored ++ lines) r'

theorem portLines_of_isOver {m : Move} {s : Stand} (hs : s.isOver = false) :
    portLines t m s = [] ∧ closingLines s = [] := by
  cases s with
  | ended result => cases hs
  | _ => exact ⟨rfl, rfl⟩

/-- Where the wrapper stands as before, it says nothing of a start or an end. -/
theorem laterLines_of_same (m : Move) (hstand : r'.stand = r.stand)
    (hchildren : r'.children = r.children) : laterLines t m r r' = [] := by
  have hsame : ¬ r.children < r'.children := by omega
  rw [laterLines, if_neg hsame, hstand]
  cases hover : r.stand.isOver with
  | true => rfl
  | false =>
    obtain ⟨hport, hclosing⟩ := portLines_of_isOver t (m := m) hover
    rw [hport, hclosing]
    rfl

variable {t} in
/-- Only lines of the wrapper are written. -/
theorem Kept.carries {m : Move} (hk : Kept written stored r) (hm : m.isSilent = true)
    {own : List Draft} (hw : Writes t own r r')
    (hidle : r'.stand.isIdle = true → r.stand.isIdle = true) :
    Carries t m written stored own r r' := by
  refine ⟨[], hw.lines, ?_⟩
  rw [grow_of_silent hm hw.children, List.append_nil]
  exact hk.writes t hw hidle

/-- Nothing is written, and the wrapper stands where it stood. -/
theorem Kept.carries_of_same {m : Move} (hk : Kept written stored r) (hm : m.isSilent = true)
    (hw : Writes t [] r r') (hstand : r'.stand = r.stand) :
    Carries t m written stored (laterLines t m r r') r r' := by
  rw [laterLines_of_same t m hstand hw.children]
  exact hk.carries hm hw (by rw [hstand]; exact id)

/-- Nothing happens. -/
theorem Kept.carries_nothing {m : Move} (hk : Kept written stored r) (hm : m.isSilent = true) :
    Carries t m written stored (laterLines t m r r) r r :=
  hk.carries_of_same t hm (.refl t r) rfl

theorem writes_proceed (sequel : Sequel) (r : Run σ) :
    Writes t (closingLines (proceed t sequel r).stand) r (proceed t sequel r)
      ∧ (proceed t sequel r).stand.isIdle = true := by
  cases sequel with
  | failed fault => exact ⟨writes_failStart t fault r, rfl⟩
  | exited status =>
    simp only [proceed]
    split
    · exact ⟨⟨⟨[], rfl, rfl, rfl⟩, rfl, rfl, rfl, rfl⟩, rfl⟩
    · exact ⟨writes_finish t _ _ r, rfl⟩

theorem laterLines_of_same_children {m : Move} (hgoing : r.stand.isOver = false)
    (hchildren : r'.children = r.children) :
    laterLines t m r r' = portLines t m r'.stand ++ closingLines r'.stand := by
  have hsame : ¬ r.children < r'.children := by omega
  rw [laterLines, if_neg hsame, hgoing, if_neg Bool.false_ne_true]

/-- After the end of a child: all that was queued is stored when no output is open any more,
and the wrapper goes on. -/
theorem Kept.settle {m : Move} (sequel : Sequel) (hk : Kept written stored r')
    (hm : m.isSilent = true) (hport : ∀ s, portLines t m s = [])
    (hadds : ∃ deeds, Adds t r r' deeds []) (hchildren : r'.children = r.children)
    (hgoing : r.stand.isOver = false) :
    Carries t m written stored (laterLines t m r (settle t sequel r')) r (settle t sequel r') := by
  obtain ⟨deeds, hadds⟩ := hadds
  unfold Wrapper.settle
  cases hopen : r'.out.isNone && r'.err.isNone with
  | false =>
    let waits : Run σ := { r' with stand := .draining sequel }
    have hsame : waits.children = r.children := hchildren
    refine ⟨[], ⟨deeds, ?_⟩, ?_⟩
    · rw [if_neg Bool.false_ne_true, laterLines_of_same_children t hgoing hsame, hport]
      exact ⟨hadds.deeds, hadds.now, hadds.ledger⟩
    · rw [if_neg Bool.false_ne_true, grow_of_silent hm hsame, List.append_nil]
      exact hk.same rfl rfl rfl fun hrests => absurd hrests Bool.false_ne_true
  | true =>
    rw [if_pos rfl]
    have hclosed : ∀ stream, r'.reader? stream = none := by
      rw [Bool.and_eq_true, Option.isNone_iff_eq_none, Option.isNone_iff_eq_none] at hopen
      intro stream
      cases stream with
      | out => exact hopen.1
      | err => exact hopen.2
    obtain ⟨hproceed, hidle⟩ := writes_proceed t sequel
      (r'.queue.foldl (persist t) { r' with queue := [] })
    have hall := (writes_foldl_persist t r'.queue { r' with queue := [] }).trans hproceed
    obtain ⟨deeds', hlines⟩ := hall.lines
    have hsame := hall.children.trans hchildren
    refine ⟨r'.queue, ⟨deeds ++ deeds', ?_⟩, ?_⟩
    · rw [laterLines_of_same_children t hgoing hsame, hport, List.nil_append]
      exact hadds.trans ⟨hlines.deeds, hlines.now, hlines.ledger⟩
    · rw [grow_of_silent hm hsame]
      exact hk.drained hclosed hall.out hall.err hall.queue

/-- What comes of starting a child: its outputs are open, or there is none and the launch is
over. -/
inductive Begins (again : Bool) (r r' : Run σ) : Prop where
  | started (lines : ∃ deeds, Adds t r r' deeds (openingLines again r'.stand))
      (children : r'.children = r.children + 1) (out : r'.out = some .empty)
      (err : r'.err = some .empty) (queue : r'.queue = r.queue) (busy : r'.stand.isIdle = false)
  | failed (fault : Fault) (writes : Writes t (endLines (.error fault)) r r')
      (stand : r'.stand = .ended (.error fault))

theorem begins_startChild (again : Bool) (r : Run σ) :
    Begins t again r (startChild t h again r) := by
  unfold startChild
  rcases h.spawn t.order r.outside with ⟨cause | pid, outside⟩
  · have hfailed := writes_failStart t (.startFailed (.command t.payload.command.display cause))
      { r with outside, state := .starting }
    obtain ⟨deeds, hlines⟩ := hfailed.lines
    exact .failed _ ⟨⟨deeds, hlines.deeds, hlines.now, hlines.ledger⟩, hfailed.children,
      hfailed.out, hfailed.err, hfailed.queue⟩ rfl
  · let born : Run σ := Run.note (.started pid)
      { r with outside, state := .starting, out := some .empty, err := some .empty }
    have hborn : born.children = r.children + 1 := List.countP_cons_of_pos rfl
    simp only
    split
    next cause hupdate =>
      have hkill := writes_signalChild t h pid .kill born
      have hadds := adds_signalChild t h pid .kill born
      have hmore := hkill.children.trans hborn
      refine .started ⟨[.started pid, .signalled pid .kill], hadds.deeds.trans ?_, hadds.now,
        hadds.ledger⟩ hmore hkill.out hkill.err hkill.queue rfl
      rfl
    next store hupdate =>
      obtain ⟨houtput, hlast⟩ := Store.updatePid_output hupdate
      refine .started ⟨[.started pid], rfl, rfl, ?_⟩ hborn rfl rfl rfl rfl
      refine (ledger_append t .started (startedText again pid) _).trans ?_
      simp only [Run.ledger, List.foldl_cons, List.foldl_nil, Run.note, houtput, hlast,
        openingLines]

variable {t} in
theorem Begins.lines {again : Bool} (hbegins : Begins t again r r') :
    ∃ deeds, Adds t r r' deeds (openingLines again r'.stand) := by
  cases hbegins with
  | started lines children out err queue busy => exact lines
  | failed fault writes stand =>
    rw [stand]
    exact writes.lines

/-- A child is started again, or the launch is over because there is none. -/
theorem Kept.begins {m : Move} (hk : Kept written stored r) (hm : m.isSilent = true)
    (hwaiting : r.stand.isWaiting = true) (hbegins : Begins t true r r') :
    Carries t m written stored (laterLines t m r r') r r' := by
  have hidle := Stand.isIdle_of_isWaiting hwaiting
  have hgoing := Stand.isOver_of_isWaiting hwaiting
  cases hbegins with
  | started lines children out err queue busy =>
    have hmore : r.children < r'.children := by omega
    refine ⟨[], ?_, ?_⟩
    · rw [laterLines, if_pos hmore]
      exact lines
    · rw [grow_of_started m hmore, List.append_nil]
      exact hk.started hidle out err queue busy
  | failed fault writes stand =>
    have hlater : laterLines t m r r' = endLines (.error fault) := by
      rw [laterLines_of_same_children t hgoing writes.children, stand]
      rfl
    rw [hlater]
    exact hk.carries hm writes fun _ => hidle

variable {t} in
/-- A child is started by a wrapper that has asked the system for the port before. -/
theorem Begins.of_outside {again : Bool} {outside : σ}
    (hbegins : Begins t again { r with outside } r') : Begins t again r r' := by
  cases hbegins with
  | started lines children out err queue busy =>
    obtain ⟨deeds, hlines⟩ := lines
    exact .started ⟨deeds, hlines.deeds, hlines.now, hlines.ledger⟩ children out err queue busy
  | failed fault writes stand =>
    obtain ⟨deeds, hlines⟩ := writes.lines
    exact .failed fault ⟨⟨deeds, hlines.deeds, hlines.now, hlines.ledger⟩, writes.children,
      writes.out, writes.err, writes.queue⟩ stand

theorem Kept.probePort {m : Move} (hk : Kept written stored r) {port : Nat}
    (hm : m = .pauseOver ∨ m = .lookDue) (hport : t.payload.port = some port)
    (status : ExitStatus) (left : Nat) (hwaiting : r.stand.isWaiting = true) :
    Carries t m written stored (laterLines t m r (probePort t h port status left r)) r
      (probePort t h port status left r) := by
  have hsilent : m.isSilent = true := by
    rcases hm with rfl | rfl <;> rfl
  have hidle := Stand.isIdle_of_isWaiting hwaiting
  have hgoing := Stand.isOver_of_isWaiting hwaiting
  unfold Wrapper.probePort
  rcases h.portIsFree port r.outside with ⟨_ | _, outside⟩
  · cases left with
    | zero =>
      let text := s!"Port {port} still in use, restart abandoned"
      have hw : Writes t ([(.stderr, text)] ++ endLines (.ok status.number)) r
          (finish t status.number (.ok status.number)
            (append t .stderr text { r with outside })) := by
        have hsaid : Writes t [(.stderr, text)] r (append t .stderr text { r with outside }) :=
          ⟨⟨[], rfl, rfl, ledger_append t .stderr text { r with outside }⟩, rfl, rfl, rfl, rfl⟩
        exact hsaid.trans (writes_finish t _ _ _)
      have hlater : laterLines t m r
          (finish t status.number (.ok status.number) (append t .stderr text { r with outside }))
            = [(.stderr, text)] ++ endLines (.ok status.number) := by
        rw [laterLines_of_same_children t hgoing hw.children]
        rcases hm with rfl | rfl <;> simp [finish, portLines, hport, closingLines, text]
      simp only
      rw [hlater]
      exact hk.carries hsilent hw fun _ => hidle
    | succ left =>
      have hw : Writes t [] r { r with outside, stand := .probing status left } :=
        ⟨⟨[], rfl, rfl, rfl⟩, rfl, rfl, rfl, rfl⟩
      have hlater : laterLines t m r { r with outside, stand := .probing status left } = [] :=
        laterLines_of_same_children t hgoing rfl
      simp only
      rw [hlater]
      exact hk.carries hsilent hw fun _ => hidle
  · exact hk.begins t hsilent hwaiting (begins_startChild t h true { r with outside }).of_outside

theorem Kept.endPause (hk : Kept written stored r) (status : ExitStatus)
    (hwaiting : r.stand.isWaiting = true) :
    Carries t .pauseOver written stored (laterLines t .pauseOver r (endPause t h status r)) r
      (endPause t h status r) := by
  unfold Wrapper.endPause
  cases hport : t.payload.port with
  | none => exact hk.begins t rfl hwaiting (begins_startChild t h true r)
  | some port => exact hk.probePort t h (Or.inl rfl) hport status _ hwaiting

theorem stand_requestRestart (pid : Nat) (r : Run σ) :
    (requestRestart t h pid r).stand = r.stand := by
  unfold requestRestart
  split
  · have hsame := (signalled_signalChild h pid .term
      { append t .stdout "Restart signal received" r with state := .restarting }).stand
    simp only
    rcases hanswer : signalChild h pid .term
      { append t .stdout "Restart signal received" r with state := .restarting }
        with ⟨_ | fault, r'⟩
    · rw [hanswer] at hsame
      exact hsame
    · rw [hanswer] at hsame
      exact hsame
  · rfl

theorem stand_requestShutdown (pid : Nat) (r : Run σ) :
    (requestShutdown h pid r).stand = r.stand := by
  unfold requestShutdown
  split
  · simp only
    split
    · rfl
    · exact (signalled_signalChild h pid .term { r with state := .shuttingDown }).stand
  · rfl

/-- A request to shut down ends the wait for a restart. -/
theorem Kept.callOff {control : Control} (hk : Kept written stored r) (code : Int)
    (hwaiting : r.stand.isWaiting = true) :
    let r' := finish t code (.ok code) { r.note (.heard control) with state := .shuttingDown }
    Carries t (.request control) written stored (laterLines t (.request control) r r') r r' := by
  intro r'
  have hheard : Writes t [] r { r.note (.heard control) with state := .shuttingDown } :=
    ⟨⟨[.heard control], rfl, rfl, rfl⟩, rfl, rfl, rfl, rfl⟩
  have hw : Writes t (endLines (.ok code)) r r' := hheard.trans (writes_finish t code (.ok code) _)
  have hlater : laterLines t (.request control) r r' = endLines (.ok code) :=
    laterLines_of_same_children t (Stand.isOver_of_isWaiting hwaiting) hw.children
  rw [hlater]
  exact hk.carries rfl hw fun _ => Stand.isIdle_of_isWaiting hwaiting

theorem Kept.takeRequest (hk : Kept written stored r) (control : Control) :
    Carries t (.request control) written stored (ownLines t h r (.request control)) r
      (takeRequest t h control r) := by
  have hheard := writes_heard t control r
  cases hstand : r.stand with
  | attending pid =>
    cases control with
    | restart =>
      have hasked := hheard.trans (writes_requestRestart t h (r := r.note (.heard .restart)) hstand)
      have hstays : (requestRestart t h pid (r.note (.heard .restart))).stand = r.stand :=
        stand_requestRestart t h pid _
      have hlater := laterLines_of_same t (.request .restart) hstays hasked.children
      simp only [ownLines, step, Wrapper.takeRequest, hstand, hlater, List.append_nil]
      exact hk.carries rfl hasked (by rw [hstays]; exact id)
    | shutdown =>
      have hasked := hheard.trans (writes_requestShutdown t h pid (r.note (.heard .shutdown)))
      have hstays := stand_requestShutdown h pid (r.note (.heard .shutdown))
      simp only [ownLines, step, Wrapper.takeRequest, hstand, List.nil_append]
      exact hk.carries_of_same t rfl hasked hstays
  | pausing status =>
    cases control with
    | restart =>
      simp only [ownLines, step, Wrapper.takeRequest, askLines, hstand, List.nil_append]
      exact hk.carries_of_same t rfl hheard rfl
    | shutdown =>
      simp only [ownLines, step, Wrapper.takeRequest, hstand, List.nil_append]
      exact hk.callOff t status.number (by rw [hstand]; rfl)
  | probing status left =>
    cases control with
    | restart =>
      simp only [ownLines, step, Wrapper.takeRequest, askLines, hstand, List.nil_append]
      exact hk.carries_of_same t rfl hheard rfl
    | shutdown =>
      simp only [ownLines, step, Wrapper.takeRequest, hstand, List.nil_append]
      exact hk.callOff t status.number (by rw [hstand]; rfl)
  | _ =>
    cases control <;>
    · simp only [ownLines, step, Wrapper.takeRequest, askLines, hstand, List.nil_append]
      exact hk.carries_nothing t rfl

theorem children_congr (hdeeds : r'.deeds = r.deeds) : r'.children = r.children := by
  rw [Run.children, hdeeds, Run.children]

theorem Kept.hear (hk : Kept written stored r) (stream : Stream) (octets : List UInt8) :
    Carries t (.wrote stream octets) written stored
      (laterLines t (.wrote stream octets) r (r.hear stream octets)) r (r.hear stream octets) := by
  have hhears := hears_hear r stream octets
  have hchildren := children_congr hhears.quiet.deeds
  have hnone : ¬ r.children < (r.hear stream octets).children := by omega
  rw [laterLines_of_same t _ hhears.quiet.stand hchildren]
  refine ⟨[], ⟨[], hhears.quiet.deeds, hhears.now, hhears.ledger⟩, ?_⟩
  rw [List.append_nil]
  simp only [grow, if_neg hnone]
  unfold Run.hear
  cases hopen : r.reader? stream with
  | none => simpa using hk
  | some reader =>
    obtain ⟨latest, earlier, hwritten, _⟩ := hk.held stream reader hopen
    have hgives : Gives reader octets (reader.feed octets).1 (some (reader.feed octets).2) :=
      ⟨fun _ hafter => (Option.some.inj hafter).symm, rfl⟩
    have hheard := hk.heard hopen hwritten hgives
    have hgrown : (fun s => if stream = s ∧ (some reader).isSome = true
          then (written s).modifyHead (· ++ octets) else written s)
        = fun s => if s = stream then (latest ++ octets) :: earlier else written s := by
      funext s
      by_cases hs : s = stream
      · simp [hs, hwritten]
      · simp [hs, Ne.symm hs]
    rw [hgrown]
    exact hheard

theorem Kept.close (hk : Kept written stored r) (stream : Stream) :
    Carries t (.closed stream) written stored
      (laterLines t (.closed stream) r (settleIfDraining t (r.hearEnd stream))) r
      (settleIfDraining t (r.hearEnd stream)) := by
  have hhears := hears_hearEnd r stream
  have hchildren := children_congr hhears.quiet.deeds
  have hadds : Adds t r (r.hearEnd stream) [] [] :=
    ⟨hhears.quiet.deeds, hhears.now, hhears.ledger⟩
  have hclosed := hk.hearEnd stream
  unfold settleIfDraining
  split
  next sequel hstand =>
    have hgoing : r.stand.isOver = false := by
      rw [← hhears.quiet.stand, hstand]
      rfl
    refine hclosed.settle t sequel rfl (fun s => ?_) ⟨[], hadds⟩ hchildren hgoing
    cases s with
    | ended result => cases result <;> rfl
    | _ => rfl
  next =>
    rw [laterLines_of_same t _ hhears.quiet.stand hchildren]
    refine ⟨[], ⟨[], hadds⟩, ?_⟩
    rw [grow_of_silent rfl hchildren, List.append_nil]
    exact hclosed

theorem Kept.takeExit (hk : Kept written stored r) (status : ExitStatus) :
    Carries t (.exited status) written stored
      (laterLines t (.exited status) r (takeExit t status r)) r (takeExit t status r) := by
  have hreaped : ∀ pid sequel, r.stand.isOver = false → Carries t (.exited status) written stored
      (laterLines t (.exited status) r (Wrapper.settle t sequel (r.note (.reaped pid)))) r
      (Wrapper.settle t sequel (r.note (.reaped pid))) := by
    intro pid sequel hgoing
    have hnoted : Kept written stored (r.note (.reaped pid)) := hk.same rfl rfl rfl id
    refine hnoted.settle t sequel rfl (fun s => ?_) ⟨[.reaped pid], rfl, rfl, rfl⟩ rfl hgoing
    cases s with
    | ended result => cases result <;> rfl
    | _ => rfl
  unfold Wrapper.takeExit
  split
  next pid hstand => exact hreaped pid _ (by rw [hstand]; rfl)
  next pid fault hstand => exact hreaped pid _ (by rw [hstand]; rfl)
  next => exact hk.carries_nothing t rfl

/-- **Every move of a wrapper's own keeps the output**, unless an output is given up that is
still open. -/
theorem Kept.step (hk : Kept written stored r) {m : Move} (hown : m.isOwn = true)
    (hkeeps : r.givesUp m = false) :
    Carries t m written stored (ownLines t h r m) r (step t h r m) := by
  cases m with
  | wrote stream octets => exact hk.hear t stream octets
  | closed stream => exact hk.close t stream
  | take =>
    simp only [ownLines, Wrapper.step, List.nil_append]
    split
    next pid line queue hstand hqueue =>
      have hw := writes_persist t line { r with queue }
      obtain ⟨deeds, hlines⟩ := hw.lines
      have hstays : (persist t { r with queue } line).stand = r.stand :=
        (quiet_persist t { r with queue } line).stand
      have hbusy : r.stand.isIdle = false := by rw [hstand]; rfl
      rw [laterLines_of_same t _ hstays hw.children]
      refine ⟨[line], ⟨deeds, hlines.deeds, hlines.now, hlines.ledger⟩, ?_⟩
      have hchildren : (persist t { r with queue } line).children = r.children := hw.children
      rw [grow_of_silent rfl hchildren]
      exact (hk.take hqueue hbusy).writes t hw (by rw [hstays]; exact id)
    next => exact hk.carries_nothing t rfl
  | request control => exact hk.takeRequest t h control
  | exited status => exact hk.takeExit t status
  | drainTimeOver =>
    simp only [ownLines, Wrapper.step, List.nil_append]
    split
    next sequel hstand =>
      rw [Run.givesUp, hstand] at hkeeps
      cases hkeeps
    next => exact hk.carries_nothing t rfl
  | pauseOver =>
    simp only [ownLines, Wrapper.step, List.nil_append]
    split
    next status hstand => exact hk.endPause t h status (by rw [hstand]; rfl)
    next => exact hk.carries_nothing t rfl
  | lookDue =>
    simp only [ownLines, Wrapper.step, List.nil_append]
    split
    next status left port hstand hport =>
      exact hk.probePort t h (Or.inr rfl) hport status left (by rw [hstand]; rfl)
    next => exact hk.carries_nothing t rfl
  | clock now => cases hown
  | others use => cases hown

end Overseer.Wrapper
