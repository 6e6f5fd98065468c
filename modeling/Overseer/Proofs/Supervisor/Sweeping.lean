/-
Overseer.Proofs.Supervisor.Sweeping — what a sweep ends, and what it leaves.

A sweep lists the running launches and then visits them one after the other,
while other parties create, stop and delete launches. `sweep_ends_dead` follows
it through its visits. Whoever is alive when asked is left alone. Whoever is not
is marked, and the mark is guarded: it takes effect only on a launch that runs
then. The answer is the launches on which it did, as they were listed.

What a sweep has ended stays ended, but need not stay in the store: retention may
delete it before the sweep is over (`sweep_answers_deleted`).

When nobody else acts and the answers about processes stay the same, one sweep
is enough: what runs afterwards is alive, and a second sweep finds nothing.
-/
import Overseer.Proofs.Supervisor.Crowd
import Overseer.Proofs.Supervisor.Killing

namespace Overseer

namespace Store

/-! ## 1. Running launches and marks -/

variable {s : Store}

theorem filter_active_ended (rows : List LaunchRow) (now id code : Int) :
    (rows.map fun r => if r.id = id then r.endedWith now code else r).filter (·.isActive)
      = (rows.filter (·.isActive)).filter (·.id != id) := by
  induction rows with
  | nil => rfl
  | cons r rows ih =>
    rw [List.map_cons, List.filter_cons, List.filter_cons, ih]
    by_cases hid : r.id = id
    · cases hactive : r.isActive <;> simp [hid]
    · cases hactive : r.isActive <;> simp [hid, hactive]

/-- A mark takes the launch out of those that run. -/
theorem running_markExited (s : Store) (now id code : Int) :
    (s.markExited now id code).2.running none = (s.running none).filter (·.id != id) := by
  have hrecords (rows : List LaunchRow) :
      (rows.filter (·.id != id)).reverse.map (·.record)
        = (rows.reverse.map (·.record)).filter (·.id != id) := by
    rw [List.filter_map, List.filter_reverse]
    rfl
  rw [running_none, running_none, ← hrecords]
  congr 2
  by_cases hran : ∃ r ∈ s.launches, r.id = id ∧ r.isActive = true
  · rw [markExited_of_active hran]
    exact filter_active_ended s.launches now id code
  · rw [markExited_of_not_active hran]
    refine (List.filter_eq_self.mpr fun r hr => ?_).symm
    obtain ⟨hr, hactive⟩ := List.mem_filter.mp hr
    exact bne_iff_ne.mpr fun hid => hran ⟨r, hr, hid, hactive⟩

theorem mem_running_of_project {project? : Option Path} {r : ProcessRecord}
    (h : r ∈ s.running project?) : r ∈ s.running none := by
  obtain ⟨row, hrow, rfl⟩ := List.mem_map.mp h
  obtain ⟨hmem, hactive⟩ := List.mem_filter.mp (List.mem_reverse.mp hrow)
  exact mem_running_none.mpr ⟨row, hmem, (Bool.and_eq_true_iff.mp hactive).1, rfl⟩

theorem mem_running_of_active? {key : ServiceKey} {r : ProcessRecord}
    (h : s.active? key = some r) : r ∈ s.running none := by
  obtain ⟨row, hfind, rfl⟩ := Option.map_eq_some_iff.mp h
  have hactive := List.find?_some hfind
  exact mem_running_none.mpr ⟨row, List.mem_of_find?_eq_some hfind,
    (Bool.and_eq_true_iff.mp hactive).1, rfl⟩

/-- A mark takes effect on a launch that runs. -/
theorem markExited_takes_iff (s : Store) (now id code : Int) :
    (s.markExited now id code).1 = true ↔ ∃ r ∈ s.launches, r.id = id ∧ r.isActive = true := by
  by_cases hran : ∃ r ∈ s.launches, r.id = id ∧ r.isActive = true
  · rw [markExited_of_active hran]
    exact iff_of_true rfl hran
  · rw [markExited_of_not_active hran]
    exact iff_of_false Bool.false_ne_true hran

end Store

namespace Supervisor

open Store (Numbered Operation)

variable {σ : Type} {p : Platform σ} {settings : Settings} {w : World σ} {r : ProcessRecord}

/-! ## 2. One visit -/

/-- Asks whether a launch is alive and marks it if it is not; tells whether that
took effect. -/
def visit (p : Platform σ) (settings : Settings) (r : ProcessRecord) : Act σ Bool := do
  if ← isRecordAlive p settings r then return false
  markExited p r.id Store.foundDead

/-- The answer to the question of a visit, and the world then. -/
def asked (p : Platform σ) (settings : Settings) (r : ProcessRecord) (w : World σ) :
    Bool × World σ :=
  (isRecordAlive p settings r).run w

/-- The world as the mark of a visit finds it, or as it is left if there is none. -/
def found (p : Platform σ) (settings : Settings) (r : ProcessRecord) (w : World σ) : World σ :=
  if (asked p settings r w).1 then (asked p settings r w).2
  else (p.others.run (asked p settings r w).2).2

theorem visit_eq (p : Platform σ) (settings : Settings) (r : ProcessRecord) (w : World σ) :
    (visit p settings r).run.run w
      = if (asked p settings r w).1 then (.ok false, (asked p settings r w).2)
        else (markExited p r.id Store.foundDead).run.run (asked p settings r w).2 := by
  have hrun : (visit p settings r).run.run w
      = ((if (asked p settings r w).1 then return false
        else markExited p r.id Store.foundDead : Act σ Bool).run).run
          (asked p settings r w).2 := rfl
  rw [hrun]
  cases (asked p settings r w).1 <;> rfl

theorem visit_alive (h : (asked p settings r w).1 = true) :
    (visit p settings r).run.run w = (.ok false, found p settings r w) := by
  rw [visit_eq, if_pos h, found, if_pos h]

theorem visit_dead (h : (asked p settings r w).1 = false) :
    (visit p settings r).run.run w
      = let mark := (found p settings r w).store.markExited (asked p settings r w).2.now r.id
          Store.foundDead
        (.ok mark.1, { found p settings r w with store := mark.2 }) := by
  rw [visit_eq, if_neg (by simp [h]), found, if_neg (by simp [h])]
  rfl

theorem sweepEach_cons (r : ProcessRecord) (rest : List ProcessRecord) :
    sweepEach p settings (r :: rest) = do
      let took ← visit p settings r
      let swept ← sweepEach p settings rest
      return if took then r :: swept else swept := by
  rw [sweepEach, visit, bind_assoc]
  refine bind_congr fun alive => ?_
  cases alive with
  | true => simp
  | false => simp

theorem visit_ok (p : Platform σ) (settings : Settings) (r : ProcessRecord) (w : World σ) :
    ∃ took left, (visit p settings r).run.run w = (.ok took, left) := by
  cases h : (asked p settings r w).1 with
  | true => exact ⟨_, _, visit_alive h⟩
  | false => exact ⟨_, _, visit_dead h⟩

theorem sweepEach_cons_run {took : Bool} {left after : World σ} {rest swept : List ProcessRecord}
    (hvisit : (visit p settings r).run.run w = (.ok took, left))
    (hrest : (sweepEach p settings rest).run.run left = (.ok swept, after)) :
    (sweepEach p settings (r :: rest)).run.run w
      = (.ok (if took then r :: swept else swept), after) := by
  rw [sweepEach_cons, run_bind_of_ok hvisit, run_bind_of_ok hrest]
  rfl

/-- A sweep does not fail, and answers with some of the launches it visits. -/
theorem sweepEach_ok (p : Platform σ) (settings : Settings) (records : List ProcessRecord)
    (w : World σ) :
    ∃ swept after, (sweepEach p settings records).run.run w = (.ok swept, after)
      ∧ swept.Sublist records := by
  induction records generalizing w with
  | nil => exact ⟨[], w, rfl, .slnil⟩
  | cons r rest ih =>
    obtain ⟨took, left, hvisit⟩ := visit_ok p settings r w
    obtain ⟨swept, after, hrest, hsub⟩ := ih left
    refine ⟨_, after, sweepEach_cons_run hvisit hrest, ?_⟩
    cases took with
    | true => exact hsub.cons_cons r
    | false => exact hsub.cons r

/-- Visits are made one after the other. -/
theorem sweepEach_append {before later first second : List ProcessRecord} {mid after : World σ}
    (hfirst : (sweepEach p settings before).run.run w = (.ok first, mid))
    (hsecond : (sweepEach p settings later).run.run mid = (.ok second, after)) :
    (sweepEach p settings (before ++ later)).run.run w = (.ok (first ++ second), after) := by
  induction before generalizing w first with
  | nil =>
    obtain ⟨hnone, rfl⟩ := Prod.mk.inj hfirst
    obtain rfl := Except.ok.inj hnone
    exact hsecond
  | cons r rest ih =>
    obtain ⟨took, left, hvisit⟩ := visit_ok p settings r w
    obtain ⟨swept, between, hrest, _⟩ := sweepEach_ok p settings rest left
    rw [sweepEach_cons_run hvisit hrest] at hfirst
    obtain ⟨hanswer, rfl⟩ := Prod.mk.inj hfirst
    obtain rfl := Except.ok.inj hanswer
    rw [List.cons_append, sweepEach_cons_run hvisit (ih hrest)]
    cases took <;> rfl

/-- What one visit comes to. Whoever is alive is left alone, and so is who has ended
or is gone when the mark comes. A mark that takes effect ends a launch that runs
then, and touches no other. -/
inductive Visited (p : Platform σ) (settings : Settings) (r : ProcessRecord) (w : World σ) :
    Bool → World σ → Prop where
  | spared (alive : (asked p settings r w).1 = true) :
    Visited p settings r w false (found p settings r w)
  | missed (dead : (asked p settings r w).1 = false)
      (idle : ∀ row ∈ (found p settings r w).store.launches, row.id = r.id → row.isActive = false) :
    Visited p settings r w false (found p settings r w)
  | ended (dead : (asked p settings r w).1 = false) (was : ProcessRecord) (store : Store)
      (held : (found p settings r w).store.launch? r.id = some was) (ran : was.running = true)
      (marked : store.launch? r.id = some { was with
        running := false, finish := some (asked p settings r w).2.now
        exitCode := some Store.foundDead })
      (others : store.launches.filter (·.id != r.id)
        = (found p settings r w).store.launches.filter (·.id != r.id))
      (rest : store = { (found p settings r w).store with launches := store.launches }) :
    Visited p settings r w true { found p settings r w with store }

theorem visited (hs : Numbered (found p settings r w).store) {took : Bool} {left : World σ}
    (hvisit : (visit p settings r).run.run w = (.ok took, left)) :
    Visited p settings r w took left := by
  cases hasked : (asked p settings r w).1 with
  | true =>
    rw [visit_alive hasked] at hvisit
    obtain ⟨htook, rfl⟩ := Prod.mk.inj hvisit
    obtain rfl := Except.ok.inj htook
    exact .spared hasked
  | false =>
    rw [visit_dead hasked] at hvisit
    obtain ⟨htook, rfl⟩ := Prod.mk.inj hvisit
    obtain rfl := Except.ok.inj htook
    by_cases hran : ∃ row ∈ (found p settings r w).store.launches,
        row.id = r.id ∧ row.isActive = true
    · obtain ⟨row, hrow, hid, hactive⟩ := hran
      have hmark := Store.launch?_markExited hs.order hrow hactive
        (asked p settings r w).2.now Store.foundDead
      rw [hid] at hmark
      rw [(Store.markExited_takes_iff _ _ _ _).mpr ⟨row, hrow, hid, hactive⟩]
      refine .ended hasked row.record _ ?_ (LaunchRow.running_record_of_isActive hactive) hmark
        (Store.filter_markExited_others _ _ _ _)
        (Store.markExited_rest _ _ _ _)
      rw [Store.launch?, ← hid, Store.find?_of_inOrder hs.order hrow, Option.map_some]
    · rw [Store.markExited_of_not_active hran]
      refine .missed hasked fun row hrow hid => Bool.eq_false_iff.mpr fun hactive => ?_
      exact hran ⟨row, hrow, hid, hactive⟩

/-! ## 3. Among others -/

section

variable (hp : p.Within fun w w' => Follows w' w)
include hp

theorem follows_sweepEach (records : List ProcessRecord) (w : World σ) :
    Follows ((sweepEach p settings records).run.run w).2 w :=
  ((frame_follows hp w).sweepEach fun _ _ _ => trivial).asks w (.refl w)

theorem follows_found (r : ProcessRecord) (w : World σ) : Follows (found p settings r w) w := by
  have hasked : Follows (asked p settings r w).2 w :=
    (frame_follows hp w).isRecordAlive r w (.refl w)
  unfold found
  split
  · exact hasked
  · exact Trans.trans (hp.others _) hasked

end

/-- What a visit leaves follows what its mark finds. -/
theorem follows_visit {took : Bool} {left : World σ}
    (hvisit : (visit p settings r).run.run w = (.ok took, left)) :
    Follows left (found p settings r w) := by
  cases hasked : (asked p settings r w).1 with
  | true =>
    rw [visit_alive hasked] at hvisit
    obtain ⟨_, rfl⟩ := Prod.mk.inj hvisit
    exact .refl _
  | false =>
    rw [visit_dead hasked] at hvisit
    obtain ⟨_, rfl⟩ := Prod.mk.inj hvisit
    exact ⟨[.markExited (asked p settings r w).2.now r.id Store.foundDead], rfl⟩

/-- The later store is the earlier one after some operations, none of them a pass
of retention. -/
def FollowsUncleaned (later earlier : World σ) : Prop :=
  ∃ deeds : List Operation, (∀ op ∈ deeds, op.isCleanup = false)
    ∧ later.store = earlier.store.run deeds

/-- What a sweep comes to when others act. Each launch that ran has its visit, by
rising numbers, and the answer are those whose mark took effect, as they were
listed. Such a launch has ended and has the code of those found dead, as long as
retention leaves it. A launch that has ended when its mark comes keeps its end. No
visit touches another launch, and none is for one that was begun after the listing. -/
structure Sweeps (p : Platform σ) (settings : Settings) (listing : World σ)
    (swept : List ProcessRecord) (after : World σ) : Prop where
  rising : (listing.store.running none).Pairwise fun r later => r.id < later.id
  known : ∀ r ∈ listing.store.running none, r.id ≤ listing.store.lastLaunch
  listed : swept.Sublist (listing.store.running none)
  visits : ∀ before r later, listing.store.running none = before ++ r :: later →
    let come := ((sweepEach p settings before).run.run listing).2
    ∃ took, (r ∈ swept ↔ took = true)
      ∧ Visited p settings r come took ((sweepEach p settings (before ++ [r])).run.run listing).2
  untouched : ∀ before r later, listing.store.running none = before ++ r :: later →
    let come := ((sweepEach p settings before).run.run listing).2
    let left := ((sweepEach p settings (before ++ [r])).run.run listing).2
    ∀ id, id ≠ r.id → left.store.launch? id = (found p settings r come).store.launch? id
  overtaken : ∀ before r later, listing.store.running none = before ++ r :: later →
    let come := ((sweepEach p settings before).run.run listing).2
    ∀ ended, (found p settings r come).store.launch? r.id = some ended → ended.running = false →
      r ∉ swept ∧ ∀ r', after.store.launch? r.id = some r' →
        r'.running = false ∧ r'.finish = ended.finish ∧ r'.exitCode = ended.exitCode
  stopped : ∀ r ∈ swept, ∀ r', after.store.launch? r.id = some r' →
    r'.running = false ∧ r'.exitCode = some Store.foundDead
  kept : p.Within (fun w w' => FollowsUncleaned w' w) → ∀ r ∈ swept,
    ∃ r', after.store.launch? r.id = some r'

/-- Without retention no launch leaves the store. -/
theorem frame_held (hp : p.Within fun w w' => FollowsUncleaned w' w) (id : Int) :
    Frame p (fun w => ∃ row ∈ w.store.launches, row.id = id) (fun _ => True)
      fun op => op.isCleanup = false where
  platform := hp.mono fun w w' ⟨deeds, hclean, hdeeds⟩ hheld => by
    rw [hdeeds]
    exact Store.exists_row_run hclean hheld
  checked _ _ := trivial
  note _ _ _ h := h
  write op hop w h := by
    have hclean : ∀ o ∈ [op], o.isCleanup = false := List.forall_mem_singleton.mpr hop
    exact Store.exists_row_run hclean h

theorem Visited.of_took {left : World σ} (h : Visited p settings r w true left) :
    ∃ was, (found p settings r w).store.launch? r.id = some was ∧ was.running = true
      ∧ left.store.launch? r.id = some { was with
        running := false, finish := some (asked p settings r w).2.now
        exitCode := some Store.foundDead } := by
  cases h with
  | ended dead was store held ran marked others rest => exact ⟨was, held, ran, marked⟩

/-- A visit leaves all other launches as it finds them. -/
theorem Visited.launch?_eq {took : Bool} {left : World σ} {id : Int}
    (h : Visited p settings r w took left) (hid : id ≠ r.id) :
    left.store.launch? id = (found p settings r w).store.launch? id := by
  cases h with
  | spared alive => rfl
  | missed dead idle => rfl
  | ended dead was store held ran marked others rest =>
    exact Store.launch?_of_filter others fun row hrow => bne_iff_ne.mpr (hrow ▸ hid)

/-- A launch of the list is visited between those before it and those after it. -/
theorem visited_of_split (hp : p.Within fun w w' => Follows w' w) {listing after : World σ}
    (hs : Numbered listing.store) {before later swept : List ProcessRecord}
    (hrising : (before ++ r :: later).Pairwise fun r later => r.id < later.id)
    (hrun : (sweepEach p settings (before ++ r :: later)).run.run listing = (.ok swept, after)) :
    let come := ((sweepEach p settings before).run.run listing).2
    let left := ((sweepEach p settings (before ++ [r])).run.run listing).2
    ∃ took, (r ∈ swept ↔ took = true) ∧ Visited p settings r come took left
      ∧ Numbered (found p settings r come).store ∧ Follows left (found p settings r come)
      ∧ after = ((sweepEach p settings later).run.run left).2 := by
  intro come left
  obtain ⟨first, mid, hfirst, hbefore⟩ := sweepEach_ok p settings before listing
  obtain ⟨took, gone, hvisit⟩ := visit_ok p settings r mid
  obtain ⟨second, final, hsecond, hlater⟩ := sweepEach_ok p settings later gone
  have hcome : come = mid := congrArg Prod.snd hfirst
  have hone : (sweepEach p settings [r]).run.run mid = (.ok (if took then [r] else []), gone) :=
    sweepEach_cons_run hvisit rfl
  have hleft : left = gone := congrArg Prod.snd (sweepEach_append hfirst hone)
  have hwhole := sweepEach_append hfirst (sweepEach_cons_run hvisit hsecond)
  rw [hrun] at hwhole
  obtain ⟨hanswer, rfl⟩ := Prod.mk.inj hwhole
  obtain rfl := Except.ok.inj hanswer
  rw [hcome, hleft]
  have hmid : Follows mid listing := hcome ▸ follows_sweepEach hp before listing
  have hfound : Numbered (found p settings r mid).store :=
    (follows_found hp r mid).numbered (hmid.numbered hs)
  refine ⟨took, ?_, visited hfound hvisit, hfound, follows_visit hvisit,
    (congrArg Prod.snd hsecond).symm⟩
  · obtain ⟨_, hrest, hacross⟩ := List.pairwise_append.mp hrising
    have hnotFirst : r ∉ first := fun hr =>
      Int.lt_irrefl _ (hacross r (hbefore.subset hr) r List.mem_cons_self)
    have hnotSecond : r ∉ second := fun hr =>
      Int.lt_irrefl _ ((List.pairwise_cons.mp hrest).1 r (hlater.subset hr))
    cases took <;> simp [hnotFirst, hnotSecond]

theorem sweeps (hp : p.Within fun w w' => Follows w' w) (settings : Settings) {listing : World σ}
    (hs : Numbered listing.store) :
    ∃ swept after, (sweepEach p settings (listing.store.running none)).run.run listing
        = (.ok swept, after) ∧ Sweeps p settings listing swept after := by
  obtain ⟨swept, after, hrun, hsub⟩ :=
    sweepEach_ok p settings (listing.store.running none) listing
  have hrising := hs.running
  have hsplit {before later : List ProcessRecord} {r : ProcessRecord}
      (h : listing.store.running none = before ++ r :: later) :=
    visited_of_split (r := r) hp hs (h ▸ hrising) (h ▸ hrun)
  -- A launch that was marked, with its record then, and with all that comes after it.
  have htaken {r : ProcessRecord} (hr : r ∈ swept) :
      ∃ before later, ∃ (was : ProcessRecord) (finish : Int),
      let left := ((sweepEach p settings (before ++ [r])).run.run listing).2
      Numbered left.store ∧ after = ((sweepEach p settings later).run.run left).2
        ∧ left.store.launch? r.id = some { was with
          running := false, finish := some finish, exitCode := some Store.foundDead } := by
    obtain ⟨before, later, h⟩ := List.append_of_mem (hsub.subset hr)
    obtain ⟨took, htook, hvisited, hfound, hleft, hafter⟩ := hsplit h
    rw [htook.mp hr] at hvisited
    obtain ⟨was, _, _, hmarked⟩ := hvisited.of_took
    exact ⟨before, later, was, _, hleft.numbered hfound, hafter, hmarked⟩
  refine ⟨swept, after, hrun, hrising, ?_, hsub, ?_, ?_, ?_, ?_, ?_⟩
  · intro r hr
    obtain ⟨row, hrow, _, rfl⟩ := Store.mem_running_none.mp hr
    exact hs.numbers row hrow
  · intro before r later h
    obtain ⟨took, htook, hvisited, _⟩ := hsplit h
    exact ⟨took, htook, hvisited⟩
  · intro before r later h come left id hid
    obtain ⟨took, _, hvisited, _⟩ := hsplit h
    exact hvisited.launch?_eq hid
  · intro before r later h come ended hended hover
    obtain ⟨took, htook, hvisited, hfound, hleft, hafter⟩ := hsplit h
    have hkeeps : KeepsEnds after (found p settings r come) :=
      (Trans.trans (hafter ▸ follows_sweepEach hp later _) hleft : Follows after _).keepsEnds hfound
    refine ⟨fun hr => ?_, fun r' hr' => hkeeps _ _ _ hended hover hr'⟩
    rw [htook.mp hr] at hvisited
    obtain ⟨was, hwas, hran, _⟩ := hvisited.of_took
    obtain rfl := Option.some.inj (hended.symm.trans hwas)
    rw [hover] at hran
    cases hran
  · intro r hr r' hr'
    obtain ⟨before, later, was, finish, hnumbered, hafter, hmarked⟩ := htaken hr
    have hkeeps : KeepsEnds after ((sweepEach p settings (before ++ [r])).run.run listing).2 :=
      (hafter ▸ follows_sweepEach hp later _ : Follows after _).keepsEnds hnumbered
    obtain ⟨hover, _, hcode⟩ := hkeeps _ _ _ hmarked rfl hr'
    exact ⟨hover, hcode⟩
  · intro hclean r hr
    obtain ⟨before, later, was, finish, _, hafter, hmarked⟩ := htaken hr
    obtain ⟨row, hrow, hid, _⟩ := Store.mem_of_launch? hmarked
    rw [hafter]
    exact Store.exists_launch?_of_row (((frame_held hclean r.id).sweepEach fun _ _ _ => rfl).asks _
      ⟨row, hrow, hid⟩)

/-! ## 4. Alone -/

/-- While it is calm nobody else acts, and nothing changes about who is alive and
which of the launches of a store are still being started. -/
structure Platform.Steady (p : Platform σ) (settings : Settings) (s : Store) (alive : Nat → Bool)
    (starting : ProcessRecord → Bool) (calm : World σ → Prop) : Prop where
  frame : Frame p calm (fun _ => True) fun _ => True
  quiet : p.Within fun w w' => calm w → w'.store = w.store
  answers : ∀ pid w, calm w → ((p.isAlive pid).run w).1 = alive pid
  starts : ∀ w, calm w → ∀ r ∈ s.running none, isLaunching settings w.now r = starting r

/-- A process of the launch is alive, or the launch is still being started. -/
def lives (alive : Nat → Bool) (starting : ProcessRecord → Bool) (r : ProcessRecord) : Bool :=
  r.childPid?.any alive || r.wrapperPid.any alive || starting r

/-- It is calm, and the store is this one. -/
def CalmWith (calm : World σ → Prop) (s : Store) (w : World σ) : Prop := calm w ∧ w.store = s

/-- Numbers that rise are all different. -/
theorem filter_of_rising {kept rest : List ProcessRecord}
    (h : (kept ++ r :: rest).Pairwise fun r later => r.id < later.id) :
    (kept ++ r :: rest).filter (·.id != r.id) = kept ++ rest := by
  obtain ⟨_, hright, hacross⟩ := List.pairwise_append.mp h
  rw [List.filter_append, List.filter_cons_of_neg (by simp)]
  congr 1
  · refine List.filter_eq_self.mpr fun other hother => bne_iff_ne.mpr ?_
    exact Int.ne_of_lt (hacross other hother r List.mem_cons_self)
  · refine List.filter_eq_self.mpr fun other hother => bne_iff_ne.mpr ?_
    exact (Int.ne_of_lt ((List.pairwise_cons.mp hright).1 other hother)).symm

section

variable {s s' : Store} {alive : Nat → Bool} {starting : ProcessRecord → Bool}
  {calm : World σ → Prop} {E : Fault → World σ → Prop}
  (hp : p.Steady settings s alive starting calm)
include hp

theorem check_calm (pid : Nat) : Asks (CalmWith calm s') (check p pid)
    fun answer w => answer = alive pid ∧ CalmWith calm s' w := by
  rintro w ⟨hcalm, hstore⟩
  exact ⟨hp.answers pid w hcalm, hp.frame.check pid w hcalm,
    (hp.quiet.isAlive pid w hcalm).trans hstore⟩

theorem checkSome_calm (pid? : Option Nat) : Asks (CalmWith calm s') (checkSome p pid?)
    fun answer w => answer = pid?.any alive ∧ CalmWith calm s' w := by
  cases pid? with
  | none => exact asks_pure fun _ hw => ⟨rfl, hw⟩
  | some pid => exact check_calm hp pid

theorem isRecordAlive_calm (hr : r ∈ s.running none) :
    Asks (CalmWith calm s') (isRecordAlive p settings r)
      fun answer w => answer = lives alive starting r ∧ CalmWith calm s' w := by
  refine (checkSome_calm hp r.childPid?).bind fun child => asks_and fun hchild => ?_
  refine (checkSome_calm hp r.wrapperPid).bind fun wrapper => asks_and fun hwrapper => ?_
  rintro w hw
  refine ⟨?_, hw⟩
  subst hchild hwrapper
  show (_ || isLaunching settings w.now r) = _
  rw [hp.starts w hw.1 r hr]
  rfl

theorem look_calm {α : Type} (f : Store → α) :
    Tries (CalmWith calm s') (look p f) (fun x w => x = f s' ∧ CalmWith calm s' w) E := by
  rintro w ⟨hcalm, hstore⟩
  have hquiet : (p.others.run w).2.store = s' := (hp.quiet.others w hcalm).trans hstore
  exact ⟨congrArg f hquiet, hp.frame.others w hcalm, hquiet⟩

theorem markExited_calm (id code : Int) :
    Tries (CalmWith calm s') (markExited p id code)
      (fun took w => ∃ now, took = (s'.markExited now id code).1
        ∧ CalmWith calm (s'.markExited now id code).2 w) E := by
  rintro w ⟨hcalm, hstore⟩
  have hquiet : (p.others.run w).2.store = s' := (hp.quiet.others w hcalm).trans hstore
  refine ⟨w.now, congrArg (fun s : Store => (s.markExited w.now id code).1) hquiet, ?_,
    congrArg (fun s : Store => (s.markExited w.now id code).2) hquiet⟩
  exact hp.frame.write (.markExited w.now id code) trivial _ (hp.frame.others w hcalm)

/-- Launches that live are left as they are. -/
theorem sweepEach_idle (records : List ProcessRecord) (hlisted : ∀ r ∈ records, r ∈ s.running none)
    (hlives : ∀ r ∈ records, lives alive starting r = true) :
    Tries (CalmWith calm s') (sweepEach p settings records)
      (fun swept w => swept = [] ∧ CalmWith calm s' w) E := by
  induction records with
  | nil => exact tries_pure fun _ hw => ⟨rfl, hw⟩
  | cons r rest ih =>
    obtain ⟨hfirst, hothers⟩ := List.forall_mem_cons.mp hlisted
    obtain ⟨halive, hrest⟩ := List.forall_mem_cons.mp hlives
    refine (isRecordAlive_calm hp hfirst).tries.bind fun answer => tries_and fun hanswer => ?_
    rw [hanswer, halive]
    exact ih hothers hrest

/-- Of the launches that run, those that do not live are ended. -/
theorem sweepEach_calm {kept records : List ProcessRecord}
    (hruns : s'.running none = kept ++ records)
    (hrising : (kept ++ records).Pairwise fun r later => r.id < later.id)
    (hlisted : ∀ r ∈ records, r ∈ s.running none) :
    Tries (CalmWith calm s') (sweepEach p settings records)
      (fun swept w => ∃ s'', swept = records.filter (fun r => !lives alive starting r)
        ∧ s''.running none = kept ++ records.filter (lives alive starting)
        ∧ CalmWith calm s'' w) E := by
  induction records generalizing s' kept with
  | nil => exact tries_pure fun _ hw => ⟨s', rfl, hruns, hw⟩
  | cons r rest ih =>
    obtain ⟨hfirst, hothers⟩ := List.forall_mem_cons.mp hlisted
    refine (isRecordAlive_calm hp hfirst).tries.bind fun answer => tries_and fun hanswer => ?_
    subst hanswer
    cases hlives : lives alive starting r with
    | true =>
      rw [List.append_cons] at hruns hrising
      have hrest := ih hruns hrising hothers
      refine hrest.mono (fun swept w hw => ?_) fun _ _ hw => hw
      simpa [List.filter_cons, hlives] using hw
    | false =>
      refine (markExited_calm hp r.id Store.foundDead).bind fun took => ?_
      refine tries_exists fun now => tries_and fun htook => ?_
      have hrow : ∃ row ∈ s'.launches, row.id = r.id ∧ row.isActive = true := by
        have hr : r ∈ s'.running none := by simp [hruns]
        obtain ⟨row, hrow, hactive, hrecord⟩ := Store.mem_running_none.mp hr
        exact ⟨row, hrow, congrArg ProcessRecord.id hrecord, hactive⟩
      rw [(Store.markExited_takes_iff s' now r.id Store.foundDead).mpr hrow] at htook
      have hothersRun : (s'.markExited now r.id Store.foundDead).2.running none = kept ++ rest := by
        rw [Store.running_markExited, hruns]
        exact filter_of_rising hrising
      have hrest := ih hothersRun
        (hrising.sublist ((List.sublist_cons_self r rest).append_left kept))
        hothers
      refine hrest.bind fun swept => tries_pure ?_
      rintro w ⟨s'', rfl, hafter, hw⟩
      refine ⟨s'', ?_, ?_, hw⟩
      · simp [htook, hlives]
      · simp [hafter, hlives]

theorem sweep_calm (hs : Numbered s) :
    Tries (CalmWith calm s) (sweep p settings)
      (fun swept w => ∃ s', swept = (s.running none).filter (fun r => !lives alive starting r)
        ∧ s'.running none = (s.running none).filter (lives alive starting)
        ∧ CalmWith calm s' w) E := by
  refine (look_calm hp _).bind fun records => tries_and fun hrecords => ?_
  subst hrecords
  have hruns : s.running none = [] ++ s.running none := rfl
  exact sweepEach_calm hp hruns hs.running fun _ hr => hr

/-- One sweep after another has nothing to end. -/
theorem sweep_again (hruns : s'.running none = (s.running none).filter (lives alive starting)) :
    Tries (CalmWith calm s') (sweep p settings)
      (fun swept w => swept = [] ∧ CalmWith calm s' w) E := by
  refine (look_calm hp _).bind fun records => tries_and fun hrecords => ?_
  subst hrecords
  rw [hruns]
  exact sweepEach_idle hp _ (fun r hr => (List.mem_filter.mp hr).1) fun r hr =>
    (List.mem_filter.mp hr).2

theorem listRunning_calm (hs : Numbered s) (project? : Option Path) :
    Tries (CalmWith calm s) (listRunning p settings project?)
      (fun records _ => ∀ r ∈ records, lives alive starting r = true) E := by
  refine (sweep_calm hp hs).bind fun swept => tries_exists fun s' => ?_
  refine tries_and fun _ => tries_and fun hruns => ?_
  refine (look_calm hp _).mono (fun records w hw r hr => ?_) fun _ _ hw => hw
  rw [hw.1] at hr
  have hall : r ∈ s'.running none := Store.mem_running_of_project hr
  rw [hruns] at hall
  exact (List.mem_filter.mp hall).2

/-- A service is shown as running for a launch that runs. -/
theorem status_calm (service : ResolvedService) :
    Tries (CalmWith calm s') (status p service)
      (fun shown w => (shown.running = true → ∃ r ∈ s'.running none, shown.record = some r)
        ∧ CalmWith calm s' w) E := by
  refine (look_calm hp _).bind fun active => tries_and fun hactive => ?_
  cases active with
  | some record =>
    refine tries_pure fun w hw => ⟨fun _ => ⟨record, ?_, rfl⟩, hw⟩
    exact Store.mem_running_of_active? hactive.symm
  | none =>
    refine (look_calm hp _).bind fun latest => tries_pure fun w hw => ⟨fun h => ?_, hw.2⟩
    cases h

theorem statusEach_calm (services : List ResolvedService) :
    Tries (CalmWith calm s') (statusEach p services)
      (fun shown w => (∀ st ∈ shown, st.running = true → ∃ r ∈ s'.running none, st.record = some r)
        ∧ CalmWith calm s' w) E := by
  induction services with
  | nil => exact tries_pure fun _ hw => ⟨by simp, hw⟩
  | cons service rest ih =>
    refine (status_calm hp service).bind fun first => tries_and fun hfirst => ?_
    refine ih.bind fun others => tries_pure fun w hw => ?_
    exact ⟨List.forall_mem_cons.mpr ⟨hfirst, hw.1⟩, hw.2⟩

theorem listServices_calm (hs : Numbered s) (project : Project) :
    Tries (CalmWith calm s) (listServices p settings project)
      (fun shown _ => ∀ st ∈ shown, st.running = true →
        ∃ r, st.record = some r ∧ lives alive starting r = true) E := by
  refine (sweep_calm hp hs).bind fun swept => tries_exists fun s' => ?_
  refine tries_and fun _ => tries_and fun hruns => ?_
  refine (statusEach_calm hp _).mono (fun shown w hw st hst hrunning => ?_) fun _ _ hw => hw
  obtain ⟨r, hr, hrecord⟩ := hw.1 st hst hrunning
  rw [hruns] at hr
  exact ⟨r, hrecord, (List.mem_filter.mp hr).2⟩

end

/-- What a sweep comes to when it is calm. It ends all that does not live, so that
what runs afterwards lives and a second sweep changes nothing; and what is shown
as running lives. -/
structure SweepsAll (p : Platform σ) (settings : Settings) (alive : Nat → Bool)
    (starting : ProcessRecord → Bool) (start swept : World σ) : Prop where
  answer : ((sweep p settings).run.run start).1
    = .ok ((start.store.running none).filter fun r => !lives alive starting r)
  runs : swept.store.running none = (start.store.running none).filter (lives alive starting)
  found : ∀ r ∈ swept.store.running none, ((isRecordAlive p settings r).run swept).1 = true
  again : ((sweep p settings).run.run swept).1 = .ok []
    ∧ ((sweep p settings).run.run swept).2.store = swept.store
  listed : ∀ project?, ∃ records,
    ((listRunning p settings project?).run.run start).1 = .ok records
      ∧ ∀ r ∈ records, lives alive starting r = true
  shown : ∀ project, ∃ services, ((listServices p settings project).run.run start).1 = .ok services
    ∧ ∀ st ∈ services, st.running = true →
      ∃ r, st.record = some r ∧ lives alive starting r = true

theorem sweepsAll {start : World σ} {alive : Nat → Bool} {starting : ProcessRecord → Bool}
    {calm : World σ → Prop} (hp : p.Steady settings start.store alive starting calm)
    (hs : Numbered start.store) (hcalm : calm start) :
    SweepsAll p settings alive starting start ((sweep p settings).run.run start).2 := by
  have hstart : CalmWith calm start.store start := ⟨hcalm, rfl⟩
  obtain ⟨swept, hanswer, s', rfl, hruns, hswept⟩ := (sweep_calm hp hs).goes_through hstart
  obtain ⟨_, hagain, rfl, _, hkept⟩ := (sweep_again hp hruns).goes_through hswept
  refine ⟨hanswer, hswept.2 ▸ hruns, fun r hr => ?_, ⟨hagain, hkept.trans hswept.2.symm⟩, ?_, ?_⟩
  · rw [hswept.2, hruns] at hr
    obtain ⟨hlisted, hlives⟩ := List.mem_filter.mp hr
    exact (isRecordAlive_calm hp hlisted _ hswept).1.trans hlives
  · exact fun project? => (listRunning_calm hp hs project?).goes_through hstart
  · exact fun project => (listServices_calm hp hs project).goes_through hstart

/-! ## 5. Sweeping -/

/-- **What a sweep ends.** When others act at any moment, it is `Sweeps`; when it
is calm, one sweep is enough. -/
theorem sweep_ends_dead (hp : p.Within fun w w' => Follows w' w) (settings : Settings) (s : Store)
    (hs : Numbered s) (now : Int) (journal : List Event) (outside : σ) :
    let start : World σ := ⟨s, now, journal, outside⟩
    let run := (sweep p settings).run.run start
    (∃ swept, run.1 = .ok swept ∧ Sweeps p settings (p.others.run start).2 swept run.2)
      ∧ ∀ alive starting calm, p.Steady settings s alive starting calm → calm start →
        SweepsAll p settings alive starting start run.2 := by
  intro start run
  have hlisting : Numbered (p.others.run start).2.store := (hp.others start).numbered hs
  obtain ⟨swept, after, hrun, hsweeps⟩ := sweeps hp settings hlisting
  have hwhole : run = (.ok swept, after) := hrun
  rw [hwhole]
  refine ⟨⟨swept, rfl, hsweeps⟩, fun alive starting calm hsteady hcalm => ?_⟩
  have hall := sweepsAll hsteady hs hcalm
  rwa [show (sweep p settings).run.run start = (.ok swept, after) from hwhole] at hall

/-! ## 6. Other parties -/

/-- When the others are done it is calm. -/
theorem crowdPlatform_steady (alive : Nat → Bool) (settings : Settings) (s : Store) (now : Int) :
    (crowdPlatform alive).Steady settings s alive (isLaunching settings now)
      fun w => w.outside = [] ∧ w.now = now := by
  have hstill : (crowdPlatform alive).Within fun w w' => w.outside = [] → w' = w :=
    { isAlive := fun _ w h => congrArg Prod.snd (takeTurn_of_done h)
      signal := fun _ _ _ _ => rfl
      killTree := fun _ _ _ _ => rfl
      portIsFree := fun _ _ _ => rfl
      exited? := fun _ _ _ => rfl
      sleep := fun _ w h => congrArg Prod.snd (takeTurn_of_done h)
      others := fun _ _ => rfl }
  exact
    { frame :=
        { platform := hstill.mono fun w w' h hcalm => by rwa [h hcalm.1]
          checked := fun _ _ => trivial
          note := fun _ _ _ h => h
          write := fun _ _ _ h => h }
      quiet := hstill.mono fun w w' h hcalm => by rw [h hcalm.1]
      answers := fun _ _ _ => rfl
      starts := fun w hcalm r _ => by rw [hcalm.2] }

/-- While a sweep asks about three launches, another one is recorded, and the
second of the three is ended by someone else. -/
theorem sweep_ends_dead_among_others :
    let p := crowdPlatform (· == 52)
    let settings : Settings := ⟨⟨"wrapper"⟩, 0, 0, 5000⟩
    let launch (name : String) : Operation := .create 0 ⟨name, ⟨"/srv"⟩⟩ "serve" ⟨"/srv"⟩ none
    let s := Store.empty.run [launch "a", .updatePid 1 50, launch "b", .updatePid 2 51, launch "c",
      .updatePid 3 52]
    let start : World (List (List Operation)) :=
      ⟨s, 9, [], [[launch "d"], [.markExited 5 2 3]]⟩
    let run := (sweep p settings).run.run start
    let calmStart : World (List (List Operation)) := ⟨s, 9, [], []⟩
    (∃ swept, run.1 = .ok swept ∧ Sweeps p settings (p.others.run start).2 swept run.2
        ∧ swept.map (·.id) = [1])
      ∧ (run.2.store.launches.map fun r => (r.id, r.running, r.exitCode))
        = [(4, 1, none), (3, 1, none), (2, 0, some 3), (1, 0, some (-1))]
      ∧ SweepsAll p settings (· == 52) (isLaunching settings 9) calmStart
        ((sweep p settings).run.run calmStart).2 := by
  intro p settings launch s start run calmStart
  have hs : Numbered s := Store.numbered_run Store.launchesSound_empty.numbered _
  have hp : (crowdPlatform (· == 52)).Within fun w w' => Follows w' w :=
    crowdPlatform_within .refl fun _ deeds _ _ => ⟨deeds, rfl⟩
  have hsweep := sweep_ends_dead hp settings s hs 9 []
  obtain ⟨swept, hanswer, hsweeps⟩ := (hsweep [[launch "d"], [.markExited 5 2 3]]).1
  have hids : run.1.toOption.map (fun swept => swept.map (·.id)) = some [1] := by decide +kernel
  rw [show run.1 = .ok swept from hanswer] at hids
  exact ⟨⟨swept, hanswer, hsweeps, Option.some.inj hids⟩, by decide +kernel,
    (hsweep []).2 _ _ _ (crowdPlatform_steady (· == 52) settings s 9) ⟨rfl, rfl⟩⟩

/-- **A launch that the sweep has ended may be gone**: while the sweep asks about
the second one, retention deletes the first. -/
theorem sweep_answers_deleted :
    let launch (name : String) : Operation := .create 0 ⟨name, ⟨"/srv"⟩⟩ "serve" ⟨"/srv"⟩ none
    let s := Store.empty.run [launch "a", .updatePid 1 50, launch "b", .updatePid 2 51]
    let start : World (List (List Operation)) := ⟨s, 9, [], [[], [.cleanup 100 ⟨0, 0, 0, 0⟩]]⟩
    let run := (sweep (crowdPlatform fun _ => false) ⟨⟨"wrapper"⟩, 0, 0, 5000⟩).run.run start
    ∃ swept, run.1 = .ok swept ∧ ¬ ∀ r ∈ swept, ∃ r', run.2.store.launch? r.id = some r'
      ∧ r'.running = false ∧ r'.exitCode = some Store.foundDead := by
  intro launch s start run
  have hids : run.1.toOption.map (fun swept => swept.map (·.id)) = some [1, 2] := by decide +kernel
  obtain ⟨swept, hanswer⟩ : ∃ swept, run.1 = .ok swept := by
    rcases hrun : run.1 with f | swept
    · rw [hrun] at hids
      cases hids
    · exact ⟨swept, rfl⟩
  rw [hanswer] at hids
  replace hids : swept.map (·.id) = [1, 2] := Option.some.inj hids
  refine ⟨swept, hanswer, fun hall => ?_⟩
  obtain ⟨r, hr, hid⟩ := List.mem_map.mp (hids ▸ List.mem_cons_self : 1 ∈ swept.map (·.id))
  obtain ⟨r', hr', _⟩ := hall r hr
  have hgone : run.2.store.launch? 1 = none := by decide +kernel
  rw [hid, hgone] at hr'
  cases hr'

end Supervisor

end Overseer
