/-
Overseer.Proofs.Supervisor.Launching — what launching a service leaves behind.

`run_replaces`: launching a service ends the running launch of the service and
the newest other one of its command line and directory, and no others, and
signals no others. If it succeeds both have ended and the new launch is of the
service and has a number above all that were given out; if it fails, no launch
was recorded, or the one that was recorded has stopped with an exit code.

The wrapper acts from the moment it is started, and what it does is left open:
`ByWrappers` says only that it does what wrappers do, on its own launch. One
such thing is a pass of retention, which may drop launches of other services
that have stopped (`run_drops_stopped`); without it all rows stay.
-/
import Overseer.Proofs.Store.Marked
import Overseer.Proofs.Supervisor.Cast
import Overseer.Proofs.Supervisor.Frame

namespace Overseer.Supervisor

open Store (Beside HasEnded LaunchesSound Marked Operation)

variable {σ : Type} {p : Platform σ} {settings : Settings} {retains : Prop}

/-! ## 1. Who acts -/

/-- The store is changed by the wrappers of launches that were noted as started,
and by nobody else. -/
def ByWrappers (retains : Prop) (w w' : World σ) : Prop :=
  w'.journal = w.journal ∧ ∃ history : List Operation,
    (∀ op ∈ history, ∃ payload, .launched payload ∈ w.journal
      ∧ op.isOfWrapper retains payload.launch)
      ∧ w'.store = w.store.run history

/-- A wrapper that is started acts at once, as the wrapper of the launch it is started for. -/
def Platform.StartsWrappers (p : Platform σ) (retains : Prop) : Prop :=
  ∀ program payload w, .launched payload ∈ w.journal →
    ByWrappers retains w ((p.spawn program payload).run.run w).2

/-- Starts one of the launches, or signals one of the pids, or does neither. -/
def Event.Within (launches : Int → Prop) (pids : Nat → Prop) : Event → Prop
  | .launched payload => launches payload.launch
  | .signalled _ pid _ => pids pid
  | _ => True

/-- Nothing else was noted, and the store has the property. -/
def Holding (launches : Int → Prop) (pids : Nat → Prop) (J : Store → Prop) (w : World σ) : Prop :=
  (∀ e ∈ w.journal, e.Within launches pids) ∧ J w.store

variable {launches : Int → Prop} {pids : Nat → Prop} {J J' : Store → Prop}

theorem Holding.imp {launches' : Int → Prop} {pids' : Nat → Prop} {w : World σ}
    (h : Holding launches pids J w) (hlaunches : ∀ id, launches id → launches' id)
    (hpids : ∀ pid, pids pid → pids' pid) (hJ : J w.store → J' w.store) :
    Holding launches' pids' J' w := by
  refine ⟨fun e he => ?_, hJ h.2⟩
  have hwithin := h.1 e he
  cases e with
  | launched payload => exact hlaunches _ hwithin
  | signalled tree pid s => exact hpids pid hwithin
  | _ => trivial

theorem Holding.imp_store {w : World σ} (h : Holding launches pids J w)
    (hJ : J w.store → J' w.store) : Holding launches pids J' w :=
  h.imp (fun _ h => h) (fun _ h => h) hJ

theorem Holding.byWrappers {w w' : World σ} (hstep : ByWrappers retains w w')
    (hJ : ∀ id op s, launches id → op.isOfWrapper retains id → J s → J (s.step op))
    (h : Holding launches pids J w) : Holding launches pids J w' := by
  obtain ⟨hjournal, history, hhistory, hstore⟩ := hstep
  refine ⟨by rw [hjournal]; exact h.1, ?_⟩
  rw [hstore]
  refine Store.run_induction_of_mem (fun op hop s hs => ?_) h.2
  obtain ⟨payload, hlaunched, hwrapper⟩ := hhistory op hop
  exact hJ payload.launch op s (h.1 _ hlaunched) hwrapper hs

/-- What the wrappers of the launches keep is kept by everybody. -/
theorem frame_holding (hp : p.Within (ByWrappers retains)) {writes : Operation → Prop}
    (hJ : ∀ id op s, launches id → op.isOfWrapper retains id → J s → J (s.step op))
    (hwrites : ∀ op s, writes op → J s → J (s.step op)) :
    Frame p (Holding launches pids J) (Event.Within launches pids) writes where
  platform := hp.mono fun _ _ hstep h => h.byWrappers hstep hJ
  checked _ _ := trivial
  note _ he _ h := ⟨List.forall_mem_cons.mpr ⟨he, h.1⟩, h.2⟩
  write op hop w h := ⟨h.1, hwrites op w.store hop h.2⟩

/-- No wrapper was started yet, so the store is the supervisor's own. -/
theorem frame_alone (hp : p.Within (ByWrappers retains)) {writes : Operation → Prop}
    (hwrites : ∀ op s, writes op → J s → J (s.step op)) :
    Frame p (Holding (fun _ => False) pids J) (Event.Within (fun _ => False) pids) writes :=
  frame_holding hp (fun _ _ _ hno => hno.elim) hwrites

/-! ## 2. Before the launch is recorded -/

/-- The number of one of the launches. -/
def IdsOf (records : List ProcessRecord) (id : Int) : Prop := ∃ r ∈ records, r.id = id

/-- A pid of one of the launches. -/
def PidsOf (records : List ProcessRecord) (pid : Nat) : Prop := ∃ r ∈ records, pid ∈ pidsToStop r

/-- The launches have ended. -/
def AllEnded (records : List ProcessRecord) (s : Store) : Prop := ∀ r ∈ records, HasEnded r.id s

theorem allEnded_step {records : List ProcessRecord} {s : Store} (h : AllEnded records s)
    {op : Operation} (hop : op.isCreate = false) : AllEnded records (s.step op) :=
  fun r hr => Store.hasEnded_step (h r hr) hop

variable {before : Store} {marked ended old : List ProcessRecord}

/-- Some launches may have been signalled and marked as killed, and some of them
have ended for sure. -/
def Clearing (before : Store) (marked ended : List ProcessRecord) (w : World σ) : Prop :=
  Holding (fun _ => False) (PidsOf marked)
    (fun s => Marked killedCode (IdsOf marked) before s ∧ AllEnded ended s) w

theorem Clearing.mono {w : World σ} (h : Clearing before marked ended w)
    {marked' : List ProcessRecord} (hsub : marked ⊆ marked') : Clearing before marked' ended w :=
  h.imp (fun _ hno => hno) (fun _ ⟨r, hr, hpid⟩ => ⟨r, hsub hr, hpid⟩) fun hs =>
    ⟨hs.1.mono fun _ ⟨r, hr, hid⟩ => ⟨r, hsub hr, hid⟩, hs.2⟩

theorem frame_clearing (hp : p.Within (ByWrappers retains)) (before : Store)
    (marked ended : List ProcessRecord) :
    Frame p (Clearing before marked ended) (Event.Within (fun _ => False) (PidsOf marked))
      (fun op => ∃ now id, IdsOf marked id ∧ op = .markExited now id killedCode) := by
  refine frame_alone (J := fun s => Marked killedCode (IdsOf marked) before s ∧ AllEnded ended s)
    hp ?_
  rintro _ s ⟨now, id, hid, rfl⟩ h
  exact ⟨h.1.markExited hid now, allEnded_step h.2 rfl⟩

/-- What is replaced is what would be found, and it has ended afterwards. -/
theorem replace_clearing (hp : p.Within (ByWrappers retains)) {find : Store → Option ProcessRecord}
    {existing? : Option ProcessRecord}
    (hfind : ∀ s, Marked killedCode (IdsOf ended) before s → AllEnded ended s →
      find s = existing?) :
    Does (Clearing before ended ended) (replace p settings find)
      (fun replaced w => replaced = existing?.toList
        ∧ Clearing before (ended ++ existing?.toList) (ended ++ existing?.toList) w)
      (Clearing before (ended ++ existing?.toList) ended) := by
  have hlook : Does (Clearing before ended ended) (look p find)
      (fun found w => found = existing? ∧ Clearing before (ended ++ existing?.toList) ended w)
      (Clearing before (ended ++ existing?.toList) ended) :=
    does_look (frame_clearing hp before ended ended).others fun w hw =>
      ⟨hfind w.store hw.2.1 hw.2.2, hw.mono (List.subset_append_left _ _)⟩
  refine hlook.bind fun found => does_of_fact (fun _ hw => hw.1) ?_
  rintro rfl
  rcases found with _ | existing
  · refine does_pure fun w hw => ⟨rfl, ?_⟩
    rw [Option.toList_none, List.append_nil] at hw ⊢
    exact hw.2
  · have hmem : existing ∈ ended ++ [existing] := List.mem_append_right _ List.mem_cons_self
    have hframe := frame_clearing (p := p) hp before (ended ++ [existing]) ended
    have hstop : Does (Clearing before (ended ++ [existing]) ended) (stopRecord p settings existing)
        (fun _ w => Clearing before (ended ++ [existing]) ended w ∧ HasEnded existing.id w.store)
        (Clearing before (ended ++ [existing]) ended) :=
      hframe.stopRecord_ends (fun pid hpid _ => ⟨existing, hmem, hpid⟩)
        fun now => ⟨now, existing.id, ⟨existing, hmem, rfl⟩, rfl⟩
    refine (hstop.pre fun _ hw => hw.2).bind fun _ => does_pure fun w hw => ⟨rfl, ?_⟩
    refine hw.1.imp_store fun hs => ⟨hs.1, fun r hr => ?_⟩
    rcases List.mem_append.mp hr with hr | hr
    · exact hs.2 r hr
    · rw [List.mem_singleton.mp hr]
      exact hw.2

/-! ## 3. After the launch was recorded -/

variable {new : Int} {key : ServiceKey}

/-- The new launch stands beside what the replacing has left, and what was
replaced has ended. -/
def Placed (retains : Prop) (old : List ProcessRecord) (new : Int) (key : ServiceKey)
    (before s : Store) : Prop :=
  (∃ rows, List.Forall₂ (LaunchRow.EndedAs killedCode (IdsOf old)) before.launches rows
      ∧ Beside retains rows new key s)
    ∧ AllEnded old s

theorem placed_create {s s' : Store} (hmarked : Marked killedCode (IdsOf old) before s)
    (hended : AllEnded old s) (hold : ∀ r ∈ old, r.id ≤ before.lastLaunch) {now id : Int}
    {command : String} {directory : Path} {port : Option Nat}
    (hok : s.create now key command directory port = .ok (id, s')) :
    id = before.lastLaunch + 1 ∧ Placed retains old id key before s' := by
  have hbeside : Beside retains s.launches id key s' := Store.beside_create hmarked.sound hok
  have hlast := hmarked.last
  obtain ⟨_, _, rfl, rfl⟩ := Store.create_eq_ok_iff.mp hok
  refine ⟨by rw [hlast], ⟨s.launches, hmarked.rows, hbeside⟩, ?_⟩
  intro r hr row hrow hid
  rcases List.mem_cons.mp hrow with rfl | hrow
  · have hle := hold r hr
    have hnew : (s.newRow now key command directory port).id = s.lastLaunch + 1 := rfl
    omega
  · exact hended r hr row hrow hid

theorem placed_step {s : Store} (h : Placed retains old new key before s) {op : Operation}
    (hop : op.isOfWrapper retains new) : Placed retains old new key before (s.step op) := by
  obtain ⟨⟨rows, hrows, hbeside⟩, hended⟩ := h
  exact ⟨⟨rows, hrows, hbeside.step hop⟩, allEnded_step hended (Store.isCreate_of_isOfWrapper hop)⟩

theorem frame_placed (hp : p.Within (ByWrappers retains)) (old : List ProcessRecord) (new : Int)
    (key : ServiceKey) (before : Store) :
    Frame p (Holding (· = new) (PidsOf old) (Placed retains old new key before))
      (Event.Within (· = new) (PidsOf old)) (fun op => op.isOfWrapper retains new) := by
  refine frame_holding hp ?_ fun op s hop h => placed_step h hop
  rintro _ op s rfl hop h
  exact placed_step h hop

/-- Once the new launch has ended it stays so. -/
theorem frame_placed_ended (hp : p.Within (ByWrappers retains)) (old : List ProcessRecord)
    (new : Int) (key : ServiceKey) (before : Store) :
    Frame p (fun w => Holding (· = new) (PidsOf old) (Placed retains old new key before) w
        ∧ HasEnded new w.store)
      (Event.Within (· = new) (PidsOf old)) (fun op => op.isOfWrapper retains new) := by
  have hsame : (fun w : World σ =>
        Holding (· = new) (PidsOf old) (Placed retains old new key before) w
          ∧ HasEnded new w.store)
      = Holding (· = new) (PidsOf old) fun s =>
        Placed retains old new key before s ∧ HasEnded new s := by
    funext w
    simp only [Holding, and_assoc]
  have hboth {op : Operation} {s : Store} (hop : op.isOfWrapper retains new)
      (h : Placed retains old new key before s ∧ HasEnded new s) :
      Placed retains old new key before (s.step op) ∧ HasEnded new (s.step op) :=
    ⟨placed_step h.1 hop, Store.hasEnded_step h.2 (Store.isCreate_of_isOfWrapper hop)⟩
  rw [hsame]
  refine frame_holding hp ?_ fun op s hop h => hboth hop h
  rintro _ op s rfl hop h
  exact hboth hop h

/-- The record of the new launch is of the service. -/
theorem Placed.record {s : Store} (h : Placed retains old new key before s) {r : ProcessRecord}
    (hr : s.launch? new = some r) : r.id = new ∧ r.key = key := by
  obtain ⟨⟨rows, _, hbeside⟩, _⟩ := h
  obtain ⟨row, hrow, hid, rfl⟩ := Store.mem_of_launch? hr
  exact ⟨hid, hbeside.keyed row hrow hid⟩

theorem startWrapper_placed (hp : p.Within (ByWrappers retains))
    (hspawn : p.StartsWrappers retains) (service : ResolvedService) (port : Option Nat) :
    Does (Holding (fun _ => False) (PidsOf old) (Placed retains old new key before))
      (startWrapper p settings service new port)
      (fun r w => Holding (· = new) (PidsOf old) (Placed retains old new key before) w
        ∧ r.id = new ∧ r.key = key)
      (fun w => Holding (· = new) (PidsOf old) (Placed retains old new key before) w
        ∧ HasEnded new w.store) := by
  refine (frame_placed hp old new key before).startWrapper
    (M := Holding (· = new) (PidsOf old) (Placed retains old new key before))
    (frame_placed_ended hp old new key before).toKept ?_ ?_ (fun _ _ => rfl) (fun _ => rfl)
    fun w r hw hr => hw.2.record hr
  · intro w hlaunched hw
    refine hw.byWrappers (hspawn _ _ w hlaunched) ?_
    rintro _ op s rfl hop h
    exact placed_step h hop
  · intro w hw
    have hbefore : Holding (· = new) (PidsOf old) (Placed retains old new key before) w :=
      hw.imp (fun _ hno => hno.elim) (fun _ hpid => hpid) fun hs => hs
    exact ⟨List.forall_mem_cons.mpr ⟨rfl, hbefore.1⟩, hbefore.2⟩

/-! ## 4. The whole launch -/

/-- Beside the launch of a number the rows are as they were, but for those that
were replaced and have ended. Retention may have dropped some, but none that runs. -/
def OnlyReplaced (retains : Prop) (old : List ProcessRecord) (new : Int) (before s : Store) :
    Prop :=
  ∃ rows, List.Forall₂ (LaunchRow.EndedAs killedCode (IdsOf old)) before.launches rows
    ∧ (s.launches.filter (·.id != new)).Sublist rows
    ∧ (∀ r ∈ rows, r.isActive = true → r ∈ s.launches)
    ∧ (¬ retains → s.launches.filter (·.id != new) = rows)

/-- No launch of the number was recorded, or it has stopped with an exit code.
Only retention may have dropped it since. -/
def NoneLeft (retains : Prop) (new : Int) (s : Store) : Prop :=
  (∀ r ∈ s.launches, r.id ≠ new)
    ∨ ((∀ r ∈ s.launches, r.id = new → r.record.running = false ∧ r.record.exitCode ≠ none)
      ∧ (¬ retains → ∃ r ∈ s.launches, r.id = new))

/-- What a launch that fails has come to. -/
def Failed (retains : Prop) (old : List ProcessRecord) (new : Int) (before : Store) :
    World σ → Prop :=
  Holding (· = new) (PidsOf old) fun s =>
    OnlyReplaced retains old new before s ∧ NoneLeft retains new s

/-- A failure before the launch is recorded. -/
theorem Clearing.failed {w : World σ} (h : Clearing before marked ended w) (hsub : marked ⊆ old)
    (hnew : new = before.lastLaunch + 1) : Failed retains old new before w := by
  refine (h.mono hsub).imp (fun _ hno => hno.elim) (fun _ hpid => hpid) ?_
  rintro ⟨hmarked, -⟩
  have hbelow : ∀ r ∈ w.store.launches, r.id ≠ new := by
    intro r hr
    have hle := hmarked.sound.numbers r hr
    have hlast := hmarked.last
    omega
  have hall : w.store.launches.filter (·.id != new) = w.store.launches :=
    List.filter_eq_self.mpr fun r hr => bne_iff_ne.mpr (hbelow r hr)
  refine ⟨⟨w.store.launches, hmarked.rows, ?_, fun r hr _ => hr, fun _ => hall⟩, Or.inl hbelow⟩
  exact hall.symm ▸ List.Sublist.refl _

theorem Placed.onlyReplaced {s : Store} (h : Placed retains old new key before s) :
    OnlyReplaced retains old new before s := by
  obtain ⟨⟨rows, hrows, hbeside⟩, _⟩ := h
  refine ⟨rows, hrows, hbeside.others, fun r hr hactive => ?_, fun hnot => (hbeside.kept hnot).1⟩
  exact (List.mem_filter.mp (hbeside.running r hr hactive)).1

theorem Placed.noneLeft {s : Store} (h : Placed retains old new key before s)
    (hended : HasEnded new s) : NoneLeft retains new s := by
  obtain ⟨⟨rows, _, hbeside⟩, _⟩ := h
  refine Or.inr ⟨fun r hr hid => ?_, fun hnot => (hbeside.kept hnot).2⟩
  have hover := hended r hr hid
  rcases hbeside.sound.rows r hr with hongoing | ⟨hrunning, _, hcode⟩
  · rw [hongoing.isActive] at hover
    cases hover
  · obtain ⟨code, hcode⟩ := Option.isSome_iff_exists.mp hcode
    simp [LaunchRow.record, hrunning, hcode]

/-- What a launch that succeeds has come to. -/
def Started (retains : Prop) (old : List ProcessRecord) (new : Int) (key : ServiceKey)
    (before : Store) (report : RunReport) (w : World σ) : Prop :=
  report.replaced = old ∧ report.record.id = new ∧ report.record.key = key
    ∧ Holding (· = new) (PidsOf old) (Placed retains old new key before) w

section

variable (hp : p.Within (ByWrappers retains)) (hspawn : p.StartsWrappers retains)
include hp hspawn

/-- The launch is recorded and its wrapper is started. -/
theorem record_started (service : ResolvedService) (port : Option Nat)
    (hold : ∀ r ∈ old, r.id ≤ before.lastLaunch) (hnew : new = before.lastLaunch + 1)
    {same alike : List ProcessRecord} (hboth : same ++ alike = old) :
    Does (Clearing before old old)
      (do
        let now := (← get).now
        let id ← access p fun s => s.create now service.key service.shell service.directory port
        let record ← startWrapper p settings service id port
        return ⟨record, same ++ alike⟩)
      (Started retains old new service.key before) (Failed retains old new before) := by
  refine Does.bind (does_get (Q := fun _ => Clearing before old old) fun _ hw => hw) fun v => ?_
  refine Does.bind (Q := fun id w => id = new
    ∧ Holding (fun _ => False) (PidsOf old) (Placed retains old new service.key before) w)
    (does_access (frame_clearing hp before old old).others ?_ ?_) fun id => ?_
  · intro w id s hw hok
    have hcreated : id = before.lastLaunch + 1 ∧ Placed retains old id service.key before s :=
      placed_create hw.2.1 hw.2.2 hold hok
    obtain rfl : id = new := hcreated.1.trans hnew.symm
    exact ⟨rfl, hw.1, hcreated.2⟩
  · exact fun w _ hw _ => hw.failed (List.Subset.refl _) hnew
  · refine does_of_fact (fun _ hw => hw.1) ?_
    rintro rfl
    refine Does.bind ((startWrapper_placed hp hspawn service port).mono (fun _ hw => hw.2)
      (fun _ _ hw => hw) fun w hw => hw.1.imp_store fun hs => ?_) fun record => ?_
    · exact ⟨hs.onlyReplaced, hs.noneLeft hw.2⟩
    · exact does_pure fun w hw => ⟨hboth, hw.2.1, hw.2.2, hw.1⟩

theorem afterSweep_started (service : ResolvedService) (hs : LaunchesSound before)
    (hold : before.toReplace service.key service.shell service.directory = old)
    (hnew : new = before.lastLaunch + 1) :
    Does (Clearing before [] [])
      (do
        let same ← replace p settings fun s => s.active? service.key
        let alike ← replace p settings fun s => s.activeFor? service.shell service.directory
        let port ← if service.wantsPort then some <$> pickPort p service.project else pure none
        let now := (← get).now
        let id ← access p fun s => s.create now service.key service.shell service.directory port
        let record ← startWrapper p settings service id port
        return ⟨record, same ++ alike⟩)
      (Started retains old new service.key before) (Failed retains old new before) := by
  obtain ⟨same?, hsame⟩ : ∃ same?, before.active? service.key = same? := ⟨_, rfl⟩
  obtain ⟨other?, hother⟩ : ∃ other?,
    before.otherFor? same? service.shell service.directory = other? := ⟨_, rfl⟩
  have hboth : same?.toList ++ other?.toList = old := by
    rw [← hold, Store.toReplace, hsame, hother]
  have hbelow : ∀ r ∈ old, r.id ≤ before.lastLaunch := by
    intro r hr
    obtain ⟨row, hrow, _, rfl⟩ := Store.mem_toReplace (hold ▸ hr)
    exact hs.numbers row hrow
  -- First the running launch of the service is ended.
  have hfirst : Does (Clearing before [] []) (replace p settings fun s => s.active? service.key)
      (fun same w => same = same?.toList ∧ Clearing before same?.toList same?.toList w)
      (Clearing before same?.toList []) := by
    refine replace_clearing hp fun s hmarked _ => ?_
    have hnone : ∀ id, IdsOf [] id → False := by
      rintro id ⟨r, hr, _⟩
      cases hr
    rw [← hsame]
    exact (hmarked.mono hnone).active?_eq service.key
  -- Then the newest other one of the command line in the directory.
  have hsecond : Does (Clearing before same?.toList same?.toList)
      (replace p settings fun s => s.activeFor? service.shell service.directory)
      (fun alike w => alike = other?.toList ∧ Clearing before old old w)
      (Clearing before old same?.toList) := by
    rw [← hboth]
    refine replace_clearing hp fun s hmarked hended => ?_
    have hids : ∀ id, IdsOf same?.toList id → ∃ x ∈ same?, x.id = id := by
      rintro id ⟨r, hr, hid⟩
      exact ⟨r, Option.mem_toList.mp hr, hid⟩
    rw [← hother]
    exact (hmarked.mono hids).activeFor?_eq
      (fun x hx => hended x (Option.mem_toList.mpr hx)) service.shell service.directory
  have hsub : same?.toList ⊆ old := hboth ▸ List.subset_append_left _ _
  refine Does.bind (hfirst.fault fun w hw => hw.failed hsub hnew) fun same =>
    does_of_fact (fun _ hw => hw.1) ?_
  rintro rfl
  refine Does.bind (hsecond.mono (fun _ hw => hw.2) (fun _ _ hw => hw)
    fun w hw => hw.failed (List.Subset.refl _) hnew) fun alike => does_of_fact (fun _ hw => hw.1) ?_
  rintro rfl
  cases hwants : service.wantsPort with
  | true =>
    have hpick : Does (Clearing before old old) (pickPort p service.project)
        (fun _ => Clearing before old old) (Failed retains old new before) :=
      ((frame_clearing hp before old old).pickPort service.project).fault
        fun w hw => hw.failed (List.Subset.refl _) hnew
    refine Does.bind (Q := fun _ => Clearing before old old) (Does.map ?_) fun port => ?_
    · exact hpick.pre fun _ hw => hw.2
    · exact record_started hp hspawn service port hbelow hnew hboth
  | false =>
    refine Does.bind (Q := fun _ => Clearing before old old) (does_pure fun _ hw => hw.2)
      fun port => ?_
    exact record_started hp hspawn service port hbelow hnew hboth

/-- **What launching a service leaves behind**, whatever the wrapper does that is
started for it: what was replaced has ended or, if the launch fails, may have, and
no other launch was touched. -/
theorem run_replaces (settings : Settings) (service : ResolvedService) (history : List Operation)
    (now : Int) (outside : σ) :
    let start : World σ := ⟨Store.empty.run history, now, [], outside⟩
    let swept := ((sweep p settings).run.run start).2.store
    let old := swept.toReplace service.key service.shell service.directory
    let new := start.store.lastLaunch + 1
    let result := ((run p settings service).run.run start).1
    let last := ((run p settings service).run.run start).2
    List.Forall₂ (LaunchRow.EndedAs Store.foundDead fun _ => True)
        start.store.launches swept.launches
      ∧ OnlyReplaced retains old new swept last.store
      ∧ (∀ tree pid s, .signalled tree pid s ∈ last.journal → PidsOf old pid)
      ∧ match result with
        | .ok report => report.replaced = old ∧ (∀ r ∈ old, HasEnded r.id last.store)
            ∧ report.record.id = new ∧ report.record.key = service.key
            ∧ ∀ id ∈ Store.told Store.issued .empty history, id < report.record.id
        | .error _ => NoneLeft retains new last.store := by
  intro start swept old new result last
  have hsound : LaunchesSound start.store :=
    Store.launchesSound_run Store.launchesSound_empty history
  have hframe : Frame p
      (Holding (fun _ => False) (PidsOf []) (Marked Store.foundDead (fun _ => True) start.store))
      (Event.Within (fun _ => False) (PidsOf []))
      (fun op => ∃ now id, op = .markExited now id Store.foundDead) := by
    refine frame_alone hp ?_
    rintro _ s ⟨now, id, rfl⟩ h
    exact h.markExited trivial now
  have hsweep : Does (Holding (fun _ => False) (PidsOf [])
      (Marked Store.foundDead (fun _ => True) start.store)) (sweep p settings) (fun _ => _) _ :=
    hframe.sweep fun now id => ⟨now, id, rfl⟩
  have hstart : Holding (fun _ => False) (PidsOf [])
      (Marked Store.foundDead (fun _ => True) start.store) start :=
    ⟨fun _ he => absurd he List.not_mem_nil, Marked.refl hsound⟩
  obtain ⟨hnoted, hmarked⟩ := hsweep.asks start hstart
  have hclear : Clearing swept [] [] ((sweep p settings).run.run start).2 :=
    ⟨hnoted, Marked.refl hmarked.sound, fun _ hr => absurd hr List.not_mem_nil⟩
  have hnew : new = swept.lastLaunch + 1 := by rw [hmarked.last]
  have hrun : Does (fun w => w = start) (run p settings service)
      (Started retains old new service.key swept) (Failed retains old new swept) := by
    refine Does.bind (Q := fun _ => Clearing swept [] [])
      ((does_of_forall (K := Clearing swept [] []) ?_).fault
        fun w hw => hw.failed (List.nil_subset _) hnew) fun _ => ?_
    · rintro _ rfl
      exact hclear
    · exact afterSweep_started hp hspawn service hmarked.sound rfl hnew
  have hafter := does_iff.mp hrun start rfl
  have hsignals {w : World σ} {J : Store → Prop} (h : Holding (· = new) (PidsOf old) J w) :
      ∀ tree pid s, .signalled tree pid s ∈ w.journal → PidsOf old pid :=
    fun tree pid s he => h.1 _ he
  refine ⟨hmarked.rows, ?_⟩
  rcases hresult : (run p settings service).run.run start with ⟨fault | report, w⟩
  · have hfailed : Failed retains old new swept w := by rwa [hresult] at hafter
    have hlast : last = w := congrArg Prod.snd hresult
    have hfault : result = .error fault := congrArg Prod.fst hresult
    rw [hlast, hfault]
    exact ⟨hfailed.2.1, hsignals hfailed, hfailed.2.2⟩
  · have hstarted : Started retains old new service.key swept report w := by
      rwa [hresult] at hafter
    have hlast : last = w := congrArg Prod.snd hresult
    have hreport : result = .ok report := congrArg Prod.fst hresult
    obtain ⟨hreplaced, hid, hkey, hholding⟩ := hstarted
    rw [hlast, hreport]
    refine ⟨hholding.2.onlyReplaced, hsignals hholding, hreplaced, hholding.2.2, hid, hkey, ?_⟩
    intro id hissued
    have hle := (Store.lastLaunch_run Store.empty history).2.1 id hissued
    rw [hid]
    exact Int.lt_add_one_of_le hle

end

/-- A platform of listed processes whose wrappers do what wrappers do. -/
theorem castPlatform_byWrappers {wrapperPid : Nat} {deeds : Launch.Payload → List Operation}
    (hdeeds : ∀ payload, ∀ op ∈ deeds payload, op.isOfWrapper retains payload.launch) :
    (castPlatform wrapperPid deeds).Within (ByWrappers retains)
      ∧ (castPlatform wrapperPid deeds).StartsWrappers retains := by
  have hsame (w : World Rehearsal.Cast) (outside : Rehearsal.Cast) :
      ByWrappers retains w { w with outside } := ⟨rfl, [], by simp, rfl⟩
  refine ⟨castPlatform_within (fun w => hsame w w.outside) (fun _ w => hsame w _)
    fun _ _ w => hsame w _, ?_⟩
  intro program payload w hlaunched
  exact ⟨rfl, deeds payload, fun op hop => ⟨payload, hlaunched, hdeeds payload op hop⟩, rfl⟩

/-- The service ran with another command line, and another service with this one. -/
theorem run_replaces_both :
    let p := castPlatform 40 fun payload => [.updatePid payload.launch 60]
    let service : ResolvedService := ⟨"web", "serve", ⟨"/srv"⟩, .empty, false, ⟨"/srv"⟩⟩
    let settings : Settings := .standard ⟨"wrapper"⟩
    let history : List Operation :=
      [.create 0 ⟨"web", ⟨"/srv"⟩⟩ "old" ⟨"/srv"⟩ none, .updatePid 1 51,
        .create 0 ⟨"db", ⟨"/srv"⟩⟩ "serve" ⟨"/srv"⟩ none, .updatePid 2 52,
        .create 0 ⟨"api", ⟨"/srv"⟩⟩ "listen" ⟨"/srv"⟩ none, .updatePid 3 53]
    let actor (pid : Nat) : Rehearsal.Actor := ⟨pid, true, .die, .die, .ignore, 0, [], none⟩
    let start : World Rehearsal.Cast :=
      ⟨Store.empty.run history, 9, [], [actor 51, actor 52, actor 53, actor 60]⟩
    let swept := ((sweep p settings).run.run start).2.store
    let last := ((run p settings service).run.run start).2
    (last.store.launches.map fun r => (r.id, r.running, r.exitCode))
        = [(4, 1, none), (3, 1, none), (2, 0, some (-9)), (1, 0, some (-9))]
      ∧ OnlyReplaced False (swept.toReplace service.key "serve" ⟨"/srv"⟩) 4 swept last.store := by
  intro p service settings history actor start swept last
  obtain ⟨hp, hspawn⟩ : p.Within (ByWrappers False) ∧ p.StartsWrappers False := by
    refine castPlatform_byWrappers fun payload op hop => ?_
    rw [List.mem_singleton.mp hop]
    rfl
  obtain ⟨_, honly, _⟩ := run_replaces hp hspawn settings service history 9 start.outside
  exact ⟨by decide +kernel, honly⟩

/-- **A launch of another service is dropped** when the wrapper that is started lets
retention make its pass. -/
theorem run_drops_stopped :
    let p := castPlatform 40 fun payload =>
      [.updatePid payload.launch 60, .cleanup 100000 .standard]
    let service : ResolvedService := ⟨"web", "serve", ⟨"/srv"⟩, .empty, false, ⟨"/srv"⟩⟩
    let settings : Settings := .standard ⟨"wrapper"⟩
    let history : List Operation :=
      [.create 0 ⟨"api", ⟨"/srv"⟩⟩ "listen" ⟨"/srv"⟩ none, .markExited 0 1 0]
    let start : World Rehearsal.Cast := ⟨Store.empty.run history, 100000, [], []⟩
    let swept := ((sweep p settings).run.run start).2.store
    let last := ((run p settings service).run.run start).2
    p.Within (ByWrappers True) ∧ p.StartsWrappers True
      ∧ ¬ ∀ r ∈ swept.launches, ¬ IdsOf (swept.toReplace service.key "serve" ⟨"/srv"⟩) r.id →
        r ∈ last.store.launches := by
  intro p service settings history start swept last
  obtain ⟨hp, hspawn⟩ : p.Within (ByWrappers True) ∧ p.StartsWrappers True := by
    refine castPlatform_byWrappers fun payload op hop => ?_
    rcases List.mem_cons.mp hop with rfl | hop
    · rfl
    · rw [List.mem_singleton.mp hop]
      trivial
  refine ⟨hp, hspawn, fun hall => ?_⟩
  have hnone : swept.toReplace service.key "serve" ⟨"/srv"⟩ = [] := by decide +kernel
  have hother : ¬ IdsOf (swept.toReplace service.key "serve" ⟨"/srv"⟩) 1 := by
    rintro ⟨r, hr, _⟩
    rw [hnone] at hr
    cases hr
  have hstays := hall
    ⟨1, ⟨"api", ⟨"/srv"⟩⟩, "listen", ⟨"/srv"⟩, 0, none, none, 0, some 0, 0, some 0⟩
    (by decide +kernel) hother
  exact absurd hstays (by decide +kernel)

end Overseer.Supervisor
