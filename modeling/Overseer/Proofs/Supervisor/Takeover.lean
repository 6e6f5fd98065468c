/-
Overseer.Proofs.Supervisor.Takeover — what launching a service stops, step by step.

`run_takes_over`: while a service is launched, and whatever others do to the store
meanwhile, every signal goes to a process of a launch that was listed as running and
that is to be replaced; and every launch that the supervisor itself ends is one to be
replaced, or was found dead by the sweep, or is the new one, which is given up. If the
launching goes through, the new launch is recorded and the supervisor does not end it.

The run is observed from its start on, so that the moments come in pairs: what the
platform does lies between two worlds that were seen, and what the supervisor itself
does between the last world that the platform left and the next one. `Takeover` is the
invariant on both. What is learned on the way, that a launch was listed or that one of
its processes does not answer, is about worlds that were seen and notes that were made,
and so it stays (`Stays`).
-/
import Overseer.Proofs.Supervisor.Ending
import Overseer.Proofs.Supervisor.Watching

namespace Overseer

/-- What a launch is of: a service, a command line and a directory. -/
structure Origin where
  key : ServiceKey
  command : String
  directory : Path

/-- What the launch is of. -/
def ProcessRecord.origin (r : ProcessRecord) : Origin := ⟨r.key, r.command, r.directory⟩

/-- What a launch of the service is of. -/
def ResolvedService.origin (s : ResolvedService) : Origin := ⟨s.key, s.shell, s.directory⟩

/-- A launch of the one takes the place of a launch of the other: they are of one
service, or have one command line in one directory. -/
def Origin.Replaces (new old : Origin) : Prop :=
  old.key = new.key ∨ (old.command = new.command ∧ old.directory = new.directory)

theorem LaunchRow.origin_record (r : LaunchRow) :
    r.record.origin = ⟨r.key, r.command, r.directory⟩ := rfl

namespace Store

/-! ## 1. Running and recorded launches -/

variable {s : Store} {id : Int} {origin : Origin}

/-- The launch of the number runs. -/
def Runs (s : Store) (id : Int) : Prop := ∃ r ∈ s.running none, r.id = id

theorem runs_iff : s.Runs id ↔ ¬ HasEnded id s := by
  simp only [Runs, mem_running_none, HasEnded, not_forall, Bool.not_eq_false]
  constructor
  · rintro ⟨_, ⟨row, hrow, hactive, rfl⟩, hid⟩
    exact ⟨row, hrow, hid, hactive⟩
  · rintro ⟨row, hrow, hid, hactive⟩
    exact ⟨row.record, ⟨row, hrow, hactive, rfl⟩, hid⟩

/-- The launch was recorded with this origin, whether it runs or not. -/
def Records (s : Store) (origin : Origin) (id : Int) : Prop :=
  ∃ row ∈ s.launches, row.id = id ∧ row.record.origin = origin

/-- A change of a row that leaves what the launch is of. -/
theorem records_updateLaunch {f : LaunchRow → LaunchRow} (hid : ∀ r, (f r).id = r.id)
    (horigin : ∀ r : LaunchRow, (f r).record.origin = r.record.origin)
    (h : s.Records origin id) (changed : Int) :
    (s.updateLaunch changed f).Records origin id := by
  obtain ⟨row, hrow, rfl, rfl⟩ := h
  refine ⟨_, List.mem_map_of_mem hrow, ?_⟩
  split
  · exact ⟨hid row, horigin row⟩
  · exact ⟨rfl, rfl⟩

theorem records_markExited (h : s.Records origin id) (now marked code : Int) :
    (s.markExited now marked code).2.Records origin id := by
  by_cases hran : ∃ r ∈ s.launches, r.id = marked ∧ r.isActive = true
  · rw [markExited_of_active hran]
    exact records_updateLaunch (f := LaunchRow.endedWith now code) (fun _ => rfl)
      (fun _ => rfl) h marked
  · rwa [markExited_of_not_active hran]

theorem records_updateWrapperPid (h : s.Records origin id) (launch : Int) (pid : Nat) :
    (s.updateWrapperPid launch pid).Records origin id :=
  records_updateLaunch (f := fun r => { r with wrapperPid := some (pid : Int) }) (fun _ => rfl)
    (fun r => by rw [LaunchRow.origin_record, LaunchRow.origin_record]) h launch

theorem runs_updateWrapperPid (s : Store) (id launch : Int) (pid : Nat) :
    (s.updateWrapperPid launch pid).Runs id ↔ s.Runs id := by
  have hrunners : (s.updateWrapperPid launch pid).runners = s.runners :=
    runners_updateLaunch (f := fun r => { r with wrapperPid := some (pid : Int) }) (fun _ => rfl)
      s launch
  rw [runs_iff, runs_iff, hasEnded_iff_runners, hasEnded_iff_runners, hrunners]

/-- A number is used for one launch: whatever is done to the store, what runs under
it is what was recorded. -/
theorem origin_of_running (hs : Numbered s) (h : s.Records origin id) (history : List Operation)
    {r : ProcessRecord} (hr : r ∈ (s.run history).running none) (hid : r.id = id) :
    r.origin = origin := by
  have hkept : Numbered (s.run history) ∧ id ≤ (s.run history).lastLaunch
      ∧ ∀ row ∈ (s.run history).runners, row.id = id → row.record.origin = origin := by
    refine run_induction (P := fun s => Numbered s ∧ id ≤ s.lastLaunch
      ∧ ∀ row ∈ s.runners, row.id = id → row.record.origin = origin) ?_ ?_ history
    · rintro s op ⟨hs, hused, hrows⟩
      have hlast : s.lastLaunch ≤ (s.step op).lastLaunch := (lastLaunch_run s [op]).1
      refine ⟨numbered_run hs [op], Int.le_trans hused hlast, ?_⟩
      cases hop : op.isCreate with
      | false => exact fun row hrow => hrows row ((runners_step s hop).subset hrow)
      | true =>
        cases op with
        | create now key command directory port =>
          cases hok : s.create now key command directory port with
          | error cause => simpa only [step, hok] using hrows
          | ok made =>
            -- The new row has a number that was not used before.
            simp only [step, hok, runners_create hok]
            refine List.forall_mem_cons.mpr ⟨fun hnew => ?_, hrows⟩
            have hnumber : s.lastLaunch + 1 = id := hnew
            omega
        | _ => cases hop
    · obtain ⟨row, hrow, rfl, rfl⟩ := h
      refine ⟨hs, hs.numbers row hrow, fun other hother hsame => ?_⟩
      obtain ⟨row', hrow', rfl⟩ := List.mem_map.mp hother
      rw [show row' = row from eq_of_inOrder hs.order (List.mem_filter.mp hrow').1 hrow hsame]
      rfl
  obtain ⟨row, hrow, hactive, rfl⟩ := mem_running_none.mp hr
  exact hkept.2.2 row.bare (List.mem_map_of_mem (List.mem_filter.mpr ⟨hrow, hactive⟩)) hid

theorem records_of_running {r : ProcessRecord} (hr : r ∈ s.running none) :
    s.Records r.origin r.id := by
  obtain ⟨row, hrow, _, rfl⟩ := mem_running_none.mp hr
  exact ⟨row, hrow, rfl, rfl⟩

/-- A launch that runs and is marked as ended is settled. -/
theorem settled_markExited (hs : Numbered s) (hruns : s.Runs id) (now code : Int) :
    Settled (s.markExited now id code).2 id (some now) (some code) := by
  obtain ⟨r, hr, rfl⟩ := hruns
  obtain ⟨row, hrow, hactive, rfl⟩ := mem_running_none.mp hr
  have hid : row.record.id = row.id := rfl
  rw [hid, markExited_of_active ⟨row, hrow, rfl, hactive⟩]
  refine ⟨hs.numbers row hrow, fun other hother hsame => ?_⟩
  obtain ⟨old, _, rfl⟩ := List.mem_map.mp hother
  by_cases hold : old.id = row.id
  · rw [if_pos hold]
    exact ⟨rfl, rfl, rfl⟩
  · rw [if_neg hold] at hsame
    exact absurd hsame hold

/-- A mark ends no launch but the marked one. -/
theorem runs_markExited {marked : Int} (hother : id ≠ marked) (h : s.Runs id) (now code : Int) :
    (s.markExited now marked code).2.Runs id := by
  rw [Runs, running_markExited]
  obtain ⟨r, hr, hid⟩ := h
  exact ⟨r, List.mem_filter.mpr ⟨hr, by simpa [hid] using hother⟩, hid⟩

end Store

namespace Supervisor

open Store (HasEnded Numbered Operation Settled)

variable {σ : Type} {p : Platform σ} {settings : Settings} {service : ResolvedService}
  {start : World σ}

/-! ## 2. Steps that were seen -/

/-- The elements two by two. -/
def inPairs {α : Type} : List α → List (α × α)
  | a :: b :: rest => (a, b) :: inPairs rest
  | _ => []

theorem snd_mem_of_mem_inPairs {α : Type} {l : List α} {pair : α × α} (h : pair ∈ inPairs l) :
    pair.2 ∈ l.tail := by
  induction l using inPairs.induct with
  | case1 a b rest ih =>
    rcases List.mem_cons.mp h with rfl | h
    · exact List.mem_cons_self
    · exact List.mem_cons_of_mem _ (List.mem_of_mem_tail (ih h))
  | case2 l hl => rw [inPairs.eq_2 l hl] at h; cases h

namespace World

/-- The world at the beginning of an observation, as the first one that was seen. -/
def begun (w : World σ) : World (Observed σ) := { w with outside := ⟨w.outside, [w]⟩ }

@[simp] theorem unobserved_begun (w : World σ) : w.begun.unobserved = w := rfl

/-- What the supervisor itself did between two calls of the platform: the later world
and the earlier one, latest first. -/
def ownSteps (w : World (Observed σ)) : List (World σ × World σ) := inPairs w.moments

/-- What happened during the calls of the platform. -/
def othersSteps (w : World (Observed σ)) : List (World σ × World σ) := inPairs w.outside.seen

end World

/-- The launch runs in the earlier world and not in the later one. -/
def Stops (id : Int) (step : World σ × World σ) : Prop :=
  step.2.store.Runs id ∧ ¬ step.1.store.Runs id

/-- The later world has seen what the earlier one has, and noted what it has. -/
structure Extends (w w' : World (Observed σ)) : Prop where
  seen : w.outside.seen <:+ w'.outside.seen
  journal : w.journal <:+ w'.journal

/-- Holds on once it holds. -/
def Stays (J : World (Observed σ) → Prop) : Prop := ∀ w w', Extends w w' → J w → J w'

/-- Noted since the journal was this one. -/
def NotedSince (before : List Event) (e : Event) (w : World (Observed σ)) : Prop :=
  ∃ newer, w.journal = newer ++ before ∧ e ∈ newer

/-- The launch is listed as running in a world that was seen. -/
def Listing (listing : World σ) (r : ProcessRecord) (w : World (Observed σ)) : Prop :=
  listing ∈ w.outside.seen ∧ r ∈ listing.store.running none

/-- A process of a launch that is to be replaced. -/
def Aims (service : ResolvedService) (pid : Nat) (w : World (Observed σ)) : Prop :=
  ∃ listing r, Listing listing r w ∧ service.origin.Replaces r.origin ∧ pid ∈ pidsToStop r

/-- The launch was listed as running, and since then each of its processes was asked
about and did not answer. Nor was it being started. -/
def FoundDead (settings : Settings) (id : Int) (w : World (Observed σ)) : Prop :=
  ∃ listing r, Listing listing r w ∧ r.id = id
    ∧ (∀ pid ∈ pidsToStop r, NotedSince listing.journal (.checked pid false) w)
    ∧ ∃ v ∈ w.outside.seen, isLaunching settings v.now r = false

theorem SeenStep.extends {w w' : World (Observed σ)} (h : SeenStep Aside w w') : Extends w w' where
  seen := ⟨[w'.unobserved, w.unobserved], h.2.symm⟩
  journal := (show w'.journal = w.journal from h.1.2) ▸ List.suffix_refl _

theorem extends_note (e : Event) (w : World (Observed σ)) :
    Extends w { w with journal := e :: w.journal } :=
  ⟨List.suffix_refl _, List.suffix_cons e _⟩

theorem extends_write (s : Store) (w : World (Observed σ)) : Extends w { w with store := s } :=
  ⟨List.suffix_refl _, List.suffix_refl _⟩

section

variable {J J' : World (Observed σ) → Prop}

theorem Stays.and (h : Stays J) (h' : Stays J') : Stays fun w => J w ∧ J' w :=
  fun w w' hw hj => ⟨h w w' hw hj.1, h' w w' hw hj.2⟩

theorem Stays.given (h : Stays J) (c : Prop) : Stays fun w => c → J w :=
  fun w w' hw hj hc => h w w' hw (hj hc)

theorem stays_forall {ι : Sort*} {J : ι → World (Observed σ) → Prop} (h : ∀ i, Stays (J i)) :
    Stays fun w => ∀ i, J i w :=
  fun w w' hw hj i => h i w w' hw (hj i)

theorem stays_exists {ι : Sort*} {J : ι → World (Observed σ) → Prop} (h : ∀ i, Stays (J i)) :
    Stays fun w => ∃ i, J i w :=
  fun w w' hw ⟨i, hj⟩ => ⟨i, h i w w' hw hj⟩

theorem stays_const (c : Prop) : Stays fun _ : World (Observed σ) => c := fun _ _ _ h => h

theorem stays_seen (v : World σ) : Stays fun w => v ∈ w.outside.seen :=
  fun _ _ h hv => h.seen.subset hv

theorem stays_notedSince (before : List Event) (e : Event) :
    Stays (σ := σ) (NotedSince before e) := by
  rintro w w' ⟨-, later, hjournal⟩ ⟨newer, hnewer, he⟩
  refine ⟨later ++ newer, ?_, List.mem_append_right _ he⟩
  rw [← hjournal, hnewer, List.append_assoc]

theorem stays_listing (listing : World σ) (r : ProcessRecord) : Stays (Listing listing r) :=
  (stays_seen listing).and (stays_const _)

theorem stays_aims (service : ResolvedService) (pid : Nat) : Stays (σ := σ) (Aims service pid) :=
  stays_exists fun listing => stays_exists fun r => (stays_listing listing r).and (stays_const _)

theorem stays_foundDead (settings : Settings) (id : Int) :
    Stays (σ := σ) (FoundDead settings id) :=
  stays_exists fun listing => stays_exists fun r => (stays_listing listing r).and
    ((stays_const _).and ((stays_forall fun _ => (stays_notedSince _ _).given _).and
      (stays_exists fun v => (stays_seen v).and (stays_const _))))

end

theorem NotedSince.of_cons {before : List Event} {e e' : Event} {w : World (Observed σ)}
    (hbefore : before <:+ w.journal)
    (h : NotedSince before e { w with journal := e' :: w.journal }) :
    e = e' ∨ NotedSince before e w := by
  obtain ⟨newer, hnewer, he⟩ := h
  obtain ⟨older, holder⟩ := hbefore
  have hall : newer ++ before = (e' :: older) ++ before := by
    rw [← hnewer, List.cons_append, holder]
  replace hall : newer = e' :: older := List.append_cancel_right hall
  rcases List.mem_cons.mp (hall ▸ he) with rfl | he
  · exact Or.inl rfl
  · exact Or.inr ⟨older, holder.symm, he⟩

theorem notedSince_cons {before : List Event} (e : Event) {w : World (Observed σ)}
    (hbefore : before <:+ w.journal) :
    NotedSince before e { w with journal := e :: w.journal } := by
  obtain ⟨older, holder⟩ := hbefore
  exact ⟨e :: older, by rw [List.cons_append, holder], List.mem_cons_self⟩

/-! ## 3. Nothing but a takeover -/

/-- Why the supervisor may have ended a launch, of which `r` is the record before the
end: the launch was to be replaced, or it is marked as found dead and was, or it is one
that was begun since the start. -/
def MayEnd (settings : Settings) (service : ResolvedService) (start later : World σ)
    (r : ProcessRecord) (w : World (Observed σ)) : Prop :=
  service.origin.Replaces r.origin
    ∨ ((∃ finish, Settled later.store r.id finish (some Store.foundDead))
      ∧ FoundDead settings r.id w)
    ∨ ∃ payload, NotedSince start.journal (.launched payload) w ∧ payload.launch = r.id

theorem stays_mayEnd (settings : Settings) (service : ResolvedService) (start later : World σ)
    (r : ProcessRecord) : Stays (MayEnd settings service start later r) := by
  intro w w' hw hmay
  refine hmay.imp_right (Or.imp ?_ ?_)
  · exact And.imp_right (stays_foundDead settings r.id w w' hw)
  · exact fun ⟨payload, hnoted, hid⟩ => ⟨payload, stays_notedSince _ _ w w' hw hnoted, hid⟩

/-- What was marked as found dead stays marked so. -/
theorem MayEnd.follows {later later' : World σ} {r : ProcessRecord} {w : World (Observed σ)}
    (h : MayEnd settings service start later r w) (hfollows : Follows later' later) :
    MayEnd settings service start later' r w := by
  refine h.imp_right (Or.imp_left (And.imp_left ?_))
  rintro ⟨finish, hsettled⟩
  obtain ⟨deeds, hdeeds⟩ := hfollows
  exact ⟨finish, hdeeds ▸ Store.settled_run hsettled deeds⟩

/-- From the start on a service was launched in place of what it replaces: signals were
aimed at such launches, what was begun is recorded for the service, and the supervisor
has ended what it may. The first fields are about the observation itself. -/
structure Takeover (settings : Settings) (service : ResolvedService) (start : World σ)
    (w : World (Observed σ)) : Prop where
  first : start ∈ w.outside.seen
  begun : ∀ v ∈ w.moments, Follows v start
  chain : w.moments.Pairwise Follows
  journal : ∀ v ∈ w.outside.seen, v.journal <:+ w.journal
  clock : ∃ v ∈ w.outside.seen, v.now = w.now
  aimed : ∀ tree pid s, NotedSince start.journal (.signalled tree pid s) w → Aims service pid w
  launched : ∀ payload, NotedSince start.journal (.launched payload) w →
    start.store.lastLaunch < payload.launch
      ∧ ∃ v ∈ w.moments, v.store.Records service.origin payload.launch
  ended : ∀ step ∈ w.ownSteps, ∀ r ∈ step.2.store.running none, ¬ step.1.store.Runs r.id →
    MayEnd settings service start step.1 r w

theorem takeover_begun (settings : Settings) (service : ResolvedService) (start : World σ) :
    Takeover settings service start start.begun := by
  have hnone (e : Event) : ¬ NotedSince start.journal e start.begun := by
    rintro ⟨newer, hnewer, he⟩
    rw [List.self_eq_append_left.mp hnewer] at he
    cases he
  have hmoments : ∀ v ∈ start.begun.moments, v = start :=
    List.forall_mem_cons.mpr ⟨rfl, fun _ => List.mem_singleton.mp⟩
  refine ⟨List.mem_singleton_self _, fun v hv => hmoments v hv ▸ .refl v, ?_, ?_,
    ⟨start, List.mem_singleton_self _, rfl⟩, fun _ _ _ h => absurd h (hnone _),
    fun _ h => absurd h (hnone _), ?_⟩
  · exact List.pairwise_pair.mpr (.refl start)
  · exact fun v hv => List.mem_singleton.mp hv ▸ List.suffix_refl _
  · intro step hstep r hr hended
    obtain rfl : step = (start, start) := List.mem_singleton.mp hstep
    exact absurd ⟨r, hr, rfl⟩ hended

namespace Takeover

variable {w w' : World (Observed σ)} (h : Takeover settings service start w)
include h

theorem start_journal : start.journal <:+ w.journal := h.journal start h.first

/-- Others act. -/
theorem seenStep (hstep : SeenStep Aside w w') : Takeover settings service start w' := by
  have hext := hstep.extends
  obtain ⟨⟨hfollows, hjournal⟩, hseen⟩ := hstep
  have hmoments : w'.moments = w'.unobserved :: w'.unobserved :: w.moments := by
    rw [World.moments, hseen, World.moments]
  have hnoted : w'.journal = w.journal := hjournal
  have hback {e : Event} (he : NotedSince start.journal e w') : NotedSince start.journal e w := by
    obtain ⟨newer, hnewer, he⟩ := he
    exact ⟨newer, hnoted ▸ hnewer, he⟩
  have hlater : ∀ v ∈ w.moments, Follows w'.unobserved v := by
    refine List.forall_mem_cons.mpr ⟨hfollows, fun v hv => ?_⟩
    exact Trans.trans hfollows ((List.pairwise_cons.mp h.chain).1 v hv)
  refine ⟨hext.seen.subset h.first, ?_, ?_, ?_, ⟨w'.unobserved, ?_, rfl⟩, ?_, ?_, ?_⟩
  · have hnow : Follows w'.unobserved start :=
      Trans.trans hfollows (h.begun w.unobserved List.mem_cons_self)
    rw [hmoments]
    exact List.forall_mem_cons.mpr ⟨hnow, List.forall_mem_cons.mpr ⟨hnow, h.begun⟩⟩
  · rw [hmoments]
    refine List.pairwise_cons.mpr ⟨List.forall_mem_cons.mpr ⟨.refl _, hlater⟩, ?_⟩
    exact List.pairwise_cons.mpr ⟨hlater, h.chain⟩
  · rw [hseen, hnoted]
    refine List.forall_mem_cons.mpr ⟨hnoted ▸ List.suffix_refl _, ?_⟩
    exact List.forall_mem_cons.mpr ⟨List.suffix_refl _, h.journal⟩
  · rw [hseen]
    exact List.mem_cons_self
  · exact fun tree pid s he => stays_aims service pid w w' hext (h.aimed tree pid s (hback he))
  · intro payload he
    obtain ⟨hnew, v, hv, hrecords⟩ := h.launched payload (hback he)
    refine ⟨hnew, v, ?_, hrecords⟩
    rw [hmoments]
    exact List.mem_cons_of_mem _ (List.mem_cons_of_mem _ hv)
  · intro step hstep r hr hended
    rw [World.ownSteps, hmoments] at hstep
    rcases List.mem_cons.mp hstep with rfl | hstep
    · exact absurd ⟨r, hr, rfl⟩ hended
    · exact stays_mayEnd _ _ _ _ r w w' hext (h.ended step hstep r hr hended)

/-- A step of the supervisor itself goes on; only what it ends newly needs a reason. -/
theorem ended_of_seen_eq (hseen : w'.outside.seen = w.outside.seen) (hext : Extends w w')
    (hfollows : Follows w'.unobserved w.unobserved)
    (hnew : ∀ last ∈ w.outside.seen, ∀ r ∈ last.store.running none, w.store.Runs r.id →
      ¬ w'.store.Runs r.id → MayEnd settings service start w'.unobserved r w') :
    ∀ step ∈ w'.ownSteps, ∀ r ∈ step.2.store.running none, ¬ step.1.store.Runs r.id →
      MayEnd settings service start step.1 r w' := by
  intro step hstep r hr hended
  rw [World.ownSteps, World.moments, hseen] at hstep
  have hbefore := h.ended
  rw [World.ownSteps, World.moments] at hbefore
  rcases hrest : w.outside.seen with _ | ⟨last, older⟩
  · rw [hrest] at hstep
    cases hstep
  · rw [hrest] at hstep hbefore
    rcases List.mem_cons.mp hstep with rfl | hstep
    · by_cases hruns : w.store.Runs r.id
      · exact hnew last (hrest ▸ List.mem_cons_self) r hr hruns hended
      · have hmay := hbefore (w.unobserved, last) List.mem_cons_self r hr hruns
        exact stays_mayEnd _ _ _ _ r w w' hext (hmay.follows hfollows)
    · have hmay := hbefore step (List.mem_cons_of_mem _ hstep) r hr hended
      exact stays_mayEnd _ _ _ _ r w w' hext hmay

/-- Something is noted. -/
theorem note {e : Event} (hsignal : ∀ tree pid s, e = .signalled tree pid s → Aims service pid w)
    (hlaunch : ∀ payload, e = .launched payload → start.store.lastLaunch < payload.launch
      ∧ w.store.Records service.origin payload.launch) :
    Takeover settings service start { w with journal := e :: w.journal } := by
  have hext := extends_note e w
  obtain ⟨hnow, hseen⟩ := List.forall_mem_cons.mp h.begun
  obtain ⟨hlast, hchain⟩ := List.pairwise_cons.mp h.chain
  refine ⟨h.first, List.forall_mem_cons.mpr ⟨hnow, hseen⟩, List.pairwise_cons.mpr ⟨hlast, hchain⟩,
    fun v hv => (h.journal v hv).trans (List.suffix_cons e _), h.clock, ?_, ?_, ?_⟩
  · intro tree pid s he
    refine stays_aims service pid _ _ hext ?_
    exact (he.of_cons h.start_journal).elim (fun heq => hsignal tree pid s heq.symm)
      (h.aimed tree pid s)
  · intro payload he
    rcases he.of_cons h.start_journal with heq | he
    · obtain ⟨hnew, hrecords⟩ := hlaunch payload heq.symm
      exact ⟨hnew, _, List.mem_cons_self, hrecords⟩
    · obtain ⟨hnew, v, hv, hrecords⟩ := h.launched payload he
      rcases List.mem_cons.mp hv with rfl | hv
      · exact ⟨hnew, _, List.mem_cons_self, hrecords⟩
      · exact ⟨hnew, v, List.mem_cons_of_mem _ hv, hrecords⟩
  · exact h.ended_of_seen_eq rfl hext (.refl _) fun _ _ _ _ hruns hended => absurd hruns hended

/-- The supervisor writes to the store. -/
theorem write (op : Operation)
    (hrecords : ∀ id, w.store.Records service.origin id →
      (w.store.step op).Records service.origin id)
    (hends : ∀ last ∈ w.outside.seen, ∀ r ∈ last.store.running none, w.store.Runs r.id →
      ¬ (w.store.step op).Runs r.id →
        MayEnd settings service start { w.unobserved with store := w.store.step op } r w) :
    Takeover settings service start { w with store := w.store.step op } := by
  have hext := extends_write (w.store.step op) w
  have hstep : Follows { w.unobserved with store := w.store.step op } w.unobserved := ⟨[op], rfl⟩
  obtain ⟨hnow, hseen⟩ := List.forall_mem_cons.mp h.begun
  obtain ⟨hlast, hchain⟩ := List.pairwise_cons.mp h.chain
  refine ⟨h.first, List.forall_mem_cons.mpr ⟨Trans.trans hstep hnow, hseen⟩,
    List.pairwise_cons.mpr ⟨fun v hv => Trans.trans hstep (hlast v hv), hchain⟩, h.journal, h.clock,
    fun tree pid s he => stays_aims service pid _ _ hext (h.aimed tree pid s he), ?_, ?_⟩
  · intro payload he
    obtain ⟨hnew, v, hv, hrecorded⟩ := h.launched payload he
    rcases List.mem_cons.mp hv with rfl | hv
    · exact ⟨hnew, _, List.mem_cons_self, hrecords _ hrecorded⟩
    · exact ⟨hnew, v, List.mem_cons_of_mem _ hv, hrecorded⟩
  · refine h.ended_of_seen_eq rfl hext hstep fun last hlast r hr hruns hended => ?_
    exact stays_mayEnd _ _ _ _ r _ _ hext (hends last hlast r hr hruns hended)

/-- One launch is marked as ended. -/
theorem mark {now id code : Int}
    (hmay : ∀ last ∈ w.outside.seen, ∀ r ∈ last.store.running none, r.id = id → w.store.Runs id →
      MayEnd settings service start
        { w.unobserved with store := (w.store.markExited now id code).2 } r w) :
    Takeover settings service start
      { w with store := (w.store.markExited now id code).2 } := by
  refine h.write (.markExited now id code)
    (fun _ hrecords => Store.records_markExited hrecords now id code) ?_
  intro last hlast r hr hruns hended
  by_cases hid : r.id = id
  · exact hmay last hlast r hr hid (hid ▸ hruns)
  · exact absurd (Store.runs_markExited hid hruns now code) hended

/-- Launches of one number that were seen at different times are of the same. -/
theorem origin_eq (hs : Numbered start.store) {v v' : World σ} (hv : v ∈ w.outside.seen)
    (hv' : v' ∈ w.outside.seen) {r r' : ProcessRecord} (hr : r ∈ v.store.running none)
    (hr' : r' ∈ v'.store.running none) (hid : r'.id = r.id) : r'.origin = r.origin := by
  have hlater {later earlier : World σ} (hearlier : earlier ∈ w.outside.seen)
      (hfollows : Follows later earlier) {a b : ProcessRecord} (ha : a ∈ earlier.store.running none)
      (hb : b ∈ later.store.running none) (hsame : b.id = a.id) : b.origin = a.origin := by
    obtain ⟨deeds, hdeeds⟩ := hfollows
    have hnumbered := (h.begun earlier (List.mem_cons_of_mem _ hearlier)).numbered hs
    exact Store.origin_of_running hnumbered (Store.records_of_running ha) deeds (hdeeds ▸ hb) hsame
  have hpairs := (List.pairwise_cons.mp h.chain).2
  have hordered : Follows v v' ∨ Follows v' v := by
    refine List.Pairwise.forall_of_forall_of_flip (R := fun a b => Follows a b ∨ Follows b a)
      (fun a _ => Or.inl (.refl a)) (hpairs.imp Or.inl) (hpairs.imp Or.inr) hv hv'
  rcases hordered with hfollows | hfollows
  · exact (hlater hv' hfollows hr' hr hid.symm).symm
  · exact hlater hv hfollows hr hr' hid

end Takeover

/-- A launch has just been recorded for the service, with a number that was not used before. -/
structure JustRecorded (service : ResolvedService) (start : World σ) (id : Int)
    (w : World (Observed σ)) : Prop where
  new : start.store.lastLaunch < id
  recorded : w.store.Records service.origin id
  runs : w.store.Runs id
  before : ∀ v ∈ w.outside.seen, ¬ v.store.Runs id

/-- A launch was begun since the start, and the supervisor itself has not ended it. -/
structure Begun (start : World σ) (id : Int) (w : World (Observed σ)) : Prop where
  launched : ∃ payload, NotedSince start.journal (.launched payload) w ∧ payload.launch = id
  ran : ∃ v ∈ w.moments, v.store.Runs id
  kept : ∀ step ∈ w.ownSteps, ¬ Stops id step

namespace Begun

variable {id : Int} {w w' : World (Observed σ)} (h : Begun start id w)
include h

theorem seenStep (hstep : SeenStep Aside w w') : Begun start id w' := by
  obtain ⟨payload, hnoted, hid⟩ := h.launched
  obtain ⟨v, hv, hruns⟩ := h.ran
  have hmoments : w'.moments = w'.unobserved :: w'.unobserved :: w.moments := by
    rw [World.moments, hstep.2, World.moments]
  refine ⟨⟨payload, stays_notedSince _ _ w w' hstep.extends hnoted, hid⟩, ⟨v, ?_, hruns⟩, ?_⟩
  · rw [hmoments]
    exact List.mem_cons_of_mem _ (List.mem_cons_of_mem _ hv)
  · rw [World.ownSteps, hmoments]
    exact List.forall_mem_cons.mpr ⟨fun hstops => hstops.2 hstops.1, h.kept⟩

/-- The supervisor goes on, and the launch runs if it ran. -/
theorem move (hseen : w'.outside.seen = w.outside.seen) (hext : Extends w w')
    (hruns : w'.store.Runs id ↔ w.store.Runs id) : Begun start id w' := by
  obtain ⟨payload, hnoted, hid⟩ := h.launched
  obtain ⟨v, hv, hran⟩ := h.ran
  refine ⟨⟨payload, stays_notedSince _ _ w w' hext hnoted, hid⟩, ?_, ?_⟩
  · rw [World.moments, hseen]
    rcases List.mem_cons.mp hv with rfl | hv
    · exact ⟨_, List.mem_cons_self, hruns.mpr hran⟩
    · exact ⟨v, List.mem_cons_of_mem _ hv, hran⟩
  · have hkept := h.kept
    rw [World.ownSteps, World.moments] at hkept ⊢
    rw [hseen]
    rcases hrest : w.outside.seen with _ | ⟨last, older⟩
    · exact fun step hstep => absurd hstep List.not_mem_nil
    · rw [hrest] at hkept
      obtain ⟨hlast, holder⟩ := List.forall_mem_cons.mp hkept
      exact List.forall_mem_cons.mpr
        ⟨fun hstops => hlast ⟨hstops.1, fun hran => hstops.2 (hruns.mpr hran)⟩, holder⟩

end Begun

/-! ## 4. The course of launching -/

section

variable (hp : p.Within Aside)
include hp

/-- What is learned on the way stays, and what is done under it must be in order. -/
theorem frame_takeover {J : World (Observed σ) → Prop} (hJ : Stays J) {notes : Event → Prop}
    {writes : Operation → Prop} (hchecked : ∀ pid alive, notes (.checked pid alive))
    (hsignals : ∀ tree pid s, notes (.signalled tree pid s) → ∀ w, J w → Aims service pid w)
    (hlaunches : ∀ payload, ¬ notes (.launched payload))
    (hwrites : ∀ op, writes op → ∀ w, Takeover settings service start w → J w →
      Takeover settings service start { w with store := w.store.step op }) :
    Frame p.observed (fun w => Takeover settings service start w ∧ J w) notes writes where
  platform := hp.observed.mono fun w w' hstep h =>
    ⟨h.1.seenStep hstep, hJ w w' hstep.extends h.2⟩
  checked := hchecked
  note e he w h := by
    refine ⟨h.1.note ?_ ?_, hJ w _ (extends_note e w) h.2⟩
    · rintro tree pid s rfl
      exact hsignals tree pid s he w h.2
    · rintro payload rfl
      exact absurd he (hlaunches payload)
  write op hop w h := ⟨hwrites op hop w h.1 h.2, hJ w _ (extends_write _ w) h.2⟩

/-- Asking about processes keeps what is known. -/
theorem frame_asking {J : World (Observed σ) → Prop} (hJ : Stays J) :
    Frame p.observed (fun w => Takeover settings service start w ∧ J w)
      (fun e => ∃ pid alive, e = .checked pid alive) fun _ => False :=
  frame_takeover hp hJ (fun pid alive => ⟨pid, alive, rfl⟩) (fun _ _ _ ⟨_, _, h⟩ => by cases h)
    (fun _ ⟨_, _, h⟩ => by cases h) fun _ h => h.elim

/-- What is read was seen. -/
theorem look_seen {α : Type} (find : Store → α) :
    Does (Takeover settings service start) (look p.observed find)
      (fun x w => Takeover settings service start w
        ∧ ∃ listing ∈ w.outside.seen, x = find listing.store)
      (Takeover settings service start) := by
  have hothers : Asks (Takeover settings service start) p.observed.others
      fun _ w => Takeover settings service start w ∧ w.unobserved ∈ w.outside.seen :=
    fun w hw => ⟨hw.seenStep (hp.observed.others w), List.mem_cons_self⟩
  exact does_look hothers fun w hw => ⟨hw.1, w.unobserved, hw.2, rfl⟩

/-- A process that is said not to be alive was asked about since the listing. -/
theorem checkSome_unanswered {J : World (Observed σ) → Prop} (hJ : Stays J) {listing : World σ}
    (hlisting : ∀ w, J w → listing ∈ w.outside.seen) (pid? : Option Nat) :
    Asks (fun w => Takeover settings service start w ∧ J w) (checkSome p.observed pid?)
      fun a w => Takeover settings service start w ∧ J w ∧ (a = false →
        ∀ pid ∈ pid?, NotedSince listing.journal (.checked pid false) w) := by
  have hframe : Frame p.observed (fun w => Takeover settings service start w ∧ J w) _ _ :=
    frame_asking hp hJ
  rcases pid? with _ | pid
  · exact asks_pure fun w hw => ⟨hw.1, hw.2, fun _ pid hpid => by cases hpid⟩
  have hasked : Asks (fun w => Takeover settings service start w ∧ J w) (p.observed.isAlive pid)
      fun _ w => Takeover settings service start w ∧ J w := hframe.platform.isAlive pid
  refine hasked.bind fun alive => ?_
  refine Asks.bind (asks_note (Q := fun _ w => Takeover settings service start w ∧ J w ∧
    (alive = false → ∀ other ∈ some pid, NotedSince listing.journal (.checked other false) w))
    fun w hw => ?_) fun _ => asks_pure fun _ hw => hw
  obtain ⟨htake, hj⟩ := hframe.note _ ⟨pid, alive, rfl⟩ w hw
  refine ⟨htake, hj, ?_⟩
  rintro rfl _ ⟨⟩
  exact notedSince_cons _ (hw.1.journal listing (hlisting w hw.2))

/-- A listed launch that is not alive was found dead. -/
theorem isRecordAlive_foundDead {listing : World σ} {r : ProcessRecord} :
    Asks (fun w => Takeover settings service start w ∧ Listing listing r w)
      (isRecordAlive p.observed settings r)
      fun a w => Takeover settings service start w ∧ Listing listing r w
        ∧ (a = false → FoundDead settings r.id w) := by
  have hunanswered (a : Bool) (pid? : Option Nat) : Stays (σ := σ) fun w => a = false →
      ∀ pid ∈ pid?, NotedSince listing.journal (.checked pid false) w :=
    (stays_forall fun _ => (stays_notedSince _ _).given _).given _
  have hlisted := stays_listing listing r
  refine (checkSome_unanswered hp hlisted (fun _ hw => hw.1) r.childPid?).bind fun child => ?_
  refine (checkSome_unanswered hp (hlisted.and (hunanswered child r.childPid?))
    (fun _ hw => hw.1.1) r.wrapperPid).bind fun wrapper => ?_
  refine Asks.bind (asks_get (Q := fun v w => v.now = w.now
    ∧ Takeover settings service start w ∧ (Listing listing r w
      ∧ (child = false → ∀ pid ∈ r.childPid?, NotedSince listing.journal (.checked pid false) w))
      ∧ (wrapper = false →
        ∀ pid ∈ r.wrapperPid, NotedSince listing.journal (.checked pid false) w))
    fun w hw => ⟨rfl, hw⟩) fun v => asks_pure ?_
  rintro w ⟨hnow, htake, ⟨hlisting, hchild⟩, hwrapper⟩
  refine ⟨htake, hlisting, fun ha => ⟨listing, r, hlisting, rfl, ?_, ?_⟩⟩
  all_goals simp only [Bool.or_eq_false_iff] at ha
  · exact forall_pidsToStop.mpr ⟨hchild ha.1.1, hwrapper ha.1.2⟩
  · obtain ⟨seen, hseen, hclock⟩ := htake.clock
    exact ⟨seen, hseen, by rw [hclock, ← hnow, ha.2]⟩

variable (hs : Numbered start.store)
include hs

/-- What the sweep ends was found dead. -/
theorem sweepEach_takeover {listing : World σ} {records : List ProcessRecord}
    (hrecords : ∀ r ∈ records, r ∈ listing.store.running none) :
    Does (fun w => Takeover settings service start w ∧ listing ∈ w.outside.seen)
      (sweepEach p.observed settings records) (fun _ => Takeover settings service start)
      (Takeover settings service start) := by
  induction records with
  | nil => exact does_pure fun _ hw => hw.1
  | cons r rest ih =>
    obtain ⟨hr, hrest⟩ := List.forall_mem_cons.mp hrecords
    have hframe : Frame p.observed (fun w => Takeover settings service start w
        ∧ listing ∈ w.outside.seen ∧ FoundDead settings r.id w)
        (fun e => ∃ pid alive, e = .checked pid alive)
        fun op => ∃ now, op = .markExited now r.id Store.foundDead := by
      refine frame_takeover hp ((stays_seen listing).and (stays_foundDead settings r.id))
        (fun pid alive => ⟨pid, alive, rfl⟩) (fun _ _ _ ⟨_, _, h⟩ => by cases h)
        (fun _ ⟨_, _, h⟩ => by cases h) ?_
      rintro _ ⟨now, rfl⟩ w hw ⟨-, hfound⟩
      refine hw.mark fun last _ r' _ hid hruns => Or.inr (Or.inl ?_)
      rw [hid]
      have hnumbered := (hw.begun w.unobserved List.mem_cons_self).numbered hs
      exact ⟨⟨_, Store.settled_markExited hnumbered hruns now _⟩, hfound⟩
    refine ((isRecordAlive_foundDead hp).pre fun w hw => ⟨hw.1, hw.2, hr⟩).lift.bind fun a => ?_
    cases a with
    | true => exact (ih hrest).pre fun w hw => ⟨hw.1, hw.2.1.1⟩
    | false =>
      refine ((hframe.markExited fun now => ⟨now, rfl⟩).pre
        fun w hw => ⟨hw.1, hw.2.1.1, hw.2.2 rfl⟩).bind fun changed => ?_
      refine Does.bind ((ih hrest).pre fun w hw => ⟨hw.1, hw.2.1⟩) fun swept => ?_
      exact does_pure fun _ hw => hw

theorem sweep_takeover :
    Does (Takeover settings service start) (sweep p.observed settings)
      (fun _ => Takeover settings service start) (Takeover settings service start) := by
  refine (look_seen hp _).bind fun records => ?_
  refine Does.pre (P := fun w => ∃ listing, records = listing.store.running none
    ∧ Takeover settings service start w ∧ listing ∈ w.outside.seen) ?_
    fun w ⟨htake, listing, hlisting, hread⟩ => ⟨listing, hread, htake, hlisting⟩
  exact does_exists fun listing => does_and fun hread =>
    sweepEach_takeover hp hs fun r hr => hread ▸ hr

/-- What is stopped is a launch that was listed and is to be replaced. -/
theorem replace_takeover {find : Store → Option ProcessRecord}
    (hfind : ∀ s, ∀ r ∈ find s, r ∈ s.running none ∧ service.origin.Replaces r.origin) :
    Does (Takeover settings service start) (replace p.observed settings find)
      (fun _ => Takeover settings service start) (Takeover settings service start) := by
  refine (look_seen hp find).bind fun found => ?_
  rcases found with _ | r
  · exact does_pure fun _ hw => hw.1
  refine Does.pre (P := fun w => ∃ listing, service.origin.Replaces r.origin
    ∧ Takeover settings service start w ∧ Listing listing r w) ?_ ?_
  · refine does_exists fun listing => does_and fun hreplaces => ?_
    have hframe : Frame p.observed
        (fun w => Takeover settings service start w ∧ Listing listing r w)
        (fun e => (∃ pid alive, e = .checked pid alive)
          ∨ ∃ pid ∈ pidsToStop r, ∃ s, e = .signalled true pid s)
        fun op => ∃ now, op = .markExited now r.id killedCode := by
      refine frame_takeover hp (stays_listing listing r) (fun pid alive => Or.inl ⟨pid, alive, rfl⟩)
        ?_ ?_ ?_
      · rintro tree pid s (⟨_, _, he⟩ | ⟨_, hpid, _, he⟩) w hw
        · cases he
        · cases he
          exact ⟨listing, r, hw, hreplaces, hpid⟩
      · rintro payload (⟨_, _, he⟩ | ⟨_, _, _, he⟩) <;> cases he
      · rintro _ ⟨now, rfl⟩ w hw ⟨hseen, hr⟩
        refine hw.mark fun last hlast r' hr' hid _ => Or.inl ?_
        rw [hw.origin_eq hs hseen hlast hr hr' hid]
        exact hreplaces
    have hstop : Does (fun w => Takeover settings service start w ∧ Listing listing r w)
        (stopRecord p.observed settings r)
        (fun _ w => Takeover settings service start w ∧ Listing listing r w)
        (fun w => Takeover settings service start w ∧ Listing listing r w) :=
      hframe.stopRecord (fun pid hpid s => Or.inr ⟨pid, hpid, s, rfl⟩) fun now => ⟨now, rfl⟩
    refine Does.bind (hstop.fault fun w hw => hw.1) fun _ => does_pure fun w hw => hw.1
  · rintro w ⟨htake, listing, hlisting, hread⟩
    obtain ⟨hr, hreplaces⟩ := hfind listing.store r hread.symm
    exact ⟨listing, hreplaces, htake, hlisting, hr⟩

/-- The new launch is recorded, and it did not run before. -/
theorem create_takeover (now : Int) (port? : Option Nat) :
    Does (Takeover settings service start)
      (access p.observed fun s => s.create now service.key service.shell service.directory port?)
      (fun id w => Takeover settings service start w ∧ JustRecorded service start id w)
      (Takeover settings service start) := by
  refine does_access (fun w hw => hw.seenStep (hp.observed.others w)) ?_ fun _ _ hw _ => hw
  intro w id s hw hok
  obtain ⟨_, _, rfl, hnext⟩ := Store.create_eq_ok_iff.mp hok
  have hstep :
      w.store.step (.create now service.key service.shell service.directory port?) = s := by
    simp only [Store.step, hok]
  have hrow : w.store.newRow now service.key service.shell service.directory port? ∈ s.launches :=
    hnext ▸ List.mem_cons_self
  have hkept : ∀ row ∈ w.store.launches, row ∈ s.launches :=
    fun row hrow => hnext ▸ List.mem_cons_of_mem _ hrow
  have hused {v : World σ} (hv : Follows w.unobserved v) :
      v.store.lastLaunch ≤ w.store.lastLaunch := by
    obtain ⟨deeds, hdeeds⟩ := hv
    have hlast := (Store.lastLaunch_run v.store deeds).1
    rwa [← hdeeds] at hlast
  refine ⟨?_, ?_, ⟨_, hrow, rfl, rfl⟩, ⟨_, Store.mem_running_none.mpr ⟨_, hrow, rfl, rfl⟩, rfl⟩, ?_⟩
  · rw [← hstep]
    refine hw.write _ ?_ ?_
    · rintro id ⟨row, hrow, hid, horigin⟩
      exact ⟨row, hstep ▸ hkept row hrow, hid, horigin⟩
    · rintro last _ r _ ⟨r', hr', hid⟩ hended
      obtain ⟨row, hrow, hactive, rfl⟩ := Store.mem_running_none.mp hr'
      refine absurd ⟨_, Store.mem_running_none.mpr ⟨row, ?_, hactive, rfl⟩, hid⟩ hended
      exact hstep ▸ hkept row hrow
  · have hlast := hused (hw.begun w.unobserved List.mem_cons_self)
    omega
  · rintro v hv ⟨r, hr, hid⟩
    obtain ⟨row, hrow, _, rfl⟩ := Store.mem_running_none.mp hr
    have hnumbered := (hw.begun v (List.mem_cons_of_mem _ hv)).numbered hs
    have hbelow : row.id ≤ v.store.lastLaunch := hnumbered.numbers row hrow
    have hlast := hused ((List.pairwise_cons.mp hw.chain).1 v hv)
    have hnew : row.id = w.store.lastLaunch + 1 := hid
    omega

omit hs

/-- A launch that is given up is one that was begun since the start. -/
theorem frame_givingUp (id : Int) :
    Frame p.observed (fun w => Takeover settings service start w
        ∧ ∃ payload, NotedSince start.journal (.launched payload) w ∧ payload.launch = id)
      (fun e => ∃ pid alive, e = .checked pid alive)
      fun op => ∃ now code, op = .markExited now id code := by
  refine frame_takeover hp
    (stays_exists fun payload => (stays_notedSince _ _).and (stays_const _))
    (fun pid alive => ⟨pid, alive, rfl⟩) (fun _ _ _ ⟨_, _, h⟩ => by cases h)
    (fun _ ⟨_, _, h⟩ => by cases h) ?_
  rintro _ ⟨now, code, rfl⟩ w hw ⟨payload, hnoted, hid⟩
  exact hw.mark fun last _ r _ hsame _ => Or.inr (Or.inr ⟨payload, hnoted, hid.trans hsame.symm⟩)

theorem frame_begun (id : Int) :
    Frame p.observed (fun w => Takeover settings service start w ∧ Begun start id w)
      (fun e => ∃ pid alive, e = .checked pid alive)
      fun op => ∃ pid, op = .updateWrapperPid id pid where
  platform := hp.observed.mono fun _ _ hstep h => ⟨h.1.seenStep hstep, h.2.seenStep hstep⟩
  checked pid alive := ⟨pid, alive, rfl⟩
  note := by
    rintro _ ⟨pid, alive, rfl⟩ w ⟨htake, hbegun⟩
    refine ⟨htake.note (fun _ _ _ he => by cases he) (fun _ he => by cases he), ?_⟩
    exact hbegun.move rfl (extends_note _ w) Iff.rfl
  write := by
    rintro _ ⟨pid, rfl⟩ w ⟨htake, hbegun⟩
    have hruns (other : Int) := Store.runs_updateWrapperPid w.store other id pid
    refine ⟨htake.write (.updateWrapperPid id pid)
      (fun _ hrecords => Store.records_updateWrapperPid hrecords id pid)
      fun _ _ r _ hran hended => absurd ((hruns r.id).mpr hran) hended, ?_⟩
    exact hbegun.move rfl (extends_write _ w) (hruns id)

/-- The new launch is begun, and the supervisor ends it only when it is given up. -/
theorem startWrapper_takeover (hspawn : p.SpawnsWithin Aside) (id : Int) (port? : Option Nat) :
    Does (fun w => Takeover settings service start w ∧ JustRecorded service start id w)
      (startWrapper p.observed settings service id port?)
      (fun r w => (Takeover settings service start w ∧ Begun start id w) ∧ r.id = id)
      (Takeover settings service start) := by
  have hgiving : Frame p.observed (fun w => Takeover settings service start w ∧ _) _ _ :=
    frame_givingUp hp id
  have hmark (code : Int) : Does (fun w => Takeover settings service start w ∧ Begun start id w)
      (markExited p.observed id code) (fun _ w => Takeover settings service start w
        ∧ ∃ payload, NotedSince start.journal (.launched payload) w ∧ payload.launch = id)
      (Takeover settings service start) :=
    (hgiving.markExited fun now => ⟨now, code, rfl⟩).pre fun w hw => ⟨hw.1, hw.2.launched⟩
  refine (frame_begun hp id).startsWrapper
    (M := fun w => Takeover settings service start w ∧ Begun start id w) ?_ ?_ ?_
    (fun _ hw _ => hw.1) ?_ (fun pid => ⟨pid, rfl⟩) ?_
  · intro w _ hw
    have hstep := hspawn.observed settings.wrapper (payloadFor service id port?) w
    exact ⟨hw.1.seenStep hstep, hw.2.seenStep hstep⟩
  · rintro w ⟨htake, hnew, hrecorded, hruns, hbefore⟩
    refine ⟨htake.note (fun _ _ _ he => by cases he) ?_, ⟨_,
      notedSince_cons (.launched (payloadFor service id port?)) htake.start_journal, rfl⟩,
      ⟨_, List.mem_cons_self, hruns⟩, ?_⟩
    · rintro payload ⟨⟩
      exact ⟨hnew, hrecorded⟩
    · exact fun step hstep hstops => hbefore step.2 (snd_mem_of_mem_inPairs hstep) hstops.1
  · exact (hmark startFailedCode).mono (fun _ hw => hw) (fun _ _ hw => hw.1) fun _ hw => hw
  · intro code next
    refine (hmark code).bind fun _ => ?_
    refine Does.bind ((hgiving.startFault id).fault fun _ hw => hw.1) fun _ => ?_
    exact does_throw_bind fun _ hw => hw.1
  · intro w r _ hr
    obtain ⟨row, _, hid, rfl⟩ := Store.mem_of_launch? hr
    exact hid

include hs

theorem replaceSame_takeover :
    Does (Takeover settings service start)
      (replace p.observed settings fun s => s.active? service.key)
      (fun _ => Takeover settings service start) (Takeover settings service start) := by
  refine replace_takeover hp hs fun s r hr => ⟨Store.mem_running_of_active? hr, Or.inl ?_⟩
  obtain ⟨row, hfind, rfl⟩ := Option.map_eq_some_iff.mp hr
  have hkind := List.find?_some hfind
  simp only [Bool.and_eq_true, beq_iff_eq] at hkind
  exact hkind.2

theorem replaceAlike_takeover :
    Does (Takeover settings service start)
      (replace p.observed settings fun s => s.activeFor? service.shell service.directory)
      (fun _ => Takeover settings service start) (Takeover settings service start) := by
  refine replace_takeover hp hs fun s r hr => ?_
  obtain ⟨row, hfind, rfl⟩ := Option.map_eq_some_iff.mp hr
  have hkind := List.find?_some hfind
  simp only [Bool.and_eq_true, beq_iff_eq] at hkind
  refine ⟨Store.mem_running_none.mpr ⟨row, List.mem_of_find?_eq_some hfind, hkind.1.1, rfl⟩, ?_⟩
  exact Or.inr ⟨hkind.1.2, hkind.2⟩

theorem run_takeover (hspawn : p.SpawnsWithin Aside) :
    Does (Takeover settings service start) (run p.observed settings service)
      (fun report w => Takeover settings service start w ∧ Begun start report.record.id w)
      (Takeover settings service start) := by
  refine (sweep_takeover hp hs).bind fun _ => ?_
  refine (replaceSame_takeover hp hs).bind fun same => ?_
  refine (replaceAlike_takeover hp hs).bind fun alike => ?_
  have hrest (port? : Option Nat) : Does (Takeover settings service start)
      (do
        let now := (← get).now
        let id ← access p.observed fun s =>
          s.create now service.key service.shell service.directory port?
        let record ← startWrapper p.observed settings service id port?
        return ⟨record, same ++ alike⟩)
      (fun (report : RunReport) w =>
        Takeover settings service start w ∧ Begun start report.record.id w)
      (Takeover settings service start) := by
    refine Does.bind (does_get (Q := fun _ => Takeover settings service start) fun _ hw => hw)
      fun before => (create_takeover hp hs before.now port?).bind fun id => ?_
    refine (startWrapper_takeover hp hspawn id port?).bind fun record => does_pure ?_
    rintro w ⟨hw, hid⟩
    exact hid ▸ hw
  cases hwants : service.wantsPort with
  | true =>
    have hframe : Frame p.observed (fun w => Takeover settings service start w ∧ True) _ _ :=
      frame_asking hp (stays_const True)
    have hpick : Does (Takeover settings service start) (pickPort p.observed service.project)
        (fun _ => Takeover settings service start) (Takeover settings service start) :=
      (hframe.pickPort service.project).mono (fun _ hw => ⟨hw, trivial⟩) (fun _ _ hw => hw.1)
        fun _ hw => hw.1
    exact Does.bind (Does.map hpick) fun port? => hrest port?
  | false => exact Does.bind (does_pure fun _ hw => hw) fun port? => hrest port?

/-- **Launching a service takes the place of what it replaces and of nothing else**,
whatever others do to the store meanwhile: this holds at every moment of the launching,
which observing does not change. A launching that goes through leaves a launch that the
supervisor itself has not ended. -/
theorem run_takes_over (hspawn : p.SpawnsWithin Aside) (settings : Settings)
    (service : ResolvedService) :
    let run := (run p settings service).run.run start
    ∃ after, (Supervisor.run p.observed settings service).run.run start.begun = (run.1, after)
      ∧ after.unobserved = run.2 ∧ Takeover settings service start after
      ∧ ∀ report, run.1 = .ok report → Begun start report.record.id after := by
  intro run
  obtain ⟨hanswer, hworld⟩ := mirrors_run p settings service start.begun
  have hanswer : ((Supervisor.run p.observed settings service).run.run start.begun).1 = run.1 :=
    hanswer
  refine ⟨_, Prod.ext hanswer rfl, hworld, ?_⟩
  have hdoes : Does (Takeover settings service start) (Supervisor.run p.observed settings service)
      (fun report w => Takeover settings service start w ∧ Begun start report.record.id w)
      (Takeover settings service start) := run_takeover hp hs hspawn
  have htake := does_iff.mp hdoes start.begun (takeover_begun settings service start)
  rw [← hanswer]
  rcases hobserved : (Supervisor.run p.observed settings service).run.run start.begun
    with ⟨fault | report, after⟩
  · rw [hobserved] at htake
    exact ⟨htake, fun report h => by cases h⟩
  · rw [hobserved] at htake
    refine ⟨htake.1, ?_⟩
    rintro _ ⟨⟩
    exact htake.2

end

end Supervisor

end Overseer
