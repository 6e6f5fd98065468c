/-
Overseer.Proofs.Supervisor.Killing — ending a service.

`kill_stops_running` says what ending a service does to the store, to the
processes and to whoever asked. First comes the sweep. When nobody else acts
and no signal is refused, the service then has no running launch left, the one
that ran is given as it was, it has the code of killed launches, and what was
signalled is one of the courses of `Stopping`. When a signal is refused, that is
the answer, and the store is as the sweep has left it. Launches of other
services are touched by the sweep only.

When others do act, at whatever moment, an end that is once in the store stays:
the mark of a kill does not replace it. This part holds of every two moments of
the run, and so of the last one.
-/
import Mathlib.Data.List.Chain
import Overseer.Proofs.Store.Marked
import Overseer.Proofs.Supervisor.Cast
import Overseer.Proofs.Supervisor.Frame
import Overseer.Proofs.Supervisor.Observed
import Overseer.Proofs.Supervisor.Stopping

namespace Overseer

theorem ServiceKey.eq_iff {k k' : ServiceKey} :
    k = k' ↔ k.service = k'.service ∧ k.project = k'.project := by
  cases k
  cases k'
  simp only [ServiceKey.mk.injEq]

namespace Store

/-! ## 1. The launch of a number -/

variable {s : Store}

/-- The running launches of a service. -/
def activeRows (s : Store) (key : ServiceKey) : List LaunchRow :=
  s.launches.filter fun r => r.isActive && r.key == key

theorem mem_activeRows {key : ServiceKey} {r : LaunchRow} :
    r ∈ s.activeRows key ↔ r ∈ s.launches ∧ r.isActive = true ∧ r.key = key := by
  simp [activeRows]

/-- The running launches of a service, as a kill reads them. -/
theorem running_of_service (s : Store) (key : ServiceKey) :
    (s.running (some key.project)).filter (fun r => r.service == key.service)
      = ((s.activeRows key).map (·.record)).reverse := by
  rw [running, activeRows, List.filter_map, ← List.map_reverse, List.filter_reverse,
    List.filter_filter]
  congr 2
  refine List.filter_congr fun r _ => ?_
  show (r.key.service == key.service && (r.isActive && (key.project == r.key.project)))
    = (r.isActive && r.key == key)
  rw [Bool.and_left_comm]
  congr 1
  rw [Bool.eq_iff_iff]
  simp only [Bool.and_eq_true, beq_iff_eq, ServiceKey.eq_iff, eq_comm (a := key.project)]

/-- A service has one running launch or none. -/
theorem LaunchesSound.activeRows_le_one (hs : LaunchesSound s) (key : ServiceKey) :
    s.activeRows key = [] ∨ ∃ r, s.activeRows key = [r] := by
  rcases hrows : s.activeRows key with _ | ⟨r, rest⟩
  · exact Or.inl rfl
  · obtain ⟨hr, hactive, hkey⟩ := mem_activeRows.mp (hrows ▸ List.mem_cons_self)
    exact Or.inr ⟨r, hrows ▸ filter_active hs.order hr hkey hactive⟩

/-- The record of a running launch when it has been marked. -/
theorem launch?_markExited (horder : LaunchRow.InOrder s.launches) {r : LaunchRow}
    (hr : r ∈ s.launches) (hactive : r.isActive = true) (now code : Int) :
    (s.markExited now r.id code).2.launch? r.id = some { r.record with
      running := false, finish := some now, exitCode := some (Word.wrap 32 code) } := by
  rw [markExited_of_active ⟨r, hr, rfl, hactive⟩,
    launch?_updateLaunch (f := LaunchRow.endedWith now code) (fun _ => rfl),
    find?_of_inOrder horder hr,
    Option.map_some, if_pos rfl]
  rfl

/-- A mark leaves the rows of other services. -/
theorem filter_markExited (hs : LaunchesSound s) {r : LaunchRow} (hr : r ∈ s.launches)
    (now code : Int) :
    (s.markExited now r.id code).2.launches.filter (·.key != r.key)
      = s.launches.filter (·.key != r.key) := by
  by_cases hran : ∃ row ∈ s.launches, row.id = r.id ∧ row.isActive = true
  · have hkeys : (fun row : LaunchRow => row.key != r.key)
        ∘ (fun row => if row.id = r.id then row.endedWith now code else row)
          = fun row => row.key != r.key := by
      funext row
      simp only [Function.comp]
      split <;> rfl
    rw [markExited_of_active hran, updateLaunch, List.filter_map, hkeys]
    refine (List.map_congr_left fun row hrow => ?_).trans (List.map_id _)
    obtain ⟨hrow, hother⟩ := List.mem_filter.mp hrow
    refine if_neg fun hid => ?_
    rw [hs.eq_of_id hrow hr hid] at hother
    simp at hother
  · rw [markExited_of_not_active hran]

end Store

namespace Supervisor

open Store (LaunchesSound Marked Numbered Operation Settled)

variable {σ τ : Type} {p : Platform σ} {settings : Settings} {refused : σ → List Fault}
  {key : ServiceKey} {l : Ledger} {s₀ : Store} {E : Fault → World σ → Prop}

/-! ## 2. Sweeping alone -/

/-- Launches were marked as found dead, and nothing was signalled. -/
def HasSwept (refused : σ → List Fault) (s₀ : Store) (l : Ledger) (w : World σ) : Prop :=
  ∃ s events, Marked Store.foundDead (fun _ => True) s₀ s ∧ OnlyChecks events
    ∧ Shows refused ((l.noting events).storing s) w

theorem HasSwept.after {events : List Event} {s : Store} {w : World σ} (hevents : OnlyChecks events)
    (h : HasSwept refused s₀ ((l.noting events).storing s) w) : HasSwept refused s₀ l w := by
  obtain ⟨s', later, hmarked, hlater, hshows⟩ := h
  refine ⟨s', events ++ later, hmarked, hevents.append hlater, ?_⟩
  simpa using hshows

/-- What a kill does when the sweep is over. -/
def killListed (p : Platform σ) (settings : Settings) (key : ServiceKey) : Act σ KillReport := do
  let running ← look p fun s => s.running (some key.project)
  let killed := running.filter fun r => r.service == key.service
  stopEach p settings killed
  return ⟨key, killed⟩

theorem kill_eq (p : Platform σ) (settings : Settings) (key : ServiceKey) :
    kill p settings key = sweep p settings >>= fun _ => killListed p settings key := rfl

section

variable (hp : p.ActsAlone refused)
include hp

theorem sweepEach_ledger (records : List ProcessRecord)
    (hmarked : Marked Store.foundDead (fun _ => True) s₀ l.store) :
    Tries (Shows refused l) (sweepEach p settings records)
      (fun _ => HasSwept refused s₀ l) E := by
  induction records generalizing l with
  | nil => exact tries_pure fun w hw => ⟨l.store, [], hmarked, onlyChecks_nil, hw⟩
  | cons r rest ih =>
    refine (isRecordAlive_ledger hp r).tries.bind fun alive => ?_
    refine tries_exists fun events => tries_and fun hevents => ?_
    cases alive with
    | true =>
      refine (ih (l := l.noting events) hmarked).mono (fun _ w hw => ?_) fun _ _ hw => hw
      exact HasSwept.after (s := l.store) hevents hw
    | false =>
      refine (markExited_ledger hp r.id Store.foundDead).bind fun changed => ?_
      refine tries_exists fun now => ?_
      refine (ih (hmarked.markExited trivial now)).bind fun swept => tries_pure fun w hw => ?_
      exact hw.after hevents

theorem sweep_ledger (hs : LaunchesSound l.store) :
    Tries (Shows refused l) (sweep p settings) (fun _ => HasSwept refused l.store l) E := by
  refine (look_ledger hp _).bind fun records => tries_and fun _ => ?_
  exact sweepEach_ledger hp records (.refl hs)

/-! ## 3. Killing alone -/

/-- Either nothing of the service ran, or its running launch was stopped. -/
theorem stopEach_ledger {rows : List LaunchRow} (hone : rows = [] ∨ ∃ r, rows = [r]) :
    Tries (Shows refused l) (stopEach p settings (rows.map (·.record)).reverse)
      (fun _ w => (rows = [] ∧ Shows refused l w)
        ∨ ∃ r, rows = [r] ∧ HasStopped refused settings r.record l w)
      fun f w => ∃ r, rows = [r] ∧ WasRefused refused settings r.record l f w := by
  rcases hone with rfl | ⟨r, rfl⟩
  · exact tries_pure fun w hw => Or.inl ⟨rfl, hw⟩
  · have hstop : Tries (Shows refused l) (stopRecord p settings r.record)
        (fun _ => HasStopped refused settings r.record l)
        fun f w => ∃ row, [r] = [row] ∧ WasRefused refused settings row.record l f w :=
      (stopRecord_ledger hp r.record).mono (fun _ _ hw => hw) fun f w hw => ⟨r, rfl, hw⟩
    exact hstop.bind fun _ => tries_pure fun w hw => Or.inr ⟨r, rfl, hw⟩

/-- After the sweep: the running launch of the service is stopped, if there is one. -/
theorem killListed_ledger (hs : LaunchesSound l.store) :
    Tries (Shows refused l) (killListed p settings key)
      (fun report w => report = ⟨key, (l.store.activeRows key).map (·.record)⟩
        ∧ ((l.store.activeRows key = [] ∧ Shows refused l w)
          ∨ ∃ r, l.store.activeRows key = [r] ∧ HasStopped refused settings r.record l w))
      fun f w => ∃ r, l.store.activeRows key = [r]
        ∧ WasRefused refused settings r.record l f w := by
  have hone := hs.activeRows_le_one key
  refine (look_ledger hp _).bind fun running => tries_and fun hrunning => ?_
  subst hrunning
  rw [Store.running_of_service]
  refine (stopEach_ledger hp hone).bind fun _ => tries_pure fun w hw => ⟨?_, hw⟩
  rcases hone with hrows | ⟨r, hrows⟩ <;> rw [hrows] <;> rfl

/-- The sweep comes first, and cannot fail. -/
theorem sweep_of_sound (settings : Settings) {start : World σ} (hs : LaunchesSound start.store) :
    let run := (sweep p settings).run.run start
    (∃ records, run.1 = .ok records)
      ∧ HasSwept refused start.store (start.ledger refused) run.2 := by
  intro run
  have hsweep : Tries (Shows refused (start.ledger refused)) (sweep p settings)
      (fun _ => HasSwept refused start.store (start.ledger refused)) fun _ _ => False :=
    sweep_ledger hp hs
  obtain ⟨records, hanswer, hswept⟩ := hsweep.goes_through rfl
  exact ⟨⟨records, hanswer⟩, hswept⟩

end

/-! ## 4. What a kill comes to -/

/-- The sweep of a kill: some launches were marked as found dead, and no process
was signalled. -/
structure Swept (refused : σ → List Fault) (start swept : World σ) : Prop where
  marked : List.Forall₂ (LaunchRow.EndedAs Store.foundDead fun _ => True)
    start.store.launches swept.store.launches
  accepted : refused swept.outside = refused start.outside
  course : ∃ events, swept.journal = events.reverse ++ start.journal ∧ OnlyChecks events

/-- A kill that goes through: what it lists ran when the sweep was over, and has
ended since; nothing of the service runs, no signal was refused, and what was
signalled is a course of stopping what is listed. -/
structure Killed (refused : σ → List Fault) (settings : Settings) (key : ServiceKey)
    (swept after : World σ) (report : KillReport) : Prop where
  service : report.key = key
  listed : report.killed = (swept.store.activeRows key).map (·.record)
  none_runs : ∀ r ∈ after.store.launches, r.key = key → r.record.running = false
  marked : ∀ r ∈ report.killed, ∃ now, after.store.launch? r.id = some { r with
    running := false, finish := some now, exitCode := some killedCode }
  accepted : refused after.outside = refused swept.outside
  course : ∃ events, after.journal = events.reverse ++ swept.journal
    ∧ ((report.killed = [] ∧ events = [])
      ∨ ∃ r, report.killed = [r] ∧ Stopping settings r events)

/-- A kill that is refused a signal: nothing has changed since the sweep, so that
the launch which was being stopped runs and has no code, and the fault of the
signal, which is the last thing that was done, is the answer. -/
structure KillRefused (refused : σ → List Fault) (settings : Settings) (key : ServiceKey)
    (swept after : World σ) (fault : Fault) : Prop where
  store : after.store = swept.store
  told : refused after.outside = fault :: refused swept.outside
  course : ∃ r ∈ swept.store.launches, r.key = key ∧ r.record.running = true
    ∧ r.record.exitCode = none ∧ ∃ events, after.journal = events.reverse ++ swept.journal
      ∧ Refusal settings r.record events

theorem HasSwept.swept {start swept : World σ}
    (h : HasSwept refused start.store (start.ledger refused) swept) :
    LaunchesSound swept.store ∧ Swept refused start swept := by
  obtain ⟨s, events, hmarked, hchecks, hshows⟩ := h
  obtain rfl : swept.store = s := congrArg Ledger.store hshows
  exact ⟨hmarked.sound, hmarked.rows, congrArg Ledger.refused hshows,
    events, congrArg Ledger.journal hshows, hchecks⟩

section

variable {swept after : World σ} {row : LaunchRow}

/-- Nothing of the service ran. -/
theorem killed_of_none (hs : LaunchesSound swept.store) (hrows : swept.store.activeRows key = [])
    (hshows : Shows refused (swept.ledger refused) after) :
    Killed refused settings key swept after ⟨key, (swept.store.activeRows key).map (·.record)⟩ := by
  have hstore : after.store = swept.store := congrArg Ledger.store hshows
  have hnone : (swept.store.activeRows key).map (·.record) = [] := by rw [hrows, List.map_nil]
  refine ⟨rfl, rfl, ?_, ?_, congrArg Ledger.refused hshows,
    [], congrArg Ledger.journal hshows, Or.inl ⟨hnone, rfl⟩⟩
  · intro r hr hkey
    rw [hstore] at hr
    rw [hs.record_running hr]
    refine Bool.eq_false_iff.mpr fun hactive => ?_
    have hmem := Store.mem_activeRows.mpr ⟨hr, hactive, hkey⟩
    rw [hrows] at hmem
    cases hmem
  · intro r hr
    replace hr : r ∈ (swept.store.activeRows key).map (·.record) := hr
    rw [hnone] at hr
    cases hr

/-- The running launch of the service was stopped. -/
theorem killed_of_stopped (hs : LaunchesSound swept.store)
    (hrows : swept.store.activeRows key = [row])
    (hstopped : HasStopped refused settings row.record (swept.ledger refused) after) :
    Killed refused settings key swept after ⟨key, (swept.store.activeRows key).map (·.record)⟩
      ∧ after.store.launches.filter (·.key != key)
        = swept.store.launches.filter (·.key != key) := by
  obtain ⟨events, now, hstopping, hshows⟩ := hstopped
  obtain ⟨hr, hactive, hkey⟩ := Store.mem_activeRows.mp (hrows ▸ List.mem_singleton_self row)
  have hstore : after.store = (swept.store.markExited now row.id killedCode).2 :=
    congrArg Ledger.store hshows
  have hlisted : (swept.store.activeRows key).map (·.record) = [row.record] := by
    rw [hrows, List.map_singleton]
  refine ⟨⟨rfl, rfl, ?_, ?_, congrArg Ledger.refused hshows,
    events, congrArg Ledger.journal hshows, Or.inr ⟨row.record, hlisted, hstopping⟩⟩, ?_⟩
  · intro r hr' hkey'
    rw [hstore] at hr'
    refine Bool.eq_false_iff.mpr fun hruns => ?_
    have hbefore := Store.mem_of_markExited hr' hruns
    have hsame : r ∈ swept.store.activeRows key :=
      Store.mem_activeRows.mpr ⟨hbefore, hs.record_running hbefore ▸ hruns, hkey'⟩
    rw [hrows, List.mem_singleton] at hsame
    have hended := Store.hasEnded_markExited swept.store now row.id killedCode r hr' (hsame ▸ rfl)
    rw [hs.record_running hbefore, hended] at hruns
    cases hruns
  · intro r hr'
    obtain rfl : r = row.record := by simpa [hlisted] using hr'
    refine ⟨now, ?_⟩
    rw [hstore]
    exact Store.launch?_markExited hs.inOrder hr hactive now killedCode
  · rw [hstore, ← hkey]
    exact Store.filter_markExited hs hr now killedCode

/-- A signal was refused while the running launch of the service was being stopped. -/
theorem killRefused_of {fault : Fault} (hs : LaunchesSound swept.store)
    (hrows : swept.store.activeRows key = [row])
    (hrefused : WasRefused refused settings row.record (swept.ledger refused) fault after) :
    KillRefused refused settings key swept after fault := by
  obtain ⟨events, hrefusal, hshows⟩ := hrefused
  obtain ⟨hr, hactive, hkey⟩ := Store.mem_activeRows.mp (hrows ▸ List.mem_singleton_self row)
  have hruns : row.record.running = true := (hs.record_running hr).trans hactive
  exact ⟨congrArg Ledger.store hshows, congrArg Ledger.refused hshows,
    row, hr, hkey, hruns, ((Store.record_of_sound hs hr).1.mp hruns).2,
    events, congrArg Ledger.journal hshows, hrefusal⟩

end

/-- Killing when nobody else acts. -/
theorem kill_alone (hp : p.ActsAlone refused) {start : World σ} (hs : LaunchesSound start.store) :
    let swept := ((sweep p settings).run.run start).2
    let run := (kill p settings key).run.run start
    Swept refused start swept
      ∧ run.2.store.launches.filter (·.key != key) = swept.store.launches.filter (·.key != key)
      ∧ (∀ report, run.1 = .ok report → Killed refused settings key swept run.2 report)
      ∧ ∀ fault, run.1 = .error fault → KillRefused refused settings key swept run.2 fault := by
  intro swept run
  obtain ⟨⟨records, hrecords⟩, hhas⟩ := sweep_of_sound hp settings hs
  obtain ⟨hsound, hswept⟩ := hhas.swept
  have hrun : run = (killListed p settings key).run.run swept := by
    have hfirst : (sweep p settings).run.run start = (.ok records, swept) :=
      Prod.ext hrecords rfl
    simp only [run, kill_eq, ExceptT.run_bind, StateT.run_bind, hfirst]
    rfl
  rw [hrun]
  have hkill : Tries (Shows refused (swept.ledger refused)) (killListed p settings key) _ _ :=
    killListed_ledger hp hsound
  obtain ⟨hdone, hfailed⟩ := tries_iff.mp hkill swept rfl
  refine ⟨hswept, ?_, fun report hreport => ?_, fun fault hfault => ?_⟩
  · rcases hanswer : ((killListed p settings key).run.run swept).1 with fault | report
    · obtain ⟨row, hrows, hrefused⟩ := hfailed fault hanswer
      rw [(killRefused_of hsound hrows hrefused).store]
    · obtain ⟨_, ⟨_, hshows⟩ | ⟨row, hrows, hstopped⟩⟩ := hdone report hanswer
      · exact congrArg (fun l : Ledger => l.store.launches.filter (·.key != key)) hshows
      · exact (killed_of_stopped hsound hrows hstopped).2
  · obtain ⟨rfl, ⟨hrows, hshows⟩ | ⟨row, hrows, hstopped⟩⟩ := hdone report hreport
    · exact killed_of_none hsound hrows hshows
    · exact (killed_of_stopped hsound hrows hstopped).1
  · obtain ⟨row, hrows, hrefused⟩ := hfailed fault hfault
    exact killRefused_of hsound hrows hrefused

/-! ## 5. When others act -/

/-- The later store is the earlier one after some operations. -/
def Follows (later earlier : World τ) : Prop :=
  ∃ deeds : List Operation, later.store = earlier.store.run deeds

theorem Follows.refl (w : World τ) : Follows w w := ⟨[], rfl⟩

instance : Trans (@Follows τ) Follows Follows where
  trans := by
    rintro _ _ w ⟨deeds, h⟩ ⟨earlier, h'⟩
    exact ⟨earlier ++ deeds, by rw [h, h', Store.run_append]⟩

/-- What has ended stays as it ended. -/
def KeepsEnds (later earlier : World τ) : Prop :=
  ∀ id r r', earlier.store.launch? id = some r → r.running = false →
    later.store.launch? id = some r' →
      r'.running = false ∧ r'.finish = r.finish ∧ r'.exitCode = r.exitCode

theorem Follows.keepsEnds {later earlier : World τ} (hs : Numbered earlier.store)
    (h : Follows later earlier) : KeepsEnds later earlier := by
  intro id r r' hr hover hr'
  obtain ⟨row, hrow, rfl, rfl⟩ := Store.mem_of_launch? hr
  obtain ⟨deeds, hdeeds⟩ := h
  have hrunning : row.running = 0 := by simpa [LaunchRow.record] using hover
  have hsettled : Settled earlier.store row.id row.finish row.exitCode := by
    refine ⟨hs.numbers row hrow, fun other hother hid => ?_⟩
    rw [Store.eq_of_inOrder hs.order hother hrow hid]
    exact ⟨hrunning, rfl, rfl⟩
  have hlater := Store.settled_run hsettled deeds
  rw [← hdeeds] at hlater
  exact hlater.launch? hr'

theorem Follows.numbered {later earlier : World τ} (h : Follows later earlier)
    (hs : Numbered earlier.store) : Numbered later.store := by
  obtain ⟨deeds, hdeeds⟩ := h
  rw [hdeeds]
  exact Store.numbered_run hs deeds

/-- What follows a world follows it whatever is done next. -/
theorem frame_follows {q : Platform τ} (hq : q.Within fun w w' => Follows w' w) (w : World τ) :
    Frame q (Follows · w) (fun _ => True) fun _ => True where
  platform := hq.mono fun _ _ h hbefore => Trans.trans h hbefore
  checked _ _ := trivial
  note _ _ _ h := h
  write op _ v h := by
    obtain ⟨deeds, hdeeds⟩ := h
    exact ⟨deeds ++ [op], by rw [Store.run_append, ← hdeeds]; rfl⟩

/-- Each moment of a run follows the one before, and the launches are sound at each. -/
structure Flowing (w : World (Observed τ)) : Prop where
  chain : w.moments.IsChain Follows
  sound : ∀ v ∈ w.moments, LaunchesSound v.store

theorem Follows.sound {later earlier : World τ} (h : Follows later earlier)
    (hs : LaunchesSound earlier.store) : LaunchesSound later.store := by
  obtain ⟨deeds, hdeeds⟩ := h
  rw [hdeeds]
  exact Store.launchesSound_run hs deeds

/-- What the supervisor itself does between two moments. -/
theorem Flowing.move {w w' : World (Observed τ)} (h : Flowing w)
    (hfollows : Follows w'.unobserved w.unobserved) (hseen : w'.outside.seen = w.outside.seen) :
    Flowing w' := by
  obtain ⟨hlast, hsound⟩ := List.forall_mem_cons.mp h.sound
  refine ⟨?_, ?_⟩
  · have hchain := h.chain
    rw [World.moments] at hchain ⊢
    rw [hseen]
    rcases hrest : w.outside.seen with _ | ⟨last, older⟩
    · exact List.isChain_singleton _
    · rw [hrest] at hchain
      obtain ⟨hbefore, holder⟩ := List.isChain_cons_cons.mp hchain
      exact List.isChain_cons_cons.mpr ⟨Trans.trans hfollows hbefore, holder⟩
  · rw [World.moments, hseen]
    exact List.forall_mem_cons.mpr ⟨hfollows.sound hlast, hsound⟩

theorem Flowing.seenStep {w w' : World (Observed τ)}
    (hstep : SeenStep (fun w w' => Follows w' w) w w') (h : Flowing w) : Flowing w' := by
  obtain ⟨hfollows, hseen⟩ := hstep
  have hlater := hfollows.sound (h.sound _ List.mem_cons_self)
  have hmoments : w'.moments = w'.unobserved :: w'.unobserved :: w.moments := by
    rw [World.moments, hseen, World.moments]
  refine ⟨?_, ?_⟩
  · rw [hmoments]
    refine List.isChain_cons_cons.mpr ⟨.refl _, ?_⟩
    exact List.isChain_cons_cons.mpr ⟨hfollows, h.chain⟩
  · rw [hmoments]
    exact List.forall_mem_cons.mpr ⟨hlater, List.forall_mem_cons.mpr ⟨hlater, h.sound⟩⟩

theorem frame_flowing {q : Platform τ} (hq : q.Within fun w w' => Follows w' w) :
    Frame q.observed Flowing (fun _ => True) fun _ => True where
  platform := hq.observed.mono fun _ _ hstep h => h.seenStep hstep
  checked _ _ := trivial
  note _ _ w h := h.move (.refl w.unobserved) rfl
  write op _ _ h := h.move ⟨[op], rfl⟩ rfl

/-- Whatever others do meanwhile, an end that is in the store stays in it. -/
theorem kill_keeps_ends {q : Platform τ} (hq : q.Within fun w w' => Follows w' w)
    (settings : Settings) (key : ServiceKey) {start : World τ} (hs : LaunchesSound start.store) :
    let seen := ((kill q.observed settings key).run.run start.observed).2.moments
    seen.head? = some ((kill q settings key).run.run start).2 ∧ seen.Pairwise KeepsEnds := by
  intro seen
  have hkill : Does Flowing (kill q.observed settings key) (fun _ => Flowing) Flowing :=
    (frame_flowing hq).kill (fun _ _ _ => trivial) fun _ _ _ => trivial
  have hend := hkill.asks start.observed
    ⟨List.isChain_singleton _, List.forall_mem_singleton.mpr hs⟩
  refine ⟨?_, ?_⟩
  · show some _ = _
    rw [(mirrors_kill q settings key start.observed).2]
    rfl
  · refine (List.isChain_iff_pairwise.mp hend.chain).imp_of_mem ?_
    exact fun _ hv h => h.keepsEnds (hend.sound _ hv).numbered

/-! ## 6. Killing -/

/-- The rest of the world, and the faults of the signals that were refused. -/
structure Tallied (σ : Type) where
  outside : σ
  refused : List Fault

/-- Does something and leaves the account. -/
def tallying {α : Type} (a : StateM (World σ) α) : StateM (World (Tallied σ)) α := fun w =>
  let (x, after) := a.run { w with outside := w.outside.outside }
  (x, { after with outside := ⟨after.outside, w.outside.refused⟩ })

/-- The fault of a signal, if it was refused. -/
def refusals : Except Fault Bool → List Fault
  | .ok _ => []
  | .error f => [f]

/-- The platform with an account of the signals that it refuses. -/
def Platform.tallied (p : Platform σ) : Platform (Tallied σ) where
  isAlive pid := tallying (p.isAlive pid)
  signal pid s := tallying (p.signal pid s).run
  killTree pid s := fun w =>
    let (answer, after) := (tallying (p.killTree pid s).run).run w
    (answer,
      { after with outside := ⟨after.outside.outside, refusals answer ++ w.outside.refused⟩ })
  portIsFree port := tallying (p.portIsFree port)
  spawn program payload := tallying (p.spawn program payload).run
  exited? wrapper := tallying (p.exited? wrapper)
  sleep limit := tallying (p.sleep limit)
  others := tallying p.others

/-- Every platform that leaves the store and the journal acts alone, and can be
given an account. -/
theorem Platform.tallied_actsAlone
    (hp : p.Within fun w w' => w'.store = w.store ∧ w'.journal = w.journal) :
    p.tallied.ActsAlone Tallied.refused := by
  have hkeeps {α : Type} {a : StateM (World σ) α}
      (ha : ∀ w, (a.run w).2.store = w.store ∧ (a.run w).2.journal = w.journal)
      (w : World (Tallied σ)) :
      Shows Tallied.refused (w.ledger Tallied.refused) ((tallying a).run w).2 := by
    obtain ⟨hstore, hjournal⟩ := ha { w with outside := w.outside.outside }
    exact shows_iff.mpr ⟨hstore, hjournal, rfl⟩
  have hsent (pid : Nat) (s : Signal) (w : World (Tallied σ)) :
      Shows Tallied.refused
        ⟨w.store, w.journal, refusals ((p.tallied.killTree pid s).run.run w).1 ++ w.outside.refused⟩
        ((p.tallied.killTree pid s).run.run w).2 := by
    obtain ⟨hstore, hjournal, _⟩ := shows_iff.mp (hkeeps (hp.killTree pid s) w)
    exact shows_iff.mpr ⟨hstore, hjournal, rfl⟩
  refine ⟨fun pid => hkeeps (hp.isAlive pid), fun limit => hkeeps (hp.sleep limit),
    hkeeps hp.others, fun pid s w answer hanswer => ?_, fun pid s w f hf => ?_⟩
  · have h := hsent pid s w
    rwa [hanswer] at h
  · have h := hsent pid s w
    rwa [hf] at h

/-- Nothing but the processes changes, so that nobody but the supervisor acts. -/
theorem castPlatform_tallied_actsAlone (wrapperPid : Nat)
    (deeds : Launch.Payload → List Operation) :
    (castPlatform wrapperPid deeds).tallied.ActsAlone Tallied.refused :=
  Platform.tallied_actsAlone (castPlatform_within (fun _ => ⟨rfl, rfl⟩) (fun _ _ => ⟨rfl, rfl⟩)
    fun _ _ _ => ⟨rfl, rfl⟩)

/-- The processes of a list, with a wrapper that notes the code of its child while
the supervisor looks whether it is dead. -/
def notingPlatform (code : Int) : Platform Rehearsal.Cast :=
  { castPlatform 40 fun _ => [] with
    isAlive := fun pid w =>
      if isLiving w.outside pid then (true, w)
      else (false, { w with store := (w.store.markExited 5 1 code).2 }) }

theorem notingPlatform_within (code : Int) :
    (notingPlatform code).Within fun w w' => Follows w' w :=
  have hcast : (castPlatform 40 fun _ => []).Within fun w w' => Follows w' w :=
    castPlatform_within (fun w => .refl w) (fun _ w => .refl w) fun _ _ w => .refl w
  { hcast with
    isAlive := fun pid w => by
      show Follows (if isLiving w.outside pid then (true, w) else _).2 w
      split
      · exact .refl w
      · exact ⟨[.markExited 5 1 code], rfl⟩ }

end Supervisor

end Overseer
