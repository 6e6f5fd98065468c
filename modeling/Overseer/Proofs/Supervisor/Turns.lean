/-
Overseer.Proofs.Supervisor.Turns — launching one service after the other.

`launchEach` launches services in order, whatever becomes of each; its turns are the
single launchings, each observed from its start on (`turns`), and observing them
changes nothing. `turns_spare`: if no service of the list replaces an earlier one, no
turn signals what an earlier turn began, nor does it end it, except that its sweep ends
what it finds dead. So a launch that a turn has reported runs in the end, unless others
have ended it or a sweep found it dead.

A launch keeps its number and what it is of, so a later turn knows an earlier launch
again whenever it lists it, and what the turn is after is of another origin
(`sparing_of_recorded`). For the last part a launch that ran in one world and does not
in a later one was stopped between two neighbouring ones (`runs_or_stopped`).
-/
import Overseer.Proofs.Supervisor.Takeover

namespace Overseer.Supervisor

open Store (Numbered Settled)

variable {σ : Type} {p : Platform σ} {settings : Settings} {start : World σ}

/-- Launches services in order and tells what became of each. -/
def launchEach (p : Platform σ) (settings : Settings) :
    List ResolvedService → StateM (World σ) (List (Except Fault RunReport))
  | [] => return []
  | service :: rest => do
    let outcome ← (run p settings service).run
    let others ← launchEach p settings rest
    return outcome :: others

/-! ## 1. Turns -/

/-- One launching of several, with the world in which it starts and the one that it
leaves, under observation. -/
structure Turn (σ : Type) where
  service : ResolvedService
  start : World σ
  outcome : Except Fault RunReport
  after : World (Observed σ)

/-- The launching of one service. -/
def turn (p : Platform σ) (settings : Settings) (start : World σ) (service : ResolvedService) :
    Turn σ :=
  let (outcome, after) := (run p.observed settings service).run.run start.begun
  ⟨service, start, outcome, after⟩

/-- The launchings of services in order. -/
def turns (p : Platform σ) (settings : Settings) (start : World σ) :
    List ResolvedService → List (Turn σ)
  | [] => []
  | service :: rest =>
    let t := turn p settings start service
    t :: turns p settings t.after.unobserved rest

/-- The world that turns leave. -/
def lastOf (start : World σ) : List (Turn σ) → World σ
  | [] => start
  | t :: rest => lastOf t.after.unobserved rest

/-- Observing the turns changes nothing. -/
theorem launchEach_eq_turns (p : Platform σ) (settings : Settings)
    (services : List ResolvedService) (start : World σ) :
    (launchEach p settings services).run start
      = ((turns p settings start services).map (·.outcome),
        lastOf start (turns p settings start services)) := by
  induction services generalizing start with
  | nil => rfl
  | cons service rest ih =>
    obtain ⟨hanswer, hworld⟩ := mirrors_run p settings service start.begun
    have hrun : (launchEach p settings (service :: rest)).run start
        = (((run p settings service).run.run start).1
            :: ((launchEach p settings rest).run ((run p settings service).run.run start).2).1,
          ((launchEach p settings rest).run ((run p settings service).run.run start).2).2) := rfl
    rw [World.unobserved_begun] at hanswer hworld
    rw [hrun, ← hanswer, ← hworld, ih]
    rfl

/-- The turn began a launch of the number. -/
def Turn.Launched (t : Turn σ) (id : Int) : Prop :=
  ∃ payload, NotedSince t.start.journal (.launched payload) t.after ∧ payload.launch = id

/-- What is known of a turn: it takes the place of what it replaces, and a launch that it
reports is one that it began and has not ended itself. -/
structure Turn.Regular (settings : Settings) (t : Turn σ) : Prop where
  takeover : Takeover settings t.service t.start t.after
  reported : ∀ report, t.outcome = .ok report → Begun t.start report.record.id t.after

/-! ## 2. What a turn spares -/

/-- The turn leaves the launch alone: each signal goes to a process of another launch,
and if the supervisor ends the launch it is as one that was found dead. -/
structure Sparing (settings : Settings) (id : Int) (t : Turn σ) : Prop where
  signals : ∀ tree pid s, NotedSince t.start.journal (.signalled tree pid s) t.after →
    ∃ listing r, Listing listing r t.after ∧ r.id ≠ id ∧ pid ∈ pidsToStop r
  ends : ∀ step ∈ t.after.ownSteps, Stops id step →
    (∃ finish, Settled step.1.store id finish (some Store.foundDead))
      ∧ FoundDead settings id t.after

/-- A turn spares a launch that was recorded before and that its service does not replace. -/
theorem sparing_of_recorded {t : Turn σ} (h : t.Regular settings) {v : World σ} {id : Int}
    {origin : Origin} (hs : Numbered v.store) (hfollows : Follows t.start v)
    (hrecorded : v.store.Records origin id) (hother : ¬ t.service.origin.Replaces origin) :
    Sparing settings id t := by
  have horigin {u : World σ} (hu : u ∈ t.after.moments) {r : ProcessRecord}
      (hr : r ∈ u.store.running none) (hid : r.id = id) : ¬ t.service.origin.Replaces r.origin := by
    obtain ⟨deeds, hdeeds⟩ : Follows u v := Trans.trans (h.takeover.begun u hu) hfollows
    rwa [Store.origin_of_running hs hrecorded deeds (hdeeds ▸ hr) hid]
  constructor
  · intro tree pid s he
    obtain ⟨listing, r, hlisting, hreplaces, hpid⟩ := h.takeover.aimed tree pid s he
    refine ⟨listing, r, hlisting, fun hid => ?_, hpid⟩
    exact horigin (List.mem_cons_of_mem _ hlisting.1) hlisting.2 hid hreplaces
  · rintro step hstep ⟨⟨r, hr, rfl⟩, hended⟩
    have hseen := List.mem_cons_of_mem t.after.unobserved (snd_mem_of_mem_inPairs hstep)
    rcases h.takeover.ended step hstep r hr hended with hreplaces | hfound | ⟨payload, hnoted, hid⟩
    · exact absurd hreplaces (horigin hseen hr rfl)
    · exact hfound
    · -- What the turn began has a number that was not used when it started.
      have hnew := (h.takeover.launched payload hnoted).1
      obtain ⟨row, hrow, hused, _⟩ := hrecorded
      obtain ⟨deeds, hdeeds⟩ := hfollows
      have hlast := (Store.lastLaunch_run v.store deeds).1
      rw [← hdeeds] at hlast
      have hbelow := hs.numbers row hrow
      omega

/-! ## 3. What runs in the end -/

/-- What holds somewhere in a list and not at its head ceases between two neighbours. -/
theorem head_or_ceases {α : Type} {P : α → Prop} {x : α} {l : List α} (h : ∃ y ∈ x :: l, P y) :
    P x ∨ ∃ pair ∈ inPairs (x :: l) ++ inPairs l, P pair.2 ∧ ¬ P pair.1 := by
  by_cases hx : P x
  · exact Or.inl hx
  refine Or.inr ?_
  induction l generalizing x with
  | nil =>
    obtain ⟨y, hy, hP⟩ := h
    exact absurd (List.mem_singleton.mp hy ▸ hP) hx
  | cons y rest ih =>
    obtain ⟨z, hz, hP⟩ := h
    by_cases hy : P y
    · exact ⟨(x, y), List.mem_append_left _ List.mem_cons_self, hy, hx⟩
    · have hrest : z ∈ y :: rest := (List.mem_cons.mp hz).resolve_left fun heq => hx (heq ▸ hP)
      obtain ⟨pair, hpair, hceases⟩ := ih ⟨z, hrest, hP⟩ hy
      refine ⟨pair, ?_, hceases⟩
      rcases List.mem_append.mp hpair with hpair | hpair
      · exact List.mem_append_right _ hpair
      · exact List.mem_append_left _ (List.mem_cons_of_mem _ hpair)

/-- A launch that ran at some moment runs in the end or was stopped, by the supervisor
itself or by others. -/
theorem runs_or_stopped {id : Int} {w : World (Observed σ)} (h : ∃ v ∈ w.moments, v.store.Runs id) :
    w.store.Runs id ∨ (∃ step ∈ w.ownSteps, Stops id step)
      ∨ ∃ step ∈ w.othersSteps, Stops id step := by
  refine (head_or_ceases (P := fun v : World σ => v.store.Runs id) h).imp_right ?_
  rintro ⟨step, hstep, hceases⟩
  exact (List.mem_append.mp hstep).imp (fun h => ⟨step, h, hceases⟩) fun h => ⟨step, h, hceases⟩

/-- The launch runs in the last world, or during one of the turns others stopped it or
the sweep found it dead. -/
def RunsOrDied (settings : Settings) (id : Int) (turns : List (Turn σ)) (last : World σ) : Prop :=
  last.store.Runs id ∨ ∃ t ∈ turns, (∃ step ∈ t.after.othersSteps, Stops id step)
    ∨ ((∃ step ∈ t.after.ownSteps, Stops id step) ∧ FoundDead settings id t.after)

/-- What runs before turns that spare it runs in the end or has died. -/
theorem runsOrDied_of_sparing {id : Int} {services : List ResolvedService}
    (hregular : ∀ t ∈ turns p settings start services, t.Regular settings)
    (hsparing : ∀ t ∈ turns p settings start services, Sparing settings id t)
    (hruns : start.store.Runs id) :
    RunsOrDied settings id (turns p settings start services)
      (lastOf start (turns p settings start services)) := by
  induction services generalizing start with
  | nil => exact Or.inl hruns
  | cons service rest ih =>
    obtain ⟨hfirst, hrest⟩ := List.forall_mem_cons.mp hsparing
    obtain ⟨hregular, hothers⟩ := List.forall_mem_cons.mp hregular
    have hran : start ∈ (turn p settings start service).after.moments :=
      List.mem_cons_of_mem _ hregular.takeover.first
    rcases runs_or_stopped ⟨start, hran, hruns⟩ with hruns | ⟨step, hstep, hstops⟩ | hstopped
    · exact (ih hothers hrest hruns).imp_right fun ⟨t, ht, hdied⟩ =>
        ⟨t, List.mem_cons_of_mem _ ht, hdied⟩
    · exact Or.inr ⟨_, List.mem_cons_self, Or.inr ⟨⟨step, hstep, hstops⟩,
        (hfirst.ends step hstep hstops).2⟩⟩
    · exact Or.inr ⟨_, List.mem_cons_self, Or.inl hstopped⟩

/-! ## 4. One after the other -/

section

variable (hp : p.Within Aside) (hspawn : p.SpawnsWithin Aside)
include hp hspawn

theorem turn_regular (hs : Numbered start.store) (settings : Settings)
    (service : ResolvedService) : (turn p settings start service).Regular settings := by
  obtain ⟨after, hrun, _, htake, hreported⟩ := run_takes_over hp hs hspawn settings service
  have hturn : turn p settings start service
      = ⟨service, start, ((run p settings service).run.run start).1, after⟩ := by
    rw [turn, hrun]
  rw [hturn]
  exact ⟨htake, hreported⟩

/-- Each turn is of one of the services, and starts where the ones before have led. -/
theorem turn_of_mem (hs : Numbered start.store) {services : List ResolvedService} {t : Turn σ}
    (ht : t ∈ turns p settings start services) :
    t.service ∈ services ∧ t.Regular settings ∧ Follows t.start start := by
  induction services generalizing start with
  | nil => cases ht
  | cons service rest ih =>
    have hregular := turn_regular hp hspawn hs settings service
    have hleft : Follows (turn p settings start service).after.unobserved start :=
      hregular.takeover.begun _ List.mem_cons_self
    rcases List.mem_cons.mp ht with rfl | ht
    · exact ⟨List.mem_cons_self, hregular, .refl start⟩
    · obtain ⟨hmem, hlater, hfollows⟩ := ih (hleft.numbered hs) ht
      exact ⟨List.mem_cons_of_mem _ hmem, hlater, Trans.trans hfollows hleft⟩

variable {services : List ResolvedService}
  (hapart : services.Pairwise fun a b => ¬ b.origin.Replaces a.origin)
include hapart

/-- No turn stops what an earlier one began. -/
theorem turns_pairwise_sparing (hs : Numbered start.store) :
    (turns p settings start services).Pairwise fun t later =>
      ∀ id, t.Launched id → Sparing settings id later := by
  induction services generalizing start with
  | nil => exact List.Pairwise.nil
  | cons service rest ih =>
    obtain ⟨hothers, hrest⟩ := List.pairwise_cons.mp hapart
    have hregular := turn_regular hp hspawn hs settings service
    have hleft := (hregular.takeover.begun _ List.mem_cons_self).numbered hs
    refine List.pairwise_cons.mpr ⟨?_, ih hrest hleft⟩
    rintro later hlater id ⟨payload, hnoted, rfl⟩
    obtain ⟨hmem, hlaterRegular, hstart⟩ := turn_of_mem hp hspawn hleft hlater
    obtain ⟨-, v, hv, hrecorded⟩ := hregular.takeover.launched payload hnoted
    have hfollows : Follows later.start v := by
      rcases List.mem_cons.mp hv with rfl | hseen
      · exact hstart
      · exact Trans.trans hstart ((List.pairwise_cons.mp hregular.takeover.chain).1 v hseen)
    exact sparing_of_recorded hlaterRegular ((hregular.takeover.begun v hv).numbered hs) hfollows
      hrecorded (hothers later.service hmem)

/-- **Turns spare each other**, whatever others do to the store meanwhile: what one turn
began no later one signals or ends, except that it may find it dead; and what a turn has
reported runs in the end, unless others ended it or a sweep found it dead. -/
theorem turns_spare (hs : Numbered start.store) (settings : Settings) :
    let ts := turns p settings start services
    (ts.Pairwise fun t later => ∀ id, t.Launched id → Sparing settings id later)
      ∧ ∀ t later, t :: later <:+ ts → ∀ report, t.outcome = .ok report →
        t.Launched report.record.id
          ∧ RunsOrDied settings report.record.id (t :: later) (lastOf start ts) := by
  intro ts
  refine ⟨turns_pairwise_sparing hp hspawn hapart hs, ?_⟩
  induction services generalizing start with
  | nil =>
    intro t later hsuffix
    cases List.suffix_nil.mp hsuffix
  | cons service rest ih =>
    intro t later hsuffix report hreport
    have hregular := turn_regular hp hspawn hs settings service
    have hleft := (hregular.takeover.begun _ List.mem_cons_self).numbered hs
    rcases List.suffix_cons_iff.mp hsuffix with hall | hsuffix
    · obtain ⟨rfl, rfl⟩ := List.cons_eq_cons.mp hall
      obtain ⟨hlaunched, hran, hkept⟩ := hregular.reported report hreport
      refine ⟨hlaunched, ?_⟩
      have hpairwise : (turns p settings start (service :: rest)).Pairwise fun t later =>
          ∀ id, t.Launched id → Sparing settings id later :=
        turns_pairwise_sparing hp hspawn hapart hs
      have hsparing := (List.pairwise_cons.mp hpairwise).1
      rcases runs_or_stopped hran with hruns | ⟨step, hstep, hstops⟩ | hstopped
      · refine (runsOrDied_of_sparing (fun later hlater => (turn_of_mem hp hspawn hleft hlater).2.1)
          (fun later hlater => hsparing later hlater _ hlaunched) hruns).imp_right ?_
        exact fun ⟨t, ht, hdied⟩ => ⟨t, List.mem_cons_of_mem _ ht, hdied⟩
      · exact absurd hstops (hkept step hstep)
      · exact Or.inr ⟨_, List.mem_cons_self, Or.inl hstopped⟩
    · exact ih (List.pairwise_cons.mp hapart).2 hleft t later hsuffix report hreport

end

end Overseer.Supervisor
