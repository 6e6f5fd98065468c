/-
Overseer.Proofs.Console.Starting — starting several services at once.

`start_spares_its_own`: the services that a call of `start` launches do not get in each
other's way if no two of them have one command line in one directory. That they have
different names is not enough, since launching a service also ends a launch of another
one with its command line in its directory, and a setup file may list two such services
(`start_ends_its_own`).

By the law of the command (`performStart_run`) a call of `start` leaves the world that
launching the services one after the other leaves, unless the store cannot be opened, and
the rest is about their turns.
-/
import Overseer.Proofs.Console.Attempting

namespace Overseer.Console

open Store (Numbered)
open Supervisor

variable {σ : Type} {p : Platform σ} {settings : Settings}

/-- Services that are found for different names have different names. -/
theorem names_of_findAll {names : List String} (hnames : names.Nodup) {s : Shell σ}
    {services : List ResolvedService} (h : ((findAll names).run.run s).1 = .ok services) :
    services.Pairwise fun a b => a.name ≠ b.name := by
  have hfound := resolutions_of_findAll h
  cases hproject : Project.discover s.tree s.tree.workingDirectory with
  | error fault =>
    rw [resolutions, hproject] at hfound
    cases hfound
  | ok project =>
    rw [resolutions_eq hproject] at hfound
    have hresolved := forall₂_of_mapM hfound
    by_cases hempty : names = []
    · subst hempty
      obtain ⟨service, _, _, hrest, rfl⟩ := List.forall₂_cons_left_iff.mp hresolved
      rw [List.forall₂_nil_left_iff.mp hrest]
      exact List.pairwise_singleton _ _
    · rw [← names_of_forall₂ hempty hresolved] at hnames
      exact List.pairwise_map.mp hnames

/-- A call of `start` leaves the world that launching the services leaves, or none of them
if the store cannot be opened. It goes through only if each of them is launched. -/
theorem performStart_world (p : Platform σ) (settings : Settings) {names : List String}
    {s : Shell σ} {services : List ResolvedService}
    (hfound : ((findAll names).run.run s).1 = .ok services) :
    let last := (performStart p settings names).run.run s
    ∃ begun, begun <+: services ∧ last.2.world = ((launchEach p settings begun).run s.world).2
      ∧ (last.1 = .ok () → begun = services
        ∧ ∀ outcome ∈ ((launchEach p settings services).run s.world).1,
          ∃ report, outcome = .ok report) := by
  intro last
  have hlast : last = _ := performStart_run p settings names s
  rw [resolutions_of_findAll hfound] at hlast
  cases hopen : Store.openIn s.tree s.stateDir with
  | error cause =>
    rw [hopen] at hlast
    rw [hlast]
    exact ⟨[], List.nil_prefix, rfl, fun h => by cases h⟩
  | ok tree =>
    rw [hopen] at hlast
    refine ⟨services, List.prefix_refl services, by rw [hlast]; rfl, fun hok => ⟨rfl, ?_⟩⟩
    rw [hlast] at hok
    rw [← (outcomes_resultsOf p settings services s.world).1, List.forall_mem_map]
    exact verdict_eq_ok_iff.mp hok

/-- **A call of `start` spares what it has launched itself**, if no two of the services
have one command line in one directory. The names are different, and the setup file is
any that is found, and so a valid one; others may use the store meanwhile. No turn of the
call signals or ends what an earlier turn began, except that its sweep may find it dead.
If the call goes through each service was launched, and what was launched runs in the end
unless others ended it or a sweep found it dead. -/
theorem start_spares_its_own (hp : p.Within Aside) (hspawn : p.SpawnsWithin Aside)
    (settings : Settings) {names : List String} (hnames : names.Nodup) {s : Shell σ}
    {services : List ResolvedService} (hfound : ((findAll names).run.run s).1 = .ok services)
    (hapart : services.Pairwise fun a b => ¬ (a.shell = b.shell ∧ a.directory = b.directory))
    (hs : Numbered s.world.store) :
    let last := (performStart p settings names).run.run s
    ∃ begun, begun <+: services ∧
      let ts := turns p settings s.world begun
      last.2.world = lastOf s.world ts
        ∧ (last.1 = .ok () → begun = services ∧ ∀ t ∈ ts, ∃ report, t.outcome = .ok report)
        ∧ (ts.Pairwise fun t later => ∀ id, t.Launched id → Sparing settings id later)
        ∧ ∀ t later, t :: later <:+ ts → ∀ report, t.outcome = .ok report →
          t.Launched report.record.id
            ∧ RunsOrDied settings report.record.id (t :: later) last.2.world := by
  intro last
  have hlast : (performStart p settings names).run.run s = last := rfl
  obtain ⟨begun, hbegun, hworld, hall⟩ := performStart_world p settings hfound
  have hothers : services.Pairwise fun a b => ¬ b.origin.Replaces a.origin := by
    refine ((names_of_findAll hnames hfound).and hapart).imp ?_
    rintro a b ⟨hname, happart⟩ (hkey | hsame)
    · exact hname (congrArg ServiceKey.service hkey)
    · exact happart hsame
  have hspare := turns_spare hp hspawn (hothers.sublist hbegun.sublist) hs settings
  simp only [hlast, launchEach_eq_turns] at hworld hall
  refine ⟨begun, hbegun, hworld, fun hok => ?_, hspare.1, ?_⟩
  case refine_2 =>
    rw [hworld]
    exact hspare.2
  obtain ⟨rfl, houtcomes⟩ := hall hok
  exact ⟨rfl, fun t ht => houtcomes t.outcome (List.mem_map_of_mem ht)⟩

/-- The process of launch 1 has the pid 61, that of launch 2 the pid 62. -/
def numberedPlatform : Platform Rehearsal.Cast :=
  castPlatform 40 fun payload => [.updatePid payload.launch (60 + payload.launch.toNat)]

/-- The two services as they are found. -/
def twoResolved (second : String) : List ResolvedService :=
  [⟨"a", "serve", ⟨"/srv"⟩, .empty, false, ⟨"/srv"⟩⟩,
    ⟨"b", second, ⟨"/srv"⟩, .empty, false, ⟨"/srv"⟩⟩]

/-- A call of `start` for both of them. -/
def startTwo (second : String) : Except Failure Unit × Shell Rehearsal.Cast :=
  (performStart numberedPlatform (.standard ⟨"wrapper"⟩) ["a", "b"]).run.run (twoServices second)

theorem start_spares_its_own_both :
    ((findAll ["a", "b"]).run.run (twoServices "listen")).1 = .ok (twoResolved "listen")
      ∧ ((startTwo "listen").1,
          (startTwo "listen").2.world.store.launches.map fun r => (r.id, r.running))
        = (.ok (), [(2, 1), (1, 1)])
      ∧ (turns numberedPlatform (.standard ⟨"wrapper"⟩) (twoServices "listen").world
          (twoResolved "listen")).Pairwise
        fun t later => ∀ id, t.Launched id → Sparing (.standard ⟨"wrapper"⟩) id later := by
  have hfound : ((findAll ["a", "b"]).run.run (twoServices "listen")).1
      = .ok (twoResolved "listen") := by decide +kernel
  have hlast : ((startTwo "listen").1,
      (startTwo "listen").2.world.store.launches.map fun r => (r.id, r.running))
      = (.ok (), [(2, 1), (1, 1)]) := by decide +kernel
  have hp : numberedPlatform.Within Aside :=
    castPlatform_within (fun w => ⟨.refl w, rfl⟩) (fun _ w => ⟨.refl w, rfl⟩)
      fun _ _ w => ⟨.refl w, rfl⟩
  have hspawn : numberedPlatform.SpawnsWithin Aside :=
    castPlatform_spawnsWithin fun _ _ => ⟨⟨_, rfl⟩, rfl⟩
  have hapart : (twoResolved "listen").Pairwise
      fun a b => ¬ (a.shell = b.shell ∧ a.directory = b.directory) :=
    List.pairwise_pair.mpr fun h => absurd h.1 (by decide)
  obtain ⟨begun, _, _, hok, hsparing, _⟩ := start_spares_its_own hp hspawn (.standard ⟨"wrapper"⟩)
    (by decide +kernel) hfound hapart Store.launchesSound_empty.numbered
  obtain ⟨rfl, _⟩ := hok (Prod.mk.inj hlast).1
  exact ⟨hfound, hlast, hsparing⟩

/-- **A call of `start` ends what it has launched itself**: two services of a valid setup
file have one command line in one directory. Both are reported as started, and the second
turn has signalled the first one's process and marked its launch as killed. -/
theorem start_ends_its_own :
    let tree := (twoServices "serve").tree
    let last := startTwo "serve"
    ((Project.discover tree tree.workingDirectory).map fun project => project.setup.validate)
        = .ok (.ok ())
      ∧ (last.1, last.2.world.store.launches.map (fun r => (r.id, r.key.service, r.exitCode)),
          last.2.world.journal.filterMap fun e => match e with
            | .signalled _ pid signal => some (pid, signal)
            | _ => none)
        = (.ok (), [(2, "b", none), (1, "a", some (-9))], [(61, .term), (40, .term)]) := by
  decide +kernel

end Overseer.Console
