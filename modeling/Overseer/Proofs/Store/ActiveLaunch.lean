/-
Overseer.Proofs.Store.ActiveLaunch — the running launch of a service.

`active_launch_is_newest`: after any history, if a service has a running
launch it has one only, and no launch of the service has a higher number. So
whoever asks for the running launch and whoever asks for the newest one mean
the same launch, as long as that runs. A new launch is refused exactly while
one runs, or when all numbers are used up, and its number is above every number
that was ever given out, whatever was deleted since.
-/
import Overseer.Proofs.Store.LaunchTable

namespace Overseer.Store

/-! ## 1. Numbers -/

/-- A number is given out by one write at most, and is then the highest. -/
theorem LaunchChange.numbers {s s' : Store} {op : Operation} {numbers ends : List Int}
    (h : LaunchChange s op s' numbers ends) :
    (numbers = [] ∧ s'.lastLaunch = s.lastLaunch)
      ∨ (numbers = [s.lastLaunch + 1] ∧ s'.lastLaunch = s.lastLaunch + 1) := by
  cases h with
  | untouched _ last => exact Or.inl ⟨rfl, last⟩
  | created row number _ _ _ last => exact Or.inr ⟨by rw [number], by rw [last, number]⟩
  | noted _ _ _ last => exact Or.inl ⟨rfl, last⟩
  | ended _ _ _ _ _ last => exact Or.inl ⟨rfl, last⟩
  | dropped _ _ _ _ last => exact Or.inl ⟨rfl, last⟩

/-- No number is above the highest one, which is the old one or was given out meanwhile. -/
theorem lastLaunch_run_of_plain {history : List Operation}
    (h : ∀ op ∈ history, op.isSweep = false) (s : Store) :
    s.lastLaunch ≤ (s.run history).lastLaunch
      ∧ (∀ i ∈ told issued s history, i ≤ (s.run history).lastLaunch)
      ∧ ((s.run history).lastLaunch = s.lastLaunch
        ∨ (s.run history).lastLaunch ∈ told issued s history) := by
  induction history generalizing s with
  | nil => simp [told]
  | cons op history ih =>
    obtain ⟨hle, hall, hlast⟩ := ih (fun o ho => h o (List.mem_cons_of_mem _ ho)) (s.step op)
    simp only [run_cons, told, List.mem_append]
    rcases (launchChange_step s (h op List.mem_cons_self)).numbers with
      ⟨hnone, hsame⟩ | ⟨hone, hnext⟩
    · rw [hsame] at hle hlast
      simp only [hnone, List.not_mem_nil, false_or]
      exact ⟨hle, hall, hlast⟩
    · rw [hnext] at hle hlast
      simp only [hone, List.mem_singleton]
      refine ⟨by omega, ?_, ?_⟩
      · intro i hi
        rcases hi with rfl | hi
        · exact hle
        · exact hall i hi
      · rcases hlast with h | h
        · exact Or.inr (Or.inl h)
        · exact Or.inr (Or.inr h)

theorem lastLaunch_run (s : Store) (history : List Operation) :
    s.lastLaunch ≤ (s.run history).lastLaunch
      ∧ (∀ i ∈ told issued s history, i ≤ (s.run history).lastLaunch)
      ∧ ((s.run history).lastLaunch = s.lastLaunch
        ∨ (s.run history).lastLaunch ∈ told issued s history) := by
  rw [← run_plain, ← told_issued_plain]
  exact lastLaunch_run_of_plain (fun _ => isSweep_of_mem_plain) s

/-- Numbers are left as long as the last one was not given out. -/
theorem issued_lt_iff (history : List Operation) :
    (∀ i ∈ told issued empty history, i < lastNumber)
      ↔ (empty.run history).lastLaunch < lastNumber := by
  obtain ⟨_, hall, hlast⟩ := lastLaunch_run empty history
  constructor
  · intro h
    rcases hlast with hlast | hlast
    · rw [hlast]
      decide
    · exact h _ hlast
  · intro h i hi
    have := hall i hi
    omega

/-! ## 2. The running launch and the newest one -/

variable {rows : List LaunchRow} {key : ServiceKey}

/-- In the order of the table the first running row of a service is the first
row of the service, if that runs. -/
theorem find?_active (h : rows.Pairwise LaunchRow.Supersedes) :
    rows.find? (fun r => r.isActive && r.key == key)
      = (rows.find? fun r => r.key == key).filter (·.isActive) := by
  induction rows with
  | nil => rfl
  | cons r rows ih =>
    obtain ⟨habove, hrows⟩ := List.pairwise_cons.mp h
    by_cases hkey : r.key = key
    · have hnone : rows.find? (fun older => older.isActive && older.key == key) = none := by
        rw [List.find?_eq_none]
        intro older holder hrun
        simp only [Bool.and_eq_true, beq_iff_eq] at hrun
        have := (habove older holder).2 (hkey.trans hrun.2.symm)
        rw [this] at hrun
        exact absurd hrun.1 (by decide)
      cases hactive : r.isActive <;> simp [Option.filter_some, hkey, hactive, hnone]
    · simp [hkey, ih hrows]

/-- In the order of the table a running row is the only one of its service. -/
theorem filter_active (h : rows.Pairwise LaunchRow.Supersedes) {r : LaunchRow} (hr : r ∈ rows)
    (hkey : r.key = key) (hactive : r.isActive = true) :
    rows.filter (fun r => r.isActive && r.key == key) = [r] := by
  have hmem : r ∈ rows.filter fun r => r.isActive && r.key == key := by
    simp [hr, hkey, hactive]
  have horder := h.filter fun r => r.isActive && r.key == key
  have hruns : ∀ r ∈ rows.filter fun r => r.isActive && r.key == key,
      r.isActive = true ∧ r.key = key := by
    intro r hr
    simpa using (List.mem_filter.mp hr).2
  -- A second row of the list would stand below the first and run none the less.
  match hlist : rows.filter fun r => r.isActive && r.key == key with
  | [] => rw [hlist] at hmem; cases hmem
  | [a] => rw [hlist] at hmem; rw [hlist, List.mem_singleton.mp hmem]
  | a :: b :: _ =>
    rw [hlist] at horder hruns
    have ha := hruns a List.mem_cons_self
    have hb := hruns b (List.mem_cons_of_mem _ List.mem_cons_self)
    have hab := (List.rel_of_pairwise_cons horder List.mem_cons_self).2 (ha.2.trans hb.2.symm)
    rw [hb.1] at hab
    cases hab

theorem LaunchesSound.record_running {s : Store} (hs : LaunchesSound s) {r : LaunchRow}
    (hr : r ∈ s.launches) : r.record.running = r.isActive := by
  rcases hs.rows r hr with h | h
  · simp [LaunchRow.record, LaunchRow.isActive, h.1]
  · simp [LaunchRow.record, LaunchRow.isActive, h.1]

/-- Asking for the running launch is asking for the newest one, if that runs. -/
theorem active?_eq_filter_latest? {s : Store} (hs : LaunchesSound s) (key : ServiceKey) :
    s.active? key = (s.latest? key).filter (·.running) := by
  unfold active? latest?
  rw [find?_active hs.order]
  cases hfind : s.launches.find? fun r => r.key == key with
  | none => rfl
  | some r =>
    have hrunning := hs.record_running (List.mem_of_find?_eq_some hfind)
    cases hactive : r.isActive <;> simp [Option.filter_some, hactive, hrunning]

theorem hasActive_eq_false_iff (s : Store) (key : ServiceKey) :
    s.hasActive key = false ↔ ∀ r ∈ s.launches, r.key = key → r.isActive = false := by
  constructor
  · intro h r hr hkey
    exact not_isActive_of_hasActive h hr hkey
  · intro h
    rw [hasActive, List.any_eq_false]
    intro r hr hrun
    simp only [Bool.and_eq_true, beq_iff_eq] at hrun
    rw [h r hr hrun.2] at hrun
    exact absurd hrun.1 (by decide)

/-- A running launch is the newest of its service. -/
theorem LaunchesSound.id_le_of_isActive {s : Store} (hs : LaunchesSound s) {r r' : LaunchRow}
    (hr : r ∈ s.launches) (hr' : r' ∈ s.launches) (hkey : r'.key = r.key)
    (hactive : r.isActive = true) : r'.id ≤ r.id := by
  rcases hs.eq_or_supersedes hr hr' with rfl | h | h
  · exact Int.le_refl _
  · exact Int.le_of_lt h.1
  · have hnot := h.2 hkey
    rw [hactive] at hnot
    cases hnot

/-! ## 3. New launches -/

theorem exists_create_iff (history : List Operation) (now : Int) (key : ServiceKey)
    (command : String) (directory : Path) (port : Option Nat) :
    (∃ id s', (empty.run history).create now key command directory port = .ok (id, s')) ↔
      (∀ r ∈ (empty.run history).launches, r.key = key → r.isActive = false)
        ∧ ∀ i ∈ told issued empty history, i < lastNumber := by
  rw [← hasActive_eq_false_iff, issued_lt_iff]
  constructor
  · rintro ⟨id, s', hok⟩
    obtain ⟨hleft, halone, _⟩ := create_eq_ok_iff.mp hok
    exact ⟨halone, hleft⟩
  · rintro ⟨halone, hleft⟩
    exact ⟨_, _, create_eq_ok_iff.mpr ⟨hleft, halone, rfl, rfl⟩⟩

theorem issued_lt_of_create {history : List Operation} {now id : Int} {key : ServiceKey}
    {command : String} {directory : Path} {port : Option Nat} {s' : Store}
    (hok : (empty.run history).create now key command directory port = .ok (id, s')) :
    ∀ i ∈ told issued empty history, i < id := by
  intro i hi
  obtain ⟨_, _, rfl, _⟩ := create_eq_ok_iff.mp hok
  have hle := (lastLaunch_run empty history).2.1 i hi
  omega

/-- **The running launch of a service is its only one and its newest**, and a new
launch begins exactly when none runs, under a number never given out before. -/
theorem active_launch_is_newest (history : List Operation) (key : ServiceKey) :
    let s := empty.run history
    (∀ r ∈ s.launches, r.key = key → r.isActive = true →
        s.launches.filter (fun r => r.isActive && r.key == key) = [r]
          ∧ ∀ r' ∈ s.launches, r'.key = key → r'.id ≤ r.id)
      ∧ s.active? key = (s.latest? key).filter (·.running)
      ∧ ∀ now command directory port,
          ((∃ id s', s.create now key command directory port = .ok (id, s')) ↔
            (∀ r ∈ s.launches, r.key = key → r.isActive = false)
              ∧ ∀ i ∈ told issued empty history, i < lastNumber)
          ∧ (∀ id s', s.create now key command directory port = .ok (id, s') →
              ∀ i ∈ told issued empty history, i < id)
          ∧ ∀ fault, s.create now key command directory port = .error fault →
              s.step (.create now key command directory port) = s := by
  intro s
  have hs : LaunchesSound s := launchesSound_run launchesSound_empty history
  refine ⟨?_, active?_eq_filter_latest? hs key, ?_⟩
  · intro r hr hkey hactive
    refine ⟨filter_active hs.order hr hkey hactive, ?_⟩
    intro r' hr' hkey'
    exact hs.id_le_of_isActive hr hr' (hkey'.trans hkey.symm) hactive
  · intro now command directory port
    refine ⟨exists_create_iff history now key command directory port, ?_, ?_⟩
    · intro id s' hok
      exact issued_lt_of_create hok
    · intro fault herror
      simp only [step, herror]

/-- A second launch, begun when the first one was ended and deleted. -/
theorem active_launch_is_newest_after_cleanup :
    let key : ServiceKey := ⟨"web", ⟨"/srv"⟩⟩
    let again : Operation := .create 100000 key "serve" ⟨"/srv"⟩ none
    let history := [.create 0 key "serve" ⟨"/srv"⟩ none, .markExited 1 1 0,
      .cleanup 90000 .standard, again]
    let s := empty.run history
    (∃ r ∈ s.launches, r.key = key ∧ r.isActive = true ∧ r.id = 2
        ∧ s.launches.filter (fun r => r.isActive && r.key == key) = [r])
      ∧ told issued empty history = [1, 2]
      ∧ s.step again = s := by
  intro key again history s
  obtain ⟨hnewest, _, hcreate⟩ := active_launch_is_newest history key
  obtain ⟨_, _, hrefused⟩ := hcreate 100000 "serve" ⟨"/srv"⟩ none
  refine ⟨?_, by decide +kernel, hrefused activeKeyTaken rfl⟩
  refine ⟨⟨2, key, "serve", ⟨"/srv"⟩, 0, none, none, 100000, none, 1, none⟩, ?_, rfl, rfl, rfl, ?_⟩
  · decide +kernel
  · exact (hnewest _ (by decide +kernel) rfl rfl).1

end Overseer.Store
