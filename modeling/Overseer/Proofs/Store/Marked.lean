/-
Overseer.Proofs.Store.Marked — stores that differ by marks, and by one launch.

Launching a service does three things to the store: it marks launches as ended,
it adds one, and the wrapper of the new launch does what wrappers do. `Marked`
is the first: row by row the later store is the earlier one, but for rows that
ran and have ended. `Beside` is the rest: apart from the new launch the store
holds the rows it held when that was added, less those that retention has
dropped, which are never running ones.

`toReplace` are the launches that a new one of a service replaces, as they are
before any of them is ended; `find?_of_marked` says that the second of them is
still found when the first has been ended, and is the newest of the others.
-/
import Mathlib.Data.List.Forall2
import Overseer.Proofs.Store.ActiveLaunch
import Overseer.Proofs.Store.Waning

namespace Overseer

/-- As it was, or it ran, is one of those, and has ended with the code. -/
def LaunchRow.EndedAs (code : Int) (which : Int → Prop) (r r' : LaunchRow) : Prop :=
  r' = r ∨ (r.isActive = true ∧ which r.id ∧ ∃ t, r' = r.endedWith t code)

theorem LaunchRow.EndedAs.id_eq {code : Int} {which : Int → Prop} {r r' : LaunchRow}
    (h : r.EndedAs code which r') : r'.id = r.id := by
  rcases h with rfl | ⟨_, _, t, rfl⟩ <;> rfl

namespace Store

/-! ## 1. Marks -/

/-- The later store is the earlier one, but for some launches that have ended. -/
structure Marked (code : Int) (which : Int → Prop) (s s' : Store) : Prop where
  sound : LaunchesSound s'
  last : s'.lastLaunch = s.lastLaunch
  rows : List.Forall₂ (LaunchRow.EndedAs code which) s.launches s'.launches

variable {s s' : Store} {code : Int} {which : Int → Prop} {rows rows' : List LaunchRow}

theorem Marked.refl (hs : LaunchesSound s) : Marked code which s s :=
  ⟨hs, rfl, List.forall₂_same.mpr fun _ _ => Or.inl rfl⟩

theorem Marked.mono {which' : Int → Prop} (h : Marked code which s s')
    (hwhich : ∀ id, which id → which' id) : Marked code which' s s' :=
  ⟨h.sound, h.last, h.rows.imp fun _ _ => Or.imp_right fun hended =>
    ⟨hended.1, hwhich _ hended.2.1, hended.2.2⟩⟩

theorem endedAs_map {id now : Int} (hid : which id)
    (honly : ∀ r ∈ rows', r.id = id → r.isActive = true)
    (h : List.Forall₂ (LaunchRow.EndedAs code which) rows rows') :
    List.Forall₂ (LaunchRow.EndedAs code which) rows
      (rows'.map fun r => if r.id = id then r.endedWith now code else r) := by
  induction h with
  | nil => exact .nil
  | @cons r r' _ _ hrow _ ih =>
    obtain ⟨hfirst, hrest⟩ := List.forall_mem_cons.mp honly
    refine .cons ?_ (ih hrest)
    by_cases hsame : r'.id = id
    · simp only [hsame, if_true]
      rcases hrow with rfl | ⟨_, _, t, rfl⟩
      · exact Or.inr ⟨hfirst hsame, hsame ▸ hid, now, rfl⟩
      · exact absurd (hfirst hsame) (by simp)
    · simp only [hsame, if_false]
      exact hrow

/-- One more mark. -/
theorem Marked.markExited {id : Int} (h : Marked code which s s') (hid : which id) (now : Int) :
    Marked code which s (s'.markExited now id code).2 := by
  have hsound : LaunchesSound (s'.markExited now id code).2 :=
    launchesSound_step h.sound (.markExited now id code)
  by_cases hran : ∃ r ∈ s'.launches, r.id = id ∧ r.isActive = true
  · rw [markExited_of_active hran] at hsound ⊢
    obtain ⟨r, hr, hrid, hactive⟩ := hran
    refine ⟨hsound, h.last, endedAs_map hid ?_ h.rows⟩
    intro r' hr' hid'
    rw [h.sound.eq_of_id hr' hr (hid'.trans hrid.symm)]
    exact hactive
  · rw [markExited_of_not_active hran]
    exact h

/-- The launches that no mark was meant for are as they were. -/
theorem Marked.eq_of_none (h : Marked code (fun _ => False) s s') : s'.launches = s.launches := by
  have hsame := h.rows.imp (S := (· = ·)) fun r r' hrow => by
    rcases hrow with rfl | ⟨_, hnone, _⟩
    · rfl
    · exact hnone.elim
  rw [List.forall₂_eq_eq_eq] at hsame
  exact hsame.symm

/-! ## 2. What a launch replaces -/

/-- The newest running launch of a command line in a directory, a given one left out. -/
def otherFor? (s : Store) (same : Option ProcessRecord) (command : String) (directory : Path) :
    Option ProcessRecord :=
  (s.launches.find? fun r => (r.isActive && r.command == command && r.directory == directory)
    && same.all (·.id != r.id)).map (·.record)

/-- The running launch of the service, and the newest other one of the command
line in the directory. -/
def toReplace (s : Store) (key : ServiceKey) (command : String) (directory : Path) :
    List ProcessRecord :=
  (s.active? key).toList ++ (s.otherFor? (s.active? key) command directory).toList

/-- What runs besides a launch that was ended is found as if that one were left out. -/
theorem find?_of_marked {same : Option ProcessRecord} {kind : LaunchRow → Bool}
    (hkind : ∀ r, kind r = true → r.isActive = true)
    (h : List.Forall₂ (LaunchRow.EndedAs code fun id => ∃ x ∈ same, x.id = id) rows rows')
    (hended : ∀ r ∈ rows', ∀ x ∈ same, r.id = x.id → r.isActive = false) :
    rows'.find? kind = rows.find? fun r => kind r && same.all (·.id != r.id) := by
  induction h with
  | nil => rfl
  | @cons r r' _ _ hrow _ ih =>
    obtain ⟨hfirst, hrest⟩ := List.forall_mem_cons.mp hended
    have hnot {x : LaunchRow} (hx : x.isActive = false) : kind x = false :=
      Bool.eq_false_iff.mpr fun hk => by simp [hkind x hk] at hx
    have htail := ih hrest
    by_cases hmarked : ∃ x ∈ same, x.id = r.id
    · obtain ⟨x, hx, hid⟩ := hmarked
      have hover : r'.isActive = false := hfirst x hx (hrow.id_eq.trans hid.symm)
      have hall : same.all (·.id != r.id) = false := by
        rw [Option.mem_def.mp hx]
        simp [hid]
      simp [hnot hover, hall, htail]
    · obtain rfl : r' = r := by
        rcases hrow with h | ⟨_, hwhich, _⟩
        · exact h
        · exact absurd hwhich hmarked
      have hall : same.all (·.id != r'.id) = true := by
        rcases same with _ | x
        · rfl
        · simpa using fun hid => hmarked ⟨x, rfl, hid⟩
      rw [List.find?_cons, List.find?_cons, hall, Bool.and_true, htail]

theorem Marked.active?_eq (h : Marked code (fun _ => False) s s') (key : ServiceKey) :
    s'.active? key = s.active? key := by
  rw [active?, active?, h.eq_of_none]

theorem Marked.activeFor?_eq {same : Option ProcessRecord}
    (h : Marked code (fun id => ∃ x ∈ same, x.id = id) s s')
    (hended : ∀ x ∈ same, HasEnded x.id s') (command : String) (directory : Path) :
    s'.activeFor? command directory = s.otherFor? same command directory := by
  have hkind (r : LaunchRow)
      (hr : (r.isActive && r.command == command && r.directory == directory) = true) :
      r.isActive = true := by
    simp only [Bool.and_eq_true] at hr
    exact hr.1.1
  rw [activeFor?, otherFor?]
  rw [find?_of_marked hkind h.rows fun r hr x hx hid => hended x hx r hr hid]

/-- What is replaced runs. -/
theorem mem_toReplace {command : String} {directory : Path} {key : ServiceKey}
    {x : ProcessRecord} (h : x ∈ s.toReplace key command directory) :
    ∃ r ∈ s.launches, r.isActive = true ∧ r.record = x := by
  simp only [toReplace, List.mem_append, Option.mem_toList, active?, otherFor?,
    Option.map_eq_some_iff] at h
  rcases h with ⟨r, hfind, rfl⟩ | ⟨r, hfind, rfl⟩
  · have hkind := List.find?_some hfind
    simp only [Bool.and_eq_true] at hkind
    exact ⟨r, List.mem_of_find?_eq_some hfind, hkind.1, rfl⟩
  · have hkind := List.find?_some hfind
    simp only [Bool.and_eq_true] at hkind
    exact ⟨r, List.mem_of_find?_eq_some hfind, hkind.1.1.1, rfl⟩

/-! ## 3. A launch beside the others -/

/-- What the wrapper of a launch does: it notes pids, writes lines and ends its
launch, and it may make a pass of retention. -/
def Operation.isOfWrapper (retains : Prop) (id : Int) : Operation → Prop
  | .updatePid id' _ => id' = id
  | .updateWrapperPid id' _ => id' = id
  | .markExited _ id' _ => id' = id
  | .append _ id' _ _ _ _ => id' = id
  | .cleanup _ _ => retains
  | _ => False

/-- Beside the newest launch the store holds the rows it held before. Retention
may have dropped some of them, if it is made, but none that runs. -/
structure Beside (retains : Prop) (before : List LaunchRow) (new : Int) (key : ServiceKey)
    (s : Store) : Prop where
  sound : LaunchesSound s
  last : s.lastLaunch = new
  others : (s.launches.filter (·.id != new)).Sublist before
  running : ∀ r ∈ before, r.isActive = true → r ∈ s.launches.filter (·.id != new)
  kept : ¬ retains → s.launches.filter (·.id != new) = before ∧ ∃ r ∈ s.launches, r.id = new
  keyed : ∀ r ∈ s.launches, r.id = new → r.key = key

variable {retains : Prop} {before : List LaunchRow} {new : Int} {key : ServiceKey}

theorem issued_of_isOfWrapper {op : Operation} (h : op.isOfWrapper retains new) (s : Store) :
    s.issued op = [] := by
  cases op with
  | create => exact h.elim
  | _ => rfl

theorem isSweep_of_isOfWrapper {op : Operation} (h : op.isOfWrapper retains new) :
    op.isSweep = false := by
  cases op with
  | sweepDead => exact h.elim
  | _ => rfl

theorem isCreate_of_isOfWrapper {op : Operation} (h : op.isOfWrapper retains new) :
    op.isCreate = false := by
  cases op with
  | create => exact h.elim
  | _ => rfl

/-- A new launch stands beside all that were there. -/
theorem beside_create {s s' : Store} (hs : LaunchesSound s) {now id : Int} {command : String}
    {directory : Path} {port : Option Nat}
    (hok : s.create now key command directory port = .ok (id, s')) :
    Beside retains s.launches id key s' := by
  have hsound : LaunchesSound s' := by
    have hstep := launchesSound_step hs (.create now key command directory port)
    rwa [step, hok] at hstep
  obtain ⟨_, _, rfl, rfl⟩ := create_eq_ok_iff.mp hok
  have hothers : (s.newRow now key command directory port :: s.launches).filter
      (·.id != s.lastLaunch + 1) = s.launches := by
    rw [List.filter_cons_of_neg (by simp [newRow]), List.filter_eq_self]
    intro r hr
    have hle := hs.numbers r hr
    simp only [bne_iff_ne, ne_eq]
    omega
  refine ⟨hsound, rfl, ?_, ?_, fun _ => ⟨hothers, _, List.mem_cons_self, rfl⟩, ?_⟩
  · exact hothers.symm ▸ List.Sublist.refl _
  · intro r hr _
    rwa [hothers]
  · intro r hr hid
    rcases List.mem_cons.mp hr with rfl | hr
    · rfl
    · have hle := hs.numbers r hr
      omega

/-- Whatever happens but a new launch, the rows of a number keep their service. -/
theorem LaunchChange.keyed {op : Operation} {ends : List Int} (h : LaunchChange s op s' [] ends)
    (hkey : ∀ r ∈ s.launches, r.id = new → r.key = key) :
    ∀ r ∈ s'.launches, r.id = new → r.key = key := by
  intro r' hr' hid
  cases h with
  | untouched launches last => exact hkey r' (launches ▸ hr') hid
  | noted change same launches last =>
    rw [launches] at hr'
    obtain ⟨r, hr, rfl⟩ := List.mem_map.mp hr'
    obtain ⟨hsame, hsamekey, _⟩ := same r
    rw [hsamekey]
    exact hkey r hr (hsame ▸ hid)
  | ended now id code ran launches last =>
    rw [launches] at hr'
    obtain ⟨r, hr, rfl⟩ := List.mem_map.mp hr'
    split at hid <;> split <;> exact hkey r hr hid
  | dropped pass keep active launches last =>
    rw [launches] at hr'
    exact hkey r' (List.mem_filter.mp hr').1 hid

/-- A wrapper leaves the rows of all other launches, unless it lets retention drop some. -/
theorem others_of_isOfWrapper {op : Operation} (h : op.isOfWrapper retains new) (s : Store) :
    (op.isCleanup = false ∧ (s.step op).launches.filter (·.id != new)
        = s.launches.filter (·.id != new))
      ∨ (retains ∧ ∃ keep : LaunchRow → Bool, (∀ r, r.isActive = true → keep r = true)
        ∧ (s.step op).launches.filter (·.id != new)
          = (s.launches.filter (·.id != new)).filter keep) := by
  cases op with
  | updatePid id pid =>
    obtain rfl := h
    exact Or.inl ⟨rfl, (frame_of_addressee rfl s).1⟩
  | updateWrapperPid id pid =>
    obtain rfl := h
    exact Or.inl ⟨rfl, (frame_of_addressee rfl s).1⟩
  | markExited now id code =>
    obtain rfl := h
    exact Or.inl ⟨rfl, (frame_of_addressee rfl s).1⟩
  | append now launch key line content type =>
    refine Or.inl ⟨rfl, ?_⟩
    rw [(frame_of_append s now launch key line content type).1]
  | cleanup now policy =>
    refine Or.inr ⟨h, fun r => !isStaleFailure (cutoff now policy.failedAge) r
      && !isStaleSuccess (cutoff now policy.successAge) r, fun r hr => isActive_kept hr _ _, ?_⟩
    rw [step, cleanup_launches, List.filter_filter, List.filter_filter]
    exact List.filter_congr fun r _ => Bool.and_comm _ _
  | _ => exact h.elim

theorem Beside.step {op : Operation} (h : Beside retains before new key s)
    (hop : op.isOfWrapper retains new) : Beside retains before new key (s.step op) := by
  have hchange := launchChange_step s (isSweep_of_isOfWrapper hop)
  rw [issued_of_isOfWrapper hop] at hchange
  have hlast : (s.step op).lastLaunch = new := by
    rcases hchange.numbers with ⟨_, hsame⟩ | ⟨hnone, _⟩
    · rw [hsame, h.last]
    · cases hnone
  have hsound := launchesSound_step h.sound op
  rcases others_of_isOfWrapper hop s with ⟨hclean, hothers⟩ | ⟨hretains, keep, hkeep, hothers⟩
  · refine ⟨hsound, hlast, by rw [hothers]; exact h.others, ?_, ?_, hchange.keyed h.keyed⟩
    · intro r hr hactive
      rw [hothers]
      exact h.running r hr hactive
    · intro hnot
      obtain ⟨hsame, hrow⟩ := h.kept hnot
      exact ⟨by rw [hothers, hsame], hchange.exists_row hclean hrow⟩
  · refine ⟨hsound, hlast, ?_, ?_, fun hnot => absurd hretains hnot, hchange.keyed h.keyed⟩
    · rw [hothers]
      exact List.filter_sublist.trans h.others
    · intro r hr hactive
      rw [hothers]
      exact List.mem_filter.mpr ⟨h.running r hr hactive, hkeep r hactive⟩

end Store

end Overseer
