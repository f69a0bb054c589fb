/-
  GoAtlas.Proofs.Locality — a scan reads and writes below its folder only.

  Two states are `Near` for a directory if they have the same directories, the same files below it, and a
  go command that refuses the same calls.
  - `walkBelow_near` / `findingsBelow_near`: both passes find the same in near states.
  - `scan_local`: so a scan returns the same in all states that are near, writes the same module files, all
    of them below its folder, and makes the same calls.
-/
import GoAtlas.Proofs.Creation

namespace GoAtlas

open GoAtlas.Module

/-- At or below a directory. -/
def isBelow (root q : Segments) : Bool := root.isPrefixOf q

theorem isBelow_iff {root q : Segments} : isBelow root q = true ↔ root <+: q := List.isPrefixOf_iff_prefix

theorem seesSources_isBelow {root dir : Segments} (h : root <+: dir) : SeesSources (isBelow root) dir :=
  fun names _ _ => isBelow_iff.mpr (h.trans (List.prefix_append dir names))

/-! ## Both passes, read off the listings -/

section Gather

variable {σ ε α : Type}

/-- The results put together, or the first failure. -/
def gather : List (Except ε (List α)) → Except ε (List α)
  | [] => .ok []
  | .error e :: _ => .error e
  | .ok xs :: rs => (gather rs).map (xs ++ ·)

theorem collect_eq_gather {visit : Path → σ → Except ε (List α) × σ} {s : σ} (hs : ∀ p, (visit p s).2 = s)
    (ps : List Path) : collect visit ps s = (gather (ps.map fun p => (visit p s).1), s) := by
  induction ps with
  | nil => rfl
  | cons p ps ih =>
    have hp : visit p s = ((visit p s).1, s) := Prod.ext rfl (hs p)
    rw [collect, hp, List.map_cons]
    cases (visit p s).1 with
    | error e => rfl
    | ok xs =>
      simp only [ih, gather]
      cases gather (ps.map fun p => (visit p s).1) <;> rfl

end Gather

theorem walkBelow_succ (t : Tree) (skip : String → Bool) (depth : Nat) (dir : Path) :
    (walkBelow FileSystem.list skip (depth + 1) dir t).1 = (t.list dir).bind fun es =>
      (gather ((subdirectories skip dir es).map fun c => (walkBelow FileSystem.list skip depth c t).1)).map
        (dir :: ·) := by
  rw [walkBelow, t.shows.list]
  cases t.list dir with
  | error e => rfl
  | ok es =>
    simp only [collect_eq_gather (walkBelow_state skip t.shows.list depth), Except.bind]
    cases gather ((subdirectories skip dir es).map fun c => (walkBelow FileSystem.list skip depth c t).1) <;> rfl

theorem findingsBelow_succ (w : Workbench Tree) (depth : Nat) (dir : Path) :
    (findingsBelow (depth + 1) dir w).1 =
      if hasModuleFile w dir then .ok []
      else if hasManifest w dir then .ok [.manifest dir]
      else match w.files.list dir with
        | .error e => .error (.readDir dir e)
        | .ok es =>
          (gather ((subdirectories isHidden dir es).map fun c => (findingsBelow depth c w).1)).map
            (sourcesIn dir es ++ ·) := by
  unfold hasManifest
  rw [findingsBelow, w.shows.list]
  split
  · rfl
  split
  · rfl
  cases w.files.list dir with
  | error e => rfl
  | ok es =>
    simp only [collect_eq_gather (findingsBelow_state w.shows depth)]
    cases gather ((subdirectories isHidden dir es).map fun c => (findingsBelow depth c w).1) <;> rfl

/-! ## Near states -/

namespace Tree

variable {root : Segments} {t t' : Tree}

theorem Alike.list_below (h : t.Alike (isBelow root) t') {dir : Path} (hd : root <+: dir.segments) :
    t'.list dir = t.list dir := by
  have hentries : t'.entries dir.segments = t.entries dir.segments :=
    h.entries_eq fun n => isBelow_iff.mpr (hd.trans (List.prefix_append ..))
  rcases h.list_cases dir with ⟨e, h', ht⟩ | ⟨h', ht⟩
  · rw [h', ht]
  · rw [h', ht, hentries]

/-- A subdirectory lies below whatever its directory lies below. -/
theorem Closed.prefix_subdirectory (ht : t.Closed) {skip : String → Bool} {dir c : Path} (hd : root <+: dir.segments)
    (h0 : dir.segments ∈ t.dirs) (hc : c ∈ subdirectories skip dir (t.entries dir.segments)) : root <+: c.segments := by
  obtain ⟨n, rfl, _, _, hnd⟩ := mem_subdirectories.mp hc
  rw [Path.segments_join_step dir (ht.isStep (ht.dirsProper _ h0).2 hnd).shown]
  exact hd.trans (List.prefix_append ..)

theorem walkBelow_near (h : t.Alike (isBelow root) t') (ht : t.Closed) (skip : String → Bool) (depth : Nat)
    {dir : Path} (hd : root <+: dir.segments) :
    (walkBelow FileSystem.list skip depth dir t').1 = (walkBelow FileSystem.list skip depth dir t).1 := by
  induction depth generalizing dir with
  | zero => rfl
  | succ depth ih =>
    rw [walkBelow_succ, walkBelow_succ, h.list_below hd]
    cases hl : t.list dir with
    | error e => rfl
    | ok es =>
      obtain ⟨_, hdir, rfl⟩ := list_eq_ok.mp hl
      simp only [Except.bind]
      rw [List.map_congr_left fun c hc => ih (ht.prefix_subdirectory hd hdir hc)]

end Tree

namespace Module

/-- Two states that cannot be told apart below a directory. -/
structure Near (root : Segments) (w w' : Workbench Tree) : Prop where
  closed : w'.files.Closed
  files : w.files.Alike (isBelow root) w'.files
  refusing : w'.go.refusing = w.go.refusing

variable {root : Segments} {w w' : Workbench Tree} {folder : Path}

theorem Near.refl (hw : w.files.Closed) (root : Segments) : Near root w w := ⟨hw, .refl _ _, rfl⟩

theorem Near.hasModuleFile_eq (h : Near root w w') {dir : Path} (hd : root <+: dir.segments) :
    hasModuleFile w' dir = hasModuleFile w dir := by
  rw [Module.hasModuleFile_eq w.shows, Module.hasModuleFile_eq w'.shows]
  exact h.files.hasAt_eq (isBelow_iff.mpr (hd.trans (List.prefix_append ..)))

theorem Near.hasManifest_eq (h : Near root w w') {dir : Path} (hd : root <+: dir.segments)
    (h0 : dir.segments ≠ []) : hasManifest w' dir = hasManifest w dir :=
  hasManifest_alike h.files (seesSources_isBelow hd) h0

theorem findingsBelow_near (h : Near root w w') (ht : w.files.Closed) (depth : Nat) {dir : Path}
    (hd : root <+: dir.segments) (h0 : dir.segments ≠ []) :
    (findingsBelow depth dir w').1 = (findingsBelow depth dir w).1 := by
  induction depth generalizing dir with
  | zero => rfl
  | succ depth ih =>
    rw [findingsBelow_succ, findingsBelow_succ, h.hasModuleFile_eq hd, h.hasManifest_eq hd h0, h.files.list_below hd]
    cases hl : w.files.list dir with
    | error e => rfl
    | ok es =>
      obtain ⟨_, hdir, rfl⟩ := Tree.list_eq_ok.mp hl
      have hbelow : ∀ c ∈ subdirectories isHidden dir (w.files.entries dir.segments),
          (findingsBelow depth c w').1 = (findingsBelow depth c w).1 := fun c hc =>
        ih (ht.prefix_subdirectory hd hdir hc) (segments_ne_nil_of_mem_subdirectories ht h0 hc)
      simp only
      rw [List.map_congr_left hbelow]

/-- The same module files are missing in a near state. -/
theorem fresh_near (h : Near root w w') {cs : List Creation} (hcs : ∀ c ∈ cs, root <+: c.dir.segments) :
    fresh w'.files cs = fresh w.files cs := by
  refine congrArg firstOfEach (List.filter_congr fun c hc => ?_)
  have hm : w'.files.isModule c.dir.segments = w.files.isModule c.dir.segments :=
    h.files.hasAt_eq (isBelow_iff.mpr ((hcs c hc).trans (List.prefix_append ..)))
  rw [h.files.dirs, hm]

/-- Both passes of a scan find the same in a near state. -/
theorem Passes.near {ds ds' : List Path} {found found' : List Finding} (hp : Passes w folder ds found)
    (hp' : Passes w' folder ds' found') (h : Near folder.segments w w') : ds' = ds ∧ found' = found := by
  have hdepth : FileSystem.maxDepth w' = FileSystem.maxDepth w := congrArg (·.length + 1) h.files.dirs
  constructor
  · have hwalk := Tree.walkBelow_near h.files hp.closed isPassedOver (w.files.dirs.length + 1)
      (List.prefix_refl folder.segments)
    rw [hp.walk, ← h.files.dirs, hp'.walk] at hwalk
    exact Except.ok.inj hwalk
  · have hfind := findingsBelow_near h hp.closed (FileSystem.maxDepth w) (List.prefix_refl folder.segments) hp.ne_nil
    rw [hp.pass, ← hdepth, hp'.pass] at hfind
    exact Except.ok.inj hfind

/-! ## Scans -/

theorem Passes.prefix_pending {ds : List Path} {found : List Finding} (hp : Passes w folder ds found)
    (htext : folder.IsText) : ∀ r ∈ pendingRoots folder (.ofFindings found), folder.segments <+: r.path.segments := by
  intro r hr
  obtain ⟨names, _, _, hseg, _⟩ := mem_pendingRoots hp.toFinds htext hr
  exact hseg ▸ List.prefix_append ..

/-- In a near state a scan finds the same roots and creates those that are missing by the same plan. -/
theorem scan_near {ds : List Path} {found : List Finding} (hp : Passes w folder ds found) (htext : folder.IsText)
    (hread : w.files.Readable isPassedOver folder.segments) (h : Near folder.segments w w') (policy : Policy) :
    plan w' (pendingRoots folder (.ofFindings found)) = plan w (pendingRoots folder (.ofFindings found)) ∧
      Passes w' folder ds found ∧ scan policy folder w' =
        (.ok ((ds.filter (hasModuleFile w)).map (⟨·, .existing⟩) ++
            (createAll policy (pendingRoots folder (.ofFindings found)) w').1,
          (createAll policy (pendingRoots folder (.ofFindings found)) w').2.1),
          (createAll policy (pendingRoots folder (.ofFindings found)) w').2.2) := by
  refine ⟨plan_alike h.files hp.closed fun r hr => seesSources_isBelow (hp.prefix_pending htext r hr), ?_⟩
  rcases scan_eq_createAll h.closed folder with ⟨hno, _⟩ | ⟨_, ds', found', hp', hscan'⟩
  · exact absurd (h.files.readable_iff.mpr hread) hno
  obtain ⟨rfl, rfl⟩ := hp.near hp' h
  have hfilter : ds'.filter (hasModuleFile w') = ds'.filter (hasModuleFile w) :=
    List.filter_congr fun d hd => h.hasModuleFile_eq (hp.prefix_walk d hd)
  rw [hscan', hfilter]
  exact ⟨hp', rfl⟩

/-- The go command refuses the same roots in a near state. -/
theorem accepted_near {ds : List Path} {found : List Finding} (hp : Passes w folder ds found) (htext : folder.IsText)
    (h : Near folder.segments w w') :
    (pendingRoots folder (.ofFindings found)).filter
        (fun r => !w'.go.refuses (Creation.call ⟨r.path, (modulePath r.path w').1⟩)) =
      (pendingRoots folder (.ofFindings found)).filter
        fun r => !w.go.refuses (Creation.call ⟨r.path, (modulePath r.path w).1⟩) := by
  refine List.filter_congr fun r hr => ?_
  rw [modulePath_alike h.files hp.closed (seesSources_isBelow (hp.prefix_pending htext r hr)), GoStub.refuses,
    GoStub.refuses,
    h.refusing]

/-- Whatever the state, as long as it is near, a scan of a folder that is text fails and changes nothing; or it
    returns the same roots, writes the same module files and makes the same calls, and all of that is below its
    folder. -/
theorem scan_local (ht : w.files.Closed) (policy : Policy) {folder : Path} (htext : folder.IsText) :
    (∀ w', Near folder.segments w w' → ∃ e, scan policy folder w' = (.error e, w')) ∨
      ∃ roots made calls, (∀ r ∈ roots, folder.segments <+: r.path.segments) ∧
        (∀ c ∈ made, folder.segments <+: c.dir.segments) ∧
        ∀ w', Near folder.segments w w' → scan policy folder w' =
          (.ok (roots, made.map Creation.dir), withCalls { w' with files := withFiles w'.files made } calls) := by
  rcases scan_eq_createAll ht folder with ⟨hno, _⟩ | ⟨hread, ds, found, hpass, -⟩
  · refine Or.inl fun w' hn => ?_
    rcases scan_eq_createAll hn.closed folder with ⟨_, e, he⟩ | ⟨hread', _⟩
    · exact ⟨_, he policy⟩
    · exact absurd (hn.files.readable_iff.mp hread') hno
  have hplanned : ∀ c ∈ plan w (pendingRoots folder (.ofFindings found)), folder.segments <+: c.dir.segments := by
    intro c hc
    obtain ⟨r, hr, rfl⟩ := List.mem_map.mp hc
    exact hpass.prefix_pending htext r hr
  refine Or.inr ?_
  cases hp : policy.install with
  | false =>
    refine ⟨(ds.filter (hasModuleFile w)).map (⟨·, .existing⟩) ++ pendingRoots folder (.ofFindings found),
      fresh w.files (plan w (pendingRoots folder (.ofFindings found))), [], ?_, ?_, ?_⟩
    · exact fun r hr => (List.mem_append.mp hr).elim (hpass.prefix_existing r) (hpass.prefix_pending htext r)
    · exact fun c hc => hplanned c ((fresh_sublist _ _).mem hc)
    · intro w' hn
      obtain ⟨hplan, hpass', hscan'⟩ := scan_near hpass htext hread hn policy
      have hcreate := createAll_manual hp hn.closed (pendingRoots_ne_nil hpass'.toFinds)
      rw [hscan', hcreate, hplan, hpass'.filter_pending htext, fresh_near hn hplanned, withCalls_nil]
  | true =>
    refine ⟨(ds.filter (hasModuleFile w)).map (⟨·, .existing⟩) ++ (pendingRoots folder (.ofFindings found)).filter
      (fun r => !w.go.refuses (Creation.call ⟨r.path, (modulePath r.path w).1⟩)), [],
      (plan w (pendingRoots folder (.ofFindings found))).map Creation.call, ?_, by simp, ?_⟩
    · exact fun r hr => (List.mem_append.mp hr).elim (hpass.prefix_existing r)
        fun hr => hpass.prefix_pending htext r (List.mem_filter.mp hr).1
    · intro w' hn
      obtain ⟨hplan, _, hscan'⟩ := scan_near hpass htext hread hn policy
      rw [hscan', createAll_toolchain hp hn.closed, hplan, accepted_near hpass htext hn, withFiles_nil]
      rfl

end Module

end GoAtlas
