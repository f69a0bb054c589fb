/-
  GoAtlas.Proofs.Ownership — whose a source is after a scan.

  The module that a source belongs to is the nearest root above it. Before a scan the way from the
  folder down to the source decides which one that will be (`claimant?`): the deepest module file on it,
  else the topmost manifest or vendor entry.
  - `scanRoots_cases`: what is above and at a root of a scan.
  - `nearest_existing` / `nearest_pending`: the nearest root with and without a module file on the way.
  - `scan_owner`: after a scan the nearest root is the one so decided, or the one root that is made for
    sources, and it has a module file.
  - `scan_root_twice_strayModule`: a directory whose name is no text makes a module that looks like it a root twice.
-/
import GoAtlas.Proofs.Coverage

namespace GoAtlas.Module

/-! ## Whose a source is -/

/-- The directories from a folder down to the one that the names lead to. -/
def wayDown (folder : Path) : Segments → List Path
  | [] => [folder]
  | n :: names => folder :: wayDown (folder.join n) names

theorem mem_wayDown {folder d : Path} {names : Segments} :
    d ∈ wayDown folder names ↔ ∃ ms, ms <+: names ∧ d = folder.descend ms := by
  induction names generalizing folder with
  | nil => simp [wayDown]
  | cons n names ih =>
    rw [wayDown, List.mem_cons, ih]
    constructor
    · intro h
      rcases h with rfl | ⟨ms, hms, rfl⟩
      · exact ⟨[], List.nil_prefix, rfl⟩
      · exact ⟨n :: ms, List.cons_prefix_cons.mpr ⟨rfl, hms⟩, rfl⟩
    · intro h
      obtain ⟨ms, hms, rfl⟩ := h
      rcases List.prefix_cons_iff.mp hms with rfl | ⟨ms, rfl, hms⟩
      · exact Or.inl rfl
      · exact Or.inr ⟨ms, ‹ms <+: names›, rfl⟩

/-- The topmost directory with a property, if there is one. -/
theorem find?_wayDown {folder : Path} {p : Path → Bool} {names ms : Segments} (hms : ms <+: names)
    (hp : p (folder.descend ms) = true) (hno : ∀ ks, ks <+: ms → ks ≠ ms → p (folder.descend ks) = false) :
    (wayDown folder names).find? p = some (folder.descend ms) := by
  induction ms generalizing folder names with
  | nil => cases names <;> exact List.find?_cons_of_pos hp
  | cons n ms ih =>
    cases names with
    | nil => cases List.prefix_nil.mp hms
    | cons m names =>
      obtain ⟨rfl, hrest⟩ := List.cons_prefix_cons.mp hms
      rw [wayDown, List.find?_cons_of_neg (by simpa using hno [] List.nil_prefix (List.cons_ne_nil _ _).symm)]
      refine ih hrest hp fun ks hks hne => ?_
      exact hno (n :: ks) (List.cons_prefix_cons.mpr ⟨rfl, hks⟩) fun e => hne (List.cons.inj e).2

/-- The deepest directory with a property lies below all others that have it. -/
theorem find?_reverse_wayDown {folder d : Path} {p : Path → Bool} {names : Segments}
    (h : (wayDown folder names).reverse.find? p = some d) :
    ∃ ms, ms <+: names ∧ d = folder.descend ms ∧ p d = true ∧
      ∀ ks, ks <+: names → p (folder.descend ks) = true → ks <+: ms := by
  induction names generalizing folder with
  | nil =>
    have hp := List.find?_some h
    rw [wayDown, List.reverse_singleton, List.find?_singleton] at h
    split at h
    · cases h
      exact ⟨[], List.prefix_refl _, rfl, hp, fun ks hks _ => hks⟩
    · cases h
  | cons n names ih =>
    have hp := List.find?_some h
    rw [wayDown, List.reverse_cons, List.find?_append] at h
    cases hf : (wayDown (folder.join n) names).reverse.find? p with
    | some d' =>
      rw [hf, Option.some_or] at h
      cases h
      obtain ⟨ms, hms, rfl, _, hdeep⟩ := ih hf
      refine ⟨n :: ms, List.cons_prefix_cons.mpr ⟨rfl, hms⟩, rfl, hp, fun ks hks hpk => ?_⟩
      rcases List.prefix_cons_iff.mp hks with rfl | ⟨ks, rfl, hks⟩
      · exact List.nil_prefix
      · exact List.cons_prefix_cons.mpr ⟨rfl, hdeep ks ‹ks <+: names› hpk⟩
    | none =>
      rw [hf, Option.none_or, List.find?_singleton] at h
      split at h
      · cases h
        refine ⟨[], List.nil_prefix, rfl, hp, fun ks hks hpk => ?_⟩
        rcases List.prefix_cons_iff.mp hks with rfl | ⟨ks, rfl, hks⟩
        · exact List.prefix_refl _
        · have := List.find?_eq_none.mp hf _ (List.mem_reverse.mpr (mem_wayDown.mpr ⟨ks, ‹ks <+: names›, rfl⟩))
          exact absurd hpk this
      · cases h

/-- What decides before a scan whose a source is: the deepest module file on the way down to it, else the
    topmost manifest or vendor entry. -/
def claimant? {σ : Type} [FileSystem σ] (s : σ) (way : List Path) : Option ModuleRoot :=
  match way.reverse.find? (hasModuleFile s) with
  | some d => some ⟨d, .existing⟩
  | none => (way.find? (hasManifest s)).map (⟨·, .manifest⟩)

/-- The deepest of the roots that a directory lies in. -/
def IsNearest (roots : List ModuleRoot) (dir : Segments) (r : ModuleRoot) : Prop :=
  r ∈ roots ∧ r.path.segments <+: dir ∧
    ∀ r' ∈ roots, r'.path.segments <+: dir → r'.path.segments <+: r.path.segments

/-! ## The nearest root -/

section Nearest

variable {w : Workbench Tree} {folder : Path} {ds : List Path} {found : List Finding}

/-- A directory of the tree below the folder is reached if none of the names on the way is passed over. -/
theorem Passes.reached (h : Passes w folder ds found) {names : Segments}
    (hd : folder.segments ++ names ∈ w.files.dirs) (hn : ∀ n ∈ names, isPassedOver n.shown = false) :
    w.files.Reached isPassedOver folder.segments names := by
  refine ⟨fun n hmem => ⟨?_, hn n hmem⟩, hd⟩
  exact Tree.isName_of_not_isHidden (h.closed.isSteps h.ne_nil hd n hmem) (isHidden_of_not_isPassedOver (hn n hmem))

theorem mem_scanRoots_existing (h : Passes w folder ds found) {names : Segments}
    (hr : w.files.Entered isPassedOver folder.segments names)
    (hm : hasModuleFile w (folder.descend names) = true) :
    ⟨folder.descend names, .existing⟩ ∈ scanRoots w folder ds found := by
  refine List.mem_append_left _ (List.mem_map.mpr ⟨_, List.mem_filter.mpr ⟨?_, hm⟩, rfl⟩)
  exact (mem_walkBelow w.files.shows.list h.closed h.walk).mpr ⟨names, hr, rfl⟩

/-- In a folder that is text, all roots that are missing are created. -/
theorem scanRoots_eq (h : Passes w folder ds found) (htext : folder.IsText) : scanRoots w folder ds found =
    (ds.filter (hasModuleFile w)).map (⟨·, .existing⟩) ++ pendingRoots folder (.ofFindings found) := by
  rw [scanRoots, h.filter_pending htext]

theorem mem_scanRoots_pending (h : Passes w folder ds found) (htext : folder.IsText) {r : ModuleRoot}
    (hr : r ∈ pendingRoots folder (.ofFindings found)) : r ∈ scanRoots w folder ds found :=
  scanRoots_eq h htext ▸ List.mem_append_right _ hr

/-- A root of a scan has a module file, or else none at it and nothing stopped above it. -/
theorem scanRoots_cases (h : Passes w folder ds found) (htext : folder.IsText) {r : ModuleRoot}
    (hr : r ∈ scanRoots w folder ds found) :
    ∃ ks, r.path.segments = folder.segments ++ ks ∧
      (r = ⟨folder.descend ks, .existing⟩ ∧ hasModuleFile w (folder.descend ks) = true ∨
        hasModuleFile w (folder.descend ks) = false ∧ ClearAbove w folder ks ∧
          (r = ⟨folder.descend ks, .manifest⟩ ∧ hasManifest w (folder.descend ks) = true ∨
            r = ⟨sharedDirectory (found.filterMap Finding.sources?), .synthetic⟩)) := by
  rw [scanRoots_eq h htext] at hr
  rcases List.mem_append.mp hr with hr | hr
  · obtain ⟨d, hd, rfl⟩ := List.mem_map.mp hr
    obtain ⟨hd, hm⟩ := List.mem_filter.mp hd
    obtain ⟨ks, henter, rfl⟩ := (mem_walkBelow w.files.shows.list h.closed h.walk).mp hd
    exact ⟨ks, h.segments_descend henter.1, Or.inl ⟨rfl, hm⟩⟩
  · obtain ⟨ks, _, hclear, hseg, hm, hcase⟩ := mem_pendingRoots h.toFinds htext hr
    exact ⟨ks, hseg, Or.inr ⟨hm, hclear, hcase.imp_right And.left⟩⟩

/-- The roots of a scan are distinct where all that the walk may come to are texts. -/
theorem pairwise_scanRoots (h : Passes w folder ds found) (htext : folder.IsText)
    (hlegible : w.files.Legible isPassedOver folder.segments) :
    (scanRoots w folder ds found).Pairwise fun a b => a.path.segments ≠ b.path.segments := by
  have hnamed : ClearlyNamed w w.files folder := .of_legible w.shows h.closed h.ne_nil hlegible
  rw [scanRoots_eq h htext]
  refine List.pairwise_append.mpr ⟨?_, pairwise_pendingRoots h.toFinds htext hnamed, ?_⟩
  · exact List.pairwise_map.mpr ((pairwise_walkBelow w.files.shows.list h.closed hlegible h.walk).filter _)
  · -- a root that is created has no module file
    intro a ha b hb e
    obtain ⟨d, hd, rfl⟩ := List.mem_map.mp ha
    obtain ⟨hd, hm⟩ := List.mem_filter.mp hd
    obtain ⟨ks, henter, rfl⟩ := (mem_walkBelow w.files.shows.list h.closed h.walk).mp hd
    obtain ⟨ks', _, _, hseg, hno, _⟩ := mem_pendingRoots h.toFinds htext hb
    rw [h.segments_descend henter.1, hseg] at e
    rw [List.append_cancel_left e, hno] at hm
    cases hm

/-- There is at most one root made for sources. -/
theorem synthetic_eq (h : Passes w folder ds found) (htext : folder.IsText) {r : ModuleRoot}
    (hr : r ∈ scanRoots w folder ds found) (hs : r.origin = .synthetic) :
    r = ⟨sharedDirectory (found.filterMap Finding.sources?), .synthetic⟩ := by
  obtain ⟨_, _, ⟨rfl, _⟩ | ⟨_, _, ⟨rfl, _⟩ | hr⟩⟩ := scanRoots_cases h htext hr
  · cases hs
  · cases hs
  · exact hr

/-- With a module file on the way to a source, the deepest one is nearest. -/
theorem nearest_existing (h : Passes w folder ds found) (htext : folder.IsText) {names ms : Segments}
    (hr : w.files.Entered isPassedOver folder.segments names) (hms : ms <+: names)
    (hm : hasModuleFile w (folder.descend ms) = true)
    (hdeep : ∀ ks, ks <+: names → hasModuleFile w (folder.descend ks) = true → ks <+: ms) :
    IsNearest (scanRoots w folder ds found) (folder.segments ++ names) ⟨folder.descend ms, .existing⟩ := by
  have henter := entered_above h.closed h.ne_nil hr hms
  have hseg := h.segments_descend henter.1
  refine ⟨mem_scanRoots_existing h henter hm, ?_, fun r' hr' hin => ?_⟩
  · rw [hseg]
    exact (List.prefix_append_right_inj _).mpr hms
  · obtain ⟨ks, hks, hcase⟩ := scanRoots_cases h htext hr'
    rw [hks] at hin ⊢
    rw [hseg]
    refine (List.prefix_append_right_inj _).mpr ?_
    have hks := (List.prefix_append_right_inj _).mp hin
    rcases hcase with ⟨_, hmod⟩ | ⟨_, hclear, _⟩
    · exact hdeep ks hks hmod
    · exact hclear.not_below hks hms (stopped_of_hasModuleFile hm)

/-- Without a module file on the way to a source, the topmost manifest is nearest, or else the root that
    is made for sources. -/
theorem nearest_pending (h : Passes w folder ds found) (htext : folder.IsText) {names : Segments}
    (hr : w.files.Entered isPassedOver folder.segments names)
    (hno : ∀ ms, ms <+: names → hasModuleFile w (folder.descend ms) = false)
    (hsrc : (w.files.entries (folder.segments ++ names)).any isSourceFile = true) :
    ∃ r ∈ pendingRoots folder (.ofFindings found),
      IsNearest (scanRoots w folder ds found) (folder.segments ++ names) r ∧
      (((wayDown folder names).find? (hasManifest w)).map (⟨·, .manifest⟩) = some r ∨
        (wayDown folder names).find? (hasManifest w) = none ∧ r.origin = .synthetic) := by
  have henter : w.files.Entered isHidden folder.segments names :=
    ⟨⟨fun n hn => ⟨(hr.1.1 n hn).1, isHidden_of_not_isPassedOver (hr.1.1 n hn).2⟩, hr.1.2⟩, hr.2⟩
  obtain ⟨r, hpend, hin, hcase⟩ := exists_pending_above h.toFinds htext henter hno hsrc
  refine ⟨r, hpend, ⟨mem_scanRoots_pending h htext hpend, hin, fun r' hr' hin' => ?_⟩, ?_⟩
  · obtain ⟨ks, hseg, hcase'⟩ := scanRoots_cases h htext hr'
    rw [hseg] at hin'
    have hks := (List.prefix_append_right_inj _).mp hin'
    rcases hcase' with ⟨_, hmod⟩ | ⟨_, hclear, hkind⟩
    · rw [hno ks hks] at hmod
      cases hmod
    rcases hcase with ⟨ms, hms, rfl, _, hman⟩ | ⟨hsyn, hfree⟩
    · rw [hseg, h.segments_descend (reached_above h.closed h.ne_nil hr.1 hms)]
      exact (List.prefix_append_right_inj _).mpr (hclear.not_below hks hms (stopped_of_hasManifest hman))
    · rcases hkind with ⟨_, hman⟩ | rfl
      · rw [hfree ks hks] at hman
        cases hman
      · exact synthetic_eq h htext (mem_scanRoots_pending h htext hpend) hsyn ▸ List.prefix_refl _
  · rcases hcase with ⟨ms, hms, rfl, hclear, hman⟩ | ⟨hsyn, hfree⟩
    · refine Or.inl ?_
      rw [find?_wayDown hms hman fun ks hks hne => (not_stopped_iff.mp (hclear ks hks hne)).2]
      rfl
    · refine Or.inr ⟨List.find?_eq_none.mpr fun d hd => ?_, hsyn⟩
      obtain ⟨ms, hms, rfl⟩ := mem_wayDown.mp hd
      simp [hfree ms hms]

end Nearest

/-! ## After a scan -/

/-- Where a scan without the go command succeeds, both passes did, and give its roots. -/
theorem scan_passes {w : Workbench Tree} (ht : w.files.Closed) {policy : Policy} (hp : policy.install = false)
    {folder : Path} {roots : List ModuleRoot} {written : List Path}
    (h : (scan policy folder w).1 = .ok (roots, written)) :
    w.files.Readable isPassedOver folder.segments ∧ ∃ ds found, Passes w folder ds found ∧
      roots = scanRoots w folder ds found ∧
      ∀ r ∈ pendingRoots folder (.ofFindings found), r.path.segments ∈ w.files.dirs →
        (scan policy folder w).2.files.isModule r.path.segments = true := by
  rcases scan_cases ht hp folder with ⟨_, e, he⟩ | ⟨hread, ds, found, hpass, ⟨written, hok⟩, hmade⟩
  · rw [he] at h
    cases h
  · rw [hok] at h
    cases h
    exact ⟨hread, ds, found, hpass, rfl, hmade⟩

/-- In a folder that is text the roots of a scan lie in the folder, and they are distinct if all that is reached from
    the folder is reached by texts. Every source that texts lead to is in one of them: the nearest is the one that its
    directory had before, with a module file; else the topmost manifest or vendor entry on the way down to it; else
    the one root made for sources. -/
theorem scan_owner {w : Workbench Tree} (ht : w.files.Built) {m : Manager} (hp : m.policy.install = false)
    {folder : Path} (htext : folder.IsText) {roots : List ModuleRoot} (h : (m.scan folder w).1 = .ok roots) :
    (w.files.Legible isPassedOver folder.segments → roots.Pairwise fun a b => a.path.same b.path = false) ∧
      (∀ r ∈ roots, r.path.isInside folder = true) ∧
      ∀ (names : Segments) (base : Octets), names.IsText → (∀ n ∈ names, isPassedOver n.shown = false) →
        Tree.isSourceName base.shown = true →
        (w.files.contents? (folder.segments ++ names ++ [base])).isSome = true →
        ∃ r, IsNearest roots (folder.segments ++ names) r ∧
          (claimant? w (wayDown folder names) = some r ∨
            claimant? w (wayDown folder names) = none ∧ r.origin = .synthetic ∧
              ∀ r' ∈ roots, r'.origin = .synthetic → r' = r) ∧
          hasModuleFile (m.scan folder w).2.2 r.path = true := by
  obtain ⟨written, hok⟩ := manager_scan_ok h
  obtain ⟨_, ds, found, hpass, rfl, hmade⟩ := scan_passes ht.closed hp hok
  have hwrote := scan_wrote m.policy folder w
  rw [manager_scan_state]
  refine ⟨fun hlegible => (pairwise_scanRoots hpass htext hlegible).imp fun hne => ?_, fun r hr => ?_,
    fun names base hnamesText hnames hbase hfile => ?_⟩
  · rw [Bool.eq_false_iff, Ne, Path.same_iff]
    exact hne
  · obtain ⟨ks, hks, _⟩ := scanRoots_cases hpass htext hr
    refine Path.isInside_iff.mpr ⟨fun e => hpass.ne_nil (Tree.segments_eq_nil_of_octets e), ?_⟩
    rw [hks]
    exact List.prefix_append ..
  have hdir := hpass.closed.dir_of_contents hfile (by simp [hpass.ne_nil])
  have henter : w.files.Entered isPassedOver folder.segments names := ⟨hpass.reached hdir hnames, hnamesText⟩
  have hsrc := Tree.any_isSourceFile.mpr ⟨base, hbase, hfile⟩
  cases hf : (wayDown folder names).reverse.find? (hasModuleFile w) with
  | some d =>
    obtain ⟨ms, hms, rfl, hm, hdeep⟩ := find?_reverse_wayDown hf
    refine ⟨_, nearest_existing hpass htext henter hms hm hdeep, Or.inl (by simp only [claimant?, hf]), ?_⟩
    rw [hasModuleFile_eq (Workbench.shows _)] at hm ⊢
    exact hwrote.isModule_iff.mpr (Or.inl hm)
  | none =>
    have hno : ∀ ms, ms <+: names → hasModuleFile w (folder.descend ms) = false := fun ms hms => by
      simpa using List.find?_eq_none.mp hf _ (List.mem_reverse.mpr (mem_wayDown.mpr ⟨ms, hms, rfl⟩))
    obtain ⟨r, hpend, hnear, hcase⟩ := nearest_pending hpass htext henter hno hsrc
    refine ⟨r, hnear, ?_, ?_⟩
    · rcases hcase with hman | ⟨hman, ho⟩
      · exact Or.inl (by simp only [claimant?, hf, hman])
      · refine Or.inr ⟨by simp only [claimant?, hf, hman, Option.map_none], ho, fun r' hr' ho' => ?_⟩
        rw [synthetic_eq hpass htext hr' ho', synthetic_eq hpass htext hnear.1 ho]
    · rw [hasModuleFile_eq (Workbench.shows _)]
      exact hmade r hpend (hpass.pending_dirs htext r hpend).2.1

/-- A folder with a module, an old manifest, and a source outside both. -/
def mixedFolder : Workbench Tree :=
  ⟨((((Tree.empty.addFile ⟨"/ws/a/go.mod"⟩ .empty).addFile ⟨"/ws/a/lib.go"⟩ .empty).addFile ⟨"/ws/main.go"⟩
    .empty).addFile ⟨"/ws/old/glide.lock"⟩ .empty).addFile ⟨"/ws/old/in/x.go"⟩ .empty, ⟨[], []⟩⟩

theorem scan_owner_mixedFolder :
    ([⟨⟨"/ws/a"⟩, .existing⟩, ⟨⟨"/ws/old"⟩, .manifest⟩, ⟨⟨"/ws"⟩, .synthetic⟩] : List ModuleRoot).Pairwise
      (fun a b => a.path.same b.path = false) ∧
    ∃ r, IsNearest [⟨⟨"/ws/a"⟩, .existing⟩, ⟨⟨"/ws/old"⟩, .manifest⟩, ⟨⟨"/ws"⟩, .synthetic⟩]
        ["/", "ws", "old", "in"] r ∧
      claimant? mixedFolder (wayDown ⟨"/ws"⟩ ["old", "in"]) = some r ∧
      hasModuleFile ((Manager.new ⟨false, .default⟩).scan ⟨"/ws"⟩ mixedFolder).2.2 r.path = true := by
  have hbuilt : mixedFolder.files.Built :=
    .addFile _ _ (.addFile _ _ (.addFile _ _ (.addFile _ _ (.addFile _ _ .empty))))
  have hlegible : mixedFolder.files.Legible isPassedOver (⟨"/ws"⟩ : Path).segments := .of_dirs (by decide +kernel)
  have hscan : ((Manager.new ⟨false, .default⟩).scan ⟨"/ws"⟩ mixedFolder).1 =
    .ok [⟨⟨"/ws/a"⟩, .existing⟩, ⟨⟨"/ws/old"⟩, .manifest⟩, ⟨⟨"/ws"⟩, .synthetic⟩] := rfl
  have htext : (⟨"/ws"⟩ : Path).IsText := Octets.isText_ofText _
  obtain ⟨hdistinct, _, howner⟩ := scan_owner hbuilt rfl htext hscan
  obtain ⟨r, hnear, hclaim, hm⟩ := howner ["old", "in"] "x.go" (by decide) (by decide) (by decide) rfl
  have hsome : (claimant? mixedFolder (wayDown ⟨"/ws"⟩ ["old", "in"])).isSome = true := by decide +kernel
  refine ⟨hdistinct hlegible, r, hnear, hclaim.resolve_right fun hno => ?_, hm⟩
  rw [hno.1] at hsome
  cases hsome

/-- A directory whose name is no text, beside a module whose name is shown alike. -/
def strayModule : Workbench Tree :=
  ⟨(Tree.empty.addDir ((⟨"/ws"⟩ : Path).join Tree.strayName)).addFile ⟨"/ws/\uFFFD/go.mod"⟩ .empty, ⟨[], []⟩⟩

/-- The module is a root twice. -/
theorem scan_root_twice_strayModule : strayModule.files.Built ∧
    ((Manager.new ⟨false, .default⟩).scan ⟨"/ws"⟩ strayModule).1.toOption =
      some [⟨⟨"/ws/\uFFFD"⟩, .existing⟩, ⟨⟨"/ws/\uFFFD"⟩, .existing⟩] :=
  ⟨.addFile _ _ (.addDir _ .empty), by decide +kernel⟩

end GoAtlas.Module
