/-
  GoAtlas.Proofs.Coverage — the module roots of a scan.

  A scan of a folder joins three kinds of roots: the directories with a module file that the walk finds,
  the topmost directories with a manifest or a vendor entry, and one directory for all other sources.
  - `segments_sharedDirectory`: the directory that sources share lies below whatever all of them lie below.
  - `mem_pendingRoots`: no root that is created has a module file at it or above it, from the folder on,
    nor a manifest above it.
  - `exists_pending_above`: a source directory with no module file above it lies below a created root.
  - `scan_eq_createAll`: a scan fails where some directory cannot be listed; elsewhere it creates the roots
    that are missing.
  - `scan_cases`: without the go command it creates all of them that are directories.
  - `scan_wrote`: a scan changes nothing but the module files that it reports.
-/
import GoAtlas.Proofs.Writes

namespace GoAtlas.Module

/-! ## The directory that sources share -/

theorem prefix_commonLead {a x y : List String} : a <+: commonLead x y ↔ a <+: x ∧ a <+: y := by
  induction a generalizing x y with
  | nil => simp
  | cons c a ih =>
    cases x with
    | nil => simp [commonLead]
    | cons u x =>
      cases y with
      | nil => simp [commonLead]
      | cons v y =>
        by_cases e : u = v
        · subst e
          simp only [commonLead, if_true, List.cons_prefix_cons, ih]
          exact ⟨fun ⟨h, h1, h2⟩ => ⟨⟨h, h1⟩, h, h2⟩, fun ⟨⟨h, h1⟩, _, h2⟩ => ⟨h, h1, h2⟩⟩
        · simp only [commonLead, e, if_false, List.prefix_nil, reduceCtorEq, List.cons_prefix_cons, false_iff]
          intro h
          obtain ⟨⟨rfl, _⟩, rfl, _⟩ := h
          exact e rfl

theorem prefix_foldl_commonLead {a d : List String} {ds : List (List String)} :
    a <+: ds.foldl commonLead d ↔ ∀ x ∈ d :: ds, a <+: x := by
  induction ds generalizing d with
  | nil => simp
  | cons e ds ih =>
    rw [List.foldl_cons, ih]
    simp only [List.mem_cons, forall_eq_or_imp, prefix_commonLead, and_assoc]

theorem shared_ne_nil {a d : List String} {ds : List (List String)} (ha : a ≠ []) (hs : ∀ x ∈ d :: ds, a <+: x) :
    ds.foldl commonLead d ≠ [] := by
  intro e
  have hlead := prefix_foldl_commonLead.mpr hs
  rw [e, List.prefix_nil] at hlead
  exact ha hlead

/-- Directories that all lie below a place share a directory below it, that of the longest list that all begin
    with. -/
theorem segments_sharedDirectory {a : List String} {sources : List (List String)} (ha : a ≠ []) (h0 : sources ≠ [])
    (hs : ∀ x ∈ sources, (Segments.ofTexts x).Proper ∧ a <+: x) :
    ∃ shared, (sharedDirectory sources).segments = .ofTexts shared ∧
      ∀ b, b <+: shared ↔ ∀ x ∈ sources, b <+: x := by
  cases sources with
  | nil => exact absurd rfl h0
  | cons d ds =>
    have hd : ds.foldl commonLead d <+: d :=
      prefix_foldl_commonLead.mp (List.prefix_refl _) d (List.mem_cons_self ..)
    have hp := (hs d (List.mem_cons_self ..)).1.above (hd.map Octets.ofText)
    refine ⟨ds.foldl commonLead d, ?_, fun b => prefix_foldl_commonLead⟩
    simp only [sharedDirectory]
    split
    · exact absurd ‹_› (shared_ne_nil ha fun x hx => (hs x hx).2)
    · exact Path.segments_ofSegments hp

/-- Sources below a folder share one root. -/
theorem sourceRoots_eq {folder : Path} (htext : folder.IsText) {sources : List (List String)}
    (hf : folder.segments ≠ []) (h0 : sources ≠ [])
    (hs : ∀ x ∈ sources, (Segments.ofTexts x).Proper ∧ folder.segments.shown <+: x) :
    sourceRoots folder sources = [⟨sharedDirectory sources, .synthetic⟩] := by
  obtain ⟨shared, hseg, hshared⟩ := segments_sharedDirectory (by simpa [Segments.shown] using hf) h0 hs
  have hbelow : folder.segments.shown <+: shared := (hshared _).mpr fun x hx => (hs x hx).2
  have hin : (sharedDirectory sources).isInside folder = true := by
    refine Path.isInside_iff.mpr ⟨fun e => hf (Tree.segments_eq_nil_of_octets e), ?_⟩
    rw [hseg, ← Segments.ofTexts_shown htext.segments]
    exact hbelow.map Octets.ofText
  simp [sourceRoots, h0, hin]

theorem segments_ofTexts_ne_nil {x : List String} (hx : (Segments.ofTexts x).Proper) (h0 : x ≠ []) :
    (Path.ofSegments (.ofTexts x)).segments ≠ [] := by
  rw [Path.segments_ofSegments hx]
  simpa [Segments.ofTexts] using h0

theorem sharedDirectory_ne_nil {sources : List (List String)} (hs : ∀ x ∈ sources, (Segments.ofTexts x).Proper) :
    (sharedDirectory sources).segments ≠ [] := by
  cases sources with
  | nil => decide
  | cons d ds =>
    have hlead : ds.foldl commonLead d <+: d :=
      prefix_foldl_commonLead.mp (List.prefix_refl _) d (List.mem_cons_self ..)
    simp only [sharedDirectory]
    split
    · decide
    · exact segments_ofTexts_ne_nil ((hs d (List.mem_cons_self ..)).above (hlead.map Octets.ofText)) ‹_›

theorem sourceRoots_ne_nil {folder : Path} {sources : List (List String)}
    (hs : ∀ x ∈ sources, (Segments.ofTexts x).Proper ∧ x ≠ []) :
    ∀ r ∈ sourceRoots folder sources, r.path.segments ≠ [] := by
  intro r hr
  unfold sourceRoots at hr
  split at hr
  · cases hr
  split at hr
  · rw [List.mem_singleton.mp hr]
    exact sharedDirectory_ne_nil fun x hx => (hs x hx).1
  · obtain ⟨d, hd, rfl⟩ := List.mem_map.mp hr
    exact segments_ofTexts_ne_nil (hs d hd).1 (hs d hd).2

theorem origin_sourceRoots {folder : Path} {sources : List (List String)} :
    ∀ r ∈ sourceRoots folder sources, r.origin = .synthetic := by
  intro r hr
  unfold sourceRoots at hr
  split at hr
  · cases hr
  split at hr
  · rw [List.mem_singleton.mp hr]
  · obtain ⟨d, _, rfl⟩ := List.mem_map.mp hr
    rfl

/-- The paths of roots made for sources are written from their segments. -/
theorem path_sourceRoots {folder : Path} {sources : List (List String)}
    (hs : ∀ x ∈ sources, (Segments.ofTexts x).Proper) :
    ∀ r ∈ sourceRoots folder sources, Path.ofSegments r.path.segments = r.path := by
  have hofSegments : ∀ {x : List String}, (Segments.ofTexts x).Proper →
      Path.ofSegments (Path.ofSegments (.ofTexts x)).segments = .ofSegments (.ofTexts x) := fun hx => by
    rw [Path.segments_ofSegments hx]
  intro r hr
  unfold sourceRoots at hr
  split at hr
  · cases hr
  split at hr
  · rw [List.mem_singleton.mp hr]
    cases sources with
    | nil => decide
    | cons d ds =>
      have hlead : ds.foldl commonLead d <+: d :=
        prefix_foldl_commonLead.mp (List.prefix_refl _) d (List.mem_cons_self ..)
      simp only [sharedDirectory]
      split
      · decide
      · exact hofSegments ((hs d (List.mem_cons_self ..)).above (hlead.map Octets.ofText))
  · obtain ⟨x, hx, rfl⟩ := List.mem_map.mp hr
    exact hofSegments (hs x hx)

/-! ## Roots to create -/

section Pending

variable {σ : Type} [FileSystem σ] {s : σ} {t : Tree} {folder : Path} {depth : Nat} {found : List Finding}

/-- Names that lead to a directory lead to one at each of their beginnings. -/
theorem reached_above (ht : t.Closed) {skip : String → Bool} {root : Segments} (h0 : root ≠ [])
    {names ms : Segments} (h : t.Reached skip root names) (hms : ms <+: names) : t.Reached skip root ms :=
  ⟨fun n hn => h.1 n (hms.mem hn), ht.above _ h.2 _ ((List.prefix_append_right_inj _).mpr hms) (by simp [h0])⟩

theorem entered_above (ht : t.Closed) {skip : String → Bool} {root : Segments} (h0 : root ≠ [])
    {names ms : Segments} (h : t.Entered skip root names) (hms : ms <+: names) : t.Entered skip root ms :=
  ⟨reached_above ht h0 h.1 hms, fun n hn => h.2 n (hms.mem hn)⟩

theorem not_stopped_iff {d : Path} : stopped s d = false ↔ hasModuleFile s d = false ∧ hasManifest s d = false := by
  simp [stopped]

theorem ClearAbove.above {names ms : Segments} (h : ClearAbove s folder names) (hms : ms <+: names) :
    ClearAbove s folder ms :=
  fun ks hks hne => h ks (hks.trans hms) fun e => hne (hks.eq_of_length_le (e ▸ hms.length_le))

/-- Of two directories on one way down, with nothing stopped above the first, the first is not below the
    other if that is stopped. -/
theorem ClearAbove.not_below {names ms ks : Segments} (h : ClearAbove s folder ks) (hks : ks <+: names)
    (hms : ms <+: names) (hst : stopped s (folder.descend ms) = true) : ks <+: ms := by
  rcases List.prefix_or_prefix_of_prefix hks hms with hp | hp
  · exact hp
  · by_cases e : ms = ks
    · subst e
      exact List.prefix_refl _
    · rw [h ms hp e] at hst
      cases hst

/-- The second pass over the tree that `s` shows finds `found` below the folder. -/
structure Finds (s : σ) (t : Tree) (folder : Path) (depth : Nat) (found : List Finding) : Prop where
  shows : Shows s t
  closed : t.Closed
  dir : folder.segments ∈ t.dirs
  pass : findingsBelow depth folder s = (.ok found, s)

theorem Finds.ne_nil (h : Finds s t folder depth found) : folder.segments ≠ [] := (h.closed.dirsProper _ h.dir).2

theorem Finds.segments_descend (h : Finds s t folder depth found) {skip : String → Bool} {names : Segments}
    (hr : t.Reached skip folder.segments names) : (folder.descend names).segments = folder.segments ++ names :=
  Path.segments_descend (h.closed.isSteps h.ne_nil hr.2) folder

theorem Finds.mem_found (h : Finds s t folder depth found) {x : Finding} : x ∈ found ↔
    ∃ names, t.Entered isHidden folder.segments names ∧ ClearAbove s folder names ∧
      FoundAt s t (folder.descend names) x :=
  mem_findingsBelow h.shows h.closed h.dir h.pass

theorem mem_manifestDirs (h : Finds s t folder depth found) {d : Path} :
    d ∈ found.filterMap Finding.manifest? ↔ ∃ names, t.Entered isHidden folder.segments names ∧
      ClearAbove s folder names ∧ hasModuleFile s d = false ∧ hasManifest s d = true ∧ d = folder.descend names := by
  rw [List.mem_filterMap]
  constructor
  · intro h
    obtain ⟨x, hx, hxd⟩ := h
    obtain ⟨names, henter, hclear, ⟨rfl, hm, hman⟩ | ⟨rfl, _⟩⟩ := h.mem_found.mp hx
    · cases hxd
      exact ⟨names, henter, hclear, hm, hman, rfl⟩
    · cases hxd
  · intro h
    obtain ⟨names, henter, hclear, hm, hman, rfl⟩ := h
    exact ⟨_, h.mem_found.mpr ⟨names, henter, hclear, Or.inl ⟨rfl, hm, hman⟩⟩, rfl⟩

theorem mem_sourceDirs (h : Finds s t folder depth found) {x : List String} :
    x ∈ found.filterMap Finding.sources? ↔ ∃ names, t.Entered isHidden folder.segments names ∧
      ClearAbove s folder names ∧ stopped s (folder.descend names) = false ∧
      (t.entries (folder.segments ++ names)).any isSourceFile = true ∧ x = (folder.segments ++ names).shown := by
  rw [List.mem_filterMap]
  constructor
  · intro h
    obtain ⟨y, hy, hyx⟩ := h
    obtain ⟨names, henter, hclear, ⟨rfl, _⟩ | ⟨rfl, hstop, hany⟩⟩ := h.mem_found.mp hy
    · cases hyx
    · cases hyx
      rw [h.segments_descend henter.1] at hany ⊢
      exact ⟨names, henter, hclear, hstop, hany, rfl⟩
  · intro h
    obtain ⟨names, henter, hclear, hstop, hany, rfl⟩ := h
    refine ⟨_, h.mem_found.mpr ⟨names, henter, hclear, Or.inr ⟨rfl, hstop, ?_⟩⟩, ?_⟩
    · rw [h.segments_descend henter.1]
      exact hany
    · simp only [Finding.sources?, h.segments_descend henter.1]

/-- Below a folder that is text, source directories are compared as they are. -/
theorem ofTexts_sourceDir (htext : folder.IsText) {skip : String → Bool} {names : Segments}
    (h : t.Entered skip folder.segments names) :
    Segments.ofTexts (folder.segments ++ names).shown = folder.segments ++ names :=
  Segments.ofTexts_shown fun s hs => (List.mem_append.mp hs).elim (htext.segments s) (h.2 s)

/-- As they are compared, source directories lie below the directory that the folder is shown as. -/
theorem sourceDirs_below (h : Finds s t folder depth found) :
    ∀ x ∈ found.filterMap Finding.sources?, (Segments.ofTexts x).Proper ∧ folder.segments.shown <+: x := by
  intro x hx
  obtain ⟨names, henter, _, _, _, rfl⟩ := (mem_sourceDirs h).mp hx
  exact ⟨(h.closed.dirsProper _ henter.1.2).1.shown, (List.prefix_append ..).map Octets.shown⟩

theorem Finds.shown_ne_nil (h : Finds s t folder depth found) : folder.segments.shown ≠ [] := by
  simpa [Segments.shown] using h.ne_nil

/-- The directory that sources share is entered from the folder, with nothing stopped down to it. -/
theorem sharedDirectory_clear (h : Finds s t folder depth found) (htext : folder.IsText)
    (h0 : found.filterMap Finding.sources? ≠ []) :
    ∃ names, t.Entered isHidden folder.segments names ∧ ClearAbove s folder names ∧
      stopped s (folder.descend names) = false ∧
      (sharedDirectory (found.filterMap Finding.sources?)).segments = folder.segments ++ names := by
  have hbelow := sourceDirs_below h
  obtain ⟨shared, hseg, hshared⟩ := segments_sharedDirectory h.shown_ne_nil h0 hbelow
  have hfolder := ((hshared _).mpr fun y hy => (hbelow y hy).2).map Octets.ofText
  rw [← Segments.ofTexts, ← Segments.ofTexts, Segments.ofTexts_shown htext.segments] at hfolder
  obtain ⟨ms, hms⟩ := hfolder
  obtain ⟨x, hx⟩ := List.exists_mem_of_ne_nil _ h0
  obtain ⟨names, henter, hclear, hstop, _, rfl⟩ := (mem_sourceDirs h).mp hx
  have hpre : ms <+: names := by
    have hlead := ((hshared _).mp (List.prefix_refl _) _ hx).map Octets.ofText
    rw [← Segments.ofTexts, ← Segments.ofTexts, ← hms, ofTexts_sourceDir htext henter] at hlead
    exact (List.prefix_append_right_inj _).mp hlead
  refine ⟨ms, entered_above h.closed h.ne_nil henter hpre, hclear.above hpre, ?_, by rw [hseg, hms]⟩
  by_cases e : ms = names
  · rw [e]
    exact hstop
  · exact hclear ms hpre e

/-- The sources that no module covers have one root in common. -/
theorem mem_sourceRoots (h : Finds s t folder depth found) (htext : folder.IsText) {r : ModuleRoot} :
    r ∈ sourceRoots folder (found.filterMap Finding.sources?) ↔ found.filterMap Finding.sources? ≠ [] ∧
      r = ⟨sharedDirectory (found.filterMap Finding.sources?), .synthetic⟩ := by
  by_cases h0 : found.filterMap Finding.sources? = []
  · simp [h0, sourceRoots]
  · rw [sourceRoots_eq htext h.ne_nil h0 (sourceDirs_below h), List.mem_singleton, and_iff_right h0]

/-- Where a root is created: entered from the folder, with nothing stopped above it and no module file at
    it. It has a manifest, or else it is made for sources. -/
theorem mem_pendingRoots (h : Finds s t folder depth found) (htext : folder.IsText) {r : ModuleRoot}
    (hr : r ∈ pendingRoots folder (.ofFindings found)) :
    ∃ names, t.Entered isHidden folder.segments names ∧ ClearAbove s folder names ∧
      r.path.segments = folder.segments ++ names ∧ hasModuleFile s (folder.descend names) = false ∧
      (r = ⟨folder.descend names, .manifest⟩ ∧ hasManifest s (folder.descend names) = true ∨
        r = ⟨sharedDirectory (found.filterMap Finding.sources?), .synthetic⟩ ∧
          hasManifest s (folder.descend names) = false) := by
  rcases List.mem_append.mp hr with hr | hr
  · obtain ⟨d, hd, rfl⟩ := List.mem_map.mp hr
    obtain ⟨names, henter, hclear, hm, hman, rfl⟩ := (mem_manifestDirs h).mp hd
    exact ⟨names, henter, hclear, h.segments_descend henter.1, hm, Or.inl ⟨rfl, hman⟩⟩
  · obtain ⟨h0, rfl⟩ := (mem_sourceRoots h htext).mp hr
    obtain ⟨names, henter, hclear, hstop, hseg⟩ := sharedDirectory_clear h htext h0
    obtain ⟨hm, hman⟩ := not_stopped_iff.mp hstop
    exact ⟨names, henter, hclear, hseg, hm, Or.inr ⟨rfl, hman⟩⟩

/-- In the folder, or in the directory that it is shown as: that is another one if the folder is no text. -/
def Around (folder : Path) (d : Segments) : Prop :=
  folder.segments <+: d ∨ Segments.ofTexts folder.segments.shown <+: d

/-- Roots made for sources lie in the directory that the folder is shown as. -/
theorem shown_prefix_sourceRoots (h : Finds s t folder depth found) :
    ∀ r ∈ sourceRoots folder (found.filterMap Finding.sources?),
      Segments.ofTexts folder.segments.shown <+: r.path.segments := by
  have hbelow := sourceDirs_below h
  intro r hr
  unfold sourceRoots at hr
  split at hr
  · cases hr
  rename_i h0
  split at hr
  · obtain ⟨shared, hseg, hshared⟩ := segments_sharedDirectory h.shown_ne_nil (by simpa using h0) hbelow
    rw [List.mem_singleton.mp hr, hseg]
    exact ((hshared _).mpr fun x hx => (hbelow x hx).2).map Octets.ofText
  · obtain ⟨x, hx, rfl⟩ := List.mem_map.mp hr
    rw [Path.segments_ofSegments (hbelow x hx).1]
    exact (hbelow x hx).2.map Octets.ofText

/-- In a folder that is no text, source directories have a root each. -/
theorem sourceRoots_of_not_text (h : Finds s t folder depth found) (hno : ¬folder.IsText) :
    sourceRoots folder (found.filterMap Finding.sources?) =
      (found.filterMap Finding.sources?).map fun d => ⟨.ofSegments (.ofTexts d), .synthetic⟩ := by
  by_cases h0 : found.filterMap Finding.sources? = []
  · rw [h0]
    rfl
  obtain ⟨shared, hseg, -⟩ := segments_sharedDirectory h.shown_ne_nil h0 (sourceDirs_below h)
  have hout : (sharedDirectory (found.filterMap Finding.sources?)).isInside folder = false := by
    refine Bool.eq_false_iff.mpr fun hin => hno (Path.isText_of_segments fun s hs => ?_)
    have hpre := (Path.isInside_iff.mp hin).2
    rw [hseg] at hpre
    exact Segments.isText_ofTexts shared s (hpre.mem hs)
  simp [sourceRoots, h0, hout]

/-- A root to create lies in the folder, with no module file down to it, unless the folder is no text: then it may
    lie in the directory that the folder is shown as. -/
theorem pendingRoots_cases (h : Finds s t folder depth found) {r : ModuleRoot}
    (hr : r ∈ pendingRoots folder (.ofFindings found)) :
    (∃ names, t.Entered isHidden folder.segments names ∧ ClearAbove s folder names ∧
        r.path.segments = folder.segments ++ names ∧ hasModuleFile s (folder.descend names) = false) ∨
      ¬folder.IsText ∧ Segments.ofTexts folder.segments.shown <+: r.path.segments := by
  by_cases htext : folder.IsText
  · obtain ⟨names, henter, hclear, hseg, hm, _⟩ := mem_pendingRoots h htext hr
    exact Or.inl ⟨names, henter, hclear, hseg, hm⟩
  rcases List.mem_append.mp hr with hr | hr
  · obtain ⟨d, hd, rfl⟩ := List.mem_map.mp hr
    obtain ⟨names, henter, hclear, hm, _, rfl⟩ := (mem_manifestDirs h).mp hd
    exact Or.inl ⟨names, henter, hclear, h.segments_descend henter.1, hm⟩
  · exact Or.inr ⟨htext, shown_prefix_sourceRoots h r hr⟩

theorem around_pendingRoots (h : Finds s t folder depth found) :
    ∀ r ∈ pendingRoots folder (.ofFindings found), Around folder r.path.segments := by
  intro r hr
  rcases pendingRoots_cases h hr with ⟨names, _, _, hseg, _⟩ | ⟨_, hin⟩
  · exact Or.inl (hseg ▸ List.prefix_append ..)
  · exact Or.inr hin

/-- The roots to create are directories without module file. -/
theorem Finds.pending_dirs (h : Finds s t folder depth found) (htext : folder.IsText) :
    ∀ r ∈ pendingRoots folder (.ofFindings found), r.path.segments ≠ [] ∧
      r.path.segments ∈ t.dirs ∧ t.isModule r.path.segments = false := by
  intro r hr
  obtain ⟨names, henter, _, hseg, hm, _⟩ := mem_pendingRoots h htext hr
  rw [hasModuleFile_eq h.shows, h.segments_descend henter.1] at hm
  rw [hseg]
  exact ⟨by simp [h.ne_nil], henter.1.2, hm⟩

/-- In a folder that is text, the roots to create are all directories. -/
theorem Finds.filter_pending (h : Finds s t folder depth found) (htext : folder.IsText) :
    (pendingRoots folder (.ofFindings found)).filter (fun r => t.dirs.contains r.path.segments) =
      pendingRoots folder (.ofFindings found) :=
  List.filter_eq_self.mpr fun r hr => List.contains_iff_mem.mpr (h.pending_dirs htext r hr).2.1

/-- No root to create is the empty path. -/
theorem pendingRoots_ne_nil (h : Finds s t folder depth found) :
    ∀ r ∈ pendingRoots folder (.ofFindings found), r.path.segments ≠ [] := by
  intro r hr
  rcases List.mem_append.mp hr with hr | hr
  · obtain ⟨d, hd, rfl⟩ := List.mem_map.mp hr
    obtain ⟨names, henter, _, _, _, rfl⟩ := (mem_manifestDirs h).mp hd
    simp [h.segments_descend henter.1, h.ne_nil]
  · refine sourceRoots_ne_nil (fun x hx => ?_) r hr
    obtain ⟨hproper, hin⟩ := sourceDirs_below h x hx
    exact ⟨hproper, fun e => h.shown_ne_nil (List.prefix_nil.mp (e ▸ hin))⟩

/-- The roots to create are distinct where the second pass comes to texts only. -/
theorem pairwise_pendingRoots (h : Finds s t folder depth found) (htext : folder.IsText)
    (hnamed : ClearlyNamed s t folder) :
    (pendingRoots folder (.ofFindings found)).Pairwise fun a b => a.path.segments ≠ b.path.segments := by
  have hman : (found.filterMap Finding.manifest?).Pairwise fun a b => a.segments ≠ b.segments := by
    have hfound := pairwise_findingsBelow h.shows h.closed h.dir hnamed h.pass
    refine List.pairwise_filterMap.mpr (hfound.imp fun {x y} hxy a ha b hb => ?_)
    cases x with
    | sources _ => cases ha
    | manifest _ =>
      cases y with
      | sources _ => cases hb
      | manifest _ =>
        cases ha
        cases hb
        exact hxy
  refine List.pairwise_append.mpr ⟨List.pairwise_map.mpr hman, ?_, fun a ha b hb e => ?_⟩
  · by_cases h0 : found.filterMap Finding.sources? = []
    · simp [Uncovered.ofFindings, sourceRoots, h0]
    · rw [Uncovered.ofFindings, sourceRoots_eq htext h.ne_nil h0 (sourceDirs_below h)]
      exact List.pairwise_singleton _ _
  · -- a root made for sources has no manifest
    obtain ⟨d, hd, rfl⟩ := List.mem_map.mp ha
    obtain ⟨names, henter, _, _, hdm, rfl⟩ := (mem_manifestDirs h).mp hd
    obtain ⟨h0, rfl⟩ := (mem_sourceRoots h htext).mp hb
    obtain ⟨names', _, _, hstop, hseg⟩ := sharedDirectory_clear h htext h0
    rw [h.segments_descend henter.1, hseg] at e
    rw [List.append_cancel_left e, (not_stopped_iff.mp hstop).2] at hdm
    cases hdm

/-- On the way down either nothing is stopped, or there is a first directory that is. -/
theorem exists_first_stopped (s : σ) (folder : Path) (names : Segments) :
    (∀ ms, ms <+: names → stopped s (folder.descend ms) = false) ∨
      ∃ ms, ms <+: names ∧ ClearAbove s folder ms ∧ stopped s (folder.descend ms) = true := by
  induction names generalizing folder with
  | nil =>
    cases e : stopped s folder with
    | true => exact Or.inr ⟨[], List.nil_prefix, clearAbove_nil folder, e⟩
    | false =>
      refine Or.inl fun ms hms => ?_
      rw [List.prefix_nil.mp hms]
      exact e
  | cons n names ih =>
    cases e : stopped s folder with
    | true => exact Or.inr ⟨[], List.nil_prefix, clearAbove_nil folder, e⟩
    | false =>
      rcases ih (folder.join n) with h | ⟨ms, hms, hclear, hst⟩
      · refine Or.inl fun ms hms => ?_
        rcases List.prefix_cons_iff.mp hms with rfl | ⟨ms, rfl, hms⟩
        · exact e
        · exact h ms ‹ms <+: names›
      · exact Or.inr ⟨n :: ms, List.cons_prefix_cons.mpr ⟨rfl, hms⟩, clearAbove_cons.mpr ⟨e, hclear⟩, hst⟩

/-- A source directory with no module file from the folder down to it lies below a root to create: the
    topmost manifest down to it, or the directory that the sources share. -/
theorem exists_pending_above (h : Finds s t folder depth found) (htext : folder.IsText) {names : Segments}
    (henter : t.Entered isHidden folder.segments names)
    (hm : ∀ ms, ms <+: names → hasModuleFile s (folder.descend ms) = false)
    (hsrc : (t.entries (folder.segments ++ names)).any isSourceFile = true) :
    ∃ r ∈ pendingRoots folder (.ofFindings found), r.path.segments <+: folder.segments ++ names ∧
      ((∃ ms, ms <+: names ∧ r = ⟨folder.descend ms, .manifest⟩ ∧ ClearAbove s folder ms ∧
          hasManifest s (folder.descend ms) = true) ∨
        r.origin = .synthetic ∧ ∀ ms, ms <+: names → hasManifest s (folder.descend ms) = false) := by
  rcases exists_first_stopped s folder names with hall | ⟨ms, hms, hclear, hst⟩
  · -- nothing is stopped: the directory is one of those that share a root
    have hmem : (folder.segments ++ names).shown ∈ found.filterMap Finding.sources? :=
      (mem_sourceDirs h).mpr
        ⟨names, henter, fun ms hms _ => hall ms hms, hall names (List.prefix_refl _), hsrc, rfl⟩
    have h0 := List.ne_nil_of_mem hmem
    obtain ⟨shared, hseg, hshared⟩ := segments_sharedDirectory h.shown_ne_nil h0 (sourceDirs_below h)
    refine ⟨⟨sharedDirectory _, .synthetic⟩,
      List.mem_append_right _ ((mem_sourceRoots h htext).mpr ⟨h0, rfl⟩), ?_,
      Or.inr ⟨rfl, fun ms hms => (not_stopped_iff.mp (hall ms hms)).2⟩⟩
    rw [hseg, ← ofTexts_sourceDir htext henter]
    exact ((hshared _).mp (List.prefix_refl _) _ hmem).map Octets.ofText
  · have henter' := entered_above h.closed h.ne_nil henter hms
    have hman : hasManifest s (folder.descend ms) = true := by
      simpa [stopped, hm ms hms] using hst
    refine ⟨⟨folder.descend ms, .manifest⟩, List.mem_append_left _ (List.mem_map.mpr ⟨_,
      (mem_manifestDirs h).mpr ⟨ms, henter', hclear, hm ms hms, hman, rfl⟩, rfl⟩), ?_,
      Or.inl ⟨ms, hms, rfl, hclear, hman⟩⟩
    rw [h.segments_descend henter'.1]
    exact (List.prefix_append_right_inj _).mpr hms

end Pending

/-! ## What a scan does -/

section Scan

variable {w : Workbench Tree} {folder : Path} {policy : Policy}

/-- The walk for module roots does not enter directories of these names. -/
def isPassedOver (name : String) : Bool := isHidden name || name == vendorDir

theorem isHidden_of_not_isPassedOver {name : String} (h : isPassedOver name = false) : isHidden name = false :=
  (Bool.or_eq_false_iff.mp h).1

theorem walk_eq (w : Workbench Tree) (skip : String → Bool) (folder : Path) : FileSystem.walk skip folder w =
    ((walkBelow FileSystem.list skip (w.files.dirs.length + 1) folder w.files).1, w) := by
  have h := walkBelow_state skip w.files.shows.list (w.files.dirs.length + 1) folder
  refine Prod.ext rfl ?_
  show Workbench.mk (walkBelow FileSystem.list skip (w.files.dirs.length + 1) folder w.files).2 w.go = w
  rw [h]

/-- The walk for module roots fails where some directory cannot be listed, and then nothing is found. -/
theorem findModuleRoots_cases (ht : w.files.Closed) (folder : Path) :
    ¬w.files.Readable isPassedOver folder.segments ∧
        (∃ e, findModuleRoots folder w = (.error (.walk folder e), w)) ∨
      w.files.Readable isPassedOver folder.segments ∧
        ∃ ds, walkBelow FileSystem.list isPassedOver (w.files.dirs.length + 1) folder w.files = (.ok ds, w.files) ∧
          findModuleRoots folder w = (.ok (ds.filter (hasModuleFile w)), w) := by
  have hst := walkBelow_state isPassedOver w.files.shows.list (w.files.dirs.length + 1) folder
  have hok : (∃ ds, walkBelow FileSystem.list isPassedOver (w.files.dirs.length + 1) folder w.files =
      (.ok ds, w.files)) ↔ w.files.Readable isPassedOver folder.segments :=
    walkBelow_ok_iff w.files.shows.list ht (Nat.lt_succ_of_le (List.length_filter_le ..))
  have hwalk : FileSystem.walk (fun name => isHidden name || name == vendorDir) folder w =
      ((walkBelow FileSystem.list isPassedOver (w.files.dirs.length + 1) folder w.files).1, w) := walk_eq w _ folder
  rcases hb : walkBelow FileSystem.list isPassedOver (w.files.dirs.length + 1) folder w.files with ⟨e | ds, t⟩
  all_goals
    rw [hb] at hst hok hwalk
    simp only at hst
    subst hst
  · refine Or.inl ⟨fun h => ?_, e, by simp only [findModuleRoots, hwalk]⟩
    obtain ⟨ds, hds⟩ := hok.mpr h
    cases hds
  · exact Or.inr ⟨hok.mp ⟨ds, rfl⟩, ds, rfl, by simp only [findModuleRoots, hwalk]⟩

/-- Both passes of a scan succeed: the walk finds the directories `ds`, the second pass finds `found`. -/
structure Passes (w : Workbench Tree) (folder : Path) (ds : List Path) (found : List Finding) : Prop
    extends Finds w w.files folder (FileSystem.maxDepth w) found where
  walk : walkBelow FileSystem.list isPassedOver (w.files.dirs.length + 1) folder w.files = (.ok ds, w.files)

/-- The roots of a scan without the go command: those found, and those to create that are directories. -/
def scanRoots (w : Workbench Tree) (folder : Path) (ds : List Path) (found : List Finding) : List ModuleRoot :=
  (ds.filter (hasModuleFile w)).map (⟨·, .existing⟩) ++
    (pendingRoots folder (.ofFindings found)).filter fun r => w.files.dirs.contains r.path.segments

/-- A scan of a tree fails where some directory cannot be listed, and then changes nothing. Elsewhere both
    passes succeed, and the roots that are missing are created one after the other. -/
theorem scan_eq_createAll (ht : w.files.Closed) (folder : Path) :
    ¬w.files.Readable isPassedOver folder.segments ∧
        (∃ e, ∀ policy, scan policy folder w = (.error (.walk folder e), w)) ∨
      w.files.Readable isPassedOver folder.segments ∧ ∃ ds found, Passes w folder ds found ∧
        ∀ policy, scan policy folder w =
          (.ok ((ds.filter (hasModuleFile w)).map (⟨·, .existing⟩) ++
              (createAll policy (pendingRoots folder (.ofFindings found)) w).1,
            (createAll policy (pendingRoots folder (.ofFindings found)) w).2.1),
            (createAll policy (pendingRoots folder (.ofFindings found)) w).2.2) := by
  rcases findModuleRoots_cases ht folder with ⟨hno, e, he⟩ | ⟨hread, ds, hds, hroots⟩
  · exact Or.inl ⟨hno, e, fun policy => by simp only [scan, he]⟩
  · obtain ⟨found, hfound⟩ := findingsBelow_ok w.files.shows.list w.shows hds
    have hfinds : Finds w w.files folder (FileSystem.maxDepth w) found := ⟨w.shows, ht, hread.isDir, hfound⟩
    refine Or.inr ⟨hread, ds, found, ⟨hfinds, hds⟩, fun policy => ?_⟩
    simp only [scan, hroots, findUncovered, hfinds.pass]

theorem Passes.prefix_walk {ds : List Path} {found : List Finding} (h : Passes w folder ds found) :
    ∀ d ∈ ds, folder.segments <+: d.segments :=
  prefix_of_mem_walkBelow w.files.shows.list h.closed h.walk

theorem Passes.prefix_existing {ds : List Path} {found : List Finding} (h : Passes w folder ds found) :
    ∀ r ∈ (ds.filter (hasModuleFile w)).map (⟨·, .existing⟩ : Path → ModuleRoot),
      folder.segments <+: r.path.segments := by
  intro r hr
  obtain ⟨d, hd, rfl⟩ := List.mem_map.mp hr
  exact h.prefix_walk d (List.mem_filter.mp hd).1

/-- The roots that a scan returns lie in the folder or in the directory that it is shown as. -/
theorem around_scan (ht : w.files.Closed) {roots : List ModuleRoot} {written : List Path}
    (h : (scan policy folder w).1 = .ok (roots, written)) : ∀ r ∈ roots, Around folder r.path.segments := by
  rcases scan_eq_createAll ht folder with ⟨_, e, he⟩ | ⟨_, ds, found, hpass, hscan⟩
  · rw [he] at h
    cases h
  · rw [hscan] at h
    obtain ⟨rfl, -⟩ := Prod.mk.inj (Except.ok.inj h)
    intro r hr
    rcases List.mem_append.mp hr with hr | hr
    · exact Or.inl (hpass.prefix_existing r hr)
    · exact around_pendingRoots hpass.toFinds r ((createAll_sublist ..).mem hr)

/-- Where a scan succeeds without the go command, it creates the roots that are missing and are directories. -/
theorem scan_cases (ht : w.files.Closed) (hp : policy.install = false) (folder : Path) :
    ¬w.files.Readable isPassedOver folder.segments ∧ (∃ e, scan policy folder w = (.error (.walk folder e), w)) ∨
      w.files.Readable isPassedOver folder.segments ∧ ∃ ds found, Passes w folder ds found ∧
        (∃ written, (scan policy folder w).1 = .ok (scanRoots w folder ds found, written)) ∧
        ∀ r ∈ pendingRoots folder (.ofFindings found), r.path.segments ∈ w.files.dirs →
          (scan policy folder w).2.files.isModule r.path.segments = true := by
  rcases scan_eq_createAll ht folder with ⟨hno, e, he⟩ | ⟨hread, ds, found, hpass, hscan⟩
  · exact Or.inl ⟨hno, e, he policy⟩
  · obtain ⟨hroots, hmade⟩ := createAll_made hp ht (pendingRoots_ne_nil hpass.toFinds)
    refine Or.inr ⟨hread, ds, found, hpass, ⟨(createAll policy (pendingRoots folder (.ofFindings found)) w).2.1, ?_⟩, ?_⟩
    · rw [hscan, hroots, scanRoots]
    · rw [hscan]
      exact hmade

/-- The directories that a scan wrote module files to. -/
def writtenBy : Except ScanError (List ModuleRoot × List Path) → List Path
  | .ok (_, written) => written
  | .error _ => []

/-- What a scan leaves behind comes from creating roots, if there are any to create. -/
theorem scan_creates (policy : Policy) (folder : Path) (w : Workbench Tree) :
    ∃ rs, (scan policy folder w).2 = (createAll policy rs w).2.2 ∧
      writtenBy (scan policy folder w).1 = (createAll policy rs w).2.1 := by
  obtain ⟨r, hr⟩ : ∃ r, findModuleRoots folder w = (r, w) := by
    unfold findModuleRoots
    rw [walk_eq]
    cases (walkBelow FileSystem.list _ (w.files.dirs.length + 1) folder w.files).1 <;> exact ⟨_, rfl⟩
  obtain ⟨u, hu⟩ : ∃ u, findUncovered folder w = (u, w) := by
    have := findingsBelow_state w.shows (FileSystem.maxDepth w) folder
    unfold findUncovered
    split <;> rename_i e <;> rw [e] at this <;> exact ⟨_, Prod.ext rfl this⟩
  cases r with
  | error e =>
    simp only [scan, hr]
    exact ⟨[], rfl, rfl⟩
  | ok ds =>
    simp only [scan, hr, hu]
    cases u with
    | error e => exact ⟨[], rfl, rfl⟩
    | ok u => exact ⟨_, rfl, rfl⟩

/-- All that a scan changes are the module files it reports. -/
theorem scan_wrote (policy : Policy) (folder : Path) (w : Workbench Tree) :
    Wrote w.files (writtenBy (scan policy folder w).1) (scan policy folder w).2.files := by
  obtain ⟨rs, hstate, hwritten⟩ := scan_creates policy folder w
  rw [hstate, hwritten]
  exact createAll_wrote policy rs w

/-- A manager scans and notes what the scan wrote. -/
theorem manager_scan_eq (m : Manager) (folder : Path) (w : Workbench Tree) : m.scan folder w =
    ((scan m.policy folder w).1.map (·.1),
      { m with cleanup := m.cleanup ++ writtenBy (scan m.policy folder w).1 }, (scan m.policy folder w).2) := by
  unfold Manager.scan
  rcases scan m.policy folder w with ⟨e | ⟨roots, written⟩, w'⟩
  · simp [writtenBy, Except.map]
  · rfl

theorem manager_scan_state (m : Manager) (folder : Path) (w : Workbench Tree) :
    (m.scan folder w).2.2 = (scan m.policy folder w).2 := by rw [manager_scan_eq]

theorem manager_scan_ok {m : Manager} {roots : List ModuleRoot} (h : (m.scan folder w).1 = .ok roots) :
    ∃ written, (scan m.policy folder w).1 = .ok (roots, written) := by
  rw [manager_scan_eq] at h
  rcases hr : (scan m.policy folder w).1 with e | ⟨roots', written⟩ <;> rw [hr] at h
  · cases h
  · exact ⟨written, by rw [← Except.ok.inj h]⟩

end Scan

end GoAtlas.Module
