/-
  GoAtlas.Proofs.SharedRoot — the one root that is made for sources.

  Sources that no module covers get a root in common, the directory that they share. In the order of paths
  by what they begin with, that directory is the greatest below all of them.
  - `prefix_sharedDirectory_iff`: what it begins with is what all of them begin with.
  - `sharedDirectory_perm`: their order does not matter.
  - `isInside_sharedDirectory_iff`: it lies in a folder exactly if all of them do, as far as they are texts.
  - `Passes.deepestAbove`: in a scan of a folder that is text it is a directory of the tree, the deepest in the
    folder above all sources that were found.
  - `synthetic_root_deepest`: so a scan makes at most one such root there, and never one for each directory.
  - `synthetic_root_outside`: a folder that is no text gets its root elsewhere.
-/
import GoAtlas.Proofs.Address
import GoAtlas.Proofs.Coverage

namespace GoAtlas.Module

/-! ## The shared directory -/

section Shared

variable {dirs dirs' : List (List String)} {paths : List Path}

theorem foldl_commonLead_eq {d d' : List String} {ds ds' : List (List String)}
    (h : ∀ x, x ∈ d :: ds ↔ x ∈ d' :: ds') : ds.foldl commonLead d = ds'.foldl commonLead d' := by
  have hle : ∀ b, b <+: ds.foldl commonLead d ↔ b <+: ds'.foldl commonLead d' := by
    intro b
    simp only [prefix_foldl_commonLead, h]
  have hab := (hle _).mp (List.prefix_refl _)
  have hba := (hle _).mpr (List.prefix_refl _)
  exact hab.eq_of_length_le hba.length_le

/-- The directory that they share does not depend on their order. -/
theorem sharedDirectory_perm (h : dirs'.Perm dirs) : sharedDirectory dirs' = sharedDirectory dirs := by
  cases dirs with
  | nil => rw [h.eq_nil]
  | cons d ds =>
    cases dirs' with
    | nil => cases h.symm.eq_nil
    | cons d' ds' =>
      have hlead := foldl_commonLead_eq fun x => h.mem_iff (a := x)
      simp only [sharedDirectory, hlead]

/-- Absolute paths have the root in common at least. -/
theorem proper_of_absolute (hp : ∀ p ∈ paths, p.isAbsolute = true) :
    ∀ x ∈ paths.map (·.segments.shown), (Segments.ofTexts x).Proper ∧ ["/"] <+: x := by
  intro x hx
  obtain ⟨p, hmem, rfl⟩ := List.mem_map.mp hx
  obtain ⟨names, hnames, _⟩ := Url.segments_of_isAbsolute (hp p hmem)
  refine ⟨Segments.Proper.shown p.proper_segments, ?_⟩
  rw [hnames]
  exact ⟨Segments.shown names, rfl⟩

theorem shared_of_absolute (h0 : paths ≠ []) (hp : ∀ p ∈ paths, p.isAbsolute = true) :
    ∃ shared, (sharedDirectory (paths.map (·.segments.shown))).segments = .ofTexts shared ∧
      ∀ b, b <+: shared ↔ ∀ p ∈ paths, b <+: p.segments.shown := by
  obtain ⟨shared, hseg, hshared⟩ :=
    segments_sharedDirectory (List.cons_ne_nil _ _) (by simpa using h0) (proper_of_absolute hp)
  exact ⟨shared, hseg, fun b => by simp [hshared]⟩

theorem prefix_sharedDirectory_iff (h0 : paths ≠ []) (hp : ∀ p ∈ paths, p.isAbsolute = true) {b : List String} :
    b <+: (sharedDirectory (paths.map (·.segments.shown))).segments.shown ↔ ∀ p ∈ paths, b <+: p.segments.shown := by
  obtain ⟨shared, hseg, hshared⟩ := shared_of_absolute h0 hp
  rw [hseg, Segments.shown_ofTexts]
  exact hshared b

theorem isInside_sharedDirectory_iff (h0 : paths ≠ []) (hp : ∀ p ∈ paths, p.isAbsolute = true)
    (htexts : ∀ p ∈ paths, p.IsText) {folder : Path} :
    (sharedDirectory (paths.map (·.segments.shown))).isInside folder = true ↔
      ∀ p ∈ paths, p.isInside folder = true := by
  obtain ⟨shared, hseg, hshared⟩ := shared_of_absolute h0 hp
  obtain ⟨p, hmem⟩ := List.exists_mem_of_ne_nil _ h0
  simp only [Path.isInside_iff, hseg]
  constructor
  · intro h q hq
    have hlead := ((hshared _).mp (List.prefix_refl _) q hq).map Octets.ofText
    rw [← Segments.ofTexts, ← Segments.ofTexts, Segments.ofTexts_shown (htexts q hq).segments] at hlead
    exact ⟨h.1, h.2.trans hlead⟩
  · intro h
    -- what begins a text is one
    have hfolder : folder.segments.IsText := fun s hs => (htexts p hmem).segments s ((h p hmem).2.mem hs)
    refine ⟨(h p hmem).1, ?_⟩
    rw [← Segments.ofTexts_shown hfolder]
    exact ((hshared _).mpr fun q hq => (h q hq).2.map Octets.shown).map Octets.ofText

end Shared

/-! ## The root made for sources -/

/-- The deepest directory of the tree in the folder that all of these lie in. -/
structure DeepestAbove (t : Tree) (folder : Path) (dirs : List (List String)) (d : Path) : Prop where
  dir : d.segments ∈ t.dirs
  inside : d.isInside folder = true
  above : ∀ x ∈ dirs, d.segments <+: Segments.ofTexts x
  deepest : ∀ q ∈ t.dirs, folder.segments <+: q → (∀ x ∈ dirs, q <+: Segments.ofTexts x) → q <+: d.segments

variable {w : Workbench Tree} {folder : Path} {ds : List Path} {found : List Finding} {m : Manager}

theorem Passes.deepestAbove (h : Passes w folder ds found) (htext : folder.IsText)
    (h0 : found.filterMap Finding.sources? ≠ []) :
    DeepestAbove w.files folder (found.filterMap Finding.sources?)
      (sharedDirectory (found.filterMap Finding.sources?)) := by
  obtain ⟨names, henter, _, _, hnames⟩ := sharedDirectory_clear h.toFinds htext h0
  obtain ⟨shared, hseg, hshared⟩ := segments_sharedDirectory h.shown_ne_nil h0 (sourceDirs_below h.toFinds)
  refine ⟨?_, Path.isInside_iff.mpr ⟨?_, ?_⟩, ?_, ?_⟩
  · rw [hnames]
    exact henter.1.2
  · intro e
    exact h.ne_nil (Tree.segments_eq_nil_of_octets e)
  · rw [hnames]
    exact List.prefix_append ..
  · intro x hx
    rw [hseg]
    exact ((hshared _).mp (List.prefix_refl _) x hx).map Octets.ofText
  · intro q _ _ hq
    obtain ⟨x, hx⟩ := List.exists_mem_of_ne_nil _ h0
    have hqtext : q.IsText := fun s hs => Segments.isText_ofTexts x s ((hq x hx).mem hs)
    rw [hseg, ← Segments.ofTexts_shown hqtext]
    refine List.IsPrefix.map Octets.ofText ((hshared _).mpr fun y hy => ?_)
    rw [← Segments.shown_ofTexts y]
    exact (hq y hy).map Octets.shown

theorem filter_synthetic_map {origin : Origin} (h : origin ≠ .synthetic) (dirs : List Path) :
    (dirs.map fun d => (⟨d, origin⟩ : ModuleRoot)).filter (·.origin = .synthetic) = [] := by
  refine List.filter_eq_nil_iff.mpr ?_
  intro r hr
  obtain ⟨d, _, rfl⟩ := List.mem_map.mp hr
  simpa using h

/-- Of the roots to create, those that are made for sources. -/
theorem filter_pendingRoots (folder : Path) (u : Uncovered) :
    (pendingRoots folder u).filter (·.origin = .synthetic) = sourceRoots folder u.sourceDirs := by
  rw [pendingRoots, List.filter_append, filter_synthetic_map (by decide), List.nil_append]
  refine List.filter_eq_self.mpr ?_
  intro r hr
  simp [origin_sourceRoots r hr]

/-- What a scan returns as made for sources comes from the roots to create for them. -/
theorem filter_scan (ht : w.files.Closed) {roots : List ModuleRoot} (htext : folder.IsText)
    (h : (m.scan folder w).1 = .ok roots) :
    ∃ ds found, Passes w folder ds found ∧
      (roots.filter (·.origin = .synthetic)).Sublist (sourceRoots folder (found.filterMap Finding.sources?)) ∧
      (m.policy.install = false →
        roots.filter (·.origin = .synthetic) = sourceRoots folder (found.filterMap Finding.sources?)) := by
  rw [manager_scan_eq] at h
  rcases scan_eq_createAll ht folder with ⟨_, e, he⟩ | ⟨_, ds, found, hpass, hscan⟩
  · rw [he] at h
    cases h
  · rw [hscan] at h
    have hroots := (Except.ok.inj h).symm
    have hnew : (pendingRoots folder (.ofFindings found)).filter (·.origin = .synthetic) =
        sourceRoots folder (found.filterMap Finding.sources?) := filter_pendingRoots folder _
    refine ⟨ds, found, hpass, ?_, ?_⟩
    · rw [hroots, List.filter_append, filter_synthetic_map (by decide), List.nil_append, ← hnew]
      exact (createAll_sublist _ _ _).filter _
    · intro hp
      have hcreate := createAll_made hp ht (pendingRoots_ne_nil hpass.toFinds)
      rw [hroots, List.filter_append, filter_synthetic_map (by decide), List.nil_append, hcreate.1,
        hpass.filter_pending htext, hnew]

/-- Absolute paths share the deepest directory above all of them, in whatever order they come, and it lies in
    a folder exactly if they all do, as far as they are texts. So a scan of a folder that is text makes one root for
    all sources that no module covers, the deepest directory of the folder above them. Only sources that do not
    share a directory of the folder would get a root each; in a folder that is no text they never do. -/
theorem synthetic_root_deepest (folder : Path) :
    (∀ paths : List Path, paths ≠ [] → (∀ p ∈ paths, p.isAbsolute = true) →
      let shared := sharedDirectory (paths.map (·.segments.shown))
      (∀ p ∈ paths, shared.segments.shown <+: p.segments.shown) ∧
      (∀ b, (∀ p ∈ paths, b <+: p.segments.shown) → b <+: shared.segments.shown) ∧
      (∀ dirs, dirs.Perm (paths.map (·.segments.shown)) → sharedDirectory dirs = shared) ∧
      ((∀ p ∈ paths, p.IsText) → (shared.isInside folder = true ↔ ∀ p ∈ paths, p.isInside folder = true))) ∧
    (folder.IsText → ∀ (w : Workbench Tree) (m : Manager) (roots : List ModuleRoot), w.files.Built →
      (m.scan folder w).1 = .ok roots → ∃ u, (findUncovered folder w).1 = .ok u ∧
        (u.sourceDirs ≠ [] → sourceRoots folder u.sourceDirs = [⟨sharedDirectory u.sourceDirs, .synthetic⟩]) ∧
        (roots.filter (·.origin = .synthetic)).length ≤ 1 ∧
        (∀ r ∈ roots, r.origin = .synthetic → u.sourceDirs ≠ [] ∧ r.path = sharedDirectory u.sourceDirs ∧
          DeepestAbove w.files folder u.sourceDirs r.path) ∧
        (m.policy.install = false → u.sourceDirs ≠ [] → ⟨sharedDirectory u.sourceDirs, .synthetic⟩ ∈ roots)) ∧
    (¬folder.IsText → ∀ (w : Workbench Tree) (m : Manager) (roots : List ModuleRoot), w.files.Built →
      (m.scan folder w).1 = .ok roots → ∃ u, (findUncovered folder w).1 = .ok u ∧
        sourceRoots folder u.sourceDirs = u.sourceDirs.map fun d => ⟨.ofSegments (.ofTexts d), .synthetic⟩) ∧
    ∀ u : Uncovered, (sharedDirectory u.sourceDirs).isInside folder = false →
      pendingRoots folder u = (u.manifestDirs.map fun d => ⟨d, .manifest⟩) ++
        u.sourceDirs.map fun d => ⟨.ofSegments (.ofTexts d), .synthetic⟩ := by
  refine ⟨?_, ?_, ?_, ?_⟩
  · intro paths h0 hp shared
    refine ⟨?_, ?_, ?_, ?_⟩
    · exact (prefix_sharedDirectory_iff h0 hp).mp (List.prefix_refl _)
    · intro b hb
      exact (prefix_sharedDirectory_iff h0 hp).mpr hb
    · intro dirs hperm
      exact sharedDirectory_perm hperm
    · intro htexts
      exact isInside_sharedDirectory_iff h0 hp htexts
  · intro htext w m roots hbuilt h
    obtain ⟨ds, found, hpass, hsub, hall⟩ := filter_scan hbuilt.closed htext h
    have hone : found.filterMap Finding.sources? ≠ [] → sourceRoots folder (found.filterMap Finding.sources?) =
        [⟨sharedDirectory (found.filterMap Finding.sources?), .synthetic⟩] := by
      intro h0
      exact sourceRoots_eq htext hpass.ne_nil h0 (sourceDirs_below hpass.toFinds)
    refine ⟨.ofFindings found, ?_, hone, ?_, ?_, ?_⟩
    · simp only [findUncovered, hpass.pass]
    · refine Nat.le_trans hsub.length_le ?_
      by_cases h0 : found.filterMap Finding.sources? = []
      · simp [h0, sourceRoots]
      · simp [hone h0]
    · intro r hr ho
      have hsrc := hsub.mem (List.mem_filter.mpr ⟨hr, by simp [ho]⟩)
      obtain ⟨h0, rfl⟩ := (mem_sourceRoots hpass.toFinds htext).mp hsrc
      exact ⟨h0, rfl, hpass.deepestAbove htext h0⟩
    · intro hp h0
      have hr := hall hp
      rw [hone h0] at hr
      exact (List.mem_filter.mp (hr ▸ List.mem_singleton_self _)).1
  · intro hno w m roots hbuilt h
    rw [manager_scan_eq] at h
    rcases scan_eq_createAll hbuilt.closed folder with ⟨_, e, he⟩ | ⟨_, ds, found, hpass, _⟩
    · rw [he] at h
      cases h
    · exact ⟨.ofFindings found, by simp only [findUncovered, hpass.pass], sourceRoots_of_not_text hpass.toFinds hno⟩
  · intro u hout
    unfold pendingRoots sourceRoots
    by_cases h0 : u.sourceDirs = []
    · simp [h0]
    · simp [h0, hout]

/-- Two sources side by side, below a directory that has none. -/
def twoSources : Workbench Tree :=
  ⟨(Tree.empty.addFile ⟨"/w/a/x.go"⟩ .empty).addFile ⟨"/w/b/y.go"⟩ .empty, ⟨[], []⟩⟩

theorem synthetic_root_deepest_twoSources : twoSources.files.Built ∧
    DeepestAbove twoSources.files ⟨"/"⟩ [["/", "w", "a"], ["/", "w", "b"]] ⟨"/w"⟩ ∧
    sharedDirectory [["/", "w", "b"], ["/", "w", "a"]] = ⟨"/w"⟩ ∧
    pendingRoots ⟨"/w/a"⟩ ⟨[], [["/", "w", "a"], ["/", "w", "b"]]⟩ =
      [⟨⟨"/w/a"⟩, .synthetic⟩, ⟨⟨"/w/b"⟩, .synthetic⟩] := by
  have hbuilt : twoSources.files.Built := .addFile _ _ (.addFile _ _ .empty)
  obtain ⟨hshared, hscan, _⟩ := synthetic_root_deepest ⟨"/"⟩
  obtain ⟨_, _, _, hapart⟩ := synthetic_root_deepest ⟨"/w/a"⟩
  obtain ⟨_, _, hperm, _⟩ := hshared [⟨"/w/a"⟩, ⟨"/w/b"⟩] (by simp) (by decide)
  obtain ⟨u, hu, _, _, hroot, _⟩ :=
    hscan (Octets.isText_ofText _) twoSources (.new ⟨false, .default⟩) [⟨⟨"/w"⟩, .synthetic⟩] hbuilt rfl
  obtain rfl : _ = u := Except.ok.inj hu
  exact ⟨hbuilt, (hroot _ (List.mem_singleton_self _) rfl).2.2, hperm _ (.swap ..), hapart _ rfl⟩

/-- A folder that is no text, with a source, beside the directory that it looks like. -/
def strayBeside : Workbench Tree :=
  ⟨(Tree.empty.addFile (((⟨"/ws"⟩ : Path).join Tree.strayName).join "a.go") .empty).addDir ⟨"/ws/\uFFFD"⟩, ⟨[], []⟩⟩

/-- Its sources share a directory outside it, as they are printed, and there the root is made. -/
theorem synthetic_root_outside : strayBeside.files.Built ∧
    ((Manager.new ⟨false, .default⟩).scan ((⟨"/ws"⟩ : Path).join Tree.strayName) strayBeside).1.toOption =
      some [⟨⟨"/ws/\uFFFD"⟩, .synthetic⟩] ∧
    (⟨"/ws/\uFFFD"⟩ : Path).isInside ((⟨"/ws"⟩ : Path).join Tree.strayName) = false :=
  ⟨.addDir _ (.addFile _ _ .empty), by decide +kernel, by decide⟩

end GoAtlas.Module
