/-
  GoAtlas.Proofs.Rescan — scanning a folder again.

  After a scan without the go command every root that was created has a module file, so the walk of a second scan
  of the same folder comes to it, and the second pass finds nothing that the first scan did not find.
  - `ClearAbove.reached`: the walk reaches every directory that a root was created for.
  - `found_before` / `found_sub`: what the second scan finds uncovered was found uncovered before.
  - `found_again`: in a folder that is text, that is nothing any more.
  - `scan_again`: there a second scan returns the same roots as existing ones and changes nothing.
  - `scan_again_strayFolder`: in another folder the second scan may create the same root again.
-/
import GoAtlas.Proofs.Alike
import GoAtlas.Proofs.Ownership

namespace GoAtlas.Module

variable {w w' : Workbench Tree} {folder : Path} {ds : List Path} {found found' : List Finding}

/-- With nothing stopped above it, a directory is reached through no vendor directory. -/
theorem ClearAbove.reached (h : Passes w folder ds found) {names : Segments}
    (henter : w.files.Entered isHidden folder.segments names) (hclear : ClearAbove w folder names) :
    w.files.Entered isPassedOver folder.segments names := by
  refine ⟨⟨fun n hn => ⟨(henter.1.1 n hn).1, ?_⟩, henter.1.2⟩, henter.2⟩
  have hvendor : n.shown ≠ vendorDir := by
    intro hshown
    obtain rfl : n = Octets.ofText vendorDir := Octets.eq_ofText_of_shown (by decide) hshown
    obtain ⟨before, after, rfl⟩ := List.append_of_mem hn
    have hbefore : before <+: before ++ Octets.ofText vendorDir :: after := List.prefix_append ..
    have hto : before ++ [Octets.ofText vendorDir] <+: before ++ Octets.ofText vendorDir :: after :=
      (List.prefix_append_right_inj _).mpr (List.cons_prefix_cons.mpr ⟨rfl, List.nil_prefix⟩)
    have hdir := (reached_above h.closed h.ne_nil henter.1 hto).2
    have hseg := h.segments_descend (reached_above h.closed h.ne_nil henter.1 hbefore)
    refine vendor_notMem_of_not_stopped w.shows (hclear before hbefore (by simp)) ?_
    rw [hseg, List.append_assoc]
    exact hdir
  rw [isPassedOver, (henter.1.1 n hn).2, Bool.false_or]
  exact beq_false_of_ne hvendor

/-! ## What is left after a scan -/

/-- Afterwards, module files were written for roots to create, and all of these that are directories have one. -/
structure Created (w : Workbench Tree) (folder : Path) (found : List Finding) (w' : Workbench Tree) : Prop where
  wrote : ∃ written, Wrote w.files written w'.files ∧
    ∀ d ∈ written, ∃ r ∈ pendingRoots folder (.ofFindings found), r.path = d
  made : ∀ r ∈ pendingRoots folder (.ofFindings found), r.path.segments ∈ w.files.dirs →
    w'.files.isModule r.path.segments = true

namespace Created

variable (h : Created w folder found w')
include h

theorem dirs_eq : w'.files.dirs = w.files.dirs := by
  obtain ⟨_, hwrote, _⟩ := h.wrote
  exact hwrote.dirs_eq

theorem alike : w.files.Alike isOther w'.files := by
  obtain ⟨_, hwrote, _⟩ := h.wrote
  exact hwrote.alike

theorem closed (ht : w.files.Closed) : w'.files.Closed := by
  obtain ⟨_, hwrote, _⟩ := h.wrote
  exact hwrote.closed ht

/-- A directory has a module file afterwards if it had one before or is a root to create. -/
theorem module_iff {q : Segments} (hq : q ∈ w.files.dirs) : w'.files.isModule q = true ↔
    w.files.isModule q = true ∨ ∃ r ∈ pendingRoots folder (.ofFindings found), r.path.segments = q := by
  obtain ⟨written, hwrote, hsub⟩ := h.wrote
  rw [hwrote.isModule_iff]
  constructor
  · intro hm
    refine hm.imp_right fun hd => ?_
    obtain ⟨d, hd, hdq⟩ := hd
    obtain ⟨r, hr, rfl⟩ := hsub d hd
    exact ⟨r, hr, hdq⟩
  · rintro (hm | ⟨r, hr, rfl⟩)
    · exact Or.inl hm
    · exact hwrote.isModule_iff.mp (h.made r hr hq)

theorem entered_iff {skip : String → Bool} {names : Segments} :
    w'.files.Entered skip folder.segments names ↔ w.files.Entered skip folder.segments names := by
  rw [Tree.Entered, Tree.Reached, h.dirs_eq, ← Tree.Reached, ← Tree.Entered]

theorem stopped_of_before {d : Path} (hd : d.segments ≠ []) (hst : stopped w d = true) : stopped w' d = true := by
  obtain ⟨_, hwrote, _⟩ := h.wrote
  rw [stopped, Bool.or_eq_true] at hst ⊢
  rcases hst with hm | hman
  · rw [hasModuleFile_eq w.shows] at hm
    rw [hasModuleFile_eq w'.shows]
    exact Or.inl (hwrote.isModule_iff.mpr (Or.inl hm))
  · rw [hasManifest_alike h.alike (seesSources_isOther _) hd]
    exact Or.inr hman

end Created

/-- What a scan without the go command leaves. -/
theorem created_scan (ht : w.files.Closed) {policy : Policy} (hp : policy.install = false) {roots : List ModuleRoot}
    {written : List Path} (h : (scan policy folder w).1 = .ok (roots, written)) :
    w.files.Readable isPassedOver folder.segments ∧ ∃ ds found, Passes w folder ds found ∧
      roots = scanRoots w folder ds found ∧ Created w folder found (scan policy folder w).2 := by
  obtain ⟨hread, ds, found, hpass, hroots, hmade⟩ := scan_passes ht hp h
  refine ⟨hread, ds, found, hpass, hroots, ⟨_, scan_wrote policy folder w, fun d hd => ?_⟩, hmade⟩
  rcases scan_eq_createAll ht folder with ⟨hno, _⟩ | ⟨_, ds', found', hpass', hscan⟩
  · exact absurd hread hno
  obtain rfl : found' = found := by simpa using hpass'.pass.symm.trans hpass.pass
  rw [hscan] at hd
  exact List.mem_map.mp ((createAll_written_sublist ..).mem hd)

/-- A root to create that is a directory is one of the scan's. -/
theorem pending_mem_segments {r : ModuleRoot} (hr : r ∈ pendingRoots folder (.ofFindings found))
    (hdir : r.path.segments ∈ w.files.dirs) :
    r.path.segments ∈ (scanRoots w folder ds found).map (·.path.segments) :=
  List.mem_map_of_mem
    (List.mem_append_right _ (List.mem_filter.mpr ⟨hr, List.contains_iff_mem.mpr hdir⟩))

section Again

variable (h : Passes w folder ds found) (hmade : Created w folder found w')
include h hmade

/-- What the second pass of a second scan comes to, the first scan came to, and found the same there. -/
theorem found_before {names : Segments} {x : Finding} (henter' : w'.files.Entered isHidden folder.segments names)
    (hclear' : ClearAbove w' folder names) (hx : FoundAt w' w'.files (folder.descend names) x) :
    w.files.Entered isHidden folder.segments names ∧ ClearAbove w folder names ∧
      FoundAt w w.files (folder.descend names) x := by
  have henter := hmade.entered_iff.mp henter'
  have hd0 : ∀ ms, ms <+: names → (folder.descend ms).segments ≠ [] := fun ms hms => by
    simp [h.segments_descend (reached_above h.closed h.ne_nil henter.1 hms), h.ne_nil]
  have hno : ∀ ms, ms <+: names → stopped w' (folder.descend ms) = false → stopped w (folder.descend ms) = false := by
    intro ms hms hst
    refine Bool.eq_false_iff.mpr fun hbefore => ?_
    rw [hmade.stopped_of_before (hd0 ms hms) hbefore] at hst
    cases hst
  refine ⟨henter, fun ms hms hne => hno ms hms (hclear' ms hms hne), ?_⟩
  have hself := hd0 names (List.prefix_refl _)
  rcases hx with ⟨rfl, hm, hman⟩ | ⟨rfl, hst, hany⟩
  · rw [hasManifest_alike hmade.alike (seesSources_isOther _) hself] at hman
    refine Or.inl ⟨rfl, Bool.eq_false_iff.mpr fun hbefore => ?_, hman⟩
    obtain ⟨_, hwrote, _⟩ := hmade.wrote
    rw [hasModuleFile_eq w.shows] at hbefore
    rw [hasModuleFile_eq w'.shows, hwrote.isModule_iff.mpr (Or.inl hbefore)] at hm
    cases hm
  · obtain ⟨base, hbase, hfile⟩ := Tree.any_isSourceFile.mp hany
    have hother : isOther ((folder.descend names).segments ++ [base]) = true := by
      refine (seesSources_isOther _).file fun e => ?_
      rw [e] at hbase
      exact absurd hbase (by decide)
    rw [hmade.alike.contents?_eq hother] at hfile
    exact Or.inr ⟨rfl, hno names (List.prefix_refl _) hst, Tree.any_isSourceFile.mpr ⟨base, hbase, hfile⟩⟩

variable {ds' : List Path} (h' : Passes w' folder ds' found')
include h'

/-- The second pass of a second scan finds nothing else. -/
theorem found_sub : ∀ x ∈ found', x ∈ found := by
  intro x hx
  obtain ⟨names, henter', hclear', hx⟩ := h'.mem_found.mp hx
  exact h.mem_found.mpr ⟨names, found_before h hmade henter' hclear' hx⟩

/-- In a folder that is text it finds nothing at all: what it could find lies below a module file by then. -/
theorem found_again (htext : folder.IsText) : found' = [] := by
  refine List.eq_nil_iff_forall_not_mem.mpr fun x hx => ?_
  obtain ⟨names, henter', hclear', hx'⟩ := h'.mem_found.mp hx
  obtain ⟨henter, hclear, hx⟩ := found_before h hmade henter' hclear' hx'
  have hmodule : ∀ r ∈ pendingRoots folder (.ofFindings found), ∀ ms, ms <+: names →
      r.path.segments = folder.segments ++ ms → hasModuleFile w' (folder.descend ms) = true := by
    intro r hr ms hms hseg
    have hm := hmade.made r hr (h.pending_dirs htext r hr).2.1
    rwa [hasModuleFile_eq w'.shows, h'.segments_descend (reached_above h'.closed h'.ne_nil henter'.1 hms), ← hseg]
  rcases hx with ⟨rfl, hm, hman⟩ | ⟨rfl, hst, hany⟩
  · -- a manifest has a module file now
    have hroot : ⟨folder.descend names, .manifest⟩ ∈ pendingRoots folder (.ofFindings found) :=
      List.mem_append_left _ (List.mem_map.mpr
        ⟨_, (mem_manifestDirs h.toFinds).mpr ⟨names, henter, hclear, hm, hman, rfl⟩, rfl⟩)
    have hnow := hmodule _ hroot names (List.prefix_refl _) (h.segments_descend henter.1)
    rcases hx' with ⟨_, hno, _⟩ | ⟨hx', _⟩
    · rw [hnow] at hno
      cases hno
    · cases hx'
  · -- sources have one at or above them, where the second pass stops
    have hclears : ∀ ms, ms <+: names → hasModuleFile w (folder.descend ms) = false := by
      intro ms hms
      by_cases e : ms = names
      · exact (not_stopped_iff.mp (e ▸ hst)).1
      · exact (not_stopped_iff.mp (hclear ms hms e)).1
    rw [h.segments_descend henter.1] at hany
    obtain ⟨r, hr, hin, _⟩ := exists_pending_above h.toFinds htext henter hclears hany
    obtain ⟨ms, _, _, hseg, _⟩ := mem_pendingRoots h.toFinds htext hr
    rw [hseg] at hin
    have hms := (List.prefix_append_right_inj _).mp hin
    have hnow := stopped_of_hasModuleFile (hmodule r hr ms hms hseg)
    by_cases e : ms = names
    · rcases hx' with ⟨hx', _⟩ | ⟨_, hno, _⟩
      · cases hx'
      · rw [← e, hnow] at hno
        cases hno
    · rw [hclear' ms hms e] at hnow
      cases hnow

/-- A module file that the second walk comes to was there before or was written. -/
theorem existing_again {d : Path} (hd : d ∈ ds') (hm : hasModuleFile w' d = true) :
    d.segments ∈ (scanRoots w folder ds found).map (·.path.segments) := by
  obtain ⟨names, henter', rfl⟩ := (mem_walkBelow w'.files.shows.list h'.closed h'.walk).mp hd
  have henter := hmade.entered_iff.mp henter'
  have hdir : (folder.descend names).segments ∈ w.files.dirs := h.segments_descend henter.1 ▸ henter.1.2
  rw [hasModuleFile_eq w'.shows] at hm
  rcases (hmade.module_iff hdir).mp hm with hm | ⟨r, hr, hrs⟩
  · rw [← hasModuleFile_eq w.shows] at hm
    exact List.mem_map_of_mem (f := (·.path.segments)) (mem_scanRoots_existing h henter hm)
  · exact hrs ▸ pending_mem_segments hr (hrs ▸ hdir)

/-- What the second scan would create, the first created. -/
theorem pending_again : ∀ r ∈ pendingRoots folder (.ofFindings found'), r ∈ pendingRoots folder (.ofFindings found) := by
  intro r hr
  have hsub := found_sub h hmade h'
  rcases List.mem_append.mp hr with hr | hr
  · obtain ⟨d, hd, rfl⟩ := List.mem_map.mp hr
    obtain ⟨x, hx, hxd⟩ := List.mem_filterMap.mp hd
    exact List.mem_append_left _ (List.mem_map_of_mem (List.mem_filterMap.mpr ⟨x, hsub x hx, hxd⟩))
  · by_cases htext : folder.IsText
    · -- nothing is found, so there are no sources
      rw [found_again h hmade h' htext] at hr
      cases hr
    · refine List.mem_append_right _ ?_
      have hr' : r ∈ sourceRoots folder (found'.filterMap Finding.sources?) := hr
      rw [sourceRoots_of_not_text h'.toFinds htext] at hr'
      obtain ⟨d, hd, rfl⟩ := List.mem_map.mp hr'
      obtain ⟨x, hx, hxd⟩ := List.mem_filterMap.mp hd
      show _ ∈ sourceRoots folder (found.filterMap Finding.sources?)
      rw [sourceRoots_of_not_text h.toFinds htext]
      exact List.mem_map_of_mem (List.mem_filterMap.mpr ⟨x, hsub x hx, hxd⟩)

end Again

/-- A second scan without the go command succeeds as well and finds nothing beyond the roots of the first. -/
theorem scan_stays (ht : w.files.Closed) {policy : Policy} (hp : policy.install = false) {roots : List ModuleRoot}
    {written : List Path} (h : (scan policy folder w).1 = .ok (roots, written)) :
    ∃ again written', (scan policy folder (scan policy folder w).2).1 = .ok (again, written') ∧
      ∀ r ∈ again, r.path.segments ∈ roots.map (·.path.segments) := by
  obtain ⟨hread, ds, found, hpass, rfl, hmade⟩ := created_scan ht hp h
  rcases scan_cases (hmade.closed ht) hp folder with ⟨hno, _⟩ | ⟨_, ds', found', hpass', ⟨written', hagain⟩, _⟩
  · exact absurd (hmade.alike.readable_iff.mpr hread) hno
  refine ⟨_, written', hagain, fun r hr => ?_⟩
  rcases List.mem_append.mp hr with hr | hr
  · obtain ⟨d, hd, rfl⟩ := List.mem_map.mp hr
    obtain ⟨hd, hm⟩ := List.mem_filter.mp hd
    exact existing_again hpass hmade hpass' hd hm
  · obtain ⟨hr, hdir⟩ := List.mem_filter.mp hr
    rw [List.contains_iff_mem, hmade.dirs_eq] at hdir
    exact pending_mem_segments (pending_again hpass hmade hpass' r hr) hdir

/-- In a folder that is text, the roots of a scan are the directories that the walk enters and that have a module file
    afterwards. -/
theorem mem_scanRoots_segments (h : Passes w folder ds found) (hmade : Created w folder found w')
    (htext : folder.IsText) {q : Segments} : q ∈ (scanRoots w folder ds found).map (·.path.segments) ↔
      ∃ names, w.files.Entered isPassedOver folder.segments names ∧ q = folder.segments ++ names ∧
        w'.files.isModule q = true := by
  rw [List.mem_map]
  constructor
  · rintro ⟨r, hr, rfl⟩
    rw [scanRoots_eq h htext] at hr
    rcases List.mem_append.mp hr with hr | hr
    · obtain ⟨d, hd, rfl⟩ := List.mem_map.mp hr
      obtain ⟨hd, hm⟩ := List.mem_filter.mp hd
      obtain ⟨names, henter, rfl⟩ := (mem_walkBelow w.files.shows.list h.closed h.walk).mp hd
      rw [hasModuleFile_eq w.shows] at hm
      have hseg := h.segments_descend henter.1
      exact ⟨names, henter, hseg, (hmade.module_iff (hseg ▸ henter.1.2)).mpr (Or.inl hm)⟩
    · obtain ⟨names, henter, hclear, hseg, _⟩ := mem_pendingRoots h.toFinds htext hr
      exact ⟨names, hclear.reached h henter, hseg, hmade.made r hr (hseg ▸ henter.1.2)⟩
  · rintro ⟨names, henter, rfl, hm⟩
    rcases (hmade.module_iff henter.1.2).mp hm with hm | ⟨r, hr, hseg⟩
    · refine ⟨_, mem_scanRoots_existing h henter ?_, h.segments_descend henter.1⟩
      rw [hasModuleFile_eq w.shows, h.segments_descend henter.1]
      exact hm
    · exact ⟨r, mem_scanRoots_pending h htext hr, hseg⟩

/-- Scanning a folder that is text is idempotent: where a scan without the go command succeeds, a second scan, by
    whatever manager, finds the same directories, all of them with a module file now, and changes nothing. It finds
    them as often as the first if all that is reached from the folder is reached by texts. -/
theorem scan_again (ht : w.files.Built) {m : Manager} (hp : m.policy.install = false) (htext : folder.IsText)
    {roots : List ModuleRoot} (h : (m.scan folder w).1 = .ok roots) (m' : Manager) :
    ∃ again, m'.scan folder (m.scan folder w).2.2 = (.ok again, m', (m.scan folder w).2.2) ∧
      (∀ r ∈ again, r.origin = .existing) ∧
      (∀ q, q ∈ again.map (·.path.segments) ↔ q ∈ roots.map (·.path.segments)) ∧
      (w.files.Legible isPassedOver folder.segments →
        (again.map (·.path.segments)).Perm (roots.map (·.path.segments))) := by
  obtain ⟨written, hok⟩ := manager_scan_ok h
  obtain ⟨hread, ds, found, hpass, rfl, hmade⟩ := created_scan ht.closed hp hok
  rw [← manager_scan_state] at hmade
  rcases scan_eq_createAll (hmade.closed ht.closed) folder with ⟨hno, _⟩ | ⟨_, ds', found', hpass', hscan'⟩
  · exact absurd (hmade.alike.readable_iff.mpr hread) hno
  obtain rfl := found_again hpass hmade hpass' htext
  have hnone : Created (m.scan folder w).2.2 folder [] (m.scan folder w).2.2 :=
    ⟨⟨[], .none _, by simp⟩, by simp [pendingRoots, Uncovered.ofFindings, sourceRoots]⟩
  have hagain : scanRoots (m.scan folder w).2.2 folder ds' [] =
      (ds'.filter (hasModuleFile (m.scan folder w).2.2)).map (⟨·, .existing⟩) := List.append_nil _
  have hsame : ∀ q, q ∈ (scanRoots (m.scan folder w).2.2 folder ds' []).map (·.path.segments) ↔
      q ∈ (scanRoots w folder ds found).map (·.path.segments) := by
    intro q
    rw [mem_scanRoots_segments hpass' hnone htext, mem_scanRoots_segments hpass hmade htext]
    exact exists_congr fun names => and_congr_left fun _ => hmade.entered_iff
  refine ⟨scanRoots (m.scan folder w).2.2 folder ds' [], ?_, fun r hr => ?_, hsame, fun hlegible => ?_⟩
  · rw [hagain, Manager.scan, hscan']
    simp [pendingRoots, Uncovered.ofFindings, sourceRoots, createAll]
  · rw [hagain] at hr
    obtain ⟨d, _, rfl⟩ := List.mem_map.mp hr
    rfl
  · have hlegible' : (m.scan folder w).2.2.files.Legible isPassedOver folder.segments := by
      intro names hr
      rw [Tree.Reached, hmade.dirs_eq] at hr
      exact hlegible names hr
    refine (List.perm_ext_iff_of_nodup ?_ ?_).mpr hsame
    · exact List.pairwise_map.mpr (pairwise_scanRoots hpass' htext hlegible')
    · exact List.pairwise_map.mpr (pairwise_scanRoots hpass htext hlegible)

theorem scan_again_mixedFolder :
    ∃ again, (Manager.new ⟨false, .default⟩).scan ⟨"/ws"⟩
        ((Manager.new ⟨false, .default⟩).scan ⟨"/ws"⟩ mixedFolder).2.2 =
          (.ok again, .new ⟨false, .default⟩, ((Manager.new ⟨false, .default⟩).scan ⟨"/ws"⟩ mixedFolder).2.2) ∧
      (again.map (·.path.segments)).Perm
        ([["/", "ws", "a"], ["/", "ws", "old"], ["/", "ws"]] : List Segments) := by
  have hbuilt : mixedFolder.files.Built :=
    .addFile _ _ (.addFile _ _ (.addFile _ _ (.addFile _ _ (.addFile _ _ .empty))))
  have hlegible : mixedFolder.files.Legible isPassedOver (⟨"/ws"⟩ : Path).segments := .of_dirs (by decide +kernel)
  have htext : (⟨"/ws"⟩ : Path).IsText := Octets.isText_ofText _
  have hscan : ((Manager.new ⟨false, .default⟩).scan ⟨"/ws"⟩ mixedFolder).1 =
    .ok [⟨⟨"/ws/a"⟩, .existing⟩, ⟨⟨"/ws/old"⟩, .manifest⟩, ⟨⟨"/ws"⟩, .synthetic⟩] := rfl
  obtain ⟨again, hagain, _, _, hperm⟩ := scan_again hbuilt rfl htext hscan (.new ⟨false, .default⟩)
  exact ⟨again, hagain, hperm hlegible⟩

/-- A folder with a source whose name is no text, beside the directory that it is shown as. -/
def strayFolderAndTwin : Workbench Tree :=
  ⟨(Tree.empty.addFile (((⟨"/ws"⟩ : Path).join Tree.strayName).join "a.go") .empty).addDir ⟨"/ws/\uFFFD"⟩, ⟨[], []⟩⟩

/-- Its root is made in that directory, twice. -/
theorem scan_again_strayFolder : strayFolderAndTwin.files.Built ∧
    ((Manager.new ⟨false, .default⟩).scan ((⟨"/ws"⟩ : Path).join Tree.strayName) strayFolderAndTwin).1.toOption =
      some [⟨⟨"/ws/\uFFFD"⟩, .synthetic⟩] ∧
    ((Manager.new ⟨false, .default⟩).scan ((⟨"/ws"⟩ : Path).join Tree.strayName)
        ((Manager.new ⟨false, .default⟩).scan ((⟨"/ws"⟩ : Path).join Tree.strayName) strayFolderAndTwin).2.2).1.toOption =
      some [⟨⟨"/ws/\uFFFD"⟩, .synthetic⟩] :=
  ⟨.addDir _ (.addFile _ _ .empty), by decide +kernel⟩

end GoAtlas.Module
