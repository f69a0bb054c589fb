/-
  GoAtlas.Proofs.Custody — whether a source keeps its module when folders are managed.

  The module of a source is the nearest module file above it, up to the root (`Tree.owner?`). A scan looks
  for module files only from its folder on, so a folder below a module can take sources away from it.
  - `owner?_eq_some`: the owner is the deepest module root above.
  - `Scans.written_below`: what scans write lies in a folder with no module file down to it, or in the directory
    that a folder is shown as.
  - `Scans.exists_module`: scans leave a module file between the folder and each of its sources.
  - `manageDeps_owner`: a source keeps its module unless a folder takes it or is shown as a directory above it,
    and every folder that is text and can take it does.
  - `a_folder_below_a_module_takes_its_source`: the smallest case.
-/
import GoAtlas.Proofs.Alike
import GoAtlas.Proofs.Management
import GoAtlas.Proofs.Ownership

namespace GoAtlas

open GoAtlas.Module

/-! ## The nearest module above -/

theorem Segments.pairwise_upward (p : Segments) : p.upward.Pairwise fun a b => b <+: a := by
  unfold upward
  rw [List.pairwise_reverse, List.pairwise_map]
  exact List.pairwise_lt_range.imp fun h => List.take_prefix_take_left (by omega)

namespace Tree

/-- The nearest directory at or above this one with a module file. -/
def owner? (t : Tree) (dir : Segments) : Option Segments := dir.upward.find? t.isModule

theorem owner?_deepest {t : Tree} {dir o a : Segments} (h : t.owner? dir = some o) (ha : a <+: dir) (h0 : a ≠ [])
    (hm : t.isModule a = true) : a <+: o := by
  obtain ⟨_, above, below, hsplit, hno⟩ := List.find?_eq_some_iff_append.mp h
  have hmem := Segments.mem_upward.mpr ⟨ha, h0⟩
  have hpair := dir.pairwise_upward
  rw [hsplit] at hmem hpair
  rcases List.mem_append.mp hmem with hmem | hmem
  · have := hno a hmem
    simp [hm] at this
  rcases List.mem_cons.mp hmem with rfl | hmem
  · exact List.prefix_refl _
  · exact (List.pairwise_cons.mp (List.pairwise_append.mp hpair).2.1).1 a hmem

/-- The owner is the deepest of the module roots above. -/
theorem owner?_eq_some {t : Tree} {dir o : Segments} : t.owner? dir = some o ↔
    (o <+: dir ∧ o ≠ []) ∧ t.isModule o = true ∧ ∀ a, a <+: dir → a ≠ [] → t.isModule a = true → a <+: o := by
  constructor
  · intro h
    exact ⟨Segments.mem_upward.mp (List.mem_of_find?_eq_some h), List.find?_some h, fun _ => owner?_deepest h⟩
  · intro h
    obtain ⟨⟨hin, h0⟩, hm, hdeep⟩ := h
    cases hf : t.owner? dir with
    | none => exact absurd hm (List.find?_eq_none.mp hf o (Segments.mem_upward.mpr ⟨hin, h0⟩))
    | some o' =>
      obtain ⟨hin', h0'⟩ := Segments.mem_upward.mp (List.mem_of_find?_eq_some hf)
      have hup := hdeep o' hin' h0' (List.find?_some hf)
      rw [hup.eq_of_length_le (owner?_deepest hf hin h0 hm).length_le]

end Tree

/-! ## What scans write, and what they leave -/

/-- The folder is no text, and the directory lies in the one that it is shown as. -/
def Shadows (folder : Path) (dir : Segments) : Prop :=
  ¬folder.IsText ∧ Segments.ofTexts folder.segments.shown <+: dir

/-- What a scan writes: a directory in the folder, with no module file from the folder down to it, or one that
    the folder shadows. -/
theorem mem_writtenBy_scan {w : Workbench Tree} {policy : Policy} (ht : w.files.Closed) {folder x : Path}
    (hx : x ∈ writtenBy (scan policy folder w).1) :
    Shadows folder x.segments ∨ w.files.Readable isPassedOver folder.segments ∧ folder.segments <+: x.segments ∧
      ∀ a, folder.segments <+: a → a <+: x.segments → w.files.isModule a = false := by
  rcases scan_eq_createAll ht folder with ⟨_, e, he⟩ | ⟨hread, ds, found, hpass, hok⟩
  · rw [he] at hx
    cases hx
  rw [hok] at hx
  obtain ⟨r, hr, rfl⟩ := List.mem_map.mp ((createAll_written_sublist ..).mem hx)
  rcases pendingRoots_cases hpass.toFinds hr with ⟨names, henter, hclear, hseg, hm⟩ | hshadow
  · refine Or.inr ?_
    rw [hseg]
    refine ⟨hread, List.prefix_append .., ?_⟩
    rintro _ ⟨ms, rfl⟩ hin
    have hms := (List.prefix_append_right_inj _).mp hin
    have hno : hasModuleFile w (folder.descend ms) = false := by
      by_cases e : ms = names
      · rw [e]
        exact hm
      · exact (not_stopped_iff.mp (hclear ms hms e)).1
    rw [hasModuleFile_eq w.shows, hpass.segments_descend (reached_above ht hpass.ne_nil henter.1 hms)] at hno
    exact hno
  · exact Or.inl hshadow

/-- A scan of a folder that is text leaves, without the go command, a module file between the folder and each source
    to which texts lead. -/
theorem exists_module_scan {w : Workbench Tree} {policy : Policy} (hp : policy.install = false)
    (ht : w.files.Closed) {folder : Path} (htext : folder.IsText)
    (hread : w.files.Readable isPassedOver folder.segments) {names : Segments} {base : Octets}
    (hn : ∀ n ∈ names, isHidden n.shown = false ∧ n.IsText) (hbase : Tree.isSourceName base.shown = true)
    (hfile : (w.files.contents? (folder.segments ++ names ++ [base])).isSome = true) :
    ∃ ms, ms <+: names ∧ (scan policy folder w).2.files.isModule (folder.segments ++ ms) = true := by
  have hwrote := scan_wrote policy folder w
  have hf := (ht.dirsProper _ hread.1).2
  have hdir := ht.dir_of_contents hfile (by simp [hf])
  by_cases hm : ∃ ms, ms <+: names ∧ w.files.isModule (folder.segments ++ ms) = true
  · obtain ⟨ms, hms, hm⟩ := hm
    exact ⟨ms, hms, hwrote.isModule_iff.mpr (Or.inl hm)⟩
  rcases scan_cases ht hp folder with ⟨hno, _⟩ | ⟨_, ds, found, hpass, _, hmade⟩
  · exact absurd hread hno
  -- without a module file on the way a root is created above the source
  have henter : w.files.Entered isHidden folder.segments names :=
    ⟨⟨fun n hmem => ⟨Tree.isName_of_not_isHidden (ht.isSteps hf hdir n hmem) (hn n hmem).1, (hn n hmem).1⟩, hdir⟩,
      fun n hmem => (hn n hmem).2⟩
  have hclear : ∀ ms, ms <+: names → hasModuleFile w (folder.descend ms) = false := by
    intro ms hms
    rw [hasModuleFile_eq w.shows, hpass.segments_descend (reached_above ht hf henter.1 hms)]
    exact Bool.eq_false_iff.mpr fun h => hm ⟨ms, hms, h⟩
  obtain ⟨r, hr, hin, _⟩ := exists_pending_above hpass.toFinds htext henter hclear
    (Tree.any_isSourceFile.mpr ⟨base, hbase, hfile⟩)
  obtain ⟨ms, _, _, hseg, _⟩ := mem_pendingRoots hpass.toFinds htext hr
  rw [hseg] at hin
  exact ⟨ms, (List.prefix_append_right_inj _).mp hin, hseg ▸ hmade r hr (hpass.pending_dirs htext r hr).2.1⟩

namespace Scans

variable {ds written : List Path} {w w' : Workbench Tree}

theorem written_below (h : Scans (·.install = false) ds w written w') (ht : w.files.Closed) :
    ∀ x ∈ written, ∃ F ∈ ds, Shadows F x.segments ∨ w.files.Readable isPassedOver F.segments ∧
      F.segments <+: x.segments ∧ ∀ a, F.segments <+: a → a <+: x.segments → w.files.isModule a = false := by
  induction h with
  | none _ => intro x hx; cases hx
  | @scan policy d ds written w w₁ w' hp he _ ih =>
    rw [← he] at ht ⊢
    have hwrote := scan_wrote policy d w₁
    intro x hx
    rcases List.mem_append.mp hx with hx | hx
    · exact ⟨d, List.mem_cons_self .., mem_writtenBy_scan ht hx⟩
    · obtain ⟨F, hF, hcase⟩ := ih (hwrote.closed ht) x hx
      refine ⟨F, List.mem_cons_of_mem _ hF, hcase.imp_right fun h => ?_⟩
      obtain ⟨hread, hin, hno⟩ := h
      refine ⟨hwrote.alike.readable_iff.mp hread, hin, fun a ha hax => Bool.eq_false_iff.mpr fun hm => ?_⟩
      -- a later scan sees more module files
      have := hno a ha hax
      rw [hwrote.isModule_iff.mpr (Or.inl hm)] at this
      cases this

/-- Between a folder that is text and can be scanned, and each of its sources to which texts lead, there is a module
    file afterwards. -/
theorem exists_module (h : Scans (·.install = false) ds w written w') (ht : w.files.Closed) {F : Path} (hF : F ∈ ds)
    (htext : F.IsText) (hread : w.files.Readable isPassedOver F.segments) {names : Segments} {base : Octets}
    (hn : ∀ n ∈ names, isHidden n.shown = false ∧ n.IsText) (hbase : Tree.isSourceName base.shown = true)
    (hfile : (w.files.contents? (F.segments ++ names ++ [base])).isSome = true) :
    ∃ ms, ms <+: names ∧ w'.files.isModule (F.segments ++ ms) = true := by
  induction h with
  | none _ => cases hF
  | @scan policy d ds written w w₁ w' hp he hrest ih =>
    rw [← he] at ht hread hfile
    have hwrote := scan_wrote policy d w₁
    rcases List.mem_cons.mp hF with rfl | hF
    · obtain ⟨ms, hms, hm⟩ := exists_module_scan hp ht htext hread hn hbase hfile
      exact ⟨ms, hms, hrest.wrote.isModule_iff.mpr (Or.inl hm)⟩
    · -- the source is still there for the later scan
      refine ih (hwrote.closed ht) hF (hwrote.alike.readable_iff.mpr hread) ?_
      rw [hwrote.contents_other fun e _ he => ?_]
      · exact hfile
      · have hlast := congrArg List.getLast? he
        simp only [moduleFileOf, List.getLast?_append, List.getLast?_singleton, Option.some_or,
          Option.some.injEq] at hlast
        rw [hlast] at hbase
        exact absurd hbase (by decide)

end Scans

/-! ## Managing folders -/

namespace Workspace

variable [ProjectSettings (Workbench Tree)] {w : Workspace (Workbench Tree)} {folders : List Folder}
  {options : Option Json}

/-- No folder is managed with installation on, whatever the files are by then. -/
def InstallOff (w : Workspace (Workbench Tree)) (folders : List Folder) (options : Option Json) : Prop :=
  ∀ world, ∀ f ∈ folders, (policyFor { w with world := world } options f).install = false

/-- The folder `F` lies below the module at `o` and above the directory, and can be scanned. -/
structure Takes (t : Tree) (o dir : Segments) (F : Path) : Prop where
  below : o <+: F.segments ∧ F.segments ≠ o
  above : F.segments <+: dir
  readable : t.Readable isPassedOver F.segments

/-- A source keeps its module if no folder takes it or shadows it. A folder that does take it and is text becomes
    its new module, or a directory below the folder does, unless a name on the way from there to the source is hidden
    or no text. -/
theorem manageDeps_owner (ht : w.world.files.Built) (hoff : w.InstallOff folders options) {dir o : Segments}
    (ho : w.world.files.owner? dir = some o) :
    ((∀ F ∈ localDirs folders, ¬Takes w.world.files o dir F ∧ ¬Shadows F dir) →
        (w.manageDeps folders options).2.world.files.owner? dir = some o) ∧
      ∀ base : Octets, Tree.isSourceName base.shown = true → (w.world.files.contents? (dir ++ [base])).isSome = true →
        w.session.closed = false → ∀ F ∈ localDirs folders, Takes w.world.files o dir F → F.IsText →
          (∀ n ∈ dir.drop F.segments.length, isHidden (Octets.shown n) = false ∧ Octets.IsText n) →
          ∃ o', (w.manageDeps folders options).2.world.files.owner? dir = some o' ∧ o' ≠ o ∧ F.segments <+: o' := by
  obtain ⟨⟨hin, h0⟩, hm, hdeep⟩ := Tree.owner?_eq_some.mp ho
  constructor
  · intro hnone
    cases hopen : w.session.closed with
    | true =>
      rw [manageDeps_of_closed hopen]
      exact ho
    | false =>
    obtain ⟨written, hscan, _, _⟩ := manageDeps_scans hopen folders options (·.install = false) hoff
    refine Tree.owner?_eq_some.mpr ⟨⟨hin, h0⟩, hscan.wrote.isModule_iff.mpr (Or.inl hm), fun a ha ha0 hma => ?_⟩
    rcases hscan.wrote.isModule_iff.mp hma with hma | ⟨x, hx, rfl⟩
    · exact hdeep a ha ha0 hma
    obtain ⟨F, hF, hshadow | ⟨hread, hFx, hno⟩⟩ := hscan.written_below ht.closed x hx
    · exact absurd ⟨hshadow.1, hshadow.2.trans ha⟩ (hnone F hF).2
    -- a directory that was written to does not lie below the module
    refine (List.prefix_or_prefix_of_prefix ha hin).resolve_right fun hox => ?_
    have hFo : ¬F.segments <+: o := fun h => by
      rw [hno o h hox] at hm
      cases hm
    have hoF := (List.prefix_or_prefix_of_prefix hFx hox).resolve_left hFo
    exact (hnone F hF).1 ⟨⟨hoF, fun e => hFo (e ▸ List.prefix_refl _)⟩, hFx.trans ha, hread⟩
  · intro base hbase hfile hopen F hF htakes htext hnames
    obtain ⟨written, hscan, _, _⟩ := manageDeps_scans hopen folders options (·.install = false) hoff
    obtain ⟨⟨us, hus⟩, hne⟩ := htakes.below
    obtain ⟨names, rfl⟩ := htakes.above
    rw [List.drop_left] at hnames
    obtain ⟨ms, hms, hmod⟩ := hscan.exists_module ht.closed hF htext htakes.readable hnames hbase hfile
    have hms' : F.segments ++ ms <+: F.segments ++ names := (List.prefix_append_right_inj _).mpr hms
    have hF0 : F.segments ++ ms ≠ [] := by simp [← hus, h0]
    cases hf : (w.manageDeps folders options).2.world.files.owner? (F.segments ++ names) with
    | none => exact absurd hmod (List.find?_eq_none.mp hf _ (Segments.mem_upward.mpr ⟨hms', hF0⟩))
    | some o' =>
      have hFo' := (List.prefix_append F.segments ms).trans (Tree.owner?_deepest hf hms' hF0 hmod)
      refine ⟨o', rfl, fun e => hne ?_, hFo'⟩
      rw [e] at hFo'
      exact hFo'.eq_of_length_le (hus ▸ (List.prefix_append o us).length_le)

end Workspace

/-- A session on a module with a source in a subdirectory. -/
def moduleWithSub : Workspace (Workbench Tree) :=
  ⟨.new .default, .empty,
    (Tree.empty.addFile ⟨"/repo/go.mod"⟩ .empty).addFile ⟨"/repo/sub/main.go"⟩ .empty, ⟨[], []⟩⟩

theorem moduleWithSub_taken :
    ∃ o' : Segments, (moduleWithSub.manageDeps (Folder.ofDir? ⟨"/repo/sub"⟩).toList none).2.world.files.owner?
      ["/", "repo", "sub"] = some o' ∧ o' ≠ (["/", "repo"] : Segments) ∧ (["/", "repo", "sub"] : Segments) <+: o' := by
  have hbuilt : moduleWithSub.world.files.Built := .addFile _ _ (.addFile _ _ .empty)
  have hoff : moduleWithSub.InstallOff (Folder.ofDir? ⟨"/repo/sub"⟩).toList none := by
    intro world f _
    unfold Workspace.policyFor Workspace.folderConfig
    cases f.uri.toFilePath? <;> rfl
  have hF : ⟨"/repo/sub"⟩ ∈ localDirs (Folder.ofDir? ⟨"/repo/sub"⟩).toList := by decide +kernel
  have hlegible : moduleWithSub.world.files.Legible isPassedOver (⟨"/repo/sub"⟩ : Path).segments :=
    .of_dirs (by decide +kernel)
  have hread : moduleWithSub.world.files.Readable isPassedOver (⟨"/repo/sub"⟩ : Path).segments :=
    hlegible.readable_iff.mpr ⟨by decide, fun _ _ => List.not_mem_nil⟩
  have howner : moduleWithSub.world.files.owner? ["/", "repo", "sub"] = some (["/", "repo"] : Segments) := by
    decide
  exact (Workspace.manageDeps_owner hbuilt hoff howner).2 "main.go" (by decide) rfl rfl ⟨"/repo/sub"⟩ hF
    ⟨by decide, by decide, hread⟩ (Octets.isText_ofText _) (by decide)

/-- The source belongs to the module before, and to the subdirectory after that is managed. -/
theorem a_folder_below_a_module_takes_its_source :
    moduleWithSub.world.files.owner? ["/", "repo", "sub"] = some (["/", "repo"] : Segments) ∧
      (moduleWithSub.manageDeps (Folder.ofDir? ⟨"/repo/sub"⟩).toList none).2.world.files.owner? ["/", "repo", "sub"] =
        some (["/", "repo", "sub"] : Segments) := by
  decide +kernel

end GoAtlas
