/-
  GoAtlas.Proofs.Failures — modules that cannot be created.

  Writing a module file may fail, and the go command may refuse to make a module. Which roots are tried, and
  under which module paths, is known before the first of them is tried and does not depend on module files,
  so one failure is of no consequence for the others.
  - `Reads`: a state from which the files of a tree are read. `findModuleRoots_reads`, `findUncovered_reads`,
    `modulePath_reads`: all that a scan reads comes from that tree.
  - `attempt`: what trying a creation does; it leaves a trace (a call, or a logged write) whether it fails or not,
    except where there is a module file by then. `createModule_tried`: creating a root does that.
  - `createAll_tried`: every root is tried, in order, and those whose creation fails are left out.
  - `scan_drops_failed`: so a scan returns what it returns without failures, less the roots that failed.
-/
import GoAtlas.Files.Faulty
import GoAtlas.Proofs.Creation

namespace GoAtlas

open GoAtlas.Module

/-! ## Reading a tree -/

/-- Reading from the state `s` is reading from the tree `t`. -/
structure Reads {σ : Type} [FileSystem σ] (s : σ) (t : Tree) : Prop extends Shows s t where
  read : ∀ p, FileSystem.read s p = t.read p
  maxDepth : FileSystem.maxDepth s = FileSystem.maxDepth t
  walk : ∀ skip root, FileSystem.walk skip root s = ((FileSystem.walk skip root t).1, s)

/-- Visits with the same results are put together with the same result. -/
theorem collect_reads {σ ρ ε α : Type} {visit : Path → σ → Except ε (List α) × σ}
    {visit' : Path → ρ → Except ε (List α) × ρ} {s : σ} {r : ρ} (hr : ∀ p, (visit' p r).2 = r)
    (h : ∀ p, visit p s = ((visit' p r).1, s)) (ps : List Path) :
    collect visit ps s = ((collect visit' ps r).1, s) := by
  induction ps with
  | nil => rfl
  | cons p ps ih =>
    have hp := hr p
    rcases hv : visit' p r with ⟨e | xs, r'⟩
    · simp [collect, h, hv]
    · rw [hv] at hp
      simp only at hp
      subst hp
      simp only [collect, h, hv, ih]
      rcases collect visit' ps r' with ⟨e | ys, _⟩ <;> rfl

theorem walkBelow_reads {σ : Type} {list : Path → σ → Except Failure (List Entry) × σ} {s : σ} {t : Tree}
    (hl : ∀ dir, list dir s = (t.list dir, s)) (skip : String → Bool) (depth : Nat) (dir : Path) :
    walkBelow list skip depth dir s = ((walkBelow FileSystem.list skip depth dir t).1, s) := by
  induction depth generalizing dir with
  | zero => rfl
  | succ depth ih =>
    simp only [walkBelow, hl, t.shows.list]
    cases t.list dir with
    | error e => rfl
    | ok es =>
      simp only [collect_reads (walkBelow_state skip t.shows.list depth) ih]
      rcases collect (walkBelow FileSystem.list skip depth) (subdirectories skip dir es) t with ⟨e | ds, _⟩ <;> rfl

theorem Tree.reads (t : Tree) : Reads t t :=
  ⟨t.shows, fun _ => rfl, rfl, fun skip root => Prod.ext rfl (walkBelow_state skip t.shows.list (t.dirs.length + 1) root)⟩

namespace Module

variable {σ : Type} [FileSystem σ] {s : σ} {t : Tree}

theorem hasModuleFile_reads (h : Reads s t) (dir : Path) : hasModuleFile s dir = hasModuleFile t dir := by
  simp only [hasModuleFile, h.present, t.shows.present]

theorem findModuleRoots_reads (h : Reads s t) (folder : Path) :
    findModuleRoots folder s = ((findModuleRoots folder t).1, s) := by
  have hroots : hasModuleFile s = hasModuleFile t := funext (hasModuleFile_reads h)
  have hwalk := congrArg Prod.snd (t.reads.walk (fun name => isHidden name || name == vendorDir) folder)
  unfold findModuleRoots
  rw [h.walk]
  rcases hw : FileSystem.walk (fun name => isHidden name || name == vendorDir) folder t with ⟨e | ds, t'⟩
  · rfl
  · rw [hw] at hwalk
    simp only at hwalk
    simp only [hroots, hwalk]

theorem findingsBelow_reads (h : Reads s t) (depth : Nat) (dir : Path) :
    findingsBelow depth dir s = ((findingsBelow depth dir t).1, s) := by
  induction depth generalizing dir with
  | zero => rfl
  | succ depth ih =>
    have hman : (hasLegacyManifest s dir || hasVendorDir s dir) = (hasLegacyManifest t dir || hasVendorDir t dir) := by
      simp only [hasLegacyManifest, hasVendorDir, h.present, t.shows.present]
    simp only [findingsBelow, hasModuleFile_reads h, hman, h.list, t.shows.list]
    split
    · rfl
    split
    · rfl
    cases t.list dir with
    | error e => rfl
    | ok es =>
      simp only [collect_reads (findingsBelow_state t.shows depth) ih]
      rcases collect (findingsBelow depth) (subdirectories isHidden dir es) t with ⟨e | found, _⟩ <;> rfl

theorem findUncovered_reads (h : Reads s t) (folder : Path) :
    findUncovered folder s = ((findUncovered folder t).1, s) := by
  unfold findUncovered
  rw [findingsBelow_reads h, h.maxDepth]
  rcases findingsBelow (FileSystem.maxDepth t) folder t with ⟨e | found, _⟩ <;> rfl

theorem listOrEmpty_reads (h : Reads s t) (dir : Path) : listOrEmpty dir s = ((listOrEmpty dir t).1, s) := by
  unfold listOrEmpty
  rw [h.list, t.shows.list]
  cases t.list dir <;> rfl

theorem ownComment?_reads (h : Reads s t) (dir : Path) (es : List Entry) :
    ownComment? s dir es = ownComment? t dir es := by
  have hread : ∀ p, FileSystem.read s p = FileSystem.read t p := h.read
  simp only [ownComment?, fileComment?, hread]

theorem firstBelow?_reads (h : Reads s t) (ds : List Path) : firstBelow? ds s = ((firstBelow? ds t).1, s) := by
  induction ds with
  | nil => rfl
  | cons d ds ih =>
    have hst := congrArg Prod.snd (listOrEmpty_reads t.reads d)
    simp only [firstBelow?, listOrEmpty_reads h, ownComment?_reads h, hst]
    split
    · rfl
    · exact ih

theorem manifestPath?_reads (h : Reads s t) (file : Path) (names : List String) :
    manifestPath? s file names = manifestPath? t file names := by
  have hread : FileSystem.read s file = FileSystem.read t file := h.read file
  rw [manifestPath?, manifestPath?, hread]

theorem modulePath_reads (h : Reads s t) (folder : Path) : modulePath folder s = ((modulePath folder t).1, s) := by
  have hst := congrArg Prod.snd (listOrEmpty_reads t.reads folder)
  have hdeclared : declaredPath? folder s = ((declaredPath? folder t).1, s) := by
    simp only [declaredPath?, listOrEmpty_reads h, ownComment?_reads h, hst]
    cases ownComment? t folder (listOrEmpty folder t).1 with
    | some path => rfl
    | none =>
      have hs := firstBelow?_reads h (((listOrEmpty folder t).1.filter (·.isDir)).map fun e => folder.join e.name)
      have ht := firstBelow?_reads t.reads (((listOrEmpty folder t).1.filter (·.isDir)).map fun e => folder.join e.name)
      generalize (firstBelow? _ t).1 = first at hs ht
      simp only [hs, ht]
      cases first with
      | some path => rfl
      | none => simp only [godepsPath?, vendorPath?, manifestPath?_reads h]
  unfold modulePath
  rw [hdeclared]
  rcases declaredPath? folder t with ⟨_ | path, _⟩ <;> rfl

end Module

/-! ## Trees on which writing may fail -/

/-- The files are those of the tree, and only writing and removing can fail. -/
structure Faulty.Steady (f : Faulty) : Prop where
  special : f.special = []
  mounts : f.mounts = []
  flaky : f.flaky = []
  failRead : f.failRead = []

theorem sortEntries_of_pairwise {es : List Entry} (h : es.Pairwise fun a b => a.name ≤ b.name) :
    sortEntries es = es := by
  induction es with
  | nil => rfl
  | cons e es ih =>
    obtain ⟨hall, hes⟩ := List.pairwise_cons.mp h
    rw [sortEntries, ih hes]
    cases es with
    | nil => rfl
    | cons x xs => rw [insertEntry, if_pos (hall x (List.mem_cons_self ..))]

theorem Faulty.Steady.list_eq {f : Faulty} (h : f.Steady) (dir : Path) : f.list dir = (f.tree.list dir, f) := by
  have hvisit : f.visit dir.segments = f := by
    obtain ⟨tree, special, mounts, flaky, failRead, failWrite, failRemove, log⟩ := f
    simp [visit, show flaky = [] from h.flaky]
  unfold list
  rw [h.flaky, hvisit]
  simp only [List.lookup_nil, reduceCtorEq, if_false]
  cases hl : f.tree.list dir with
  | error e => rfl
  | ok es =>
    -- the listing of the tree is sorted already, and nothing comes to it
    obtain ⟨_, _, rfl⟩ := Tree.list_eq_ok.mp hl
    simp [entries, h.mounts, h.special, sortEntries_of_pairwise (sortEntries_pairwise _), Tree.entries]

theorem Faulty.Steady.maxDepth_eq {f : Faulty} (h : f.Steady) : f.maxDepth = f.tree.dirs.length + 1 := by
  simp [maxDepth, h.flaky]

theorem Faulty.Steady.reads {w : Workbench Faulty} (h : w.files.Steady) : Reads w w.files.tree := by
  refine ⟨⟨fun dir => ?_, fun p => ?_⟩, fun p => ?_, h.maxDepth_eq, fun skip root => ?_⟩
  · have hl : FileSystem.list dir w = Workbench.onFiles (w.files.list dir) w := rfl
    rw [hl, h.list_eq]
    rfl
  · have hp : FileSystem.present w p = (w.files.tree.has p || w.files.special.contains p.segments) := rfl
    rw [hp, h.special]
    simp
  · have hr : FileSystem.read w p =
        if w.files.failRead.contains p.segments then .error (.denied p) else w.files.tree.read p := rfl
    rw [hr, h.failRead]
    simp
  · have hw : FileSystem.walk skip root w = Workbench.onFiles
        (walkBelow (fun dir f => f.list dir) skip w.files.maxDepth root w.files) w := rfl
    rw [hw, walkBelow_reads h.list_eq, h.maxDepth_eq]
    rfl

theorem Workbench.reads (w : Workbench Tree) : Reads w w.files :=
  ⟨w.shows, fun _ => rfl, rfl, fun skip root => walk_eq w skip root⟩

namespace Module

/-! ## Creations that are tried -/

/-- The creation of a root under the module path that the files of the tree give it. -/
def creationOf (t : Tree) (r : ModuleRoot) : Creation := ⟨r.path, (modulePath r.path t).1⟩

/-- The write that makes the module, as it is logged. -/
def Creation.logged (c : Creation) (done : Bool) : Change :=
  .write (c.dir.join moduleFile) (Text.bytesOf (directive c.modulePath)) done

/-- A module file cannot be written in the directory: that fails, or there is no such directory. -/
def cannotWrite (f : Faulty) (dir : Segments) : Bool := f.failWrite.contains (moduleFileOf dir) || !f.tree.dirs.contains dir

/-- The go command refuses to make the module; without it, there is no module file and none can be written. -/
def fails (install : Bool) (w : Workbench Faulty) (c : Creation) : Bool :=
  if install then w.go.refuses c.call
  else !w.files.tree.isModule c.dir.segments && cannotWrite w.files c.dir.segments

/-- Trying the creation writes a module file. -/
def writes (install : Bool) (w : Workbench Faulty) (c : Creation) : Bool :=
  !install && !w.files.tree.isModule c.dir.segments && !cannotWrite w.files c.dir.segments

/-- The state after the creation was tried: with the go command, the call is on record; without it, an attempt to
    write where there is no module file, and that file if it could be written. -/
def attempt (install : Bool) (w : Workbench Faulty) (c : Creation) : Workbench Faulty :=
  if install then { w with go := { w.go with calls := w.go.calls ++ [c.call] } }
  else if w.files.tree.isModule c.dir.segments then w
  else
    { w with
      files := { w.files with
        tree := if cannotWrite w.files c.dir.segments then w.files.tree else withFiles w.files.tree [c]
        log := w.files.log ++ [c.logged !(cannotWrite w.files c.dir.segments)] } }

/-- The state after the creations were tried in order. -/
def tried (install : Bool) (w : Workbench Faulty) (cs : List Creation) : Workbench Faulty :=
  cs.foldl (attempt install) w

/-- Those of the creations whose module files are written when they are tried in order. -/
def written (install : Bool) : Workbench Faulty → List Creation → List Creation
  | _, [] => []
  | w, c :: cs =>
    if writes install w c then c :: written install (attempt install w c) cs
    else written install (attempt install w c) cs

variable {install : Bool} {policy : Policy} {w : Workbench Faulty}

theorem steady_attempt (hw : w.files.Steady) (install : Bool) (c : Creation) :
    (attempt install w c).files.Steady := by
  unfold attempt
  split
  · exact hw
  split
  · exact hw
  · exact ⟨hw.special, hw.mounts, hw.flaky, hw.failRead⟩

/-- The tree has the module file in addition, or is the same. -/
theorem tree_attempt (install : Bool) (w : Workbench Faulty) (c : Creation) :
    (attempt install w c).files.tree =
      if writes install w c then withFiles w.files.tree [c] else w.files.tree := by
  unfold attempt writes
  cases install
  · cases w.files.tree.isModule c.dir.segments
    · cases cannotWrite w.files c.dir.segments <;> rfl
    · rfl
  · rfl

@[simp] theorem attempt_refuses (install : Bool) (w : Workbench Faulty) (c : Creation) :
    (attempt install w c).go.refuses = w.go.refuses := by
  unfold attempt
  split
  · rfl
  split <;> rfl

@[simp] theorem cannotWrite_attempt (install : Bool) (w : Workbench Faulty) (c : Creation) (dir : Segments) :
    cannotWrite (attempt install w c).files dir = cannotWrite w.files dir := by
  have hdirs : (attempt install w c).files.tree.dirs = w.files.tree.dirs := by
    rw [tree_attempt]
    split <;> rfl
  have hfail : (attempt install w c).files.failWrite = w.files.failWrite := by
    unfold attempt
    split
    · rfl
    split <;> rfl
  rw [cannotWrite, cannotWrite, hdirs, hfail]

theorem withFiles_closed {t : Tree} (ht : t.Closed) {cs : List Creation} (hcs : ∀ c ∈ cs, c.dir.segments ∈ t.dirs) :
    (withFiles t cs).Closed := by
  have hmem : ∀ f ∈ (withFiles t cs).files, f ∈ t.files ∨ ∃ c ∈ cs, f = c.file := by
    intro f hf
    rcases List.mem_append.mp hf with hf | hf
    · exact Or.inl hf
    · obtain ⟨c, hc, rfl⟩ := List.mem_map.mp hf
      exact Or.inr ⟨c, hc, rfl⟩
  refine ⟨ht.once, ht.dirsProper, ht.above, ?_, ?_⟩
  · intro f hf
    rcases hmem f hf with hf | ⟨c, _, rfl⟩
    · exact ht.filesProper f hf
    · rw [Creation.file, ← segments_moduleFile]
      exact Path.proper_segments _
  · intro f hf d n e hd
    rcases hmem f hf with hf | ⟨c, hc, rfl⟩
    · exact ht.filesIn f hf d n e hd
    · obtain ⟨rfl, _⟩ := List.append_inj' e rfl
      exact hcs c hc

theorem dir_of_writes {c : Creation} (h : writes install w c = true) : c.dir.segments ∈ w.files.tree.dirs := by
  simp only [writes, cannotWrite, Bool.and_eq_true, Bool.not_eq_true', Bool.or_eq_false_iff, Bool.not_eq_false'] at h
  exact List.contains_iff_mem.mp h.2.2

theorem closed_attempt (ht : w.files.tree.Closed) (install : Bool) (c : Creation) :
    (attempt install w c).files.tree.Closed := by
  rw [tree_attempt]
  split
  · exact withFiles_closed ht fun d hd => List.mem_singleton.mp hd ▸ dir_of_writes ‹_›
  · exact ht

theorem isModule_withFiles {t : Tree} {cs : List Creation} {q : Segments} :
    (withFiles t cs).isModule q = true ↔ t.isModule q = true ∨ ∃ c ∈ cs, c.dir.segments = q := by
  simp only [Tree.isModule, Tree.hasAt, Bool.or_eq_true, Tree.contents?_isSome]
  constructor
  · intro h
    rcases h with ⟨f, hf, e⟩ | h
    · rcases List.mem_append.mp hf with hf | hf
      · exact Or.inl (Or.inl ⟨f, hf, e⟩)
      · obtain ⟨c, hc, rfl⟩ := List.mem_map.mp hf
        exact Or.inr ⟨c, hc, moduleFileOf_inj e⟩
    · exact Or.inl (Or.inr h)
  · intro h
    rcases h with (⟨f, hf, e⟩ | h) | ⟨c, hc, rfl⟩
    · exact Or.inl ⟨f, List.mem_append_left _ hf, e⟩
    · exact Or.inr h
    · exact Or.inl ⟨c.file, List.mem_append_right _ (List.mem_map_of_mem hc), rfl⟩

theorem withFiles_alike (t : Tree) (cs : List Creation) : t.Alike isOther (withFiles t cs) := by
  refine ⟨rfl, rfl, ?_⟩
  have hnone : (cs.map Creation.file).filter (fun f => isOther f.1) = [] := by
    refine List.filter_eq_nil_iff.mpr fun f hf => ?_
    obtain ⟨c, _, rfl⟩ := List.mem_map.mp hf
    simp [Creation.file, moduleFileOf, isOther]
  simp only [withFiles, List.filter_append, hnone, List.append_nil]

theorem modulePath_withFiles {t : Tree} (ht : t.Closed) (cs : List Creation) (dir : Path) :
    (modulePath dir (withFiles t cs)).1 = (modulePath dir t).1 := by
  have h := @modulePath_alike isOther ⟨t, ⟨[], []⟩⟩ ⟨withFiles t cs, ⟨[], []⟩⟩ dir (withFiles_alike t cs) ht
    (seesSources_isOther dir.segments)
  rwa [modulePath_reads (Workbench.reads _), modulePath_reads (Workbench.reads _)] at h

/-- Trying a creation makes no other one fail, and none succeed: a module file that it leaves is one that could
    be written. -/
@[simp] theorem fails_attempt (install' : Bool) (w : Workbench Faulty) (c d : Creation) :
    fails install (attempt install' w c) d = fails install w d := by
  unfold fails
  rw [attempt_refuses, cannotWrite_attempt, tree_attempt]
  by_cases hw : writes install' w c = true
  · have hcan : cannotWrite w.files c.dir.segments = false := by
      simp only [writes, Bool.and_eq_true, Bool.not_eq_true'] at hw
      exact hw.2
    rw [if_pos hw]
    by_cases hd : c.dir.segments = d.dir.segments
    · rw [← hd, hcan]
      simp
    · have hsame : (withFiles w.files.tree [c]).isModule d.dir.segments = w.files.tree.isModule d.dir.segments := by
        rw [Bool.eq_iff_iff, isModule_withFiles]
        simp [hd]
      rw [hsame]
  · rw [if_neg hw]

theorem creationOf_attempt (ht : w.files.tree.Closed) (install : Bool) (c : Creation) :
    creationOf (attempt install w c).files.tree = creationOf w.files.tree := by
  funext r
  rw [tree_attempt]
  split
  · rw [creationOf, creationOf, modulePath_withFiles ht]
  · rfl

/-- Calling the go command tries the creation. -/
theorem modInit_tried (w : Workbench Faulty) (c : Creation) :
    ∃ e, Toolchain.modInit policy.config c.dir c.modulePath w =
      (if fails true w c then .error e else .ok (), attempt true w c) := by
  refine ⟨.refused ("mod init " ++ c.modulePath) c.dir, ?_⟩
  simp only [Toolchain.modInit, run_eq]
  cases href : w.go.refuses (callIn c.dir ("mod init " ++ c.modulePath)) <;>
    simp [fails, attempt, Creation.call, href]

/-- So does writing the module file. -/
theorem writeModuleFile_tried (hw : w.files.Steady) {c : Creation} (h0 : c.dir.segments ≠ []) :
    ∃ e, writeModuleFile c.dir c.modulePath w =
      (if fails false w c then .error e else .ok (writes false w c), attempt false w c) := by
  have hmod : hasModuleFile w c.dir = w.files.tree.isModule c.dir.segments := hasModuleFile_eq hw.reads.toShows _
  cases hm : w.files.tree.isModule c.dir.segments with
  | true => exact ⟨.denied c.dir, by simp [writeModuleFile, hmod, fails, attempt, writes, hm]⟩
  | false =>
  have hseg := segments_moduleFile c.dir
  cases hf : w.files.failWrite.contains (moduleFileOf c.dir.segments) with
  | true =>
    refine ⟨.denied (c.dir.join moduleFile), ?_⟩
    have hcan : cannotWrite w.files c.dir.segments = true := by rw [cannotWrite, hf, Bool.true_or]
    simp only [Bool.false_eq_true, if_false, writeModuleFile, hmod, FileSystem.write, hseg, hf, if_true, Faulty.logged,
      Workbench.onFiles, fails, attempt, hm, hcan, Bool.not_false, Bool.and_self, Creation.logged, Bool.not_true]
  | false =>
  by_cases hdir : c.dir.segments ∈ w.files.tree.dirs
  · have hwrite := Tree.write_eq_ok hseg h0 hdir (Text.bytesOf (directive c.modulePath))
    rw [putFile_new hm] at hwrite
    have hcan : cannotWrite w.files c.dir.segments = false := by
      rw [cannotWrite, hf, List.contains_iff_mem.mpr hdir]
      rfl
    refine ⟨.denied c.dir, ?_⟩
    simp only [Bool.false_eq_true, if_false, writeModuleFile, hmod, FileSystem.write, hseg, hf, hwrite, Faulty.logged,
      Workbench.onFiles, fails, writes, attempt, hm, hcan, Bool.not_false, Bool.and_false, Bool.and_self,
      Creation.logged]
  · have hcan : cannotWrite w.files c.dir.segments = true := by simp [cannotWrite, hdir]
    cases hwrite : w.files.tree.write (c.dir.join moduleFile) (Text.bytesOf (directive c.modulePath)) with
    | ok t => exact absurd ((Tree.write_ok_iff hwrite).2 _ _ hseg h0) hdir
    | error e =>
      refine ⟨e, ?_⟩
      simp only [Bool.false_eq_true, if_false, writeModuleFile, hmod, FileSystem.write, hseg, hf, hwrite, Faulty.logged,
        Workbench.onFiles, fails, attempt, hm, hcan, Bool.not_false, Bool.and_self, if_true, Creation.logged,
        Bool.not_true]

/-- Creating a root tries its creation, under the module path that the files give it. -/
theorem createModule_tried (hw : w.files.Steady) {r : ModuleRoot} (h0 : r.path.segments ≠ []) :
    ∃ e, createModule policy r.path w =
      (if fails policy.install w (creationOf w.files.tree r) then .error e
        else .ok (writes policy.install w (creationOf w.files.tree r)),
        attempt policy.install w (creationOf w.files.tree r)) := by
  simp only [createModule, modulePath_reads hw.reads]
  cases hi : policy.install with
  | true =>
    obtain ⟨e, h⟩ := @modInit_tried policy w (creationOf w.files.tree r)
    refine ⟨.go e, ?_⟩
    rw [creationOf] at h ⊢
    rw [if_pos rfl, h]
    cases fails true w (⟨r.path, (modulePath r.path w.files.tree).1⟩ : Creation) <;> rfl
  | false =>
    obtain ⟨e, h⟩ := writeModuleFile_tried hw (c := creationOf w.files.tree r) h0
    refine ⟨.files e, ?_⟩
    rw [creationOf] at h ⊢
    rw [if_neg Bool.false_ne_true, h]
    cases fails false w (⟨r.path, (modulePath r.path w.files.tree).1⟩ : Creation) <;> rfl

/-- All roots are tried in order, each under the module path that the files gave it at the start, and those
    are left out whose creation fails. -/
theorem createAll_tried {rs : List ModuleRoot} {w : Workbench Faulty} (hw : w.files.Steady) (ht : w.files.tree.Closed)
    (hrs : ∀ r ∈ rs, r.path.segments ≠ []) :
    createAll policy rs w =
      (rs.filter fun r => !fails policy.install w (creationOf w.files.tree r),
        (written policy.install w (rs.map (creationOf w.files.tree))).map (·.dir),
        tried policy.install w (rs.map (creationOf w.files.tree))) := by
  induction rs generalizing w with
  | nil => rfl
  | cons r rs ih =>
    obtain ⟨e, hcreate⟩ := @createModule_tried policy w hw r (hrs r (List.mem_cons_self ..))
    have hrest := @ih (attempt policy.install w (creationOf w.files.tree r)) (steady_attempt hw _ _)
      (closed_attempt ht _ _) fun q hq => hrs q (List.mem_cons_of_mem _ hq)
    rw [creationOf_attempt ht] at hrest
    simp only [fails_attempt] at hrest
    simp only [createAll, hcreate]
    cases hf : fails policy.install w (creationOf w.files.tree r) with
    | true =>
      have hwrites : writes policy.install w (creationOf w.files.tree r) = false := by
        cases hi : policy.install <;> simp_all [fails, writes]
      simp [hrest, hf, written, hwrites, tried]
    | false =>
      simp only [Bool.false_eq_true, if_false, hrest, List.filter_cons, hf, Bool.not_false, if_true, List.map_cons,
        written, tried, List.foldl_cons]
      cases writes policy.install w (creationOf w.files.tree r) <;> rfl

/-! ## Scans -/

/-- The state in which writing these files fails, and the go command refuses the calls that begin so. -/
def failing (w : Workbench Faulty) (writes : List Segments) (calls : List String) : Workbench Faulty :=
  ⟨{ w.files with failWrite := writes }, { w.go with refusing := calls }⟩

theorem steady_failing (hw : w.files.Steady) (writes : List Segments) (calls : List String) :
    (failing w writes calls).files.Steady := ⟨hw.special, hw.mounts, hw.flaky, hw.failRead⟩

/-- What fails where nothing else does, fails. -/
theorem fails_failing {c : Creation} (h : fails install (failing w [] []) c = true) (refused : List Segments)
    (calls : List String) : fails install (failing w refused calls) c = true := by
  cases install with
  | true => simp [fails, failing, GoStub.refuses] at h
  | false =>
    have hm : w.files.tree.isModule c.dir.segments = false ∧ c.dir.segments ∉ w.files.tree.dirs := by
      simpa [fails, failing, cannotWrite] using h
    simp [fails, failing, cannotWrite, hm.1, hm.2]

theorem origin_pendingRoots {folder : Path} {u : Uncovered} : ∀ r ∈ pendingRoots folder u, r.origin ≠ .existing := by
  intro r hr
  rcases List.mem_append.mp hr with hr | hr
  · obtain ⟨d, _, rfl⟩ := List.mem_map.mp hr
    simp
  · rw [origin_sourceRoots r hr]
    simp

/-- Where the walk succeeds, so does the second pass. -/
theorem finds_of_findModuleRoots {t : Tree} (ht : t.Closed) {folder : Path} {ds : List Path}
    (h : (findModuleRoots folder t).1 = .ok ds) :
    ∃ found, Finds t t folder (FileSystem.maxDepth t) found ∧ (findUncovered folder t).1 = .ok (.ofFindings found) := by
  rcases @findModuleRoots_cases ⟨t, ⟨[], []⟩⟩ ht folder with ⟨_, e, he⟩ | ⟨hread, ds', hds, _⟩
  · rw [findModuleRoots_reads (Workbench.reads _), h] at he
    cases he
  · obtain ⟨found, hfound⟩ := findingsBelow_ok t.shows.list t.shows hds
    have hpass : findingsBelow (FileSystem.maxDepth t) folder t = (.ok found, t) := hfound
    exact ⟨found, ⟨t.shows, ht, hread.isDir, hpass⟩, by simp only [findUncovered, hpass]⟩

/-- With the same files, a scan fails alike whatever else fails, or else tries to create the same roots; those
    of a folder that is text are directories. -/
theorem scan_tried (hw : w.files.Steady) (ht : w.files.tree.Closed) (folder : Path) :
    (∃ e, ∀ policy refused calls, scan policy folder (failing w refused calls) =
        (.error e, failing w refused calls)) ∨
      ∃ existing missing : List ModuleRoot, (∀ r ∈ existing, r.origin = .existing) ∧
        (∀ r ∈ missing, r.origin ≠ .existing) ∧
        (folder.IsText → ∀ r ∈ missing, r.path.segments ∈ w.files.tree.dirs) ∧ ∀ policy refused calls,
          scan policy folder (failing w refused calls) =
            (.ok (existing ++ missing.filter fun r =>
                !fails policy.install (failing w refused calls) (creationOf w.files.tree r),
              (written policy.install (failing w refused calls) (missing.map (creationOf w.files.tree))).map (·.dir)),
              tried policy.install (failing w refused calls) (missing.map (creationOf w.files.tree))) := by
  have hreads : ∀ refused calls, Reads (failing w refused calls) w.files.tree :=
    fun refused calls => (steady_failing hw refused calls).reads
  cases hroots : (findModuleRoots folder w.files.tree).1 with
  | error e =>
    refine Or.inl ⟨e, ?_⟩
    intro policy refused calls
    simp only [scan, findModuleRoots_reads (hreads refused calls), hroots]
  | ok ds =>
    obtain ⟨found, hfinds, hu⟩ := finds_of_findModuleRoots ht hroots
    refine Or.inr ⟨ds.map fun d => ⟨d, .existing⟩, pendingRoots folder (.ofFindings found), ?_, origin_pendingRoots,
      fun htext r hr => (hfinds.pending_dirs htext r hr).2.1, ?_⟩
    · intro r hr
      obtain ⟨d, _, rfl⟩ := List.mem_map.mp hr
      rfl
    · intro policy refused calls
      have hcreate := @createAll_tried policy _ (failing w refused calls) (steady_failing hw refused calls) ht
        (pendingRoots_ne_nil hfinds)
      simp only [scan, findModuleRoots_reads (hreads refused calls), hroots, findUncovered_reads (hreads refused calls),
        hu, hcreate]
      rfl

/-- A creation that fails takes its own root away and nothing else. There is one list of creations, each under the
    module path that the files give it, and whatever fails, all of them are tried in that order: where nothing else
    fails, their roots are created, all of them if the folder is text (in another folder the directory that sources
    share may not be there). The scan fails as it does without failures or returns the same roots less those whose
    creation failed, and the manager notes exactly the directories whose module files were written. -/
theorem scan_drops_failed (hw : w.files.Steady) (ht : w.files.tree.Built) (m : Manager) (folder : Path) :
    ∃ tries : List Creation,
      (∀ roots, (m.scan folder (failing w [] [])).1 = .ok roots →
        (roots.filter (·.origin ≠ .existing)).map (creationOf w.files.tree) =
          tries.filter fun c => !fails m.policy.install (failing w [] []) c) ∧
      (folder.IsText → ∀ c ∈ tries, fails m.policy.install (failing w [] []) c = false) ∧
      ∀ refused calls,
        (m.scan folder (failing w refused calls)).1 = (m.scan folder (failing w [] [])).1.map (·.filter fun r =>
          r.origin = .existing || !fails m.policy.install (failing w refused calls) (creationOf w.files.tree r)) ∧
        (m.scan folder (failing w refused calls)).2.1 = { m with
          cleanup := m.cleanup ++ (written m.policy.install (failing w refused calls) tries).map (·.dir) } ∧
        (m.scan folder (failing w refused calls)).2.2 = tried m.policy.install (failing w refused calls) tries := by
  rcases scan_tried hw ht.closed folder with ⟨e, he⟩ | ⟨existing, missing, hold, hnew, hdirs, hscan⟩
  · refine ⟨[], ?_, by simp, ?_⟩
    · intro roots h
      simp [Manager.scan, he] at h
    · intro refused calls
      simp [Manager.scan, he, written, tried, Except.map]
  · have hkept : existing.filter (·.origin ≠ .existing) = [] := by
      refine List.filter_eq_nil_iff.mpr ?_
      intro r hr
      simp [hold r hr]
    have hfree : (m.scan folder (failing w [] [])).1 = .ok (existing ++ missing.filter fun r =>
        !fails m.policy.install (failing w [] []) (creationOf w.files.tree r)) := by
      simp [Manager.scan, hscan]
    have hmade : ∀ kept : ModuleRoot → Bool, (missing.filter kept).filter (·.origin ≠ .existing) = missing.filter kept := by
      intro kept
      refine List.filter_eq_self.mpr ?_
      intro r hr
      simp [hnew r (List.mem_filter.mp hr).1]
    rw [hfree]
    refine ⟨missing.map (creationOf w.files.tree), ?_, ?_, ?_⟩
    · intro roots h
      rw [← Except.ok.inj h, List.filter_append, hkept, hmade, List.nil_append, List.filter_map]
      rfl
    · intro htext c hc
      obtain ⟨r, hr, rfl⟩ := List.mem_map.mp hc
      have hdir := hdirs htext r hr
      cases m.policy.install
      · simp [fails, failing, cannotWrite, creationOf, hdir]
      · simp [fails, failing, GoStub.refuses]
    · intro refused calls
      refine ⟨?_, ?_, ?_⟩
      · have h1 : existing.filter (fun r => r.origin = .existing ||
            !fails m.policy.install (failing w refused calls) (creationOf w.files.tree r)) = existing := by
          refine List.filter_eq_self.mpr ?_
          intro r hr
          simp [hold r hr]
        have h2 : (missing.filter fun r =>
              !fails m.policy.install (failing w [] []) (creationOf w.files.tree r)).filter (fun r =>
              r.origin = .existing || !fails m.policy.install (failing w refused calls) (creationOf w.files.tree r)) =
            missing.filter fun r => !fails m.policy.install (failing w refused calls) (creationOf w.files.tree r) := by
          rw [List.filter_filter]
          refine List.filter_congr ?_
          intro r hr
          cases hf : fails m.policy.install (failing w [] []) (creationOf w.files.tree r) with
          | true => simp [fails_failing hf]
          | false => simp [hnew r hr]
        simp only [Manager.scan, hscan, Except.map, List.filter_append, h1, h2]
      · simp only [Manager.scan, hscan]
      · simp only [Manager.scan, hscan]

/-- A directory with an old manifest, and a source outside it. -/
def halfLegacy : Workbench Faulty :=
  ⟨.ofTree ((Tree.empty.addFile ⟨"/w/o/glide.lock"⟩ .empty).addFile ⟨"/w/a.go"⟩ .empty), ⟨[], []⟩⟩

theorem scan_drops_failed_halfLegacy : halfLegacy.files.Steady ∧ halfLegacy.files.tree.Built ∧
    ((Manager.new ⟨false, .default⟩).scan ⟨"/w"⟩ (failing halfLegacy [["/", "w", "o", "go.mod"]] [])).1 =
      .ok [⟨⟨"/w"⟩, .synthetic⟩] := by
  have hsteady : halfLegacy.files.Steady := ⟨rfl, rfl, rfl, rfl⟩
  have hbuilt : halfLegacy.files.tree.Built := .addFile _ _ (.addFile _ _ .empty)
  have hfree : ((Manager.new ⟨false, .default⟩).scan ⟨"/w"⟩ (failing halfLegacy [] [])).1 =
      .ok [⟨⟨"/w/o"⟩, .manifest⟩, ⟨⟨"/w"⟩, .synthetic⟩] := rfl
  obtain ⟨tries, _, _, htries⟩ := scan_drops_failed hsteady hbuilt (.new ⟨false, .default⟩) ⟨"/w"⟩
  refine ⟨hsteady, hbuilt, ?_⟩
  rw [(htries [["/", "w", "o", "go.mod"]] []).1, hfree]
  rfl

end Module

end GoAtlas
