/-
  GoAtlas.Proofs.Creation — the two ways of creating modules.

  Without the go command a scan writes a module file for each root that is missing; with it, it calls the
  command there. Either way the module path comes from the folder's own files, none of which is a module
  file, so what was written before does not matter.
  - `createAll_manual` / `createAll_toolchain`: what either way does to the files and to the calls, both
    read off the same plan of directories and module paths. Of the plan, those are written that are `fresh`.
  - `scan_modes_agree`: with a go command that refuses nothing, both ways return the same roots, and the
    calls of the one are, in order, the files of the other.
  - `scan_modes_differ_strayFolder`: a folder whose name is no text, where they return different roots.
-/
import GoAtlas.Proofs.Alike
import GoAtlas.Proofs.Coverage

namespace GoAtlas.Module

/-- A call of the go command in a directory, as it is recorded. -/
def callIn (dir : Path) (args : String) : String := dir.shown ++ ": go " ++ args

/-- A module to be made: where, and under which module path. -/
structure Creation where
  dir : Path
  modulePath : String
  deriving DecidableEq, Repr

namespace Creation

/-- The contents of the module file that makes it: a single directive. -/
def text (c : Creation) : String := "module " ++ c.modulePath

/-- The module file that makes it, as a tree keeps it. -/
def file (c : Creation) : Segments × Text.Bytes := (moduleFileOf c.dir.segments, Text.bytesOf c.text)

/-- The call of the go command that makes it. -/
def call (c : Creation) : String := callIn c.dir ("mod init " ++ c.modulePath)

end Creation

/-- What is to be made for the roots, as the files are now. -/
def plan (w : Workbench Tree) (rs : List ModuleRoot) : List Creation :=
  rs.map fun r => ⟨r.path, (modulePath r.path w).1⟩

/-- The tree with the module files in addition. -/
def withFiles (t : Tree) (cs : List Creation) : Tree := { t with files := t.files ++ cs.map Creation.file }

/-- Of the creations in the same directory, the first. -/
def firstOfEach : List Creation → List Creation
  | [] => []
  | c :: cs => c :: (firstOfEach cs).filter fun d => d.dir.segments != c.dir.segments

/-- The creations that write a module file, tried in order: the directory is there, and has none by then. -/
def fresh (t : Tree) (cs : List Creation) : List Creation :=
  firstOfEach (cs.filter fun c => t.dirs.contains c.dir.segments && !t.isModule c.dir.segments)

theorem firstOfEach_sublist (cs : List Creation) : (firstOfEach cs).Sublist cs := by
  induction cs with
  | nil => exact .slnil
  | cons c cs ih => exact (List.filter_sublist.trans ih).cons_cons c

theorem fresh_sublist (t : Tree) (cs : List Creation) : (fresh t cs).Sublist cs :=
  (firstOfEach_sublist _).trans List.filter_sublist

/-- Leaving out directories leaves out their first creations. -/
theorem firstOfEach_filter (p : Segments → Bool) (cs : List Creation) :
    firstOfEach (cs.filter fun c => p c.dir.segments) = (firstOfEach cs).filter fun c => p c.dir.segments := by
  induction cs with
  | nil => rfl
  | cons c cs ih =>
    cases hp : p c.dir.segments with
    | true =>
      rw [List.filter_cons_of_pos (by simpa using hp), firstOfEach, ih, firstOfEach,
        List.filter_cons_of_pos (by simpa using hp), List.filter_filter, List.filter_filter]
      simp only [Bool.and_comm]
    | false =>
      rw [List.filter_cons_of_neg (by simp [hp]), ih, firstOfEach, List.filter_cons_of_neg (by simp [hp]),
        List.filter_filter]
      refine List.filter_congr fun d _ => ?_
      by_cases e : d.dir.segments = c.dir.segments
      · simp [e, hp]
      · simp [e]

theorem firstOfEach_eq_self {cs : List Creation} (h : cs.Pairwise fun a b => a.dir.segments ≠ b.dir.segments) :
    firstOfEach cs = cs := by
  induction cs with
  | nil => rfl
  | cons c cs ih =>
    obtain ⟨hc, hcs⟩ := List.pairwise_cons.mp h
    rw [firstOfEach, ih hcs, List.filter_eq_self.mpr fun d hd => bne_iff_ne.mpr (hc d hd).symm]

/-- The state with the calls in addition. -/
def withCalls (w : Workbench Tree) (calls : List String) : Workbench Tree :=
  { w with go := { w.go with calls := w.go.calls ++ calls } }

theorem withFiles_nil (t : Tree) : withFiles t [] = t := by simp [withFiles]

theorem withFiles_append (t : Tree) (as bs : List Creation) :
    withFiles (withFiles t as) bs = withFiles t (as ++ bs) := by simp [withFiles]

theorem withCalls_nil (w : Workbench Tree) : withCalls w [] = w := by simp [withCalls]

theorem withCalls_append (w : Workbench Tree) (as bs : List String) :
    withCalls (withCalls w as) bs = withCalls w (as ++ bs) := by simp [withCalls]

/-- A call is recorded, and refused by how it begins. -/
theorem run_eq (g : GoStub) (dir : Path) (args : String) : g.run dir args =
    (if g.refuses (callIn dir args) then .error (.refused args dir) else .ok (),
      { g with calls := g.calls ++ [callIn dir args] }) := by
  unfold callIn
  cases h : g.refuses (dir.shown ++ ": go " ++ args) <;> simp [GoStub.run, h]

variable {policy : Policy} {w w' : Workbench Tree}

/-- A module file that is new comes last. -/
theorem putFile_new {t : Tree} {dir : Path} (hm : t.isModule dir.segments = false) (name : String) :
    t.putFile (dir.join moduleFile) (Text.bytesOf (directive name)) = withFiles t [⟨dir, name⟩] := by
  unfold Tree.putFile withFiles
  rw [segments_moduleFile]
  have hold : t.files.filter (fun f => f.1 != moduleFileOf dir.segments) = t.files := by
    refine List.filter_eq_self.mpr fun f hf => bne_iff_ne.mpr fun e => ?_
    have hc : (t.contents? (moduleFileOf dir.segments)).isSome = true := Tree.contents?_isSome.mpr ⟨f, hf, e⟩
    unfold Tree.isModule Tree.hasAt at hm
    rw [Bool.or_eq_false_iff] at hm
    rw [moduleFileOf, hm.1] at hc
    cases hc
  rw [hold]
  rfl

/-- The plan does not depend on files that its roots do not see. -/
theorem plan_alike {seen : Segments → Bool} (h : Tree.Alike seen w.files w'.files) (ht : w.files.Closed)
    {rs : List ModuleRoot} (hs : ∀ r ∈ rs, SeesSources seen r.path.segments) : plan w' rs = plan w rs := by
  refine List.map_congr_left fun r hr => ?_
  rw [modulePath_alike h ht (hs r hr)]

/-- With the go command, it is called, and its answer decides. -/
theorem createModule_toolchain (hp : policy.install = true) (dir : Path) (w : Workbench Tree) :
    createModule policy dir w =
      (if w.go.refuses (Creation.call ⟨dir, (modulePath dir w).1⟩) then
        .error (.go (.refused ("mod init " ++ (modulePath dir w).1) dir)) else .ok false,
        withCalls w [Creation.call ⟨dir, (modulePath dir w).1⟩]) := by
  simp only [createModule, modulePath_state, hp, if_true, Toolchain.modInit, run_eq]
  cases h : w.go.refuses (callIn dir ("mod init " ++ (modulePath dir w).1)) <;> simp [Creation.call, h, withCalls]

/-- Without it, the module file is written into a directory that has none. -/
theorem createModule_manual (hp : policy.install = false) {dir : Path} {w : Workbench Tree}
    (h0 : dir.segments ≠ []) (hdir : dir.segments ∈ w.files.dirs) :
    createModule policy dir w = if w.files.isModule dir.segments then (.ok false, w) else
      (.ok true, { w with files := withFiles w.files [⟨dir, (modulePath dir w).1⟩] }) := by
  cases hm : w.files.isModule dir.segments with
  | true => simp [createModule, modulePath_state, hp, writeModuleFile, hasModuleFile_eq w.shows, hm]
  | false =>
    have hok := createModule_of_dir hp h0 hdir
    rcases writeModuleFile_cases dir (modulePath dir w).1 w with ⟨result, hw, hne⟩ | ⟨_, _, hw⟩
    · rw [hm] at hok
      simp [createModule, modulePath_state, hp, hw] at hok
      cases result <;> simp_all
    · simp [createModule, modulePath_state, hp, hw, putFile_new hm]

theorem fresh_cons_old {t : Tree} {c : Creation}
    (h : t.dirs.contains c.dir.segments = false ∨ t.isModule c.dir.segments = true) (cs : List Creation) :
    fresh t (c :: cs) = fresh t cs := by
  have hpred : (t.dirs.contains c.dir.segments && !t.isModule c.dir.segments) = false := by
    rcases h with h | h <;> rw [h]
    · exact Bool.false_and _
    · exact Bool.and_false _
  rw [fresh, List.filter_cons, hpred, if_neg Bool.false_ne_true, fresh]

/-- A module file that is written makes later creations in its directory write none. -/
theorem fresh_cons_new {t : Tree} {c : Creation} (hdir : c.dir.segments ∈ t.dirs)
    (hm : t.isModule c.dir.segments = false) (cs : List Creation) :
    fresh t (c :: cs) = c :: fresh (withFiles t [c]) cs := by
  have hrest : (fun d : Creation => (withFiles t [c]).dirs.contains d.dir.segments &&
      !(withFiles t [c]).isModule d.dir.segments) = fun d => (d.dir.segments != c.dir.segments) &&
      (t.dirs.contains d.dir.segments && !t.isModule d.dir.segments) := by
    funext d
    have hput : withFiles t [c] = t.putFile (c.dir.join moduleFile) (Text.bytesOf (directive c.modulePath)) :=
      (putFile_new hm c.modulePath).symm
    rw [hput, Tree.isModule_putFile, Tree.putFile_dirs]
    by_cases e : d.dir.segments = c.dir.segments <;> simp [e]
  rw [fresh, List.filter_cons_of_pos (by simpa [hdir] using hm), firstOfEach,
    ← firstOfEach_filter fun q => q != c.dir.segments, List.filter_filter, fresh, hrest]

/-- Without the go command the planned module files are written, in order, where the directory is there and has none;
    a root whose directory is not there is left out. -/
theorem createAll_manual (hp : policy.install = false) {rs : List ModuleRoot} {w : Workbench Tree}
    (ht : w.files.Closed) (hrs : ∀ r ∈ rs, r.path.segments ≠ []) :
    createAll policy rs w =
      (rs.filter fun r => w.files.dirs.contains r.path.segments, (fresh w.files (plan w rs)).map (·.dir),
        { w with files := withFiles w.files (fresh w.files (plan w rs)) }) := by
  induction rs generalizing w with
  | nil => exact Prod.ext rfl (Prod.ext rfl (congrArg (Workbench.mk · w.go) (withFiles_nil w.files).symm))
  | cons r rs ih =>
    have h0 := hrs r (List.mem_cons_self ..)
    have hrs := fun q hq => hrs q (List.mem_cons_of_mem r hq)
    have hplan : plan w (r :: rs) = ⟨r.path, (modulePath r.path w).1⟩ :: plan w rs := rfl
    rw [hplan]
    by_cases hdir : r.path.segments ∈ w.files.dirs
    · have hw := createModule_manual hp h0 hdir
      cases hm : w.files.isModule r.path.segments with
      | true =>
        rw [hm, if_pos rfl] at hw
        rw [fresh_cons_old (Or.inr hm)]
        simp [createAll, hw, ih ht hrs, hdir]
      | false =>
        rw [hm, if_neg Bool.false_ne_true] at hw
        have hwrote : Wrote w.files [r.path] (withFiles w.files [⟨r.path, (modulePath r.path w).1⟩]) :=
          putFile_new hm _ ▸ .write _ hm (fun _ => hdir) (.none _)
        have hrest :=
          @ih { w with files := withFiles w.files [⟨r.path, (modulePath r.path w).1⟩] } (hwrote.closed ht) hrs
        -- what is written does not change the module paths of the other roots
        rw [plan_alike hwrote.alike ht fun q _ => seesSources_isOther _] at hrest
        rw [fresh_cons_new hdir hm]
        simp only [createAll, hw, hrest, if_true, withFiles_append, List.filter_cons, List.contains_iff_mem.mpr hdir]
        rfl
    · have hcontains : w.files.dirs.contains r.path.segments = false :=
        Bool.eq_false_iff.mpr fun h => hdir (List.contains_iff_mem.mp h)
      obtain ⟨e, hw⟩ := createModule_absent hp ht h0 hdir
      rw [fresh_cons_old (Or.inl hcontains)]
      simp [createAll, hw, ih ht hrs, hdir]

/-- All of them are written if the roots are distinct directories that have none. -/
theorem createAll_distinct (hp : policy.install = false) {rs : List ModuleRoot} {w : Workbench Tree}
    (ht : w.files.Closed)
    (hrs : ∀ r ∈ rs, r.path.segments ≠ [] ∧ r.path.segments ∈ w.files.dirs ∧ w.files.isModule r.path.segments = false)
    (hone : rs.Pairwise fun a b => a.path.segments ≠ b.path.segments) :
    createAll policy rs w = (rs, rs.map (·.path), { w with files := withFiles w.files (plan w rs) }) := by
  have hfresh : fresh w.files (plan w rs) = plan w rs := by
    have hall : (plan w rs).filter (fun c => w.files.dirs.contains c.dir.segments && !w.files.isModule c.dir.segments) =
        plan w rs := List.filter_eq_self.mpr fun c hc => by
      obtain ⟨r, hr, rfl⟩ := List.mem_map.mp hc
      simp [hrs r hr]
    rw [fresh, hall]
    exact firstOfEach_eq_self (List.pairwise_map.mpr hone)
  rw [createAll_manual hp ht fun r hr => (hrs r hr).1, hfresh,
    List.filter_eq_self.mpr fun r hr => by simp [hrs r hr], plan, List.map_map]
  rfl

/-- With the go command it is called for every root, and those are made for which it does not refuse. -/
theorem createAll_toolchain (hp : policy.install = true) {w : Workbench Tree} (ht : w.files.Closed)
    (rs : List ModuleRoot) : createAll policy rs w =
      (rs.filter fun r => !w.go.refuses (Creation.call ⟨r.path, (modulePath r.path w).1⟩), [],
        withCalls w ((plan w rs).map Creation.call)) := by
  induction rs generalizing w with
  | nil =>
    rw [show plan w [] = [] from rfl, List.map_nil, withCalls_nil]
    rfl
  | cons r rs ih =>
    have hpath : ∀ dir, (modulePath dir (withCalls w [Creation.call ⟨r.path, (modulePath r.path w).1⟩])).1 =
        (modulePath dir w).1 := fun dir => modulePath_alike (w := w) (Tree.Alike.refl _ _) ht (seesSources_isOther _)
    have hrest := @ih (withCalls w [Creation.call ⟨r.path, (modulePath r.path w).1⟩]) ht
    have hplan : plan (withCalls w [Creation.call ⟨r.path, (modulePath r.path w).1⟩]) rs = plan w rs :=
      @plan_alike w (withCalls w _) isOther (.refl _ _) ht rs fun q _ => seesSources_isOther _
    have hrefuses : (withCalls w [Creation.call ⟨r.path, (modulePath r.path w).1⟩]).go.refuses = w.go.refuses := rfl
    simp only [hpath, hplan, hrefuses] at hrest
    simp only [createAll, createModule_toolchain hp]
    cases href : w.go.refuses (Creation.call ⟨r.path, (modulePath r.path w).1⟩) with
    | true =>
      simp only [if_true, hrest, List.filter_cons, href, withCalls_append]
      rfl
    | false =>
      simp only [Bool.false_eq_true, if_false, hrest, List.filter_cons, href, withCalls_append]
      rfl

/-- The two ways of creating modules agree, where the go command refuses nothing and the folder and what is
    reached from it are named by texts. Both fail alike or return the same roots; what the one writes and what
    the other calls are made from the same list, in order, and nothing else changes in either. -/
theorem scan_modes_agree (ht : w.files.Built) (hgo : w.go.refusing = []) {off on : Manager}
    (hoff : off.policy.install = false) (hon : on.policy.install = true) {folder : Path} (htext : folder.IsText)
    (hlegible : w.files.Legible isPassedOver folder.segments) :
    ∃ made : List Creation, (off.scan folder w).1 = (on.scan folder w).1 ∧
      (off.scan folder w).2 =
        ({ off with cleanup := off.cleanup ++ made.map (·.dir) }, { w with files := withFiles w.files made }) ∧
      (on.scan folder w).2 = (on, withCalls w (made.map Creation.call)) := by
  rcases scan_eq_createAll ht.closed folder with ⟨_, e, he⟩ | ⟨_, ds, found, hpass, hscan⟩
  · refine ⟨[], ?_⟩
    simp [Manager.scan, he, withFiles_nil, withCalls_nil]
  · have hnamed : ClearlyNamed w w.files folder := .of_legible w.shows ht.closed hpass.ne_nil hlegible
    have hmanual := createAll_distinct hoff ht.closed (hpass.pending_dirs htext)
      (pairwise_pendingRoots hpass.toFinds htext hnamed)
    have htool := createAll_toolchain hon ht.closed (pendingRoots folder (.ofFindings found))
    have hnone : ∀ call, w.go.refuses call = false := fun call => by simp [GoStub.refuses, hgo]
    have hall : (pendingRoots folder (.ofFindings found)).filter (fun r =>
        !w.go.refuses (Creation.call ⟨r.path, (modulePath r.path w).1⟩)) = pendingRoots folder (.ofFindings found) :=
      List.filter_eq_self.mpr fun r _ => by rw [hnone, Bool.not_false]
    have hdirs : (plan w (pendingRoots folder (.ofFindings found))).map (·.dir) =
        (pendingRoots folder (.ofFindings found)).map (·.path) := by
      rw [plan, List.map_map]
      rfl
    refine ⟨plan w (pendingRoots folder (.ofFindings found)), ?_, ?_, ?_⟩
    · simp only [Manager.scan, hscan, hmanual, htool, hall]
    · simp only [Manager.scan, hscan, hmanual, hdirs]
    · simp only [Manager.scan, hscan, htool, List.append_nil]

/-- A folder with an old manifest and a source that declares its import path. -/
def legacyFolder : Workbench Tree :=
  ⟨(Tree.empty.addFile ⟨"/ws/old/Gopkg.lock"⟩ .empty).addFile ⟨"/ws/main.go"⟩
    (Text.bytesOf "package main // import \"example.com/app\"\n"), ⟨[], []⟩⟩

theorem scan_modes_agree_legacyFolder :
    ∃ made : List Creation,
      made.map Creation.call = ["/ws/old: go mod init /ws/old", "/ws: go mod init example.com/app"] ∧
      made.map Creation.file =
        [ ((["/", "ws", "old", "go.mod"] : Segments), Text.bytesOf "module /ws/old"),
          ((["/", "ws", "go.mod"] : Segments), Text.bytesOf "module example.com/app") ] ∧
      ((Manager.new ⟨false, .default⟩).scan ⟨"/ws"⟩ legacyFolder).2.2.files = withFiles legacyFolder.files made := by
  have hbuilt : legacyFolder.files.Built := .addFile _ _ (.addFile _ _ .empty)
  have hlegible : legacyFolder.files.Legible isPassedOver (⟨"/ws"⟩ : Path).segments := .of_dirs (by decide +kernel)
  obtain ⟨made, _, hoff, hon⟩ := @scan_modes_agree legacyFolder hbuilt rfl (.new ⟨false, .default⟩)
    (.new ⟨true, .default⟩) rfl rfl ⟨"/ws"⟩ (Octets.isText_ofText _) hlegible
  have hcalls : ((Manager.new ⟨true, .default⟩).scan ⟨"/ws"⟩ legacyFolder).2.2.go.calls =
      ["/ws/old: go mod init /ws/old", "/ws: go mod init example.com/app"] := by decide +kernel
  have hfiles : ((Manager.new ⟨false, .default⟩).scan ⟨"/ws"⟩ legacyFolder).2.2.files.files =
      legacyFolder.files.files ++
        [ ((["/", "ws", "old", "go.mod"] : Segments), Text.bytesOf "module /ws/old"),
          ((["/", "ws", "go.mod"] : Segments), Text.bytesOf "module example.com/app") ] := by decide +kernel
  rw [hon] at hcalls
  rw [hoff] at hfiles
  exact ⟨made, hcalls, List.append_cancel_left hfiles, by rw [hoff]⟩

/-- A folder whose name is no text, with a source. -/
def strayFolder : Workbench Tree :=
  ⟨Tree.empty.addFile (((⟨"/ws"⟩ : Path).join Tree.strayName).join "a.go") .empty, ⟨[], []⟩⟩

/-- There the directory that the sources share is looked up as it is printed, and is not there: no module file
    can be written in it, but the go command is called in it. -/
theorem scan_modes_differ_strayFolder :
    ((Manager.new ⟨false, .default⟩).scan ((⟨"/ws"⟩ : Path).join Tree.strayName) strayFolder).1.toOption = some [] ∧
      ((Manager.new ⟨true, .default⟩).scan ((⟨"/ws"⟩ : Path).join Tree.strayName) strayFolder).1.toOption =
        some [⟨⟨"/ws/\uFFFD"⟩, .synthetic⟩] := by decide +kernel

end GoAtlas.Module
