/-
  GoAtlas.Proofs.Independence — folders that do not enclose one another are managed independently.

  Managing a folder comes to an `Outcome`: folders brought up, module files, registry entries and calls of the
  go command. All of it lies below the folder, and in all states that are `Near` there it is the same one.
  - `downloadAll_local`: so it is for the downloads, which read the registry too.
  - `manageFolder_local`: and for the folder as a whole.
  - `Outcome.Below.near`: what happens below one folder cannot be seen from another.
  - `manageDeps_commute`: of two such folders that are texts either may come first; only the order of what is
    recorded tells.
  - `manageDeps_order_strayFolders`: one that is no text may write to the other.
-/
import GoAtlas.Proofs.Groups
import GoAtlas.Proofs.Locality

namespace GoAtlas

open GoAtlas.Module

/-! ## Downloads -/

namespace Manager

variable {root : Segments} {v v' : Registry} {w w' : Workbench Tree}

/-- What downloading for a directory adds to the registry and to the calls. A registered directory, or one
    that can be registered for what it holds, is passed over; a download that is refused registers it. -/
def downloadOf (v : Registry) (w : Workbench Tree) (dir : Path) : List Path × List String :=
  if v.contains dir then ([], [])
  else if !(hasModuleFile w dir || hasLegacyManifest w dir) && hasVendorDir w dir then ([dir], [])
  else (if w.go.refuses (callIn dir "mod download") then [dir] else [], [callIn dir "mod download"])

/-- Registers of the same directories below one. -/
def SameBelow (root : Segments) (v v' : Registry) : Prop :=
  ∀ p : Path, root <+: p.segments → v'.contains p = v.contains p

theorem contains_append (v : Registry) (marks : List Path) (p : Path) :
    Registry.contains ⟨v.folders ++ marks⟩ p = (v.contains p || marks.any (·.same p)) := List.any_append

theorem SameBelow.append (h : SameBelow root v v') (marks : List Path) :
    SameBelow root ⟨v.folders ++ marks⟩ ⟨v'.folders ++ marks⟩ := by
  intro p hp
  rw [contains_append, contains_append, h p hp]

theorem downloadOne_eq (config : Config) {f : Folder} {dir : Path} (hf : f.uri.toFilePath? = some dir) (v : Registry)
    (w : Workbench Tree) : downloadOne config f v w =
      (⟨v.folders ++ (downloadOf v w dir).1⟩, withCalls w (downloadOf v w dir).2) := by
  have hknown : (v.index? dir).isSome = v.contains dir := List.findIdx?_isSome
  simp only [downloadOne, hf, Registry.checkOrRegister, downloadOf]
  cases hi : v.index? dir with
  | some i =>
    rw [hi] at hknown
    simp [← hknown, withCalls_nil]
  | none =>
    rw [hi] at hknown
    simp only [← hknown, Option.isSome_none, Bool.false_eq_true, if_false, Toolchain.modDownload, run_eq]
    cases hasModuleFile w dir || hasLegacyManifest w dir <;> cases hasVendorDir w dir <;>
      cases w.go.refuses (callIn dir "mod download") <;> simp [Registry.mark, withCalls]

theorem downloadOf_below (v : Registry) (w : Workbench Tree) (dir : Path) : ∀ p ∈ (downloadOf v w dir).1, p = dir := by
  intro p hp
  unfold downloadOf at hp
  split at hp
  · cases hp
  split at hp
  · exact List.mem_singleton.mp hp
  · simp only at hp
    split at hp
    · exact List.mem_singleton.mp hp
    · cases hp

theorem downloadOf_near (hv : SameBelow root v v') (hw : Near root w w') {dir : Path} (hd : root <+: dir.segments)
    (h0 : dir.segments ≠ []) : downloadOf v' w' dir = downloadOf v w dir := by
  have hs := seesSources_isBelow hd
  unfold downloadOf
  rw [hv dir hd, hw.hasModuleFile_eq hd, hasLegacyManifest_alike hw.files hs h0, hasVendorDir_alike hw.files hs h0,
    GoStub.refuses, GoStub.refuses, hw.refusing]

/-- Downloads for folders below a directory add the same in all states that are near there. -/
theorem downloadAll_local (config : Config) {fs : List Folder} (h0 : root ≠ [])
    (hfs : ∀ f ∈ fs, ∀ d, f.uri.toFilePath? = some d → root <+: d.segments) (v : Registry) (w : Workbench Tree) :
    ∃ (marks : List Path) (calls : List String), (∀ p ∈ marks, root <+: p.segments) ∧
      ∀ v' w', SameBelow root v v' → Near root w w' →
        downloadAll config fs v' w' = (⟨v'.folders ++ marks⟩, withCalls w' calls) := by
  induction fs generalizing v w with
  | nil =>
    refine ⟨[], [], by simp, fun v' w' _ _ => ?_⟩
    simp [downloadAll, withCalls_nil]
  | cons f fs ih =>
    cases hf : f.uri.toFilePath? with
    | none =>
      obtain ⟨marks, calls, hmarks, hrest⟩ := ih (fun g hg => hfs g (List.mem_cons_of_mem _ hg)) v w
      refine ⟨marks, calls, hmarks, fun v' w' hv hw => ?_⟩
      simp only [downloadAll, downloadOne, hf]
      exact hrest v' w' hv hw
    | some dir =>
      have hd := hfs f (List.mem_cons_self ..) dir hf
      have hd0 : dir.segments ≠ [] := fun e => h0 (List.prefix_nil.mp (e ▸ hd))
      obtain ⟨marks, calls, hmarks, hrest⟩ := ih (fun g hg => hfs g (List.mem_cons_of_mem _ hg))
        ⟨v.folders ++ (downloadOf v w dir).1⟩ (withCalls w (downloadOf v w dir).2)
      refine ⟨(downloadOf v w dir).1 ++ marks, (downloadOf v w dir).2 ++ calls, fun p hp => ?_, fun v' w' hv hw => ?_⟩
      · rcases List.mem_append.mp hp with hp | hp
        · exact downloadOf_below v w dir p hp ▸ hd
        · exact hmarks p hp
      · simp only [downloadAll, downloadOne_eq config hf, downloadOf_near hv hw hd hd0]
        have hcalled : Near root (withCalls w (downloadOf v w dir).2) (withCalls w' (downloadOf v w dir).2) :=
          ⟨hw.closed, hw.files, hw.refusing⟩
        rw [hrest _ _ (hv.append _) hcalled, List.append_assoc, withCalls_append]

end Manager

/-! ## What managing a folder comes to -/

/-- Folders brought up, modules made with a file, directories registered, and calls of the go command. -/
structure Outcome where
  group : List Folder
  made : List Creation
  marks : List Path
  calls : List String

namespace Outcome

/-- The state with all of it in addition. -/
def on (o : Outcome) (w : Workspace (Workbench Tree)) : Workspace (Workbench Tree) :=
  ⟨{ w.session with cleanup := w.session.cleanup ++ o.made.map Creation.dir }, ⟨w.vendor.folders ++ o.marks⟩,
    withCalls { w.world with files := withFiles w.world.files o.made } o.calls⟩

/-- It happens below a directory. -/
structure Below (root : Segments) (o : Outcome) : Prop where
  made : ∀ c ∈ o.made, root <+: c.dir.segments
  marks : ∀ p ∈ o.marks, root <+: p.segments

end Outcome

namespace Workspace

/-- Two states of a session that cannot be told apart below a directory. -/
structure Near (root : Segments) (w w' : Workspace (Workbench Tree)) : Prop where
  world : Module.Near root w.world w'.world
  vendor : Manager.SameBelow root w.vendor w'.vendor
  config : w'.session.config = w.session.config

variable {root : Segments} {w w' : Workspace (Workbench Tree)}

theorem Near.refl (hw : w.world.files.Closed) (root : Segments) : Near root w w :=
  ⟨.refl hw root, fun _ _ => rfl, rfl⟩

/-- Without project settings all folders have the configuration of the session. -/
theorem folderConfig_eq (w : Workspace (Workbench Tree)) (f : Folder) : w.folderConfig f = w.session.config := by
  unfold folderConfig
  cases f.uri.toFilePath? <;> rfl

theorem Near.policyFor_eq (h : Near root w w') {options : Option Json} {f : Folder} :
    w'.policyFor options f = w.policyFor options f := by
  unfold policyFor
  rw [folderConfig_eq, folderConfig_eq, h.config]

end Workspace

/-- A scan that writes and calls the same keeps states near. -/
theorem Module.Near.scanned {root : Segments} {w w' : Workbench Tree} (h : Near root w w') {made : List Creation}
    {calls : List String} (hc : (withFiles w'.files made).Closed) :
    Near root (withCalls { w with files := withFiles w.files made } calls)
      (withCalls { w' with files := withFiles w'.files made } calls) := by
  refine ⟨hc, ⟨h.files.dirs, h.files.unreadable, ?_⟩, h.refusing⟩
  exact (List.filter_append ..).trans ((congrArg (· ++ _) h.files.files).trans (List.filter_append ..).symm)

namespace Manager

variable {f : Folder} {dir : Path}

/-- The downloads of a manager, as those of a list of folders. -/
theorem downloadDeps_local (m : Manager) {root : Segments} {fs : List Folder} (h0 : root ≠ [])
    (hfs : ∀ f ∈ fs, ∀ d, f.uri.toFilePath? = some d → root <+: d.segments) (v : Registry) (w : Workbench Tree) :
    ∃ (marks : List Path) (calls : List String), (∀ p ∈ marks, root <+: p.segments) ∧
      ∀ v' w', SameBelow root v v' → Module.Near root w w' →
        m.downloadDeps fs v' w' = (⟨v'.folders ++ marks⟩, withCalls w' calls) := by
  cases hp : m.policy.install with
  | true =>
    simp only [downloadDeps, hp, if_true]
    exact downloadAll_local m.policy.config h0 hfs v w
  | false =>
    refine ⟨[], [], by simp, fun v' w' _ _ => ?_⟩
    simp [downloadDeps, hp, withCalls_nil]

/-- The folders brought up lie below the folder that is managed. -/
theorem prefix_group {roots : List ModuleRoot} (hf : f.uri.toFilePath? = some dir)
    (hroots : ∀ r ∈ roots, dir.segments <+: r.path.segments) :
    ∀ g ∈ groupOf f dir roots, ∀ d, g.uri.toFilePath? = some d → dir.segments <+: d.segments := by
  intro g hg d hd
  obtain ⟨rest, heq, hrest⟩ := groupOf_eq f dir roots
  rw [heq] at hg
  rcases List.mem_cons.mp hg with rfl | hg
  · rw [hf] at hd
    exact Option.some.inj hd ▸ List.prefix_refl _
  · obtain ⟨r, hr, _, hrg⟩ := hrest g hg
    obtain ⟨q, hq, e⟩ := Folder.toFilePath?_of_ofDir? hrg
    rw [hq] at hd
    rw [← Option.some.inj hd, e]
    exact hroots r hr

end Manager

namespace Workspace

open Manager

variable {f : Folder} {dir : Path} {w : Workspace (Workbench Tree)}

/-- Managing a folder that is text has the same outcome in all states that are near it, and all of it lies below. -/
theorem manageFolder_local (hw : w.world.files.Closed) (options : Option Json) (hf : f.uri.toFilePath? = some dir)
    (htext : dir.IsText) (h0 : dir.segments ≠ []) : ∃ o : Outcome, o.Below dir.segments ∧
      ∀ w', Near dir.segments w w' → w'.manageFolder options f = (o.group, o.on w') := by
  have hmanage : ∀ w', Near dir.segments w w' → w'.manageFolder options f =
      (((Manager.new (w.policyFor options f)).manage [f] w'.vendor w'.world).1,
        ⟨{ w'.session with cleanup := w'.session.cleanup ++
            ((Manager.new (w.policyFor options f)).manage [f] w'.vendor w'.world).2.1.cleanup },
          ((Manager.new (w.policyFor options f)).manage [f] w'.vendor w'.world).2.2.1,
          ((Manager.new (w.policyFor options f)).manage [f] w'.vendor w'.world).2.2.2⟩) := by
    intro w' hn
    rw [← hn.policyFor_eq]
    rfl
  have hself : ∀ g ∈ [f], ∀ d, g.uri.toFilePath? = some d → dir.segments <+: d.segments :=
    @prefix_group f dir [] hf (by simp)
  rcases scan_local hw (w.policyFor options f) htext with hfail | ⟨roots, made, calls, hroots, hmade, hscan⟩
  · -- the scan fails in all of them, and downloads are for the folder alone
    obtain ⟨marks, more, hmarks, hdown⟩ := downloadDeps_local (.new (w.policyFor options f)) h0 hself w.vendor w.world
    refine ⟨⟨[f], [], marks, more⟩, ⟨by simp, hmarks⟩, fun w' hn => ?_⟩
    obtain ⟨e, he⟩ := hfail w'.world hn.world
    rw [hmanage w' hn, manage_eq hf, he]
    simp only [hdown w'.vendor w'.world hn.vendor hn.world]
    simp [Outcome.on, Manager.new, withFiles_nil]
  · -- after the scan the states are near again, so the downloads agree too
    have hclosed : ∀ w', Near dir.segments w w' → (withFiles w'.world.files made).Closed := by
      intro w' hn
      have hwrote := scan_wrote (w.policyFor options f) dir w'.world
      rw [hscan w'.world hn.world] at hwrote
      exact hwrote.closed hn.world.closed
    obtain ⟨marks, more, hmarks, hdown⟩ := downloadDeps_local (.new (w.policyFor options f)) h0
      (prefix_group hf hroots) w.vendor (withCalls { w.world with files := withFiles w.world.files made } calls)
    refine ⟨⟨groupOf f dir roots, made, marks, calls ++ more⟩, ⟨hmade, hmarks⟩, fun w' hn => ?_⟩
    rw [hmanage w' hn, manage_eq hf, hscan w'.world hn.world]
    simp only [hdown w'.vendor _ hn.vendor (hn.world.scanned (hclosed w' hn)), withCalls_append]
    rfl

end Workspace

/-! ## Two folders -/

/-- Neither directory encloses the other. -/
def Apart (a b : Segments) : Prop := ¬a <+: b ∧ ¬b <+: a

theorem Apart.symm {a b : Segments} (h : Apart a b) : Apart b a := ⟨h.2, h.1⟩

theorem Apart.ne_nil {a b : Segments} (h : Apart a b) : a ≠ [] := fun e => h.1 (e ▸ List.nil_prefix)

/-- Nothing lies below both. -/
theorem Apart.not_prefix {a b q : Segments} (h : Apart a b) (ha : a <+: q) : ¬b <+: q := by
  intro hb
  rcases List.prefix_or_prefix_of_prefix ha hb with hab | hba
  · exact h.1 hab
  · exact h.2 hba

namespace Outcome

variable {a b : Segments} {o p : Outcome} {w : Workspace (Workbench Tree)}

theorem Below.prefix_file (ho : o.Below a) : ∀ f ∈ o.made.map Creation.file, a <+: f.1 := by
  intro f hf
  obtain ⟨c, hc, rfl⟩ := List.mem_map.mp hf
  exact (ho.made c hc).trans (List.prefix_append ..)

/-- What happens below one directory is not seen from another. -/
theorem Below.near (ho : o.Below a) (hab : Apart a b) (hw : (o.on w).world.files.Closed) :
    Workspace.Near b w (o.on w) := by
  refine ⟨⟨hw, ⟨rfl, rfl, ?_⟩, rfl⟩, fun p hp => ?_, rfl⟩
  · have hnew : (o.made.map Creation.file).filter (fun f => isBelow b f.1) = [] :=
      List.filter_eq_nil_iff.mpr fun f hf h => hab.not_prefix (ho.prefix_file f hf) (isBelow_iff.mp h)
    exact (List.filter_append ..).trans (by rw [hnew, List.append_nil])
  · have hnew : o.marks.any (·.same p) = false := by
      refine List.any_eq_false.mpr fun m hm h => hab.not_prefix (ho.marks m hm) ?_
      rw [Path.same_iff.mp h]
      exact hp
    refine (Manager.contains_append w.vendor o.marks p).trans ?_
    rw [hnew, Bool.or_false]

/-- Files that lie apart may be added in either order. -/
theorem Below.contents?_swap (ho : o.Below a) (hp : p.Below b) (hab : Apart a b) (q : Segments) :
    (o.on (p.on w)).world.files.contents? q = (p.on (o.on w)).world.files.contents? q := by
  have hnone : ∀ {r : Outcome} {d : Segments}, r.Below d → ¬d <+: q → (r.made.map Creation.file).lookup q = none := by
    intro r d hr hd
    refine List.lookup_eq_none_iff.mpr fun f hf => ?_
    exact bne_iff_ne.mpr fun e => hd (e ▸ hr.prefix_file f hf)
  have hfiles : ∀ r s : Outcome, (r.on (s.on w)).world.files.contents? q =
      (w.world.files.contents? q).or
        (((s.made.map Creation.file).lookup q).or ((r.made.map Creation.file).lookup q)) := by
    intro r s
    rw [Tree.contents?, Tree.contents?, ← List.lookup_append, ← List.lookup_append, ← List.append_assoc]
    rfl
  rw [hfiles, hfiles]
  by_cases ha : a <+: q
  · rw [hnone hp (hab.not_prefix ha), Option.none_or, Option.or_none]
  · rw [hnone ho ha, Option.none_or, Option.or_none]

end Outcome

namespace Workspace

/-- Two results that hold the same, in whatever order it was recorded: the same files, and the same folders
    returned and tracked, folders noted, directories registered and calls made. -/
structure SameUpToOrder (r r' : List Folder × Workspace (Workbench Tree)) : Prop where
  dirs : r.2.world.files.dirs = r'.2.world.files.dirs
  unreadable : r.2.world.files.unreadable = r'.2.world.files.unreadable
  contents : ∀ q, r.2.world.files.contents? q = r'.2.world.files.contents? q
  returned : (r.1.map Folder.shown).Perm (r'.1.map Folder.shown)
  tracked : (r.2.session.folders.map Folder.shown).Perm (r'.2.session.folders.map Folder.shown)
  noted : r.2.session.cleanup.Perm r'.2.session.cleanup
  registered : r.2.vendor.folders.Perm r'.2.vendor.folders
  called : r.2.world.go.calls.Perm r'.2.world.go.calls

variable {w : Workspace (Workbench Tree)} {a b : Folder} {A B : Path}

/-- Managing two folders that lie apart, read off the outcomes that each has by itself. -/
theorem manageAll_apart (hw : w.world.files.Closed) (options : Option Json) (ha : a.uri.toFilePath? = some A)
    (hb : b.uri.toFilePath? = some B) (hta : A.IsText) (htb : B.IsText) (hab : Apart A.segments B.segments) :
    ∃ oa ob : Outcome, oa.Below A.segments ∧ ob.Below B.segments ∧
      w.manageAll options [a, b] [] = (Folder.addNew [] (oa.group ++ ob.group), ob.on (oa.on w)) ∧
      w.manageAll options [b, a] [] = (Folder.addNew [] (ob.group ++ oa.group), oa.on (ob.on w)) := by
  obtain ⟨oa, hbelow, hoa⟩ := manageFolder_local hw options ha hta hab.ne_nil
  obtain ⟨ob, hbelow', hob⟩ := manageFolder_local hw options hb htb hab.symm.ne_nil
  have hclosed : ∀ {f : Folder} {o : Outcome}, w.manageFolder options f = (o.group, o.on w) →
      (o.on w).world.files.Closed := by
    intro f o ho
    have := manageFolder_closed hw options f
    rwa [ho] at this
  have hfirst := hoa w (.refl hw _)
  have hfirst' := hob w (.refl hw _)
  refine ⟨oa, ob, hbelow, hbelow', ?_, ?_⟩
  · simp only [manageAll, hfirst, hob _ (hbelow.near hab (hclosed hfirst)), Folder.addNew_append]
  · simp only [manageAll, hfirst', hoa _ (hbelow'.near hab.symm (hclosed hfirst')), Folder.addNew_append]

/-- Two local folders that are texts and of which neither encloses the other may be managed in either order. -/
theorem manageDeps_commute (hw : w.world.files.Built) (options : Option Json) (ha : a.uri.toFilePath? = some A)
    (hb : b.uri.toFilePath? = some B) (hta : A.IsText) (htb : B.IsText) (hab : ¬A.segments <+: B.segments)
    (hba : ¬B.segments <+: A.segments) :
    SameUpToOrder (w.manageDeps [a, b] options) (w.manageDeps [b, a] options) := by
  cases hopen : w.session.closed with
  | true =>
    rw [manageDeps_of_closed hopen, manageDeps_of_closed hopen]
    exact ⟨rfl, rfl, fun _ => rfl, .swap .., .refl _, .refl _, .refl _, .refl _⟩
  | false =>
    obtain ⟨oa, ob, hbelow, hbelow', hfirst, hfirst'⟩ := manageAll_apart hw.closed options ha hb hta htb ⟨hab, hba⟩
    have hfound : ((Folder.addNew [] (oa.group ++ ob.group)).map Folder.shown).Perm
        ((Folder.addNew [] (ob.group ++ oa.group)).map Folder.shown) := by
      refine Folder.addNew_perm [] fun k => ?_
      rw [List.map_append, List.map_append, List.mem_append, List.mem_append, or_comm]
    have hswap : ∀ {α : Type} (l xs ys : List α), (l ++ xs ++ ys).Perm (l ++ ys ++ xs) := by
      intro α l xs ys
      rw [List.append_assoc, List.append_assoc]
      exact List.perm_append_comm.append_left l
    simp only [manageDeps, hopen, Bool.false_eq_true, if_false, hfirst, hfirst']
    exact ⟨rfl, rfl, fun q => hbelow'.contents?_swap hbelow ⟨hba, hab⟩ q, hfound,
      Folder.addNew_perm _ fun k => hfound.mem_iff, hswap .., hswap .., hswap ..⟩

end Workspace

/-- A top-level directory as a folder. -/
def topFolder (name : String) : Folder := ⟨⟨"file", some ⟨"", none, "", none⟩, .segments [name], none, none⟩, name⟩

/-- Two folders: one has a source and an old manifest below it, the other only a vendor directory. The go
    command downloads nothing in the first. -/
def twoFolders : Workspace (Workbench Tree) :=
  ⟨.new ⟨true, "", true, none⟩, .empty,
    ⟨((Tree.empty.addFile ⟨"/a/main.go"⟩ .empty).addFile ⟨"/a/old/Gopkg.lock"⟩ .empty).addDir ⟨"/b/vendor"⟩,
      ⟨["/a: go mod download"], []⟩⟩⟩

theorem manageDeps_commute_twoFolders :
    Workspace.SameUpToOrder (twoFolders.manageDeps [topFolder "a", topFolder "b"] none)
        (twoFolders.manageDeps [topFolder "b", topFolder "a"] none) ∧
      (twoFolders.manageDeps [topFolder "a", topFolder "b"] none).2.world.go.calls =
        ["/a/old: go mod init /a/old", "/a: go mod init /a", "/a: go mod download", "/a/old: go mod download",
          "/b: go mod init /b"] ∧
      (twoFolders.manageDeps [topFolder "a", topFolder "b"] none).2.vendor.folders = [⟨"/a"⟩, ⟨"/b"⟩] := by
  refine ⟨?_, by decide +kernel⟩
  have hbuilt : twoFolders.world.files.Built := .addDir _ (.addFile _ _ (.addFile _ _ .empty))
  have ha : (topFolder "a").uri.toFilePath? = some ⟨"/a"⟩ := by decide +kernel
  have hb : (topFolder "b").uri.toFilePath? = some ⟨"/b"⟩ := by decide +kernel
  exact Workspace.manageDeps_commute hbuilt none ha hb (Octets.isText_ofText _) (Octets.isText_ofText _)
    (by decide +kernel) (by decide +kernel)

/-- A folder with a source whose name is no text, and the folder that it is shown as, with a source below it. -/
def strayFolders : Workspace (Workbench Tree) :=
  ⟨.new .default, .empty,
    ⟨(Tree.empty.addFile (((⟨"/"⟩ : Path).join Tree.strayName).join "a.go") .empty).addFile ⟨"/\uFFFD/x/b.go"⟩ .empty,
      ⟨[], []⟩⟩⟩

/-- Managed first, the one writes a module file to the other, which then covers the source below; managed after it,
    it finds that source with a module file of its own. -/
theorem manageDeps_order_strayFolders :
    (strayFolders.world.files.Built ∧
      (topFolder "%FF").uri.toFilePath? = some ((⟨"/"⟩ : Path).join Tree.strayName) ∧
      (topFolder "%EF%BF%BD").uri.toFilePath? = some ⟨"/\uFFFD"⟩ ∧
      Apart ((⟨"/"⟩ : Path).join Tree.strayName).segments (⟨"/\uFFFD"⟩ : Path).segments) ∧
      ¬Workspace.SameUpToOrder (strayFolders.manageDeps [topFolder "%FF", topFolder "%EF%BF%BD"] none)
        (strayFolders.manageDeps [topFolder "%EF%BF%BD", topFolder "%FF"] none) := by
  refine ⟨⟨.addFile _ _ (.addFile _ _ .empty), by decide +kernel, by decide +kernel, by decide, by decide⟩, fun h => ?_⟩
  have hfile := h.contents ["/", "\uFFFD", "x", "go.mod"]
  revert hfile
  decide +kernel

end GoAtlas
