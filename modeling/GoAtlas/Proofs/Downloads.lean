/-
  GoAtlas.Proofs.Downloads — a download that failed is not tried again.

  Managers and sessions share a registry of folders and one go command. `Traced` says all that they can do to
  the two, call by call: a directory is registered for what it holds, or because a download for it failed, and
  in either case it was not registered before; a download is tried only for a directory that is not registered.
  - `Traced.distinct` / `Traced.kept`: so the registry grows, and no directory is in it twice.
  - `Traced.pairwise`: after a failure the directory is registered, and no download for it follows.
  - `downloadAll_traced`, `manage_traced`, `manageDeps_traced`: what each activity does is traced, with the
    downloads that it tries.
  - `play_no_retry`: the law for whole histories, with files and refusals changing in between.
-/
import GoAtlas.Proofs.Creation
import GoAtlas.Proofs.Management

namespace GoAtlas

open GoAtlas.Module

/-! ## The registry -/

namespace Module.Registry

variable {v : Registry} {dir p : Path}

/-- No directory is registered twice. -/
def Distinct (v : Registry) : Prop := v.folders.Pairwise fun a b => a.same b = false

theorem contains_mark (v : Registry) (dir p : Path) : (v.mark dir).contains p = (v.contains p || dir.same p) := by
  simp [contains, mark]

theorem contains_mono {v' : Registry} (h : v.folders <+: v'.folders) (hp : v.contains p = true) :
    v'.contains p = true := by
  obtain ⟨f, hf, hsame⟩ := List.any_eq_true.mp hp
  exact List.any_eq_true.mpr ⟨f, h.subset hf, hsame⟩

theorem contains_congr (h : dir.same p = true) : v.contains dir = v.contains p := by
  simp only [contains, Path.same, beq_iff_eq.mp h]

theorem Distinct.mark (h : v.Distinct) (hdir : v.contains dir = false) : (v.mark dir).Distinct := by
  refine List.pairwise_append.mpr ⟨h, List.pairwise_singleton .., fun f hf d hd => ?_⟩
  rw [List.mem_singleton.mp hd]
  simpa using List.any_eq_false.mp hdir f hf

/-- The registry says that a directory is registered, or registers it, or leaves it to be downloaded. -/
theorem checkOrRegister_cases {σ : Type} [FileSystem σ] (v : Registry) (s : σ) (dir : Path) :
    (∃ i, v.checkOrRegister s dir = (some i, v)) ∨
      v.contains dir = false ∧
        (v.checkOrRegister s dir = (none, v) ∨ ∃ i, v.checkOrRegister s dir = (some i, v.mark dir)) := by
  have hknown : (v.index? dir).isSome = v.contains dir := List.findIdx?_isSome
  unfold checkOrRegister
  cases hi : v.index? dir with
  | some i => exact Or.inl ⟨i, rfl⟩
  | none =>
    rw [hi] at hknown
    refine Or.inr ⟨hknown.symm, ?_⟩
    simp only
    split
    · exact Or.inl rfl
    split
    · exact Or.inr ⟨_, rfl⟩
    · exact Or.inl rfl

end Module.Registry

/-! ## Traces -/

/-- A download that was tried: where, what was registered at the time, and whether the go command refused it. -/
structure Download where
  dir : Path
  known : Registry
  failed : Bool
  deriving DecidableEq, Repr

/-- A call of the go command. -/
inductive GoCall where
  | init (dir : Path) (modulePath : String)
  | download (d : Download)
  deriving DecidableEq, Repr

namespace GoCall

/-- The call as it is recorded. -/
def text : GoCall → String
  | .init dir modulePath => callIn dir ("mod init " ++ modulePath)
  | .download d => callIn d.dir "mod download"

def download? : GoCall → Option Download
  | .init .. => none
  | .download d => some d

end GoCall

namespace GoStub

/-- The command after a call. -/
def called (g : GoStub) (c : GoCall) : GoStub := { g with calls := g.calls ++ [c.text] }

/-- The command refuses calls that begin like this, too. -/
def refuse (g : GoStub) (lead : String) : GoStub := { g with refusing := g.refusing ++ [lead] }

end GoStub

/-- From one state of the registry and the go command to another, by calls of the command. -/
inductive Traced : Registry → GoStub → List GoCall → Registry → GoStub → Prop
  | done (v : Registry) (g : GoStub) : Traced v g [] v g
  | refuse {v v' : Registry} {g g' : GoStub} {cs : List GoCall} (lead : String) :
      Traced v (g.refuse lead) cs v' g' → Traced v g cs v' g'
  | init {v v' : Registry} {g g' : GoStub} {cs : List GoCall} (dir : Path) (modulePath : String) :
      Traced v (g.called (.init dir modulePath)) cs v' g' → Traced v g (.init dir modulePath :: cs) v' g'
  /-- A directory is registered for what it holds. -/
  | register {v v' : Registry} {g g' : GoStub} {cs : List GoCall} {dir : Path} : v.contains dir = false →
      Traced (v.mark dir) g cs v' g' → Traced v g cs v' g'
  | success {v v' : Registry} {g g' : GoStub} {cs : List GoCall} {dir : Path} : v.contains dir = false →
      g.refuses (callIn dir "mod download") = false →
      Traced v (g.called (.download ⟨dir, v, false⟩)) cs v' g' → Traced v g (.download ⟨dir, v, false⟩ :: cs) v' g'
  | failure {v v' : Registry} {g g' : GoStub} {cs : List GoCall} {dir : Path} : v.contains dir = false →
      g.refuses (callIn dir "mod download") = true →
      Traced (v.mark dir) (g.called (.download ⟨dir, v, true⟩)) cs v' g' →
      Traced v g (.download ⟨dir, v, true⟩ :: cs) v' g'

namespace Traced

variable {v v' v'' : Registry} {g g' g'' : GoStub} {cs ds : List GoCall}

theorem append (h : Traced v g cs v' g') (h' : Traced v' g' ds v'' g'') : Traced v g (cs ++ ds) v'' g'' := by
  induction h with
  | done v g => exact h'
  | refuse lead _ ih => exact .refuse lead (ih h')
  | init dir modulePath _ ih => exact .init dir modulePath (ih h')
  | register hdir _ ih => exact .register hdir (ih h')
  | success hdir hok _ ih => exact .success hdir hok (ih h')
  | failure hdir hno _ ih => exact .failure hdir hno (ih h')

/-- The command records the calls, in order. -/
theorem calls_eq (h : Traced v g cs v' g') : g'.calls = g.calls ++ cs.map GoCall.text := by
  induction h with
  | done v g => simp
  | refuse lead _ ih => exact ih
  | init dir modulePath _ ih => simp [ih, GoStub.called]
  | register hdir _ ih => exact ih
  | success hdir hok _ ih => simp [ih, GoStub.called]
  | failure hdir hno _ ih => simp [ih, GoStub.called]

theorem kept (h : Traced v g cs v' g') : v.folders <+: v'.folders := by
  induction h with
  | done v g => exact List.prefix_refl _
  | refuse _ _ ih => exact ih
  | init _ _ _ ih => exact ih
  | register _ _ ih => exact (List.prefix_append ..).trans ih
  | success _ _ _ ih => exact ih
  | failure _ _ _ ih => exact (List.prefix_append ..).trans ih

theorem distinct (h : Traced v g cs v' g') (hv : v.Distinct) : v'.Distinct := by
  induction h with
  | done v g => exact hv
  | refuse _ _ ih => exact ih hv
  | init _ _ _ ih => exact ih hv
  | register hdir _ ih => exact ih (hv.mark hdir)
  | success _ _ _ ih => exact ih hv
  | failure hdir _ _ ih => exact ih (hv.mark hdir)

/-- A download for a directory that is not registered at the time. What is registered then is what was
    registered at the start, and more. -/
structure Fresh (v v' : Registry) (d : Download) : Prop where
  unregistered : d.known.contains d.dir = false
  after : v.folders <+: d.known.folders
  before : d.known.folders <+: v'.folders
  distinct : v.Distinct → d.known.Distinct

theorem Fresh.of_mark {dir : Path} {d : Download} (hdir : v.contains dir = false) (h : Fresh (v.mark dir) v' d) :
    Fresh v v' d :=
  ⟨h.unregistered, (List.prefix_append ..).trans h.after, h.before, fun hv => h.distinct (hv.mark hdir)⟩

theorem fresh (h : Traced v g cs v' g') : ∀ d ∈ cs.filterMap GoCall.download?, Fresh v v' d := by
  induction h with
  | done v g => simp
  | refuse _ _ ih => exact ih
  | init _ _ _ ih => exact ih
  | register hdir _ ih => exact fun d hd => (ih d hd).of_mark hdir
  | success hdir _ hrest ih =>
    intro d hd
    rcases List.mem_cons.mp hd with rfl | hd
    · exact ⟨hdir, List.prefix_refl _, hrest.kept, id⟩
    · exact ih d hd
  | failure hdir _ hrest ih =>
    intro d hd
    rcases List.mem_cons.mp hd with rfl | hd
    · exact ⟨hdir, List.prefix_refl _, (List.prefix_append ..).trans hrest.kept, id⟩
    · exact (ih d hd).of_mark hdir

/-- No download follows for a directory for which one failed. -/
theorem pairwise (h : Traced v g cs v' g') :
    (cs.filterMap GoCall.download?).Pairwise fun d e => d.failed = true → d.dir.same e.dir = false := by
  induction h with
  | done v g => exact .nil
  | refuse _ _ ih => exact ih
  | init _ _ _ ih => exact ih
  | register _ _ ih => exact ih
  | success _ _ _ ih => exact List.pairwise_cons.mpr ⟨nofun, ih⟩
  | @failure v _ _ _ _ dir _ _ hrest ih =>
    refine List.pairwise_cons.mpr ⟨fun e he _ => ?_, ih⟩
    -- the directory was registered when it failed, and the other one is not registered even then
    have hlater := hrest.fresh e he
    have hmarked : e.known.contains dir = true := by
      refine Registry.contains_mono hlater.after ?_
      rw [Registry.contains_mark, Path.same_iff.mpr rfl, Bool.or_true]
    refine Bool.eq_false_iff.mpr fun hsame => ?_
    rw [Registry.contains_congr hsame, hlater.unregistered] at hmarked
    cases hmarked

end Traced

/-- Of the downloads for a directory at most one fails. -/
theorem length_failed_le_one {log : List Download}
    (h : log.Pairwise fun d e => d.failed = true → d.dir.same e.dir = false) (dir : Path) :
    (log.filter fun d => d.failed && d.dir.same dir).length ≤ 1 := by
  have hpair := h.sublist (List.filter_sublist (p := fun d => d.failed && d.dir.same dir))
  have hmem : ∀ d ∈ log.filter (fun d => d.failed && d.dir.same dir),
      d.failed = true ∧ d.dir.segments = dir.segments := by
    intro d hd
    have := (List.mem_filter.mp hd).2
    rw [Bool.and_eq_true, Path.same_iff] at this
    exact this
  generalize log.filter (fun d => d.failed && d.dir.same dir) = failures at hpair hmem ⊢
  rcases failures with _ | ⟨d, _ | ⟨e, rest⟩⟩
  · exact Nat.zero_le 1
  · exact Nat.le_refl 1
  · obtain ⟨hfailed, hd⟩ := hmem d (by simp)
    obtain ⟨_, he⟩ := hmem e (by simp)
    have hno := (List.pairwise_cons.mp hpair).1 e (by simp) hfailed
    rw [Path.same_iff.mpr (hd.trans he.symm)] at hno
    cases hno

/-! ## What is tried -/

namespace Manager

/-- The download that is tried for a folder: one that is local and that the registry does not pass over. -/
def tried? (f : Folder) (v : Registry) (w : Workbench Tree) : Option Download :=
  f.uri.toFilePath?.bind fun dir =>
    if (v.checkOrRegister w dir).1.isNone then some ⟨dir, v, w.go.refuses (callIn dir "mod download")⟩ else none

/-- The downloads that are tried for folders, one after the other. -/
def triedAll (config : Config) : List Folder → Registry → Workbench Tree → List Download
  | [], _, _ => []
  | f :: fs, v, w =>
    (tried? f v w).toList ++ triedAll config fs (downloadOne config f v w).1 (downloadOne config f v w).2

/-- The downloads that a manager tries. -/
def tried (m : Manager) (folders : List Folder) (v : Registry) (w : Workbench Tree) : List Download :=
  if m.policy.install then triedAll m.policy.config folders v w else []

/-- The downloads that a manager tries when it manages folders: those for the folders and what it found. -/
def triedManaging (m : Manager) (folders : List Folder) (v : Registry) (w : Workbench Tree) : List Download :=
  (m.runAll folders folders w).2.1.tried (m.runAll folders folders w).1 v (m.runAll folders folders w).2.2

theorem downloadOne_traced (config : Config) (f : Folder) (v : Registry) (w : Workbench Tree) :
    Traced v w.go ((tried? f v w).toList.map .download) (downloadOne config f v w).1
      (downloadOne config f v w).2.go := by
  unfold tried? downloadOne
  cases f.uri.toFilePath? with
  | none => exact .done v w.go
  | some dir =>
    rcases Registry.checkOrRegister_cases v w dir with ⟨i, hi⟩ | ⟨hdir, hi | ⟨i, hi⟩⟩
    · simp only [Option.bind_some, hi]
      exact .done v w.go
    · simp only [Option.bind_some, hi, Toolchain.modDownload, run_eq]
      cases hcall : w.go.refuses (callIn dir "mod download") with
      | false => exact .success hdir hcall (.done ..)
      | true => exact .failure hdir hcall (.done ..)
    · simp only [Option.bind_some, hi]
      exact .register hdir (.done ..)

theorem downloadAll_traced (config : Config) (fs : List Folder) (v : Registry) (w : Workbench Tree) :
    Traced v w.go ((triedAll config fs v w).map .download) (downloadAll config fs v w).1
      (downloadAll config fs v w).2.go := by
  induction fs generalizing v w with
  | nil => exact .done v w.go
  | cons f fs ih =>
    rw [triedAll, List.map_append]
    exact (downloadOne_traced config f v w).append (ih _ _)

theorem downloadDeps_traced (m : Manager) (fs : List Folder) (v : Registry) (w : Workbench Tree) :
    Traced v w.go ((m.tried fs v w).map .download) (m.downloadDeps fs v w).1 (m.downloadDeps fs v w).2.go := by
  unfold tried downloadDeps
  split
  · exact downloadAll_traced ..
  · exact .done v w.go

end Manager

/-! ## Scans -/

/-- The command is called for new modules only. -/
def Initializes (g g' : GoStub) : Prop := ∀ v, ∃ cs, Traced v g cs v g' ∧ cs.filterMap GoCall.download? = []

namespace Initializes

theorem refl (g : GoStub) : Initializes g g := fun v => ⟨[], .done v g, rfl⟩

theorem trans {g g' g'' : GoStub} (h : Initializes g g') (h' : Initializes g' g'') : Initializes g g'' := by
  intro v
  obtain ⟨cs, hcs, hnone⟩ := h v
  obtain ⟨ds, hds, hnone'⟩ := h' v
  refine ⟨cs ++ ds, hcs.append hds, ?_⟩
  rw [List.filterMap_append, hnone, hnone']
  rfl

end Initializes

namespace Module

/-- Without installation the go command is not called. -/
theorem createModule_go {policy : Policy} (hp : policy.install = false) (dir : Path) (w : Workbench Tree) :
    (createModule policy dir w).2.go = w.go := by
  simp only [createModule, modulePath_state, hp, Bool.false_eq_true, if_false]
  rcases writeModuleFile_cases dir (modulePath dir w).1 w with ⟨r, hr, _⟩ | ⟨_, _, hr⟩
  · rw [hr]
    cases r <;> rfl
  · rw [hr]

theorem createModule_initializes (policy : Policy) (dir : Path) (w : Workbench Tree) :
    Initializes w.go (createModule policy dir w).2.go := by
  cases hp : policy.install with
  | true =>
    rw [createModule_toolchain hp]
    exact fun v => ⟨[.init dir _], .init dir _ (.done ..), rfl⟩
  | false =>
    rw [createModule_go hp]
    exact .refl _

theorem createAll_initializes (policy : Policy) (rs : List ModuleRoot) (w : Workbench Tree) :
    Initializes w.go (createAll policy rs w).2.2.go := by
  induction rs generalizing w with
  | nil => exact .refl _
  | cons r rs ih =>
    have hfirst := createModule_initializes policy r.path w
    simp only [createAll]
    rcases hcm : createModule policy r.path w with ⟨e | wrote, w'⟩
    all_goals
      rw [hcm] at hfirst
      exact hfirst.trans (ih w')

theorem scan_initializes (policy : Policy) (folder : Path) (w : Workbench Tree) :
    Initializes w.go (scan policy folder w).2.go := by
  obtain ⟨rs, hstate, _⟩ := scan_creates policy folder w
  rw [hstate]
  exact createAll_initializes policy rs w

end Module

namespace Manager

theorem run_initializes (m : Manager) (f : Folder) (w : Workbench Tree) : Initializes w.go (m.run f w).2.2.go := by
  unfold run
  cases f.uri.toFilePath? with
  | none => exact .refl _
  | some dir =>
    have hscan := scan_initializes m.policy dir w
    simp only [manager_scan_eq]
    rcases hs : Module.scan m.policy dir w with ⟨e | ⟨roots, written⟩, w'⟩
    all_goals
      rw [hs] at hscan
      exact hscan

theorem runAll_initializes (m : Manager) (roots folders : List Folder) (w : Workbench Tree) :
    Initializes w.go (m.runAll roots folders w).2.2.go := by
  induction roots generalizing m folders w with
  | nil => exact .refl _
  | cons r rs ih =>
    have hfirst := run_initializes m r w
    simp only [runAll]
    rcases hrun : m.run r w with ⟨e | added, m', w'⟩
    all_goals
      rw [hrun] at hfirst
      exact hfirst.trans (ih m' _ w')

theorem manage_traced (m : Manager) (folders : List Folder) (v : Registry) (w : Workbench Tree) :
    ∃ cs, Traced v w.go cs (m.manage folders v w).2.2.1 (m.manage folders v w).2.2.2.go ∧
      cs.filterMap GoCall.download? = m.triedManaging folders v w := by
  obtain ⟨cs, hcs, hnone⟩ := runAll_initializes m folders folders w v
  refine ⟨_, hcs.append (downloadDeps_traced _ (m.runAll folders folders w).1 v _), ?_⟩
  rw [List.filterMap_append, hnone, List.nil_append, List.filterMap_map]
  exact List.filterMap_some

end Manager

namespace Workspace

variable [ProjectSettings (Workbench Tree)]

/-- The downloads that are tried when folders are managed one after the other. -/
def triedAll (w : Workspace (Workbench Tree)) (options : Option Json) : List Folder → List Download
  | [] => []
  | f :: fs =>
    (Manager.new (w.policyFor options f)).triedManaging [f] w.vendor w.world ++
      triedAll (w.manageFolder options f).2 options fs

/-- The downloads that a session tries. -/
def tried (w : Workspace (Workbench Tree)) (folders : List Folder) (options : Option Json) : List Download :=
  if w.session.closed then [] else w.triedAll options folders

theorem manageAll_traced (w : Workspace (Workbench Tree)) (options : Option Json) (folders found : List Folder) :
    ∃ cs, Traced w.vendor w.world.go cs (w.manageAll options folders found).2.vendor
        (w.manageAll options folders found).2.world.go ∧
      cs.filterMap GoCall.download? = w.triedAll options folders := by
  induction folders generalizing w found with
  | nil => exact ⟨[], .done .., rfl⟩
  | cons f fs ih =>
    obtain ⟨cs, hcs, htried⟩ := Manager.manage_traced (.new (w.policyFor options f)) [f] w.vendor w.world
    obtain ⟨ds, hds, hrest⟩ := ih (w.manageFolder options f).2 (Folder.addNew found (w.manageFolder options f).1)
    refine ⟨cs ++ ds, hcs.append hds, ?_⟩
    rw [List.filterMap_append, htried, hrest, triedAll]

theorem manageDeps_traced (w : Workspace (Workbench Tree)) (folders : List Folder) (options : Option Json) :
    ∃ cs, Traced w.vendor w.world.go cs (w.manageDeps folders options).2.vendor
        (w.manageDeps folders options).2.world.go ∧
      cs.filterMap GoCall.download? = w.tried folders options := by
  unfold tried
  cases hclosed : w.session.closed with
  | true =>
    rw [manageDeps_of_closed hclosed]
    exact ⟨[], .done .., rfl⟩
  | false =>
    simp only [manageDeps, hclosed, Bool.false_eq_true, if_false]
    exact manageAll_traced w options folders []

end Workspace

/-! ## Histories -/

/-- What managers and sessions share: the registry, the files and the go command. -/
structure Shared where
  vendor : Registry
  world : Workbench Tree

/-- What happens to it: some manager or session works, the files change, or the command comes to refuse more. -/
inductive Activity where
  | download (m : Manager) (folders : List Folder)
  | manage (m : Manager) (folders : List Folder)
  | manageDeps (session : Session) (folders : List Folder) (options : Option Json)
  | files (t : Tree)
  | refuse (lead : String)

namespace Shared

variable [ProjectSettings (Workbench Tree)]

def next (s : Shared) : Activity → Shared
  | .download m folders => ⟨(m.downloadDeps folders s.vendor s.world).1, (m.downloadDeps folders s.vendor s.world).2⟩
  | .manage m folders => ⟨(m.manage folders s.vendor s.world).2.2.1, (m.manage folders s.vendor s.world).2.2.2⟩
  | .manageDeps session folders options =>
    let w := (Workspace.manageDeps ⟨session, s.vendor, s.world⟩ folders options).2
    ⟨w.vendor, w.world⟩
  | .files t => { s with world := { s.world with files := t } }
  | .refuse lead => { s with world := { s.world with go := s.world.go.refuse lead } }

/-- The downloads that are tried. -/
def tried (s : Shared) : Activity → List Download
  | .download m folders => m.tried folders s.vendor s.world
  | .manage m folders => m.triedManaging folders s.vendor s.world
  | .manageDeps session folders options => Workspace.tried ⟨session, s.vendor, s.world⟩ folders options
  | .files _ => []
  | .refuse _ => []

def play (s : Shared) (history : List Activity) : Shared := history.foldl next s

/-- All downloads that are tried in the course of a history. -/
def log (s : Shared) : List Activity → List Download
  | [] => []
  | a :: history => s.tried a ++ log (s.next a) history

theorem next_traced (s : Shared) (a : Activity) :
    ∃ cs, Traced s.vendor s.world.go cs (s.next a).vendor (s.next a).world.go ∧
      cs.filterMap GoCall.download? = s.tried a := by
  cases a with
  | download m folders =>
    refine ⟨_, m.downloadDeps_traced folders s.vendor s.world, ?_⟩
    rw [List.filterMap_map]
    exact List.filterMap_some
  | manage m folders => exact m.manage_traced folders s.vendor s.world
  | manageDeps session folders options => exact Workspace.manageDeps_traced ⟨session, s.vendor, s.world⟩ folders options
  | files t => exact ⟨[], .done .., rfl⟩
  | refuse lead => exact ⟨[], .refuse lead (.done ..), rfl⟩

theorem play_traced (s : Shared) (history : List Activity) :
    ∃ cs, Traced s.vendor s.world.go cs (s.play history).vendor (s.play history).world.go ∧
      cs.filterMap GoCall.download? = s.log history := by
  induction history generalizing s with
  | nil => exact ⟨[], .done .., rfl⟩
  | cons a history ih =>
    obtain ⟨cs, hcs, hfirst⟩ := next_traced s a
    obtain ⟨ds, hds, hrest⟩ := ih (s.next a)
    refine ⟨cs ++ ds, hcs.append hds, ?_⟩
    rw [List.filterMap_append, hfirst, hrest, log]

/-- Whatever managers and sessions do, one after the other: no directory comes to be registered twice, and none is
    taken out. The calls that the go command records are those for new modules and the downloads of the log, in
    order. Each download is for a directory that is not registered at the time; after one that failed there is no
    other for its directory, so of those for a directory at most one fails. -/
theorem play_no_retry (s : Shared) (hs : s.vendor.Distinct) (history : List Activity) :
    (s.play history).vendor.Distinct ∧ s.vendor.folders <+: (s.play history).vendor.folders ∧
      (∃ calls : List GoCall, (s.play history).world.go.calls = s.world.go.calls ++ calls.map GoCall.text ∧
        calls.filterMap GoCall.download? = s.log history) ∧
      (∀ d ∈ s.log history, d.known.contains d.dir = false ∧ d.known.Distinct ∧
        s.vendor.folders <+: d.known.folders ∧ d.known.folders <+: (s.play history).vendor.folders) ∧
      (s.log history).Pairwise (fun d e => d.failed = true → d.dir.same e.dir = false) ∧
      ∀ dir, ((s.log history).filter fun d => d.failed && d.dir.same dir).length ≤ 1 := by
  obtain ⟨cs, htraced, hlog⟩ := play_traced s history
  have hfresh := htraced.fresh
  have hpair := htraced.pairwise
  rw [hlog] at hfresh hpair
  refine ⟨htraced.distinct hs, htraced.kept, ⟨cs, htraced.calls_eq, hlog⟩, fun d hd => ?_, hpair,
    length_failed_le_one hpair⟩
  have h := hfresh d hd
  exact ⟨h.unregistered, h.distinct hs, h.after, h.before⟩

end Shared

/-- A module for which the go command downloads nothing, and a directory that holds only what is vendored. One
    directory is registered already. -/
def refusing : Shared :=
  ⟨⟨[⟨"/old"⟩]⟩, (Tree.empty.addFile ⟨"/a/go.mod"⟩ .empty).addDir ⟨"/b/vendor"⟩, ["/a: go mod download"], []⟩

def localFolders (dirs : List String) : List Folder := dirs.filterMap fun d => Folder.ofDir? (.ofText d)

/-- A session manages both; then a manager is to download for them again, for others, and for one of these twice. -/
def twoRounds : List Activity :=
  [ .manageDeps (.new ⟨true, "", true, none⟩) (localFolders ["/a", "/b"]) none,
    .download (.new ⟨true, .default⟩) (localFolders ["/a", "/b", "/c", "/old", "/c"]) ]

theorem play_no_retry_twoRounds :
    (refusing.log twoRounds).map (fun d => (d.dir.shown, d.known.folders.map (·.shown), d.failed)) =
        [("/a", ["/old"], true), ("/c", ["/old", "/a", "/b"], false), ("/c", ["/old", "/a", "/b"], false)] ∧
      (refusing.play twoRounds).vendor.Distinct := by
  refine ⟨by decide +kernel, (Shared.play_no_retry refusing (List.pairwise_singleton ..) twoRounds).1⟩

end GoAtlas
