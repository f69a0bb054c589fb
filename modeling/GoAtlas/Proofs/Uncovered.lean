/-
  GoAtlas.Proofs.Uncovered — what the second pass of a scan finds, and in which order.

  The pass goes down from a root, stops at module files, manifests and vendor entries, and notes the
  manifests and the directories with sources. Listings are sorted and a directory comes before what is
  below it, so what is noted is sorted by segments (`Segments` compare as lists of octets).
  - `lt_of_lt_above`: what lies below one of two siblings comes before what lies below the other.
  - `pairwise_lt_subdirectories` / `pairwise_lt_findingsBelow`: the pass goes through a directory, and
    through all below it, in ascending order, whether segments are compared by their octets or as they are shown.
  - `findingsBelow_ok_iff`: the pass succeeds exactly if every directory that it enters can be listed.
  - `findUncovered_exact`: both lists of the result, by what is in the tree alone, where the names that the pass may
    come to are texts.
  - `findUncovered_strayTwin`: elsewhere a directory may be listed twice.
-/
import GoAtlas.Proofs.Alike
import GoAtlas.Proofs.Coverage

namespace GoAtlas

open GoAtlas.Module

/-! ## The order of segments -/

namespace Segments

variable {β : Type} [LT β]

theorem lt_append {a b : List β} (x y : List β) (hlen : a.length = b.length) (h : a < b) : a ++ x < b ++ y := by
  induction h with
  | nil => simp at hlen
  | rel h => exact .rel h
  | cons _ ih =>
    simp only [List.length_cons, Nat.add_right_cancel_iff] at hlen
    exact .cons (ih hlen)

/-- Two places at one depth are ordered as all that lies below them. -/
theorem lt_of_lt_above {a b x y : List β} (hlen : a.length = b.length) (h : a < b) (hx : a <+: x) (hy : b <+: y) :
    x < y := by
  obtain ⟨u, rfl⟩ := hx
  obtain ⟨v, rfl⟩ := hy
  exact lt_append u v hlen h

/-- A place comes before what lies below it. -/
theorem lt_of_prefix {a x : List β} (h : a <+: x) (hne : a.length < x.length) : a < x := by
  obtain ⟨u, rfl⟩ := h
  cases u with
  | nil => simp at hne
  | cons n u =>
    have h : a ++ [] < a ++ n :: u := List.append_left_lt .nil
    rwa [List.append_nil] at h

end Segments

theorem Path.octets_eq_nil {p : Path} (h : p.segments = []) : p.octets = [] := by
  obtain ⟨f, r, hf⟩ := List.exists_cons_of_ne_nil (Text.fields_ne_nil Octets.slash p.octets)
  unfold segments at h
  simp only [pieces, hf, segmentsOf] at h
  by_cases e : f = []
  · by_cases er : r = []
    · rw [e, er] at hf
      exact Text.eq_nil_of_fields hf
    · simp [e, er] at h
  · simp [e] at h

/-- The names of entries can be compared by this key: it keeps the order of texts. -/
def KeepsOrder {β : Type} [LT β] (key : Octets → β) : Prop := ∀ a b : String, a < b → key a < key b

theorem keepsOrder_id : KeepsOrder (id : Octets → Octets) := fun _ _ h => Octets.ofText_lt h

theorem keepsOrder_shown : KeepsOrder Octets.shown := fun a b h => by
  rwa [Octets.shown_ofText, Octets.shown_ofText]

section Order

variable {β : Type} [LT β] {key : Octets → β} {t : Tree}

/-- The subdirectories of a directory come by name. -/
theorem Tree.Closed.pairwise_lt_subdirectories (h : t.Closed) (hkey : KeepsOrder key) {skip : String → Bool}
    {dir : Path} (hdir : dir.segments ≠ []) (htexts : t.ShowsTexts skip dir.segments) :
    (subdirectories skip dir (t.entries dir.segments)).Pairwise
      fun a b => a.segments.map key < b.segments.map key := by
  have hne := h.pairwise_subdirectories hdir htexts
  have hle := (sortEntries_pairwise
    ((t.dirs.filterMap fun d => (nameIn? dir.segments d).map fun n => (⟨n.shown, true, false⟩ : Entry)) ++
      (t.files.filterMap fun f => (nameIn? dir.segments f.1).map fun n => (⟨n.shown, false, true⟩ : Entry)))).filter
    fun e => e.isDir && !skip e.name
  unfold subdirectories at hne ⊢
  refine List.pairwise_map.mpr (List.Pairwise.imp_of_mem ?_ (hle.and (List.pairwise_map.mp hne)))
  intro a b ha hb hab
  have hstep : ∀ e ∈ (t.entries dir.segments).filter (fun e => e.isDir && !skip e.name),
      Path.IsStep (e.name : Octets) := by
    intro e he
    obtain ⟨hm, hd⟩ := List.mem_filter.mp he
    obtain ⟨n, -, ⟨rfl, hin⟩ | ⟨rfl, -⟩⟩ := mem_entries.mp hm
    · exact (h.isStep hdir hin).shown
    · simp at hd
  obtain ⟨hname, hsegs⟩ := hab
  rw [Path.segments_join_step dir (hstep a ha), Path.segments_join_step dir (hstep b hb)] at hsegs ⊢
  have hlt : a.name < b.name := by
    rw [← String.not_le]
    intro hba
    exact hsegs (by rw [String.le_antisymm hname hba])
  rw [List.map_append, List.map_append]
  exact List.append_left_lt (.rel (hkey _ _ hlt))

/-- Visits of ascending siblings find in ascending order, if each finds below itself in ascending order. -/
theorem pairwise_lt_flatMap {α : Type} {place : α → Segments} {cs : List Path} {f : Path → List α} {k : Nat}
    (hlen : ∀ c ∈ cs, c.segments.length = k) (hcs : cs.Pairwise fun a b => a.segments.map key < b.segments.map key)
    (hin : ∀ c ∈ cs, ∀ x ∈ f c, c.segments <+: place x)
    (hf : ∀ c ∈ cs, (f c).Pairwise fun x y => (place x).map key < (place y).map key) :
    (cs.flatMap f).Pairwise fun x y => (place x).map key < (place y).map key := by
  refine List.pairwise_flatMap.mpr ⟨hf, List.Pairwise.imp_of_mem ?_ hcs⟩
  intro a b ha hb hab x hx y hy
  have hlen' : (a.segments.map key).length = (b.segments.map key).length := by
    rw [List.length_map, List.length_map, hlen a ha, hlen b hb]
  exact Segments.lt_of_lt_above hlen' hab ((hin a ha x hx).map key) ((hin b hb y hy).map key)

/-- A directory comes before what lies below a subdirectory. -/
theorem lt_of_below_subdirectory (ht : t.Closed) {skip : String → Bool} {dir c : Path} {d : Segments}
    (h0 : dir.segments ≠ []) (hc : c ∈ subdirectories skip dir (t.entries dir.segments)) (hd : c.segments <+: d) :
    dir.segments.map key < d.map key := by
  obtain ⟨n, rfl, -, -, hnd⟩ := Tree.mem_subdirectories.mp hc
  rw [Path.segments_join_step dir (ht.isStep h0 hnd).shown] at hd
  refine Segments.lt_of_prefix (((List.prefix_append ..).trans hd).map key) ?_
  have hlength := hd.length_le
  simp only [List.length_append, List.length_singleton, List.length_map] at hlength ⊢
  omega

end Order

namespace Module

variable {σ : Type} [FileSystem σ] {s : σ} {t : Tree}

theorem pairwise_lt_findingsBelow {β : Type} [LT β] {key : Octets → β} (hkey : KeepsOrder key) (hs : Shows s t)
    (ht : t.Closed) {depth : Nat} {dir : Path} (hnamed : ClearlyNamed s t dir) {found : List Finding}
    (h : findingsBelow depth dir s = (.ok found, s)) :
    found.Pairwise fun x y => x.dir.segments.map key < y.dir.segments.map key := by
  induction depth generalizing dir found with
  | zero => simp [findingsBelow] at h
  | succ depth ih =>
    rcases (findingsBelow_succ_eq_ok hs).mp h with ⟨_, rfl⟩ | ⟨_, _, rfl⟩ | ⟨hstop, ⟨_, hdir⟩, hsub, rfl⟩
    · exact .nil
    · exact List.pairwise_singleton _ _
    · have h0 := (ht.dirsProper _ hdir).2
      have hlen := length_of_mem_subdirectories isHidden ht h0
      have hbelow := fun c hc => hnamed.subdirectory (c := c) ht h0 hstop hc
      have hin := fun c hc => prefix_of_mem_findingsBelow hs ht (hbelow c hc).1 (hsub c hc)
      refine List.pairwise_append.mpr ⟨?_, ?_, ?_⟩
      · unfold sourcesIn
        split
        · exact List.pairwise_singleton _ _
        · exact .nil
      · exact pairwise_lt_flatMap hlen (ht.pairwise_lt_subdirectories hkey h0 (hnamed.showsTexts hstop)) hin
          fun c hc => ih (hbelow c hc).2 (hsub c hc)
      · -- the directory itself comes before all that is below it
        intro x hx y hy
        have hx : x.dir = dir := by
          unfold sourcesIn at hx
          split at hx
          · rw [List.mem_singleton.mp hx]
            rfl
          · cases hx
        obtain ⟨c, hc, hy⟩ := List.mem_flatMap.mp hy
        rw [hx]
        exact lt_of_below_subdirectory ht h0 hc (hin c hc y hy)

/-! ## Where the pass goes -/

/-- The names lead from the root to a directory, none of them hidden; no names lead to the root itself. -/
def LeadsTo (t : Tree) (root : Path) (names : Segments) : Prop :=
  (∀ n ∈ names, isHidden n.shown = false) ∧ (names = [] ∨ root.segments ++ names ∈ t.dirs)

/-- Nothing is stopped from the root down to the directory that the names lead to. -/
def Unstopped (s : σ) (t : Tree) (root : Path) (names : Segments) : Prop :=
  LeadsTo t root names ∧ ∀ ms, ms <+: names → stopped s (root.descend ms) = false

theorem leadsTo_nil (root : Path) : LeadsTo t root [] := ⟨by simp, Or.inl rfl⟩

/-- Below a directory of the tree, the names are those that a walk follows. -/
theorem leadsTo_iff_reached (ht : t.Closed) {root : Path} (hroot : root.segments ∈ t.dirs) {names : Segments} :
    LeadsTo t root names ↔ t.Reached isHidden root.segments names := by
  have h0 := (ht.dirsProper _ hroot).2
  constructor
  · intro h
    have hd : root.segments ++ names ∈ t.dirs := by
      rcases h.2 with rfl | hd
      · simpa using hroot
      · exact hd
    refine ⟨?_, hd⟩
    intro n hn
    exact ⟨Tree.isName_of_not_isHidden (ht.isSteps h0 hd n hn) (h.1 n hn), h.1 n hn⟩
  · intro h
    exact ⟨fun n hn => (h.1 n hn).2, Or.inr h.2⟩

/-- The names are the segments that they add, also below the empty path. -/
theorem LeadsTo.segments_descend (ht : t.Closed) {root : Path} {names : Segments} (h : LeadsTo t root names) :
    (root.descend names).segments = root.segments ++ names := by
  rcases h.2 with rfl | hd
  · simp
  · by_cases h0 : root.segments = []
    · obtain ⟨octets⟩ := root
      obtain rfl : octets = [] := Path.octets_eq_nil h0
      rw [h0, List.nil_append] at hd ⊢
      exact Path.segments_ofSegments (ht.dirsProper _ hd).1
    · exact Path.segments_descend (ht.isSteps h0 hd) root

theorem unstopped_cons (ht : t.Closed) {root : Path} (hroot : root.segments ∈ t.dirs) {n : Octets} {names : Segments} :
    Unstopped s t root (n :: names) ↔ stopped s root = false ∧
      (isHidden n.shown = false ∧ root.segments ++ [n] ∈ t.dirs) ∧ Unstopped s t (root.join n) names := by
  have h0 := (ht.dirsProper _ hroot).2
  constructor
  · intro h
    obtain ⟨hr, hd⟩ := (leadsTo_iff_reached ht hroot).mp h.1
    obtain ⟨⟨_, hh, hnd⟩, hr⟩ := (Tree.reached_cons ht).mp ⟨hr, hd⟩
    have hseg := Path.segments_join_step root (ht.isStep h0 hnd)
    refine ⟨h.2 [] List.nil_prefix, ⟨hh, hnd⟩, ?_, ?_⟩
    · rw [leadsTo_iff_reached ht (hseg ▸ hnd), hseg]
      exact hr
    · intro ms hms
      exact h.2 (n :: ms) (List.cons_prefix_cons.mpr ⟨rfl, hms⟩)
  · intro h
    obtain ⟨hst, ⟨hh, hnd⟩, hlead, hclear⟩ := h
    have hstep := ht.isStep h0 hnd
    have hseg := Path.segments_join_step root hstep
    rw [leadsTo_iff_reached ht (hseg ▸ hnd), hseg] at hlead
    refine ⟨(leadsTo_iff_reached ht hroot).mpr ((Tree.reached_cons ht).mpr
      ⟨⟨Tree.isName_of_not_isHidden hstep hh, hh, hnd⟩, hlead⟩), ?_⟩
    intro ms hms
    rcases List.prefix_cons_iff.mp hms with rfl | ⟨ms, rfl, hms⟩
    · exact hst
    · exact hclear ms ‹ms <+: names›

theorem unstopped_nil {root : Path} : Unstopped s t root [] ↔ stopped s root = false := by
  constructor
  · exact fun h => h.2 [] List.nil_prefix
  · refine fun hst => ⟨leadsTo_nil root, fun ms hms => ?_⟩
    rw [List.prefix_nil.mp hms]
    exact hst

/-- Every directory that is entered from the root can be listed. -/
def AllListable (s : σ) (t : Tree) (root : Path) : Prop :=
  ∀ names, Unstopped s t root names → ∃ es, t.list (root.descend names) = .ok es

theorem allListable_of_stopped {root : Path} (hst : stopped s root = true) : AllListable s t root := by
  intro names h
  have := h.2 [] List.nil_prefix
  rw [Path.descend_nil, hst] at this
  cases this

/-- What is entered from a root that is not stopped is the root and what is entered from its subdirectories. -/
theorem allListable_iff (ht : t.Closed) {dir : Path} (hnamed : ClearlyNamed s t dir) (hst : stopped s dir = false) :
    AllListable s t dir ↔ (dir.segments ∉ t.unreadable ∧ dir.segments ∈ t.dirs) ∧
      ∀ c ∈ subdirectories isHidden dir (t.entries dir.segments), AllListable s t c := by
  constructor
  · intro h
    obtain ⟨es, hes⟩ := h [] (unstopped_nil.mpr hst)
    obtain ⟨hread, hdir, _⟩ := Tree.list_eq_ok.mp hes
    refine ⟨⟨hread, hdir⟩, fun c hc names hin => ?_⟩
    obtain ⟨n, rfl, hn, hh, hnd⟩ := Tree.mem_subdirectories.mp hc
    have htext : Octets.ofText n.shown = n := hnamed.showsTexts hst n hn hh hnd
    rw [htext] at hin ⊢
    exact h (n :: names) ((unstopped_cons ht hdir).mpr ⟨hst, ⟨hh, hnd⟩, hin⟩)
  · intro h names hin
    obtain ⟨⟨hread, hdir⟩, hsub⟩ := h
    cases names with
    | nil => exact ⟨_, Tree.list_eq_ok.mpr ⟨hread, hdir, rfl⟩⟩
    | cons n names =>
      obtain ⟨_, ⟨hh, hnd⟩, hin⟩ := (unstopped_cons ht hdir).mp hin
      have h0 := (ht.dirsProper _ hdir).2
      have hn := Tree.isName_of_not_isHidden (ht.isStep h0 hnd) hh
      exact hsub _ ((Tree.mem_subdirectories_entered ht h0).mpr
        ⟨n, rfl, hn, hh, hnamed.showsTexts hst n hn hh hnd, hnd⟩).1 names hin

/-- A pass that may go deeper than there are directories succeeds exactly if every directory that it enters
    can be listed. -/
theorem findingsBelow_ok_iff (hs : Shows s t) (ht : t.Closed) {depth : Nat} {dir : Path}
    (hd : (t.dirs.filter fun d => dir.segments.isPrefixOf d).length < depth) (hnamed : ClearlyNamed s t dir) :
    (∃ found, findingsBelow depth dir s = (.ok found, s)) ↔ AllListable s t dir := by
  induction depth generalizing dir with
  | zero => omega
  | succ depth ih =>
    cases hst : stopped s dir with
    | true =>
      -- nothing is entered, and the pass ends here
      refine iff_of_true ?_ (allListable_of_stopped hst)
      cases hm : hasModuleFile s dir with
      | true => exact ⟨_, (findingsBelow_succ_eq_ok hs).mpr (Or.inl ⟨hm, rfl⟩)⟩
      | false =>
        have hman : hasManifest s dir = true := by simpa [stopped, hm] using hst
        exact ⟨_, (findingsBelow_succ_eq_ok hs).mpr (Or.inr (Or.inl ⟨hm, hman, rfl⟩))⟩
    | false =>
      have hchild : dir.segments ∈ t.dirs → ∀ c ∈ subdirectories isHidden dir (t.entries dir.segments),
          ((∃ found, findingsBelow depth c s = (.ok found, s)) ↔ AllListable s t c) := by
        intro hdir c hc
        have := length_below_subdirectory_lt ht hdir hc
        exact ih (by omega) (hnamed.subdirectory ht (ht.dirsProper _ hdir).2 hst hc).2
      rw [allListable_iff ht hnamed hst]
      constructor
      · intro h
        obtain ⟨found, h⟩ := h
        rcases (findingsBelow_succ_eq_ok hs).mp h with ⟨hm, _⟩ | ⟨_, hman, _⟩ | ⟨_, hread, hsub, _⟩
        · rw [stopped_of_hasModuleFile hm] at hst
          cases hst
        · rw [stopped_of_hasManifest hman] at hst
          cases hst
        · exact ⟨hread, fun c hc => (hchild hread.2 c hc).mp ⟨_, hsub c hc⟩⟩
      · intro h
        obtain ⟨hread, hsub⟩ := h
        refine ⟨_, (findingsBelow_succ_eq_ok hs).mpr (Or.inr (Or.inr ⟨hst, hread, fun c hc => ?_, rfl⟩))⟩
        obtain ⟨found, hf⟩ := (hchild hread.2 c hc).mpr (hsub c hc)
        exact succeeds_of_eq hf

/-- What the pass finds from any root, also from one that is no directory: that can succeed only where the root
    itself is stopped. -/
theorem mem_findings (hs : Shows s t) (ht : t.Closed) {depth : Nat} {root : Path} {found : List Finding}
    (h : findingsBelow depth root s = (.ok found, s)) {x : Finding} :
    x ∈ found ↔ ∃ names, (LeadsTo t root names ∧ names.IsText) ∧ ClearAbove s root names ∧
      FoundAt s t (root.descend names) x := by
  by_cases hroot : root.segments ∈ t.dirs
  · simp only [mem_findingsBelow hs ht hroot h, leadsTo_iff_reached ht hroot, Tree.Entered]
  · cases depth with
    | zero => simp [findingsBelow] at h
    | succ depth =>
      have hself : LeadsTo t root [] ∧ Segments.IsText [] := ⟨leadsTo_nil root, by simp [Segments.IsText]⟩
      rcases (findingsBelow_succ_eq_ok hs).mp h with ⟨hm, rfl⟩ | ⟨hm, hman, rfl⟩ | ⟨_, ⟨_, hdir⟩, _⟩
      · rw [exists_found_of_stopped hself (stopped_of_hasModuleFile hm)]
        exact iff_of_false List.not_mem_nil (not_foundAt_of_hasModuleFile hm)
      · rw [List.mem_singleton, exists_found_of_stopped hself (stopped_of_hasManifest hman),
          foundAt_of_hasManifest hm hman]
      · exact absurd hdir hroot

/-! ## What is uncovered -/

theorem findUncovered_eq_ok (hs : Shows s t) {root : Path} {u : Uncovered} :
    (findUncovered root s).1 = .ok u ↔
      ∃ found, findingsBelow (FileSystem.maxDepth s) root s = (.ok found, s) ∧ u = .ofFindings found := by
  have hst := findingsBelow_state hs (FileSystem.maxDepth s) root
  unfold findUncovered
  rcases hf : findingsBelow (FileSystem.maxDepth s) root s with ⟨e | found, s'⟩
  · simp
  · rw [hf] at hst
    simp only at hst
    simp [hst, eq_comm]

/-- Where the pass succeeds, the names that it may come to are texts if they are known to be below a directory. -/
theorem ClearlyNamed.isText (hs : Shows s t) (ht : t.Closed) {depth : Nat} {root : Path} (hnamed : ClearlyNamed s t root)
    {found : List Finding} (h : findingsBelow depth root s = (.ok found, s)) {names : Segments}
    (hlead : LeadsTo t root names) (hclear : ClearAbove s root names) : names.IsText := by
  by_cases hroot : root.segments ∈ t.dirs
  · exact hnamed names ((leadsTo_iff_reached ht hroot).mp hlead) hclear
  · -- a root that is no directory is stopped, and no names lead on
    have hst : stopped s root = true := by
      cases depth with
      | zero => simp [findingsBelow] at h
      | succ depth =>
        rcases (findingsBelow_succ_eq_ok hs).mp h with ⟨hm, -⟩ | ⟨-, hman, -⟩ | ⟨-, ⟨-, hdir⟩, -⟩
        · exact stopped_of_hasModuleFile hm
        · exact stopped_of_hasManifest hman
        · exact absurd hdir hroot
    rw [eq_nil_of_stopped hst hclear]
    simp [Segments.IsText]

/-- The lists are what no module covers below the root, told by the tree alone. -/
structure Uncovered.Exact (t : Tree) (root : Path) (u : Uncovered) : Prop where
  /-- The topmost directories with an old manifest or a vendor entry that have no module file. -/
  manifests : ∀ d, d ∈ u.manifestDirs ↔ ∃ names, LeadsTo t root names ∧ ClearAbove t root names ∧
    (d = root.descend names ∧ d.segments = root.segments ++ names) ∧ hasModuleFile t d = false ∧ hasManifest t d = true
  /-- The directories with a source file that nothing stops the pass from entering. -/
  sources : ∀ x, x ∈ u.sourceDirs ↔ ∃ names base, Unstopped t t root names ∧
    x = (root.segments ++ names).shown ∧ Tree.isSourceName (Octets.shown base) = true ∧
    (t.contents? (root.segments ++ names ++ [base])).isSome = true
  /-- Each once, in order. -/
  manifestsAscend : u.manifestDirs.Pairwise fun a b => a.segments < b.segments
  sourcesAscend : u.sourceDirs.Pairwise (· < ·)
  manifestsApart : ∀ a ∈ u.manifestDirs, ∀ b ∈ u.manifestDirs, a.segments <+: b.segments → a = b
  sourcesApart : ∀ d ∈ u.manifestDirs, ∀ x ∈ u.sourceDirs, ¬d.segments.shown <+: x

theorem mem_manifests (hs : Shows s t) (ht : t.Closed) {depth : Nat} {root : Path} (hnamed : ClearlyNamed s t root)
    {found : List Finding} (h : findingsBelow depth root s = (.ok found, s)) {d : Path} :
    d ∈ found.filterMap Finding.manifest? ↔ ∃ names, LeadsTo t root names ∧ ClearAbove s root names ∧
      (d = root.descend names ∧ d.segments = root.segments ++ names) ∧
      hasModuleFile s d = false ∧ hasManifest s d = true := by
  rw [List.mem_filterMap]
  constructor
  · intro hd
    obtain ⟨x, hx, hxd⟩ := hd
    obtain ⟨names, ⟨hlead, _⟩, hclear, ⟨rfl, hm, hman⟩ | ⟨rfl, _⟩⟩ := (mem_findings hs ht h).mp hx
    · cases hxd
      exact ⟨names, hlead, hclear, ⟨rfl, hlead.segments_descend ht⟩, hm, hman⟩
    · cases hxd
  · intro hd
    obtain ⟨names, hlead, hclear, ⟨rfl, _⟩, hm, hman⟩ := hd
    have htext := hnamed.isText hs ht h hlead hclear
    exact ⟨_, (mem_findings hs ht h).mpr ⟨names, ⟨hlead, htext⟩, hclear, Or.inl ⟨rfl, hm, hman⟩⟩, rfl⟩

/-- Nothing stopped above and nothing stopped at the end: nothing stopped on the way. -/
theorem unstopped_iff {root : Path} {names : Segments} : Unstopped s t root names ↔
    LeadsTo t root names ∧ ClearAbove s root names ∧ stopped s (root.descend names) = false := by
  constructor
  · intro h
    exact ⟨h.1, fun ms hms _ => h.2 ms hms, h.2 names (List.prefix_refl _)⟩
  · intro h
    obtain ⟨hlead, hclear, hend⟩ := h
    refine ⟨hlead, ?_⟩
    intro ms hms
    by_cases e : ms = names
    · rw [e]
      exact hend
    · exact hclear ms hms e

theorem mem_sources (hs : Shows s t) (ht : t.Closed) {depth : Nat} {root : Path} (hnamed : ClearlyNamed s t root)
    {found : List Finding} (h : findingsBelow depth root s = (.ok found, s)) {x : List String} :
    x ∈ found.filterMap Finding.sources? ↔ ∃ names base, Unstopped s t root names ∧
      x = (root.segments ++ names).shown ∧ Tree.isSourceName (Octets.shown base) = true ∧
      (t.contents? (root.segments ++ names ++ [base])).isSome = true := by
  rw [List.mem_filterMap]
  constructor
  · intro hx
    obtain ⟨y, hy, hyx⟩ := hx
    obtain ⟨names, ⟨hlead, _⟩, hclear, ⟨rfl, _⟩ | ⟨rfl, hst, hany⟩⟩ := (mem_findings hs ht h).mp hy
    · cases hyx
    · cases hyx
      obtain ⟨base, hbase, hfile⟩ := Tree.any_isSourceFile.mp hany
      rw [hlead.segments_descend ht] at hfile ⊢
      exact ⟨names, base, unstopped_iff.mpr ⟨hlead, hclear, hst⟩, rfl, hbase, hfile⟩
  · intro hx
    obtain ⟨names, base, hin, rfl, hbase, hfile⟩ := hx
    obtain ⟨hlead, hclear, hst⟩ := unstopped_iff.mp hin
    have hseg := hlead.segments_descend ht
    have htext := hnamed.isText hs ht h hlead hclear
    rw [← hseg] at hfile
    refine ⟨.sources (root.descend names), ?_, by simp [Finding.sources?, hseg]⟩
    exact (mem_findings hs ht h).mpr
      ⟨names, ⟨hlead, htext⟩, hclear, Or.inr ⟨rfl, hst, Tree.any_isSourceFile.mpr ⟨base, hbase, hfile⟩⟩⟩

/-- Where the names that it may come to are texts, the pass succeeds exactly if every directory that it enters can be
    listed, and then its two lists are what the tree says: the topmost manifests and the source directories that
    nothing stops it from entering, each once and in order, no manifest below another and no source directory below a
    manifest. -/
theorem findUncovered_exact {t : Tree} (ht : t.Built) {root : Path} (hnamed : ClearlyNamed t t root) :
    ((∃ u, (findUncovered root t).1 = .ok u) ↔
        ∀ names, Unstopped t t root names → ∃ es, t.list (root.descend names) = .ok es) ∧
      ∀ u, (findUncovered root t).1 = .ok u → u.Exact t root := by
  have hs := t.shows
  have hc := ht.closed
  constructor
  · show _ ↔ AllListable t t root
    rw [← findingsBelow_ok_iff hs hc (Nat.lt_succ_of_le (List.length_filter_le ..)) hnamed]
    simp only [findUncovered_eq_ok hs]
    constructor
    · intro h
      obtain ⟨u, found, hf, _⟩ := h
      exact ⟨found, hf⟩
    · intro h
      obtain ⟨found, hf⟩ := h
      exact ⟨_, found, hf, rfl⟩
  · intro u hu
    obtain ⟨found, hf, rfl⟩ := (findUncovered_eq_ok hs).mp hu
    have hman := fun d => mem_manifests hs hc hnamed hf (d := d)
    have hsrc := fun x => mem_sources hs hc hnamed hf (x := x)
    have hlt := pairwise_lt_findingsBelow keepsOrder_id hs hc hnamed hf
    have hltShown := pairwise_lt_findingsBelow keepsOrder_shown hs hc hnamed hf
    refine ⟨hman, hsrc, ?_, ?_, ?_, ?_⟩
    · refine List.pairwise_filterMap.mpr (hlt.imp ?_)
      intro x y hxy a ha b hb
      rw [List.map_id, List.map_id] at hxy
      cases x <;> cases y <;> cases ha <;> cases hb
      exact hxy
    · refine List.pairwise_filterMap.mpr (hltShown.imp ?_)
      intro x y hxy a ha b hb
      cases x <;> cases y <;> cases ha <;> cases hb
      exact hxy
    · intro a ha b hb hab
      obtain ⟨ms, _, _, ⟨rfl, hms⟩, _, hst⟩ := (hman a).mp ha
      obtain ⟨names, _, hclear, ⟨rfl, hnames⟩, _, _⟩ := (hman b).mp hb
      rw [hms, hnames] at hab
      have hle := (List.prefix_append_right_inj _).mp hab
      by_cases e : ms = names
      · rw [e]
      · have := hclear ms hle e
        rw [stopped_of_hasManifest hst] at this
        cases this
    · intro d hd x hx hdx
      obtain ⟨ms, hlead, hclear, ⟨rfl, hms⟩, _, hst⟩ := (hman d).mp hd
      obtain ⟨names, _, hin, rfl, _⟩ := (hsrc x).mp hx
      rw [hms, Segments.shown, Segments.shown, List.map_append, List.map_append, List.prefix_append_right_inj] at hdx
      have hnames := unstopped_iff.mp hin
      have hle := (Segments.shown_prefix_iff (hnamed.isText hs hc hf hlead hclear)
        (hnamed.isText hs hc hf hnames.1 hnames.2.1)).mp hdx
      have := hin.2 ms hle
      rw [stopped_of_hasManifest hst] at this
      cases this

/-- A source, another below a vendor entry, and one beside an old manifest. -/
def vendoredTree : Tree :=
  (((Tree.empty.addFile ⟨"/w/a.go"⟩ .empty).addFile ⟨"/w/m/vendor/d.go"⟩ .empty).addFile ⟨"/w/old/b.go"⟩ .empty).addFile
    ⟨"/w/old/Gopkg.lock"⟩ .empty

theorem findUncovered_exact_vendoredTree : vendoredTree.Built ∧ ClearlyNamed vendoredTree vendoredTree ⟨"/w"⟩ ∧
    (Uncovered.mk [⟨"/w/m"⟩, ⟨"/w/old"⟩] [["/", "w"]]).Exact vendoredTree ⟨"/w"⟩ := by
  have hbuilt : vendoredTree.Built := .addFile _ _ (.addFile _ _ (.addFile _ _ (.addFile _ _ .empty)))
  have htexts : ∀ d ∈ vendoredTree.dirs, Segments.IsText d := by decide +kernel
  have hnamed : ClearlyNamed vendoredTree vendoredTree ⟨"/w"⟩ :=
    .of_legible vendoredTree.shows hbuilt.closed (by decide) (.of_dirs htexts)
  exact ⟨hbuilt, hnamed, (findUncovered_exact hbuilt hnamed).2 _ rfl⟩

/-- A directory whose name is no text, beside the one that it looks like, which has an old manifest. -/
def strayTwin : Tree :=
  (Tree.empty.addDir ((⟨"/ws"⟩ : Path).join Tree.strayName)).addFile ⟨"/ws/\uFFFD/Gopkg.lock"⟩ .empty

theorem findUncovered_strayTwin : strayTwin.Built ∧
    ((findUncovered ⟨"/ws"⟩ strayTwin).1.toOption.map (·.manifestDirs)) = some [⟨"/ws/\uFFFD"⟩, ⟨"/ws/\uFFFD"⟩] :=
  ⟨.addFile _ _ (.addDir _ .empty), by decide +kernel⟩

end Module

end GoAtlas
