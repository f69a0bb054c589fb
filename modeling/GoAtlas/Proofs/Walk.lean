/-
  GoAtlas.Proofs.Walk — what the two passes over a tree find.

  Both passes list directories and change nothing, so what they find is read off the tree. A directory is
  `Reached` by the names that lead to it from the root. A pass goes on with the names that a listing shows,
  so it comes to those that are reached by texts (`Entered`), and fails where a name that is no text is shown
  as one that nothing has. A directory is `stopped` if it holds a module file, an old manifest or a vendor
  entry.
  - `mem_walkBelow`: a walk that succeeds finds exactly the directories that are entered.
  - `pairwise_walkBelow`: it finds each once if all that is reached is reached by texts (`Legible`).
  - `walkBelow_ok_iff`: a walk fails only at a directory that cannot be listed or is not there.
  - `mem_findingsBelow` / `pairwise_findingsBelow`: the second pass finds exactly the topmost directories
    with a manifest or a vendor entry, and the source directories with nothing stopped from the root
    down to them; each once under the same condition.
  - `findingsBelow_ok`: where the walk succeeds, so does the second pass.
-/
import GoAtlas.Proofs.Tree

namespace GoAtlas

open GoAtlas.Module

/-! ## Visiting without changes -/

section Collect

variable {σ ε α : Type}

/-- The results of a visit; a failed one has none. -/
def results (r : Except ε (List α) × σ) : List α :=
  match r.1 with
  | .ok xs => xs
  | .error _ => []

/-- The visit succeeds and changes nothing. -/
def Succeeds (visit : Path → σ → Except ε (List α) × σ) (s : σ) (p : Path) : Prop :=
  visit p s = (.ok (results (visit p s)), s)

variable {visit : Path → σ → Except ε (List α) × σ} {s : σ}

theorem succeeds_of_eq {p : Path} {xs : List α} (h : visit p s = (.ok xs, s)) : Succeeds visit s p := by
  rw [Succeeds, h]
  rfl

/-- Visits that change nothing are put together if all of them succeed. -/
theorem collect_cases (visit : Path → σ → Except ε (List α) × σ) (hv : ∀ p, (visit p s).2 = s) (ps : List Path) :
    (∃ e, collect visit ps s = (.error e, s) ∧ ¬∀ p ∈ ps, Succeeds visit s p) ∨
      (∀ p ∈ ps, Succeeds visit s p) ∧ collect visit ps s = (.ok (ps.flatMap fun p => results (visit p s)), s) := by
  induction ps with
  | nil => exact Or.inr ⟨by simp, rfl⟩
  | cons p ps ih =>
    have hp := hv p
    rcases hvp : visit p s with ⟨e | xs, s'⟩
    · rw [hvp] at hp
      cases hp
      refine Or.inl ⟨e, by simp [collect, hvp], fun h => ?_⟩
      have := h p (List.mem_cons_self ..)
      simp [Succeeds, hvp] at this
    · rw [hvp] at hp
      cases hp
      rcases ih with ⟨e, hc, hno⟩ | ⟨hall, hc⟩
      · exact Or.inl ⟨e, by simp [collect, hvp, hc], fun h => hno fun q hq => h q (List.mem_cons_of_mem _ hq)⟩
      · refine Or.inr ⟨fun q hq => ?_, by simp [collect, hvp, hc, results]⟩
        rcases List.mem_cons.mp hq with rfl | hq
        · exact succeeds_of_eq hvp
        · exact hall q hq

/-- What visits of distinct siblings find lies at distinct places, if each finds below itself. -/
theorem pairwise_flatMap_below {place : α → Segments} {cs : List Path} {f : Path → List α} {k : Nat}
    (hlen : ∀ c ∈ cs, c.segments.length = k) (hcs : cs.Pairwise fun a b => a.segments ≠ b.segments)
    (hin : ∀ c ∈ cs, ∀ x ∈ f c, c.segments <+: place x) (hf : ∀ c ∈ cs, (f c).Pairwise fun x y => place x ≠ place y) :
    (cs.flatMap f).Pairwise fun x y => place x ≠ place y := by
  refine List.pairwise_flatMap.mpr ⟨hf, List.Pairwise.imp_of_mem ?_ hcs⟩
  intro a b ha hb hab x hx y hy e
  have hxa := hin a ha x hx
  have hyb := hin b hb y hy
  rw [← e] at hyb
  have hlen' : a.segments.length = b.segments.length := (hlen a ha).trans (hlen b hb).symm
  have hp := List.prefix_of_prefix_length_le hxa hyb (Nat.le_of_eq hlen')
  exact hab (hp.eq_of_length hlen')

end Collect

/-! ## The walk -/

namespace Tree

theorem list_eq_ok {t : Tree} {dir : Path} {es : List Entry} : t.list dir = .ok es ↔
    dir.segments ∉ t.unreadable ∧ dir.segments ∈ t.dirs ∧ es = t.entries dir.segments := by
  unfold list isDir
  split
  · rename_i h
    rw [List.contains_iff_mem] at h
    simp [h]
  · rename_i h
    rw [List.contains_iff_mem] at h
    split
    · rename_i hd
      rw [List.contains_iff_mem] at hd
      simp [h, hd, eq_comm]
    · rename_i hd
      rw [List.contains_iff_mem] at hd
      simp [hd]

/-- The names lead to a directory below `root`, and none of them is skipped. -/
def Reached (t : Tree) (skip : String → Bool) (root names : Segments) : Prop :=
  (∀ n ∈ names, Path.isName n = true ∧ skip n.shown = false) ∧ root ++ names ∈ t.dirs

/-- The names that lead to the directory are shown as they are. -/
def Entered (t : Tree) (skip : String → Bool) (root names : Segments) : Prop :=
  t.Reached skip root names ∧ names.IsText

/-- All that is reached from the root is reached by texts. -/
def Legible (t : Tree) (skip : String → Bool) (root : Segments) : Prop :=
  ∀ names, t.Reached skip root names → names.IsText

/-- A name that is no text; listings show it as a replacement. -/
def strayName : Octets := [0xFF]

example : ¬strayName.IsText ∧ strayName.shown = "\uFFFD" := by decide

/-- A directory of that name. -/
def strayTree : Tree := Tree.empty.addDir ((⟨"/ws"⟩ : Path).join strayName)

/-- The root and all that is entered from it are directories that can be listed, and what their listings show
    is there. -/
structure Readable (t : Tree) (skip : String → Bool) (root : Segments) : Prop where
  isDir : root ∈ t.dirs
  listed : ∀ names, t.Entered skip root names → root ++ names ∉ t.unreadable
  there : ∀ names n, t.Entered skip root names → Path.isName n = true → skip n.shown = false →
    root ++ names ++ [n] ∈ t.dirs → root ++ names ++ [Octets.ofText n.shown] ∈ t.dirs

theorem Closed.isSteps {t : Tree} (h : t.Closed) {d ns : Segments} (hd : d ≠ []) (hn : d ++ ns ∈ t.dirs) :
    ∀ n ∈ ns, Path.IsStep n := (h.dirsProper _ hn).1.isStep hd

variable {t : Tree} {skip : String → Bool} {root names : Segments} {n : Octets}

theorem reached_nil (h : root ∈ t.dirs) : t.Reached skip root [] := ⟨by simp, by simpa using h⟩

theorem reached_cons (ht : t.Closed) : t.Reached skip root (n :: names) ↔
    (Path.isName n = true ∧ skip n.shown = false ∧ root ++ [n] ∈ t.dirs) ∧ t.Reached skip (root ++ [n]) names := by
  have ha : root ++ n :: names = root ++ [n] ++ names := by simp
  constructor
  · intro h
    obtain ⟨hn, hd⟩ := h
    rw [ha] at hd
    have h1 := hn n (List.mem_cons_self ..)
    exact ⟨⟨h1.1, h1.2, ht.mem_of_append (by simp) hd⟩, fun m hm => hn m (List.mem_cons_of_mem _ hm), hd⟩
  · intro h
    obtain ⟨⟨h1, h2, _⟩, hn, hd⟩ := h
    refine ⟨fun m hm => ?_, ha ▸ hd⟩
    rcases List.mem_cons.mp hm with rfl | hm
    · exact ⟨h1, h2⟩
    · exact hn m hm

theorem entered_nil (h : root ∈ t.dirs) : t.Entered skip root [] := ⟨reached_nil h, by simp [Segments.IsText]⟩

theorem entered_cons (ht : t.Closed) : t.Entered skip root (n :: names) ↔
    (Path.isName n = true ∧ skip n.shown = false ∧ n.IsText ∧ root ++ [n] ∈ t.dirs) ∧
      t.Entered skip (root ++ [n]) names := by
  rw [Entered, reached_cons ht, Segments.IsText, List.forall_mem_cons]
  constructor
  · intro h
    obtain ⟨⟨⟨hn, hs, hnd⟩, hr⟩, htext, htexts⟩ := h
    exact ⟨⟨hn, hs, htext, hnd⟩, hr, htexts⟩
  · intro h
    obtain ⟨⟨hn, hs, htext, hnd⟩, hr, htexts⟩ := h
    exact ⟨⟨⟨hn, hs, hnd⟩, hr⟩, htext, htexts⟩

/-- A tree of texts is legible everywhere. -/
theorem Legible.of_dirs (h : ∀ d ∈ t.dirs, Segments.IsText d) : t.Legible skip root := fun _ hr n hn =>
  h _ hr.2 n (List.mem_append_right _ hn)

theorem Legible.entered_iff (h : t.Legible skip root) : t.Entered skip root names ↔ t.Reached skip root names :=
  ⟨fun he => he.1, fun hr => ⟨hr, h names hr⟩⟩

theorem Legible.showsTexts (h : t.Legible skip root) : t.ShowsTexts skip root := fun n hn hs hnd =>
  h [n] ⟨by simp [hn, hs], hnd⟩ n (List.mem_singleton_self n)

theorem Legible.below (ht : t.Closed) (h : t.Legible skip root) (hn : Path.isName n = true)
    (hs : skip n.shown = false) (hnd : root ++ [n] ∈ t.dirs) : t.Legible skip (root ++ [n]) := fun names hr m hm =>
  h (n :: names) ((reached_cons ht).mpr ⟨⟨hn, hs, hnd⟩, hr⟩) m (List.mem_cons_of_mem _ hm)

/-- Where every name that is reached is a text, listings show what is there. -/
theorem Legible.readable_iff (h : t.Legible skip root) :
    t.Readable skip root ↔ root ∈ t.dirs ∧ ∀ names, t.Reached skip root names → root ++ names ∉ t.unreadable := by
  constructor
  · exact fun hr => ⟨hr.isDir, fun names hn => hr.listed names (h.entered_iff.mpr hn)⟩
  · refine fun hr => ⟨hr.1, fun names hn => hr.2 names hn.1, fun names n he hn hs hnd => ?_⟩
    have hreached : t.Reached skip root (names ++ [n]) := by
      refine ⟨fun m hm => ?_, by rwa [← List.append_assoc]⟩
      rcases List.mem_append.mp hm with hm | hm
      · exact he.1.1 m hm
      · exact List.mem_singleton.mp hm ▸ ⟨hn, hs⟩
    have htext : Octets.ofText n.shown = n := h _ hreached n (by simp)
    rwa [htext]

/-- A subdirectory that is there is one of its listed name. -/
theorem mem_subdirectories_entered (ht : t.Closed) {dir c : Path} (h0 : dir.segments ≠ []) :
    c ∈ subdirectories skip dir (t.entries dir.segments) ∧ c.segments ∈ t.dirs ↔
      ∃ n : Octets, c = dir.join n ∧ Path.isName n = true ∧ skip n.shown = false ∧ n.IsText ∧
        dir.segments ++ [n] ∈ t.dirs := by
  rw [mem_subdirectories]
  constructor
  · intro h
    obtain ⟨⟨n, rfl, hn, hs, hnd⟩, hc⟩ := h
    rw [Path.segments_join_step dir (ht.isStep h0 hnd).shown] at hc
    exact ⟨n.shown, rfl, by rwa [Path.isName_shown], by rwa [Octets.shown_ofText], Octets.isText_ofText _, hc⟩
  · intro h
    obtain ⟨n, rfl, hn, hs, htext, hnd⟩ := h
    have hshown : Octets.ofText n.shown = n := htext
    refine ⟨⟨n, by rw [hshown], hn, hs, hnd⟩, ?_⟩
    rwa [Path.segments_join_step dir (ht.isStep h0 hnd)]

end Tree

section Walk

variable {σ : Type} {list : Path → σ → Except Failure (List Entry) × σ} {skip : String → Bool} {t : Tree} {s : σ}

theorem walkBelow_state (skip : String → Bool) (hl : ∀ dir, list dir s = (t.list dir, s)) (depth : Nat) (dir : Path) :
    (walkBelow list skip depth dir s).2 = s := by
  induction depth generalizing dir with
  | zero => rfl
  | succ depth ih =>
    simp only [walkBelow, hl]
    cases t.list dir with
    | error e => rfl
    | ok es =>
      rcases collect_cases (walkBelow list skip depth) ih (subdirectories skip dir es) with
        ⟨e, hc, _⟩ | ⟨_, hc⟩ <;> simp only [hc]

/-- A walk succeeds where the directory can be listed and the walks of its subdirectories succeed. -/
theorem walkBelow_succ_eq_ok (hl : ∀ dir, list dir s = (t.list dir, s)) {depth : Nat} {dir : Path} {ds : List Path} :
    walkBelow list skip (depth + 1) dir s = (.ok ds, s) ↔
      (dir.segments ∉ t.unreadable ∧ dir.segments ∈ t.dirs) ∧
        (∀ c ∈ subdirectories skip dir (t.entries dir.segments),
          Succeeds (walkBelow list skip depth) s c) ∧
        ds = dir :: (subdirectories skip dir (t.entries dir.segments)).flatMap
          fun c => results (walkBelow list skip depth c s) := by
  have hst := walkBelow_state skip hl depth
  simp only [walkBelow, hl]
  cases hlist : t.list dir with
  | error e =>
    simp only [Prod.mk.injEq, reduceCtorEq, false_and, false_iff, not_and]
    intro h
    rw [Tree.list_eq_ok.mpr ⟨h.1, h.2, rfl⟩] at hlist
    cases hlist
  | ok es =>
    obtain ⟨h1, h2, rfl⟩ := Tree.list_eq_ok.mp hlist
    rw [and_iff_right ⟨h1, h2⟩]
    rcases collect_cases (walkBelow list skip depth) hst (subdirectories skip dir (t.entries dir.segments)) with
      ⟨e, hc, hno⟩ | ⟨hall, hc⟩
    · simp only [hc, Prod.mk.injEq, reduceCtorEq, false_and, false_iff, not_and]
      exact fun h => absurd h hno
    · simp only [hc, Prod.mk.injEq, Except.ok.injEq, and_true]
      exact ⟨fun h => ⟨hall, h.symm⟩, fun h => h.2.symm⟩

/-- Where a walk succeeds there is a directory. -/
theorem dir_of_walkBelow (hl : ∀ dir, list dir s = (t.list dir, s)) {depth : Nat} {dir : Path}
    (h : Succeeds (walkBelow list skip depth) s dir) : dir.segments ∈ t.dirs := by
  cases depth with
  | zero => simp [Succeeds, walkBelow] at h
  | succ depth => exact ((walkBelow_succ_eq_ok hl).mp h).1.2

theorem mem_walkBelow (hl : ∀ dir, list dir s = (t.list dir, s)) (ht : t.Closed) {depth : Nat} {dir : Path}
    {ds : List Path} (h : walkBelow list skip depth dir s = (.ok ds, s)) {d : Path} :
    d ∈ ds ↔ ∃ names, t.Entered skip dir.segments names ∧ d = dir.descend names := by
  induction depth generalizing dir ds with
  | zero => simp [walkBelow] at h
  | succ depth ih =>
    obtain ⟨⟨_, hdir⟩, hsub, rfl⟩ := (walkBelow_succ_eq_ok hl).mp h
    have h0 := (ht.dirsProper _ hdir).2
    rw [List.mem_cons, List.mem_flatMap]
    constructor
    · intro h
      rcases h with rfl | ⟨c, hc, hd⟩
      · exact ⟨[], Tree.entered_nil hdir, rfl⟩
      · obtain ⟨names, hr, rfl⟩ := (ih (hsub c hc)).mp hd
        obtain ⟨n, rfl, hn, hs, htext, hnd⟩ :=
          (Tree.mem_subdirectories_entered ht h0).mp ⟨hc, dir_of_walkBelow hl (hsub c hc)⟩
        rw [Path.segments_join_step dir (ht.isStep h0 hnd)] at hr
        exact ⟨n :: names, (Tree.entered_cons ht).mpr ⟨⟨hn, hs, htext, hnd⟩, hr⟩, rfl⟩
    · intro h
      obtain ⟨names, hr, rfl⟩ := h
      cases names with
      | nil => exact Or.inl rfl
      | cons n names =>
        obtain ⟨⟨hn, hs, htext, hnd⟩, hr⟩ := (Tree.entered_cons ht).mp hr
        have hc := ((Tree.mem_subdirectories_entered ht h0).mpr ⟨n, rfl, hn, hs, htext, hnd⟩).1
        rw [← Path.segments_join_step dir (ht.isStep h0 hnd)] at hr
        exact Or.inr ⟨dir.join n, hc, (ih (hsub _ hc)).mpr ⟨names, hr, rfl⟩⟩

/-- What a walk finds lies below its root. -/
theorem prefix_of_mem_walkBelow (hl : ∀ dir, list dir s = (t.list dir, s)) (ht : t.Closed) {depth : Nat} {dir : Path}
    {ds : List Path} (h : walkBelow list skip depth dir s = (.ok ds, s)) : ∀ d ∈ ds, dir.segments <+: d.segments := by
  intro d hd
  obtain ⟨names, hr, rfl⟩ := (mem_walkBelow hl ht h).mp hd
  by_cases h0 : dir.segments = []
  · simp [h0]
  · rw [Path.segments_descend (ht.isSteps h0 hr.1.2)]
    exact List.prefix_append ..

theorem length_of_mem_subdirectories (skip : String → Bool) (ht : t.Closed) {dir : Path} (h0 : dir.segments ≠ []) :
    ∀ c ∈ subdirectories skip dir (t.entries dir.segments), c.segments.length = dir.segments.length + 1 := by
  intro c hc
  obtain ⟨n, rfl, _, _, hnd⟩ := Tree.mem_subdirectories.mp hc
  rw [Path.segments_join_step dir (ht.isStep h0 hnd).shown]
  simp

/-- Below a legible directory lie legible ones. -/
theorem Tree.Legible.subdirectory (ht : t.Closed) {dir c : Path} (h : t.Legible skip dir.segments)
    (h0 : dir.segments ≠ []) (hc : c ∈ subdirectories skip dir (t.entries dir.segments)) :
    t.Legible skip c.segments := by
  obtain ⟨n, rfl, hn, hs, hnd⟩ := Tree.mem_subdirectories.mp hc
  have htext : Octets.ofText n.shown = n := h.showsTexts n hn hs hnd
  rw [htext, Path.segments_join_step dir (ht.isStep h0 hnd)]
  exact h.below ht hn hs hnd

theorem pairwise_walkBelow (hl : ∀ dir, list dir s = (t.list dir, s)) (ht : t.Closed) {depth : Nat} {dir : Path}
    (hlegible : t.Legible skip dir.segments) {ds : List Path}
    (h : walkBelow list skip depth dir s = (.ok ds, s)) : ds.Pairwise fun a b => a.segments ≠ b.segments := by
  induction depth generalizing dir ds with
  | zero => simp [walkBelow] at h
  | succ depth ih =>
    obtain ⟨⟨_, hdir⟩, hsub, rfl⟩ := (walkBelow_succ_eq_ok hl).mp h
    have h0 := (ht.dirsProper _ hdir).2
    have hlen := length_of_mem_subdirectories skip ht h0
    have hin := fun c hc => prefix_of_mem_walkBelow hl ht (hsub c hc)
    refine List.pairwise_cons.mpr ⟨fun d hd e => ?_, ?_⟩
    · obtain ⟨c, hc, hd⟩ := List.mem_flatMap.mp hd
      have h1 := (hin c hc d hd).length_le
      rw [← e, hlen c hc] at h1
      omega
    · exact pairwise_flatMap_below hlen (ht.pairwise_subdirectories h0 hlegible.showsTexts) hin
        fun c hc => ih (hlegible.subdirectory ht h0 hc) (hsub c hc)

/-- Among the directories at `dir` and below it, those of a subdirectory are fewer. -/
theorem length_below_lt {dir c : Segments} (hdir : dir ∈ t.dirs) (hc : dir <+: c) (hne : dir.length < c.length) :
    (t.dirs.filter fun d => c.isPrefixOf d).length < (t.dirs.filter fun d => dir.isPrefixOf d).length := by
  have hsub : (t.dirs.filter fun d => c.isPrefixOf d) =
      (t.dirs.filter fun d => dir.isPrefixOf d).filter fun d => c.isPrefixOf d := by
    rw [List.filter_filter]
    refine List.filter_congr fun d _ => ?_
    rw [Bool.eq_iff_iff, Bool.and_eq_true, List.isPrefixOf_iff_prefix, List.isPrefixOf_iff_prefix]
    exact ⟨fun h => ⟨h, hc.trans h⟩, fun h => h.1⟩
  rw [hsub, List.length_filter_lt_length_iff_exists]
  refine ⟨dir, List.mem_filter.mpr ⟨hdir, by simp⟩, fun h => ?_⟩
  have := (List.isPrefixOf_iff_prefix.mp h).length_le
  omega

theorem length_below_subdirectory_lt (ht : t.Closed) {dir c : Path} (hdir : dir.segments ∈ t.dirs)
    (hc : c ∈ subdirectories skip dir (t.entries dir.segments)) :
    (t.dirs.filter fun d => c.segments.isPrefixOf d).length <
      (t.dirs.filter fun d => dir.segments.isPrefixOf d).length := by
  have hlen := length_of_mem_subdirectories skip ht (ht.dirsProper _ hdir).2 c hc
  obtain ⟨n, rfl, _, _, hnd⟩ := Tree.mem_subdirectories.mp hc
  have hseg := Path.segments_join_step dir (ht.isStep (ht.dirsProper _ hdir).2 hnd).shown
  exact length_below_lt hdir (hseg ▸ List.prefix_append ..) (by omega)

/-- The subdirectories that a readable directory shows are there, and readable. -/
theorem Tree.Readable.subdirectory (ht : t.Closed) {dir c : Path} (h : t.Readable skip dir.segments)
    (hc : c ∈ subdirectories skip dir (t.entries dir.segments)) : t.Readable skip c.segments := by
  have hdir := h.isDir
  have h0 := (ht.dirsProper _ hdir).2
  have hcd : c.segments ∈ t.dirs := by
    obtain ⟨n, rfl, hn, hs, hnd⟩ := Tree.mem_subdirectories.mp hc
    rw [Path.segments_join_step dir (ht.isStep h0 hnd).shown]
    simpa using h.there [] n (Tree.entered_nil hdir) hn hs (by simpa using hnd)
  obtain ⟨n, rfl, hn, hs, htext, hnd⟩ := (Tree.mem_subdirectories_entered ht h0).mp ⟨hc, hcd⟩
  have hseg := Path.segments_join_step dir (ht.isStep h0 hnd)
  have henter : ∀ {names}, t.Entered skip (dir.join n).segments names → t.Entered skip dir.segments (n :: names) := by
    intro names hr
    rw [hseg] at hr
    exact (Tree.entered_cons ht).mpr ⟨⟨hn, hs, htext, hnd⟩, hr⟩
  refine ⟨hcd, fun names hr => ?_, fun names m hr hm hms hmd => ?_⟩
  · simpa [hseg] using h.listed _ (henter hr)
  · simpa [hseg] using h.there _ m (henter hr) hm hms (by simpa [hseg] using hmd)

theorem Tree.Readable.of_subdirectories (ht : t.Closed) {dir : Path} (hread : dir.segments ∉ t.unreadable)
    (hdir : dir.segments ∈ t.dirs)
    (hsub : ∀ c ∈ subdirectories skip dir (t.entries dir.segments), t.Readable skip c.segments) :
    t.Readable skip dir.segments := by
  have h0 := (ht.dirsProper _ hdir).2
  -- what is entered below a name is entered from the subdirectory of that name
  have hbelow : ∀ {n : Octets}, Path.isName n = true → skip n.shown = false → n.IsText →
      dir.segments ++ [n] ∈ t.dirs → t.Readable skip (dir.segments ++ [n]) := by
    intro n hn hs htext hnd
    rw [← Path.segments_join_step dir (ht.isStep h0 hnd)]
    exact hsub _ ((Tree.mem_subdirectories_entered ht h0).mpr ⟨n, rfl, hn, hs, htext, hnd⟩).1
  refine ⟨hdir, fun names hr => ?_, fun names n hr hn hs hnd => ?_⟩
  · cases names with
    | nil => simpa using hread
    | cons m names =>
      obtain ⟨⟨hm, hs, htext, hmd⟩, hr⟩ := (Tree.entered_cons ht).mp hr
      simpa using (hbelow hm hs htext hmd).listed names hr
  · cases names with
    | nil =>
      rw [List.append_nil] at hnd ⊢
      rw [← Path.segments_join_step dir (ht.isStep h0 hnd).shown]
      exact (hsub _ (Tree.mem_subdirectories.mpr ⟨n, rfl, hn, hs, hnd⟩)).isDir
    | cons m names =>
      obtain ⟨⟨hm, hms, htext, hmd⟩, hr⟩ := (Tree.entered_cons ht).mp hr
      simpa using (hbelow hm hms htext hmd).there names n hr hn hs (by simpa using hnd)

/-- A walk that may go deeper than there are directories fails only at one that cannot be listed or is not
    there. -/
theorem walkBelow_ok_iff (hl : ∀ dir, list dir s = (t.list dir, s)) (ht : t.Closed) {depth : Nat} {dir : Path}
    (hd : (t.dirs.filter fun d => dir.segments.isPrefixOf d).length < depth) :
    (∃ ds, walkBelow list skip depth dir s = (.ok ds, s)) ↔ t.Readable skip dir.segments := by
  induction depth generalizing dir with
  | zero => omega
  | succ depth ih =>
    have hchild : dir.segments ∈ t.dirs → ∀ c ∈ subdirectories skip dir (t.entries dir.segments),
        ((∃ ds, walkBelow list skip depth c s = (.ok ds, s)) ↔ t.Readable skip c.segments) := by
      intro hdir c hc
      have := length_below_subdirectory_lt ht hdir hc
      exact ih (by omega)
    constructor
    · intro h
      obtain ⟨ds, h⟩ := h
      obtain ⟨⟨hread, hdir⟩, hsub, -⟩ := (walkBelow_succ_eq_ok hl).mp h
      exact .of_subdirectories ht hread hdir fun c hc => (hchild hdir c hc).mp ⟨_, hsub c hc⟩
    · intro h
      have hroot : dir.segments ∉ t.unreadable := by simpa using h.listed [] (Tree.entered_nil h.isDir)
      refine ⟨_, (walkBelow_succ_eq_ok hl).mpr ⟨⟨hroot, h.isDir⟩, fun c hc => ?_, rfl⟩⟩
      obtain ⟨ds, hds⟩ := (hchild h.isDir c hc).mpr (h.subdirectory ht hc)
      exact succeeds_of_eq hds

end Walk

/-! ## The second pass -/

/-- What a state `s` shows of its files is the tree `t`. -/
structure Shows {σ : Type} [FileSystem σ] (s : σ) (t : Tree) : Prop where
  list : ∀ dir, FileSystem.list dir s = (t.list dir, s)
  present : ∀ p, FileSystem.present s p = t.has p

theorem Tree.shows (t : Tree) : Shows t t := ⟨fun _ => rfl, fun _ => rfl⟩

namespace Module

variable {σ : Type} [FileSystem σ] {s : σ} {t : Tree}

/-- An old manifest or a vendor entry makes a directory a module of its own. -/
def hasManifest (s : σ) (dir : Path) : Bool := hasLegacyManifest s dir || hasVendorDir s dir

/-- The second pass does not look below such a directory. -/
def stopped (s : σ) (dir : Path) : Bool := hasModuleFile s dir || hasManifest s dir

theorem isStep_moduleFile : Path.IsStep (moduleFile : Octets) := by decide

theorem hasModuleFile_eq (hs : Shows s t) (dir : Path) : hasModuleFile s dir = t.isModule dir.segments := by
  unfold hasModuleFile Tree.isModule
  rw [hs.present, ← Path.segments_join_step dir isStep_moduleFile]
  rfl

theorem vendor_notMem_of_not_stopped (hs : Shows s t) {dir : Path} (h : stopped s dir = false) :
    dir.segments ++ [Octets.ofText vendorDir] ∉ t.dirs := by
  intro hm
  have hv : hasVendorDir s dir = true := by
    unfold hasVendorDir
    rw [hs.present, Tree.has, Tree.isDir, Path.segments_join_step dir (by decide), List.contains_iff_mem.mpr hm]
    simp
  simp [stopped, hasManifest, hv] at h

/-- What a directory holds is in one that is there. -/
theorem dir_of_present (hs : Shows s t) (ht : t.Closed) {dir : Path} (h0 : dir.segments ≠ []) {name : Octets}
    (hname : name.head? ≠ some Octets.slash)
    (hsteps : (Text.fields Octets.slash name).filter (fun s => !Path.idle s) ≠ [])
    (h : present s (dir.join name) = true) : dir.segments ∈ t.dirs := by
  have hwritten : dir.octets ≠ [] := fun e => h0 (Tree.segments_eq_nil_of_octets e)
  rw [hs.present, Tree.has, Tree.file?, Tree.isDir, Path.segments_join hwritten hname, Bool.or_eq_true,
    List.contains_iff_mem] at h
  rcases h with hfile | hdir
  · obtain ⟨init, last, hlast⟩ := (List.eq_nil_or_concat _).resolve_left hsteps
    rw [hlast, List.concat_eq_append, ← List.append_assoc] at hfile
    exact ht.mem_of_append h0 (ht.dir_of_contents hfile (by simp [h0]))
  · exact ht.mem_of_append h0 hdir

/-- The old manifests are looked up below a directory, and none is named like a module file. -/
theorem legacyManifests_relative : ∀ m ∈ legacyManifests, (m : Octets).head? ≠ some Octets.slash ∧
    (Text.fields Octets.slash (m : Octets)).filter (fun s => !Path.idle s) ≠ [] ∧
    ((Text.fields Octets.slash (m : Octets)).filter fun s => !Path.idle s).getLast? ≠
      some (Octets.ofText moduleFile) := by
  decide +kernel

/-- Nothing that is not there is stopped. -/
theorem dir_of_stopped (hs : Shows s t) (ht : t.Closed) {dir : Path} (h0 : dir.segments ≠ [])
    (h : stopped s dir = true) : dir.segments ∈ t.dirs := by
  simp only [stopped, hasManifest, Bool.or_eq_true] at h
  rcases h with h | h | h
  · exact dir_of_present hs ht h0 (by decide) (by decide) h
  · obtain ⟨m, hm, hpresent⟩ := List.any_eq_true.mp h
    obtain ⟨hrelative, hparts, _⟩ := legacyManifests_relative m hm
    exact dir_of_present hs ht h0 hrelative hparts hpresent
  · exact dir_of_present hs ht h0 (by decide) (by decide) h

theorem findingsBelow_state (hs : Shows s t) (depth : Nat) (dir : Path) : (findingsBelow depth dir s).2 = s := by
  induction depth generalizing dir with
  | zero => rfl
  | succ depth ih =>
    simp only [findingsBelow, hs.list]
    split
    · rfl
    split
    · rfl
    cases t.list dir with
    | error e => rfl
    | ok es =>
      rcases collect_cases (findingsBelow depth) ih (subdirectories isHidden dir es) with
        ⟨e, hc, _⟩ | ⟨_, hc⟩ <;> simp only [hc]

/-- The second pass succeeds at a module file with nothing, at a manifest with that, and elsewhere where
    the directory can be listed and the pass succeeds below it. -/
theorem findingsBelow_succ_eq_ok (hs : Shows s t) {depth : Nat} {dir : Path} {found : List Finding} :
    findingsBelow (depth + 1) dir s = (.ok found, s) ↔
      hasModuleFile s dir = true ∧ found = [] ∨
      hasModuleFile s dir = false ∧ hasManifest s dir = true ∧ found = [.manifest dir] ∨
      stopped s dir = false ∧ (dir.segments ∉ t.unreadable ∧ dir.segments ∈ t.dirs) ∧
        (∀ c ∈ subdirectories isHidden dir (t.entries dir.segments),
          Succeeds (findingsBelow depth) s c) ∧
        found = sourcesIn dir (t.entries dir.segments) ++
          (subdirectories isHidden dir (t.entries dir.segments)).flatMap
            fun c => results (findingsBelow depth c s) := by
  have hst := findingsBelow_state hs depth
  unfold stopped
  simp only [findingsBelow, hs.list]
  cases hm : hasModuleFile s dir with
  | true =>
    simp only [if_true, Prod.mk.injEq, Except.ok.injEq, and_true, true_and, Bool.true_eq_false, false_and, or_false,
      Bool.true_or]
    exact eq_comm
  | false =>
  cases hman : hasManifest s dir with
  | true =>
    have hman' : (hasLegacyManifest s dir || hasVendorDir s dir) = true := hman
    simp only [hman', Bool.false_eq_true, if_false, if_true, Prod.mk.injEq, Except.ok.injEq, and_true, false_and,
      true_and, Bool.or_true, Bool.true_eq_false, or_false, false_or]
    exact eq_comm
  | false =>
  have hman' : (hasLegacyManifest s dir || hasVendorDir s dir) = false := hman
  simp only [hman', Bool.false_eq_true, if_false, false_and, Bool.or_self, true_and, false_or]
  cases hlist : t.list dir with
  | error e =>
    simp only [Prod.mk.injEq, reduceCtorEq, false_and, false_iff, not_and]
    intro h
    rw [Tree.list_eq_ok.mpr ⟨h.1, h.2, rfl⟩] at hlist
    cases hlist
  | ok es =>
    obtain ⟨h1, h2, rfl⟩ := Tree.list_eq_ok.mp hlist
    rw [and_iff_right ⟨h1, h2⟩]
    rcases collect_cases (findingsBelow depth) hst (subdirectories isHidden dir (t.entries dir.segments)) with
      ⟨e, hc, hno⟩ | ⟨hall, hc⟩
    · simp only [hc, Prod.mk.injEq, reduceCtorEq, false_and, false_iff, not_and]
      exact fun h => absurd h hno
    · simp only [hc, Prod.mk.injEq, Except.ok.injEq, and_true]
      exact ⟨fun h => ⟨hall, h.symm⟩, fun h => h.2.symm⟩

/-- Where the walk that skips hidden and vendor directories succeeds, so does the second pass: it enters
    no directory that the walk does not list. -/
theorem findingsBelow_ok {ρ : Type} {list : Path → ρ → Except Failure (List Entry) × ρ} {r : ρ}
    (hl : ∀ dir, list dir r = (t.list dir, r)) (hs : Shows s t) {depth : Nat} {dir : Path} {ds : List Path}
    (h : walkBelow list (fun name => isHidden name || name == vendorDir) depth dir r = (.ok ds, r)) :
    ∃ found, findingsBelow depth dir s = (.ok found, s) := by
  induction depth generalizing dir ds with
  | zero => simp [walkBelow] at h
  | succ depth ih =>
    obtain ⟨hread, hsub, -⟩ := (walkBelow_succ_eq_ok hl).mp h
    cases hm : hasModuleFile s dir with
    | true => exact ⟨_, (findingsBelow_succ_eq_ok hs).mpr (Or.inl ⟨hm, rfl⟩)⟩
    | false =>
    cases hman : hasManifest s dir with
    | true => exact ⟨_, (findingsBelow_succ_eq_ok hs).mpr (Or.inr (Or.inl ⟨hm, hman, rfl⟩))⟩
    | false =>
    have hstop : stopped s dir = false := by simp [stopped, hm, hman]
    have hv := vendor_notMem_of_not_stopped hs hstop
    refine ⟨_, (findingsBelow_succ_eq_ok hs).mpr (Or.inr (Or.inr ⟨hstop, hread, fun c hc => ?_, rfl⟩))⟩
    obtain ⟨n, rfl, hn, hh, hnd⟩ := Tree.mem_subdirectories.mp hc
    -- without a vendor directory the two passes enter the same subdirectories
    have hnv : n.shown ≠ vendorDir := fun e => hv (Octets.eq_ofText_of_shown (by decide) e ▸ hnd)
    have hskip : (fun name => isHidden name || name == vendorDir) n.shown = false := by simp [hh, hnv]
    obtain ⟨found, hf⟩ := ih (hsub _ (Tree.mem_subdirectories.mpr ⟨n, rfl, hn, hskip, hnd⟩))
    exact succeeds_of_eq hf

/-! ### What it finds -/

/-- No directory above the one that the names lead to, from `root` on, is stopped. -/
def ClearAbove (s : σ) (root : Path) (names : Segments) : Prop :=
  ∀ ms, ms <+: names → ms ≠ names → stopped s (root.descend ms) = false

theorem clearAbove_nil (root : Path) : ClearAbove s root [] := fun _ h h0 => absurd (List.prefix_nil.mp h) h0

theorem clearAbove_cons {root : Path} {n : Octets} {names : Segments} :
    ClearAbove s root (n :: names) ↔ stopped s root = false ∧ ClearAbove s (root.join n) names := by
  constructor
  · intro h
    refine ⟨h [] List.nil_prefix (List.cons_ne_nil _ _).symm, fun ms hms hne => ?_⟩
    exact h (n :: ms) ((List.cons_prefix_cons).mpr ⟨rfl, hms⟩) fun e => hne (List.cons.inj e).2
  · rintro ⟨h0, h⟩ ms hms hne
    rcases List.prefix_cons_iff.mp hms with rfl | ⟨ms, rfl, hms⟩
    · exact h0
    · exact h ms ‹ms <+: names› fun e => hne (by rw [e])

/-- What the second pass says of a directory that it comes to. -/
def FoundAt (s : σ) (t : Tree) (d : Path) (x : Finding) : Prop :=
  x = .manifest d ∧ hasModuleFile s d = false ∧ hasManifest s d = true ∨
    x = .sources d ∧ stopped s d = false ∧ (t.entries d.segments).any isSourceFile = true

theorem stopped_of_hasModuleFile {dir : Path} (h : hasModuleFile s dir = true) : stopped s dir = true := by
  simp [stopped, h]

theorem stopped_of_hasManifest {dir : Path} (h : hasManifest s dir = true) : stopped s dir = true := by
  simp [stopped, h]

/-- From a stopped root the pass goes nowhere. -/
theorem eq_nil_of_stopped {root : Path} (hst : stopped s root = true) {names : Segments}
    (hclear : ClearAbove s root names) : names = [] := by
  cases names with
  | nil => rfl
  | cons n names =>
    rw [(clearAbove_cons.mp hclear).1] at hst
    cases hst

theorem exists_found_of_stopped {root : Path} {leads : Segments → Prop} (hself : leads []) (hst : stopped s root = true)
    {x : Finding} : (∃ names, leads names ∧ ClearAbove s root names ∧ FoundAt s t (root.descend names) x) ↔
      FoundAt s t root x := by
  constructor
  · intro h
    obtain ⟨names, _, hclear, hx⟩ := h
    rw [eq_nil_of_stopped hst hclear] at hx
    exact hx
  · exact fun hx => ⟨[], hself, clearAbove_nil root, hx⟩

theorem not_foundAt_of_hasModuleFile {d : Path} (hm : hasModuleFile s d = true) {x : Finding} : ¬FoundAt s t d x := by
  simp [FoundAt, hm, stopped_of_hasModuleFile hm]

theorem foundAt_of_hasManifest {d : Path} (hm : hasModuleFile s d = false) (hman : hasManifest s d = true)
    {x : Finding} : FoundAt s t d x ↔ x = .manifest d := by
  simp [FoundAt, hm, hman, stopped_of_hasManifest hman]

theorem foundAt_of_not_stopped {d : Path} (hst : stopped s d = false) {x : Finding} :
    FoundAt s t d x ↔ x ∈ sourcesIn d (t.entries d.segments) := by
  have hman : hasManifest s d = false := Bool.eq_false_iff.mpr fun h => by simp [stopped_of_hasManifest h] at hst
  unfold sourcesIn
  split <;> simp_all [FoundAt]

/-- Where the second pass succeeds there is a directory. -/
theorem dir_of_findingsBelow (hs : Shows s t) (ht : t.Closed) {depth : Nat} {dir : Path} (h0 : dir.segments ≠ [])
    (h : Succeeds (findingsBelow depth) s dir) : dir.segments ∈ t.dirs := by
  cases depth with
  | zero => simp [Succeeds, findingsBelow] at h
  | succ depth =>
    rcases (findingsBelow_succ_eq_ok hs).mp h with ⟨hm, -⟩ | ⟨-, hman, -⟩ | ⟨-, hread, -⟩
    · exact dir_of_stopped hs ht h0 (stopped_of_hasModuleFile hm)
    · exact dir_of_stopped hs ht h0 (stopped_of_hasManifest hman)
    · exact hread.2

theorem segments_ne_nil_of_mem_subdirectories {skip : String → Bool} (ht : t.Closed) {dir c : Path}
    (h0 : dir.segments ≠ []) (hc : c ∈ subdirectories skip dir (t.entries dir.segments)) : c.segments ≠ [] := by
  intro e
  have hlen := length_of_mem_subdirectories skip ht h0 c hc
  rw [e] at hlen
  cases hlen

theorem mem_findingsBelow (hs : Shows s t) (ht : t.Closed) {depth : Nat} {dir : Path} (hdir : dir.segments ∈ t.dirs)
    {found : List Finding} (h : findingsBelow depth dir s = (.ok found, s)) {x : Finding} :
    x ∈ found ↔ ∃ names, t.Entered isHidden dir.segments names ∧ ClearAbove s dir names ∧
      FoundAt s t (dir.descend names) x := by
  induction depth generalizing dir found with
  | zero => simp [findingsBelow] at h
  | succ depth ih =>
    have h0 := (ht.dirsProper _ hdir).2
    rcases (findingsBelow_succ_eq_ok hs).mp h with ⟨hm, rfl⟩ | ⟨hm, hman, rfl⟩ | ⟨hstop, -, hsub, rfl⟩
    · -- at a module file the pass stops
      rw [exists_found_of_stopped (Tree.entered_nil hdir) (stopped_of_hasModuleFile hm)]
      exact iff_of_false List.not_mem_nil (not_foundAt_of_hasModuleFile hm)
    · -- so does it at a manifest, which it finds
      rw [exists_found_of_stopped (Tree.entered_nil hdir) (stopped_of_hasManifest hman), List.mem_singleton,
        foundAt_of_hasManifest hm hman]
    · rw [List.mem_append, List.mem_flatMap, ← foundAt_of_not_stopped hstop]
      constructor
      · intro h
        rcases h with hx | ⟨c, hc, hx⟩
        · exact ⟨[], Tree.entered_nil hdir, clearAbove_nil dir, hx⟩
        · have hcd := dir_of_findingsBelow hs ht (segments_ne_nil_of_mem_subdirectories ht h0 hc) (hsub c hc)
          obtain ⟨n, rfl, hn, hh, htext, hnd⟩ := (Tree.mem_subdirectories_entered ht h0).mp ⟨hc, hcd⟩
          obtain ⟨names, hr, hclear, hx⟩ := (ih hcd (hsub _ hc)).mp hx
          rw [Path.segments_join_step dir (ht.isStep h0 hnd)] at hr
          exact ⟨n :: names, (Tree.entered_cons ht).mpr ⟨⟨hn, hh, htext, hnd⟩, hr⟩,
            clearAbove_cons.mpr ⟨hstop, hclear⟩, hx⟩
      · intro h
        obtain ⟨names, hr, hclear, hx⟩ := h
        cases names with
        | nil => exact Or.inl hx
        | cons n names =>
          obtain ⟨⟨hn, hh, htext, hnd⟩, hr⟩ := (Tree.entered_cons ht).mp hr
          have hc := ((Tree.mem_subdirectories_entered ht h0).mpr ⟨n, rfl, hn, hh, htext, hnd⟩).1
          have hseg := Path.segments_join_step dir (ht.isStep h0 hnd)
          rw [← hseg] at hr
          exact Or.inr ⟨_, hc, (ih (hseg ▸ hnd) (hsub _ hc)).mpr ⟨names, hr, (clearAbove_cons.mp hclear).2, hx⟩⟩

/-- Where a finding is. -/
def Finding.dir : Finding → Path
  | .manifest d => d
  | .sources d => d

theorem FoundAt.dir_eq {d : Path} {x : Finding} (h : FoundAt s t d x) : x.dir = d := by
  rcases h with ⟨rfl, _⟩ | ⟨rfl, _⟩ <;> rfl

theorem prefix_of_mem_findingsBelow (hs : Shows s t) (ht : t.Closed) {depth : Nat} {dir : Path}
    (hdir : dir.segments ∈ t.dirs) {found : List Finding} (h : findingsBelow depth dir s = (.ok found, s)) :
    ∀ x ∈ found, dir.segments <+: x.dir.segments := by
  intro x hx
  obtain ⟨names, hr, _, hx⟩ := (mem_findingsBelow hs ht hdir h).mp hx
  rw [hx.dir_eq, Path.segments_descend (ht.isSteps (ht.dirsProper _ hdir).2 hr.1.2)]
  exact List.prefix_append ..

/-- What the second pass may come to is reached by texts. -/
def ClearlyNamed (s : σ) (t : Tree) (root : Path) : Prop :=
  ∀ names, t.Reached isHidden root.segments names → ClearAbove s root names → names.IsText

/-- Where the walk for module roots comes to texts only, so does the second pass. -/
theorem ClearlyNamed.of_legible (hs : Shows s t) (ht : t.Closed) {root : Path} (h0 : root.segments ≠ [])
    (h : t.Legible (fun name => isHidden name || name == vendorDir) root.segments) : ClearlyNamed s t root := by
  intro names hr hclear
  refine h names ⟨fun n hn => ⟨(hr.1 n hn).1, ?_⟩, hr.2⟩
  -- a vendor directory on the way would stop the pass above it
  obtain ⟨before, after, rfl⟩ := List.append_of_mem hn
  have hstop := hclear before (List.prefix_append ..) (by simp)
  have hdir : root.segments ++ (before ++ [n]) ∈ t.dirs :=
    ht.above _ hr.2 _ ((List.prefix_append_right_inj _).mpr (by simp)) (by simp [h0])
  have hseg : (root.descend before).segments = root.segments ++ before :=
    Path.segments_descend (fun m hm => ht.isSteps h0 hdir m (List.mem_append_left _ hm)) root
  have hnv : n.shown ≠ vendorDir := by
    intro e
    refine vendor_notMem_of_not_stopped hs hstop ?_
    rw [hseg, List.append_assoc, ← Octets.eq_ofText_of_shown (by decide) e]
    exact hdir
  simp [(hr.1 n hn).2, hnv]

theorem ClearlyNamed.showsTexts {dir : Path} (h : ClearlyNamed s t dir) (hstop : stopped s dir = false) :
    t.ShowsTexts isHidden dir.segments := fun n hn hh hnd =>
  h [n] ⟨by simp [hn, hh], hnd⟩ (clearAbove_cons.mpr ⟨hstop, clearAbove_nil _⟩) n (List.mem_singleton_self n)

theorem ClearlyNamed.subdirectory (ht : t.Closed) {dir c : Path} (h : ClearlyNamed s t dir) (h0 : dir.segments ≠ [])
    (hstop : stopped s dir = false) (hc : c ∈ subdirectories isHidden dir (t.entries dir.segments)) :
    c.segments ∈ t.dirs ∧ ClearlyNamed s t c := by
  obtain ⟨n, rfl, hn, hh, hnd⟩ := Tree.mem_subdirectories.mp hc
  have htext : Octets.ofText n.shown = n := h.showsTexts hstop n hn hh hnd
  have hseg := Path.segments_join_step dir (ht.isStep h0 hnd)
  rw [htext]
  refine ⟨hseg ▸ hnd, fun names hr hclear m hm => ?_⟩
  rw [hseg] at hr
  exact h (n :: names) ((Tree.reached_cons ht).mpr ⟨⟨hn, hh, hnd⟩, hr⟩) (clearAbove_cons.mpr ⟨hstop, hclear⟩) m
    (List.mem_cons_of_mem _ hm)

theorem pairwise_findingsBelow (hs : Shows s t) (ht : t.Closed) {depth : Nat} {dir : Path}
    (hdir : dir.segments ∈ t.dirs) (hnamed : ClearlyNamed s t dir) {found : List Finding}
    (h : findingsBelow depth dir s = (.ok found, s)) : found.Pairwise fun x y => x.dir.segments ≠ y.dir.segments := by
  induction depth generalizing dir found with
  | zero => simp [findingsBelow] at h
  | succ depth ih =>
    rcases (findingsBelow_succ_eq_ok hs).mp h with ⟨_, rfl⟩ | ⟨_, _, rfl⟩ | ⟨hstop, -, hsub, rfl⟩
    · exact .nil
    · exact List.pairwise_singleton _ _
    · have h0 := (ht.dirsProper _ hdir).2
      have hlen := length_of_mem_subdirectories isHidden ht h0
      have hbelow := fun c hc => hnamed.subdirectory (c := c) ht h0 hstop hc
      have hin := fun c hc => prefix_of_mem_findingsBelow hs ht (hbelow c hc).1 (hsub c hc)
      refine List.pairwise_append.mpr ⟨?_, ?_, fun x hx y hy e => ?_⟩
      · unfold sourcesIn
        split
        · exact List.pairwise_singleton _ _
        · exact .nil
      · exact pairwise_flatMap_below hlen (ht.pairwise_subdirectories h0 (hnamed.showsTexts hstop)) hin
          fun c hc => ih (hbelow c hc).1 (hbelow c hc).2 (hsub c hc)
      · have hx : x.dir = dir := by
          unfold sourcesIn at hx
          split at hx
          · rw [List.mem_singleton.mp hx]
            rfl
          · cases hx
        obtain ⟨c, hc, hy⟩ := List.mem_flatMap.mp hy
        have h1 := (hin c hc y hy).length_le
        rw [← e, hx, hlen c hc] at h1
        omega

end Module

end GoAtlas
