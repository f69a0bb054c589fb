/-
  GoAtlas.Proofs.Tree — trees of files as they come to be.

  A tree is `Built` if adding files and directories, locking directories, writing and removing made it
  from nothing. Every built tree is `Closed`: each directory is kept once, what lies above a directory
  or a file is a directory, and all segments are those of paths. On a closed tree a listing is read off
  the segments (`mem_subdirectories`, `any_isSourceFile`).
  - `contents?_putFile` / `contents?_dropFile` / `contents?_remove`: a change touches one file and no directory.
  - `Built.closed`: every built tree is closed.
  - `write_eq_ok`: a file can be written where its directory is.
-/
import GoAtlas.Files.Tree
import GoAtlas.Module.Scan
import GoAtlas.Proofs.Segments

namespace GoAtlas

open GoAtlas.Module

/-! ## Above a path -/

theorem Segments.mem_upward {a p : Segments} : a ∈ p.upward ↔ a <+: p ∧ a ≠ [] := by
  simp only [upward, List.mem_reverse, List.mem_map, List.mem_range]
  constructor
  · intro h
    obtain ⟨n, hn, rfl⟩ := h
    have hlead : p.take (n + 1) <+: p := List.take_prefix _ _
    refine ⟨hlead, fun e => ?_⟩
    have := congrArg List.length e
    simp only [List.length_take, List.length_nil] at this
    omega
  · intro h
    obtain ⟨hp, h0⟩ := h
    have hlen := List.length_pos_iff.mpr h0
    refine ⟨a.length - 1, by have := hp.length_le; omega, ?_⟩
    rw [show a.length - 1 + 1 = a.length by omega]
    exact (List.prefix_iff_eq_take.mp hp).symm

namespace Tree

/-! ## What a tree holds -/

/-- The contents of the file with these segments. -/
def contents? (t : Tree) (q : Segments) : Option Text.Bytes := t.files.lookup q

/-- Whether a file or a directory has these segments. -/
def hasAt (t : Tree) (q : Segments) : Bool := (t.contents? q).isSome || t.dirs.contains q

/-- Whether a directory holds a module file. -/
def isModule (t : Tree) (dir : Segments) : Bool := t.hasAt (dir ++ [Octets.ofText moduleFile])

theorem lookup_filter_ne (fs : List (Segments × Text.Bytes)) (k q : Segments) :
    (fs.filter fun f => f.1 != k).lookup q = if q = k then none else fs.lookup q := by
  induction fs with
  | nil => simp
  | cons f fs ih =>
    by_cases e : f.1 = k
    · rw [List.filter_cons_of_neg (by simp [e]), ih, List.lookup_cons, e]
      by_cases eq : q = k
      · simp [eq]
      · simp [eq, show (q == k) = false by simp [eq]]
    · rw [List.filter_cons_of_pos (by simp [e]), List.lookup_cons, List.lookup_cons, ih]
      by_cases eq : q = f.1
      · simp [eq, e]
      · simp [show (q == f.1) = false by simp [eq]]

theorem contents?_isSome {t : Tree} {q : Segments} : (t.contents? q).isSome = true ↔ ∃ f ∈ t.files, f.1 = q := by
  simp only [contents?, List.lookup_isSome_iff, beq_iff_eq]
  exact ⟨fun ⟨f, hf, e⟩ => ⟨f, hf, e.symm⟩, fun ⟨f, hf, e⟩ => ⟨f, hf, e.symm⟩⟩

theorem contents?_putFile (t : Tree) (p : Path) (b : Text.Bytes) (q : Segments) :
    (t.putFile p b).contents? q = if q = p.segments then some b else t.contents? q := by
  unfold contents? putFile
  rw [List.lookup_append, lookup_filter_ne]
  by_cases e : q = p.segments
  · simp [e]
  · simp [e, List.lookup_cons, show (q == p.segments) = false by simp [e]]

theorem contents?_dropFile (t : Tree) (p : Path) (q : Segments) :
    (t.dropFile p).contents? q = if q = p.segments then none else t.contents? q :=
  lookup_filter_ne t.files p.segments q

/-- Removing a file leaves all others as they are; if it is not there, nothing changes. -/
theorem contents?_remove (t : Tree) (p : Path) (q : Segments) :
    (FileSystem.remove p t).2.contents? q = if q = p.segments then none else t.contents? q := by
  cases hf : t.file? p with
  | none =>
    have hq : q = p.segments → t.contents? q = none := fun e => e ▸ hf
    simp only [FileSystem.remove, remove, change, hf]
    split
    · exact hq ‹_›
    · rfl
  | some b =>
    simp only [FileSystem.remove, remove, change, hf]
    exact t.contents?_dropFile p q

@[simp] theorem remove_dirs (t : Tree) (p : Path) : (FileSystem.remove p t).2.dirs = t.dirs := by
  simp only [FileSystem.remove, remove]
  cases t.file? p <;> rfl

@[simp] theorem remove_unreadable (t : Tree) (p : Path) : (FileSystem.remove p t).2.unreadable = t.unreadable := by
  simp only [FileSystem.remove, remove]
  cases t.file? p <;> rfl

@[simp] theorem putFile_dirs (t : Tree) (p : Path) (b : Text.Bytes) : (t.putFile p b).dirs = t.dirs := rfl

theorem hasAt_putFile (t : Tree) (p : Path) (b : Text.Bytes) (q : Segments) :
    (t.putFile p b).hasAt q = (decide (q = p.segments) || t.hasAt q) := by
  unfold hasAt
  rw [contents?_putFile]
  by_cases e : q = p.segments <;> simp [e]

/-! ## Built trees -/

/-- The trees that the operations on trees make from the empty one. -/
inductive Built : Tree → Prop
  | empty : Built .empty
  | addDir {t : Tree} (p : Path) : Built t → Built (t.addDir p)
  | addFile {t : Tree} (p : Path) (b : Text.Bytes) : Built t → Built (t.addFile p b)
  | lock {t : Tree} (p : Path) : Built t → Built (t.lock p)
  | write {t t' : Tree} {p : Path} {b : Text.Bytes} : Built t → t.write p b = .ok t' → Built t'
  | remove {t t' : Tree} {p : Path} : Built t → t.remove p = .ok t' → Built t'

structure Closed (t : Tree) : Prop where
  once : t.dirs.Nodup
  dirsProper : ∀ d ∈ t.dirs, d.Proper ∧ d ≠ []
  /-- What lies above a directory is a directory. -/
  above : ∀ d ∈ t.dirs, ∀ a, a <+: d → a ≠ [] → a ∈ t.dirs
  filesProper : ∀ f ∈ t.files, f.1.Proper
  /-- A file lies in a directory. -/
  filesIn : ∀ f ∈ t.files, ∀ d n, f.1 = d ++ [n] → d ≠ [] → d ∈ t.dirs

theorem mem_addDirs {t : Tree} {ds : List Segments} {q : Segments} :
    q ∈ (t.addDirs ds).dirs ↔ q ∈ t.dirs ∨ q ∈ ds := by
  suffices ∀ (ds acc : List Segments), q ∈ ds.foldl (fun acc d => if acc.contains d then acc else acc ++ [d]) acc ↔
      q ∈ acc ∨ q ∈ ds from this ds t.dirs
  intro ds
  induction ds with
  | nil => simp
  | cons d ds ih =>
    intro acc
    rw [List.foldl_cons, ih]
    by_cases h : acc.contains d = true
    · have hd : d ∈ acc := List.contains_iff_mem.mp h
      simp only [h, if_true, List.mem_cons]
      constructor
      · intro h
        rcases h with h | h
        · exact Or.inl h
        · exact Or.inr (Or.inr h)
      · intro h
        rcases h with h | rfl | h
        · exact Or.inl h
        · exact Or.inl hd
        · exact Or.inr h
    · simp only [h, List.mem_append, List.mem_singleton, List.mem_cons (a := q) (l := ds), Bool.false_eq_true, if_false,
        or_assoc]

theorem nodup_addDirs {t : Tree} (h : t.dirs.Nodup) (ds : List Segments) : (t.addDirs ds).dirs.Nodup := by
  suffices ∀ (ds acc : List Segments), acc.Nodup →
      (ds.foldl (fun acc d => if acc.contains d then acc else acc ++ [d]) acc).Nodup from this ds t.dirs h
  intro ds
  induction ds with
  | nil => intro acc h; exact h
  | cons d ds ih =>
    intro acc hacc
    rw [List.foldl_cons]
    apply ih
    split
    · exact hacc
    · rename_i hd
      rw [List.contains_iff_mem] at hd
      exact List.nodup_append.mpr ⟨hacc, by simp, fun a ha b hb e => hd (by simp at hb; rw [← hb, ← e]; exact ha)⟩

theorem Closed.addUpward {t : Tree} (h : t.Closed) {q : Segments} (hq : q.Proper) : (t.addDirs q.upward).Closed := by
  refine ⟨nodup_addDirs h.once _, fun d hd => ?_, fun d hd a ha ha0 => ?_, h.filesProper, fun f hf d n e hd => ?_⟩
  · rcases mem_addDirs.mp hd with hd | hd
    · exact h.dirsProper d hd
    · obtain ⟨hp, h0⟩ := Segments.mem_upward.mp hd
      exact ⟨hq.above hp, h0⟩
  · rcases mem_addDirs.mp hd with hd | hd
    · exact mem_addDirs.mpr (Or.inl (h.above d hd a ha ha0))
    · have hp := (Segments.mem_upward.mp hd).1
      exact mem_addDirs.mpr (Or.inr (Segments.mem_upward.mpr ⟨ha.trans hp, ha0⟩))
  · exact mem_addDirs.mpr (Or.inl (h.filesIn f hf d n e hd))

theorem Closed.putFile {t : Tree} (h : t.Closed) (p : Path) (b : Text.Bytes)
    (hin : ∀ d n, p.segments = d ++ [n] → d ≠ [] → d ∈ t.dirs) : (t.putFile p b).Closed := by
  have hmem : ∀ f ∈ (t.putFile p b).files, f ∈ t.files ∨ f.1 = p.segments := by
    intro f hf
    rcases List.mem_append.mp hf with hf | hf
    · exact Or.inl (List.mem_filter.mp hf).1
    · rw [List.mem_singleton.mp hf]
      exact Or.inr rfl
  refine ⟨h.once, h.dirsProper, h.above, fun f hf => ?_, fun f hf d n e hd => ?_⟩
  · rcases hmem f hf with hf | e
    · exact h.filesProper f hf
    · rw [e]
      exact p.proper_segments
  · rcases hmem f hf with hf | ef
    · exact h.filesIn f hf d n e hd
    · exact hin d n (ef ▸ e) hd

theorem Closed.dropFile {t : Tree} (h : t.Closed) (p : Path) : (t.dropFile p).Closed :=
  ⟨h.once, h.dirsProper, h.above, fun f hf => h.filesProper f (List.mem_filter.mp hf).1,
    fun f hf => h.filesIn f (List.mem_filter.mp hf).1⟩

/-! ## Writing -/

theorem segments_eq_nil_of_octets {p : Path} (h : p.octets = []) : p.segments = [] := by
  unfold Path.segments
  rw [Path.pieces, h]
  rfl

/-- A file can be written where its directory is. -/
theorem write_eq_ok {t : Tree} {p : Path} {d : Segments} {n : Octets} (h : p.segments = d ++ [n]) (hd : d ≠ [])
    (hin : d ∈ t.dirs) (b : Text.Bytes) : t.write p b = .ok (t.putFile p b) := by
  obtain ⟨q, hq, hqs⟩ := Path.parent?_of_segments h hd
  have hdir : t.isDir q = true := by
    unfold isDir
    rw [hqs]
    exact List.contains_iff_mem.mpr hin
  simp [write, hq, hdir]

/-- A written file is where its directory is. -/
theorem write_ok_iff {t t' : Tree} {p : Path} {b : Text.Bytes} (h : t.write p b = .ok t') :
    t' = t.putFile p b ∧ ∀ d n, p.segments = d ++ [n] → d ≠ [] → d ∈ t.dirs := by
  have ht : t' = t.putFile p b := by
    unfold write at h
    split at h
    · split at h
      · cases h
      · exact (Except.ok.inj h).symm
    · exact (Except.ok.inj h).symm
  refine ⟨ht, fun d n hs hd => ?_⟩
  obtain ⟨q, hq, hqs⟩ := Path.parent?_of_segments hs hd
  have hwritten : q.octets ≠ [] := fun e => hd (hqs ▸ segments_eq_nil_of_octets e)
  simp only [write, hq] at h
  split at h
  · cases h
  · rename_i hn
    have hdir : t.isDir q = true := by simpa [hwritten] using hn
    unfold isDir at hdir
    rw [hqs] at hdir
    exact List.contains_iff_mem.mp hdir

theorem Built.closed {t : Tree} (h : t.Built) : t.Closed := by
  induction h with
  | empty => exact ⟨.nil, by simp [Tree.empty], by simp [Tree.empty], by simp [Tree.empty], by simp [Tree.empty]⟩
  | addDir p _ ih => exact ih.addUpward p.proper_segments
  | @addFile t p b _ ih =>
    have hq : (p.segments.parent?.getD []).Proper := by
      unfold Segments.parent?
      split
      · trivial
      · have hlead : p.segments.dropLast <+: p.segments := List.dropLast_prefix _
        exact p.proper_segments.above hlead
    refine (ih.addUpward hq).putFile p b fun d n e hd => ?_
    have hp : p.segments.parent?.getD [] = d := by
      have h1 : ¬(p.segments = [] || p.segments = [Path.root]) = true := by
        cases d with
        | nil => exact absurd rfl hd
        | cons x d => simp [e]
      rw [Segments.parent?, if_neg h1, e]
      simp
    exact mem_addDirs.mpr (Or.inr (Segments.mem_upward.mpr ⟨hp ▸ List.prefix_refl _, hd⟩))
  | lock p _ ih => exact ⟨ih.once, ih.dirsProper, ih.above, ih.filesProper, ih.filesIn⟩
  | write _ hw ih =>
    obtain ⟨rfl, hin⟩ := write_ok_iff hw
    exact ih.putFile _ _ hin
  | @remove t t' p _ hr ih =>
    unfold Tree.remove at hr
    split at hr
    · rw [← Except.ok.inj hr]
      exact ih.dropFile p
    · cases hr

/-! ## Listings -/

theorem parent?_eq_some {dir p : Segments} : p.parent? = some dir ↔ p ≠ [Path.root] ∧ ∃ n, p = dir ++ [n] := by
  unfold Segments.parent?
  by_cases h0 : p = []
  · simp [h0]
  by_cases h1 : p = [Path.root]
  · simp [h1]
  simp only [h0, h1, decide_false, Bool.or_self, Bool.false_eq_true, if_false, Option.some.injEq, ne_eq,
    not_false_eq_true, true_and]
  constructor
  · rintro rfl
    exact ⟨p.getLast h0, (List.dropLast_concat_getLast h0).symm⟩
  · intro h
    obtain ⟨n, rfl⟩ := h
    simp

theorem nameIn?_eq_some {dir p : Segments} {n : Octets} :
    nameIn? dir p = some n ↔ p = dir ++ [n] ∧ Path.isName n = true := by
  unfold nameIn?
  constructor
  · intro h
    split at h
    · rename_i hp
      obtain ⟨_, m, rfl⟩ := parent?_eq_some.mp hp
      simp only [Segments.name?, List.getLast?_append, List.getLast?_singleton, Option.some_or] at h
      split at h
      · cases h
        exact ⟨rfl, ‹_›⟩
      · cases h
    · cases h
  · intro h
    obtain ⟨rfl, hn⟩ := h
    have hroot : dir ++ [n] ≠ [Path.root] := by
      intro e
      rw [List.append_eq_singleton_iff] at e
      rcases e with ⟨-, e⟩ | ⟨-, e⟩
      · rw [List.singleton_inj.mp e] at hn
        exact absurd hn (by decide)
      · cases e
    rw [if_pos (parent?_eq_some.mpr ⟨hroot, n, rfl⟩)]
    simp [Segments.name?, hn]

theorem insertEntry_perm (e : Entry) (es : List Entry) : (insertEntry e es).Perm (e :: es) := by
  induction es with
  | nil => exact .refl _
  | cons x xs ih =>
    unfold insertEntry
    split
    · exact .refl _
    · exact (ih.cons x).trans (.swap e x xs)

/-- Sorting changes the order only. -/
theorem sortEntries_perm (es : List Entry) : (sortEntries es).Perm es := by
  induction es with
  | nil => exact .refl _
  | cons e es ih => exact (insertEntry_perm e _).trans (ih.cons e)

theorem mem_entries {t : Tree} {dir : Segments} {e : Entry} : e ∈ t.entries dir ↔ ∃ n, Path.isName n = true ∧
    (e = ⟨n.shown, true, false⟩ ∧ dir ++ [n] ∈ t.dirs ∨
      e = ⟨n.shown, false, true⟩ ∧ (t.contents? (dir ++ [n])).isSome = true) := by
  simp only [entries, (sortEntries_perm _).mem_iff, List.mem_append, List.mem_filterMap, Option.map_eq_some_iff,
    nameIn?_eq_some, contents?_isSome]
  constructor
  · intro h
    rcases h with ⟨d, hd, n, ⟨rfl, hn⟩, rfl⟩ | ⟨f, hf, n, ⟨hfn, hn⟩, rfl⟩
    · exact ⟨n, hn, Or.inl ⟨rfl, hd⟩⟩
    · exact ⟨n, hn, Or.inr ⟨rfl, f, hf, hfn⟩⟩
  · intro h
    rcases h with ⟨n, hn, ⟨he, hd⟩ | ⟨he, f, hf, hfn⟩⟩
    · exact Or.inl ⟨_, hd, n, ⟨rfl, hn⟩, he.symm⟩
    · exact Or.inr ⟨f, hf, n, ⟨hfn, hn⟩, he.symm⟩

/-- The subdirectories of a directory, skipping some names: each is looked up as it is shown. -/
theorem mem_subdirectories {t : Tree} {skip : String → Bool} {dir d : Path} :
    d ∈ subdirectories skip dir (t.entries dir.segments) ↔
      ∃ n, d = dir.join n.shown ∧ Path.isName n = true ∧ skip n.shown = false ∧ dir.segments ++ [n] ∈ t.dirs := by
  simp only [subdirectories, List.mem_map, List.mem_filter, Bool.and_eq_true, Bool.not_eq_true', mem_entries]
  constructor
  · intro h
    rcases h with ⟨e, ⟨⟨n, hn, ⟨rfl, hd⟩ | ⟨rfl, _⟩⟩, hdir, hs⟩, rfl⟩
    · exact ⟨n, rfl, hn, hs, hd⟩
    · cases hdir
  · intro h
    obtain ⟨n, rfl, hn, hs, hd⟩ := h
    exact ⟨⟨n.shown, true, false⟩, ⟨⟨n, hn, Or.inl ⟨rfl, hd⟩⟩, rfl, hs⟩, rfl⟩

/-- A name below a directory is one step. -/
theorem Closed.isStep {t : Tree} (h : t.Closed) {d : Segments} {n : Octets} (hd : d ≠ []) (hn : d ++ [n] ∈ t.dirs) :
    Path.IsStep n :=
  (h.dirsProper _ hn).1.isStep hd n (List.mem_singleton_self n)

theorem Closed.mem_of_append {t : Tree} (h : t.Closed) {d ns : Segments} (hd : d ≠ []) (hn : d ++ ns ∈ t.dirs) :
    d ∈ t.dirs := h.above _ hn d (List.prefix_append ..) hd

theorem Closed.dir_of_contents {t : Tree} (h : t.Closed) {d : Segments} {n : Octets}
    (hc : (t.contents? (d ++ [n])).isSome = true) (hd : d ≠ []) : d ∈ t.dirs := by
  obtain ⟨f, hf, e⟩ := contents?_isSome.mp hc
  exact h.filesIn f hf d n e hd

/-- The names of the subdirectories that are not skipped are texts, so the listing shows each as it is. -/
def ShowsTexts (t : Tree) (skip : String → Bool) (dir : Segments) : Prop :=
  ∀ n, Path.isName n = true → skip n.shown = false → dir ++ [n] ∈ t.dirs → n.IsText

/-- Among the subdirectories of a listing no name comes twice if all are listed as they are. -/
theorem Closed.pairwise_entries {t : Tree} (h : t.Closed) {skip : String → Bool} {dir : Segments}
    (htexts : t.ShowsTexts skip dir) : (t.entries dir).Pairwise fun a b =>
      (a.isDir && !skip a.name) = true → (b.isDir && !skip b.name) = true → a.name ≠ b.name := by
  have hperm := sortEntries_perm
    ((t.dirs.filterMap fun d => (nameIn? dir d).map fun n => (⟨n.shown, true, false⟩ : Entry)) ++
      (t.files.filterMap fun f => (nameIn? dir f.1).map fun n => (⟨n.shown, false, true⟩ : Entry)))
  refine (hperm.pairwise_iff fun h hb ha e => h ha hb e.symm).mpr (List.pairwise_append.mpr ⟨?_, ?_, ?_⟩)
  · refine List.pairwise_filterMap.mpr (h.once.imp_of_mem fun {a b} ha hb hab x hx y hy hkx hky e => hab ?_)
    obtain ⟨n, hn, rfl⟩ := Option.map_eq_some_iff.mp hx
    obtain ⟨m, hm, rfl⟩ := Option.map_eq_some_iff.mp hy
    obtain ⟨rfl, hnn⟩ := nameIn?_eq_some.mp hn
    obtain ⟨rfl, hmn⟩ := nameIn?_eq_some.mp hm
    have hntext : Octets.ofText n.shown = n := htexts n hnn (by simpa using hkx) ha
    have hmtext : Octets.ofText m.shown = m := htexts m hmn (by simpa using hky) hb
    rw [← hntext, ← hmtext, show n.shown = m.shown from e]
  -- files are no subdirectories
  · refine List.pairwise_iff_forall_sublist.mpr fun {a b} hab ha => ?_
    obtain ⟨f, _, hf⟩ := List.mem_filterMap.mp (hab.mem (List.mem_cons_self ..))
    obtain ⟨n, _, rfl⟩ := Option.map_eq_some_iff.mp hf
    cases ha
  · intro a _ b hb _ hb'
    obtain ⟨f, _, hf⟩ := List.mem_filterMap.mp hb
    obtain ⟨n, _, rfl⟩ := Option.map_eq_some_iff.mp hf
    cases hb'

/-- Each subdirectory is listed once if all are listed as they are. -/
theorem Closed.pairwise_subdirectories {t : Tree} (h : t.Closed) {skip : String → Bool} {dir : Path}
    (hdir : dir.segments ≠ []) (htexts : t.ShowsTexts skip dir.segments) :
    (subdirectories skip dir (t.entries dir.segments)).Pairwise fun a b => a.segments ≠ b.segments := by
  refine List.pairwise_map.mpr (List.Pairwise.imp_of_mem ?_ ((h.pairwise_entries htexts).filter _))
  intro a b ha hb hab e
  have hstep : ∀ x ∈ (t.entries dir.segments).filter fun e => e.isDir && !skip e.name,
      (x.isDir && !skip x.name) = true ∧ Path.IsStep (x.name : Octets) := by
    intro x hx
    obtain ⟨hm, hx⟩ := List.mem_filter.mp hx
    obtain ⟨n, -, ⟨rfl, hd⟩ | ⟨rfl, -⟩⟩ := mem_entries.mp hm
    · exact ⟨hx, (h.isStep hdir hd).shown⟩
    · cases hx
  obtain ⟨had, has⟩ := hstep a ha
  obtain ⟨hbd, hbs⟩ := hstep b hb
  rw [Path.segments_join_step dir has, Path.segments_join_step dir hbs, List.append_cancel_left_eq, List.singleton_inj,
    Octets.ofText_inj] at e
  exact hab had hbd e

theorem isName_of_not_isHidden {n : Octets} (hn : Path.IsStep n) (hh : isHidden n.shown = false) :
    Path.isName n = true := by
  have hroot : n ≠ Path.root := by
    rintro rfl
    exact absurd hn (by decide)
  have hdots : ∀ m : Octets, isHidden m.shown = true → n ≠ m := by
    rintro m hm rfl
    rw [hm] at hh
    cases hh
  simp [Path.isName, hroot, hdots [Octets.dot] (by decide), hdots [Octets.dot, Octets.dot] (by decide)]

/-- A name that makes a file a source. -/
def isSourceName (name : String) : Bool := isSourceFile ⟨name, false, true⟩

theorem isName_of_isSourceName {n : Octets} (h : isSourceName n.shown = true) : Path.isName n = true := by
  have hne : ∀ m : Octets, isSourceName m.shown = false → n ≠ m := by
    rintro m hm rfl
    rw [hm] at h
    cases h
  simp [Path.isName, hne Path.root (by decide), hne [Octets.dot] (by decide),
    hne [Octets.dot, Octets.dot] (by decide)]

/-- A directory holds sources if a file that shows a source's name lies in it. -/
theorem any_isSourceFile {t : Tree} {dir : Segments} : (t.entries dir).any isSourceFile = true ↔
    ∃ n : Octets, isSourceName n.shown = true ∧ (t.contents? (dir ++ [n])).isSome = true := by
  simp only [List.any_eq_true, mem_entries]
  constructor
  · intro h
    rcases h with ⟨e, ⟨n, -, ⟨rfl, -⟩ | ⟨rfl, hc⟩⟩, hs⟩
    · simp [isSourceFile] at hs
    · exact ⟨n, hs, hc⟩
  · intro h
    obtain ⟨n, hn, hc⟩ := h
    exact ⟨⟨n.shown, false, true⟩, ⟨n, isName_of_isSourceName hn, Or.inr ⟨rfl, hc⟩⟩, hn⟩

end Tree

end GoAtlas
