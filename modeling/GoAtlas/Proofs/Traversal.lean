/-
  GoAtlas.Proofs.Traversal — a walk visits the unpruned tree, whichever way it goes.

  A walk can keep the directories that it still has to list on a stack, with no bound on its depth (`StackWalk`).
  On a closed tree it ends, because there are more directories below one than below each of its subdirectories,
  and it ends as the bounded walk does.
  - `tops_walkBelow`: the stack does to a directory on its top what the recursion does to it.
  - `length_under_subdirectories` / `StackWalk.rounds_le`: how many listings that takes, if names are texts.
  - `pairwise_lt_walkBelow`: then a walk finds in ascending order.
  - `walkBelow_congr`: a walk asks only about the subdirectories of what it enters, never about its root.
  - `walk_exact`: when a walk succeeds, and what it finds then.
  - `walk_strayTree`: a name that is no text is looked up as it is shown, and the walk fails.
-/
import GoAtlas.Proofs.Address
import GoAtlas.Proofs.Locality
import GoAtlas.Proofs.Uncovered
import Mathlib.Data.List.Nodup

namespace GoAtlas

open GoAtlas.Module

namespace Tree

variable {t : Tree} {skip : String → Bool}

/-! ## The stack -/

/-- A walk by a stack: its top is listed and noted, and the subdirectories of the top take its place. The number
    is that of the listings. -/
inductive StackWalk (t : Tree) (skip : String → Bool) :
    (rounds : Nat) → (stack visited : List Path) → Except Failure (List Path) → Prop
  | finished (visited : List Path) : StackWalk t skip 0 [] visited (.ok visited)
  | failed {dir : Path} {stack visited : List Path} {e : Failure} (h : t.list dir = .error e) :
    StackWalk t skip 1 (dir :: stack) visited (.error e)
  | listed {n : Nat} {dir : Path} {stack visited : List Path} {es : List Entry} {r : Except Failure (List Path)}
    (h : t.list dir = .ok es) (rest : StackWalk t skip n (subdirectories skip dir es ++ stack) (visited ++ [dir]) r) :
    StackWalk t skip (n + 1) (dir :: stack) visited r

/-- A stack can be walked in one way only. -/
theorem StackWalk.unique {n m : Nat} {stack visited : List Path} {r r' : Except Failure (List Path)}
    (h : StackWalk t skip n stack visited r) (h' : StackWalk t skip m stack visited r') : m = n ∧ r' = r := by
  induction h generalizing m with
  | finished visited =>
    cases h'
    exact ⟨rfl, rfl⟩
  | failed he =>
    cases h' with
    | failed he' =>
      rw [he] at he'
      cases he'
      exact ⟨rfl, rfl⟩
    | listed he' _ =>
      rw [he] at he'
      cases he'
  | listed hes _ ih =>
    cases h' with
    | failed he' =>
      rw [hes] at he'
      cases he'
    | listed he' rest =>
      rw [hes] at he'
      cases he'
      obtain ⟨rfl, rfl⟩ := ih rest
      exact ⟨rfl, rfl⟩

/-! ### How long it takes -/

/-- The directories at `dir` and below it. -/
def under (t : Tree) (dir : Path) : List Segments := t.dirs.filter fun d => dir.segments.isPrefixOf d

theorem mem_under {dir : Path} {d : Segments} : d ∈ t.under dir ↔ d ∈ t.dirs ∧ dir.segments <+: d := by
  rw [under, List.mem_filter, List.isPrefixOf_iff_prefix]

/-- Distinct subdirectories of a directory share what lies under it, and it lies under none of them. -/
theorem length_under_subdirectories (ht : t.Closed) {dir : Path} (hdir : dir.segments ∈ t.dirs)
    (htexts : t.ShowsTexts skip dir.segments) :
    ((subdirectories skip dir (t.entries dir.segments)).flatMap t.under).length < (t.under dir).length := by
  have h0 := (ht.dirsProper _ hdir).2
  have hlen := length_of_mem_subdirectories skip ht h0
  have hnodup : ((subdirectories skip dir (t.entries dir.segments)).flatMap t.under).Pairwise fun d e => id d ≠ id e :=
    pairwise_flatMap_below hlen (ht.pairwise_subdirectories h0 htexts) (fun _ _ _ hd => (mem_under.mp hd).2)
      fun _ _ => ht.once.filter _
  have hself : dir.segments ∉ (subdirectories skip dir (t.entries dir.segments)).flatMap t.under := by
    intro hd
    obtain ⟨c, hc, hd⟩ := List.mem_flatMap.mp hd
    have hle := (mem_under.mp hd).2.length_le
    rw [hlen c hc] at hle
    omega
  have hsub : dir.segments :: (subdirectories skip dir (t.entries dir.segments)).flatMap t.under ⊆ t.under dir := by
    intro d hd
    rcases List.mem_cons.mp hd with rfl | hd
    · exact mem_under.mpr ⟨hdir, List.prefix_refl _⟩
    · obtain ⟨c, hc, hd⟩ := List.mem_flatMap.mp hd
      obtain ⟨hd, hcd⟩ := mem_under.mp hd
      exact mem_under.mpr ⟨hd, (ht.prefix_subdirectory (List.prefix_refl _) hdir hc).trans hcd⟩
  exact (List.nodup_cons.mpr ⟨hself, hnodup⟩).length_le_of_subset hsub

/-- Where names are texts, there are at most as many listings as directories below those on the stack, and one that
    fails. -/
theorem StackWalk.rounds_le (ht : t.Closed) {n : Nat} {stack visited : List Path} {r : Except Failure (List Path)}
    (h : StackWalk t skip n stack visited r) (hlegible : ∀ dir ∈ stack, t.Legible skip dir.segments) :
    n ≤ (stack.flatMap t.under).length + 1 := by
  induction h with
  | finished visited => omega
  | failed _ => omega
  | @listed n dir stack visited es r hes _ ih =>
    obtain ⟨_, hdir, rfl⟩ := list_eq_ok.mp hes
    obtain ⟨hself, hstack⟩ := List.forall_mem_cons.mp hlegible
    have hlt := length_under_subdirectories ht hdir hself.showsTexts
    have hbelow : ∀ d ∈ subdirectories skip dir (t.entries dir.segments) ++ stack, t.Legible skip d.segments := by
      intro d hd
      rcases List.mem_append.mp hd with hd | hd
      · exact hself.subdirectory ht (ht.dirsProper _ hdir).2 hd
      · exact hstack d hd
    have ih := ih hbelow
    rw [List.flatMap_append, List.length_append] at ih
    rw [List.flatMap_cons, List.length_append]
    omega

/-! ### What it finds -/

/-- With these directories on top, the stack goes on as if what they give had been visited, or ends with their
    failure. -/
def Tops (t : Tree) (skip : String → Bool) (dirs : List Path) : Except Failure (List Path) → Prop
  | .ok ds => ∀ n stack visited r, StackWalk t skip n stack (visited ++ ds) r →
    ∃ m, StackWalk t skip m (dirs ++ stack) visited r
  | .error e => ∀ stack visited, ∃ m, StackWalk t skip m (dirs ++ stack) visited (.error e)

theorem tops_gather {f : Path → Except Failure (List Path)} {cs : List Path} (h : ∀ c ∈ cs, Tops t skip [c] (f c)) :
    Tops t skip cs (gather (cs.map f)) := by
  induction cs with
  | nil =>
    intro n stack visited r hw
    rw [List.append_nil] at hw
    exact ⟨n, hw⟩
  | cons c cs ih =>
    have hc := h c (List.mem_cons_self ..)
    have ih := ih fun d hd => h d (List.mem_cons_of_mem _ hd)
    rw [List.map_cons]
    cases hf : f c with
    | error e =>
      rw [hf] at hc
      exact fun stack visited => hc (cs ++ stack) visited
    | ok xs =>
      rw [hf] at hc
      cases hg : gather (cs.map f) with
      | error e =>
        rw [hg] at ih
        simp only [gather, hg, Except.map]
        intro stack visited
        obtain ⟨m, hm⟩ := ih stack (visited ++ xs)
        exact hc m (cs ++ stack) visited _ hm
      | ok ys =>
        rw [hg] at ih
        simp only [gather, hg, Except.map]
        intro n stack visited r hw
        rw [← List.append_assoc] at hw
        obtain ⟨m, hm⟩ := ih n stack (visited ++ xs) r hw
        exact hc m (cs ++ stack) visited r hm

/-- A directory is listed before its subdirectories. -/
theorem Tops.listed {dir : Path} {es : List Entry} (hes : t.list dir = .ok es) {x : Except Failure (List Path)}
    (h : Tops t skip (subdirectories skip dir es) x) : Tops t skip [dir] (x.map (dir :: ·)) := by
  cases x with
  | error e =>
    intro stack visited
    obtain ⟨m, hm⟩ := h stack (visited ++ [dir])
    exact ⟨m + 1, .listed hes hm⟩
  | ok ds =>
    intro n stack visited r hw
    rw [List.append_cons] at hw
    obtain ⟨m, hm⟩ := h n stack (visited ++ [dir]) r hw
    exact ⟨m + 1, .listed hes hm⟩

theorem tops_walkBelow (ht : t.Closed) {depth : Nat} {dir : Path} (hd : (t.under dir).length < depth) :
    Tops t skip [dir] (walkBelow FileSystem.list skip depth dir t).1 := by
  induction depth generalizing dir with
  | zero => omega
  | succ depth ih =>
    rw [walkBelow_succ]
    cases hl : t.list dir with
    | error e => exact fun stack visited => ⟨1, .failed hl⟩
    | ok es =>
      obtain ⟨_, hdir, rfl⟩ := list_eq_ok.mp hl
      refine Tops.listed hl (tops_gather fun c hc => ih ?_)
      -- a subdirectory has less under it than its directory
      have hlt : (t.under c).length < (t.under dir).length := length_below_subdirectory_lt ht hdir hc
      omega

/-- The stack ends as the bounded walk does, and in no other way. -/
theorem stackWalk_iff (ht : t.Closed) (skip : String → Bool) (root : Path) :
    ∃ n, (∀ m r, StackWalk t skip m [root] [] r ↔
        m = n ∧ r = (walkBelow FileSystem.list skip (t.dirs.length + 1) root t).1) ∧
      (t.Legible skip root.segments → n ≤ t.dirs.length + 1) := by
  have hunder : (t.under root).length ≤ t.dirs.length := List.length_filter_le ..
  have htops : Tops t skip [root] (walkBelow FileSystem.list skip (t.dirs.length + 1) root t).1 :=
    tops_walkBelow ht (Nat.lt_succ_of_le hunder)
  have hwalk : ∃ n, StackWalk t skip n [root] [] (walkBelow FileSystem.list skip (t.dirs.length + 1) root t).1 := by
    cases hr : (walkBelow FileSystem.list skip (t.dirs.length + 1) root t).1 with
    | error e =>
      rw [hr] at htops
      exact htops [] []
    | ok ds =>
      rw [hr] at htops
      exact htops 0 [] [] _ (.finished ds)
  obtain ⟨n, hn⟩ := hwalk
  refine ⟨n, fun m r => ⟨hn.unique, ?_⟩, fun hlegible => ?_⟩
  · intro h
    obtain ⟨rfl, rfl⟩ := h
    exact hn
  · have hle := hn.rounds_le ht (by simpa using hlegible)
    rw [List.flatMap_singleton] at hle
    omega

end Tree

/-! ## The walk -/

section Walk

variable {σ : Type} {list : Path → σ → Except Failure (List Entry) × σ} {skip skip' : String → Bool} {t : Tree} {s : σ}

/-- Where names are texts, a walk finds in ascending order. -/
theorem pairwise_lt_walkBelow {β : Type} [LT β] {key : Octets → β} (hkey : KeepsOrder key)
    (hl : ∀ dir, list dir s = (t.list dir, s)) (ht : t.Closed) {depth : Nat} {dir : Path}
    (hlegible : t.Legible skip dir.segments) {ds : List Path} (h : walkBelow list skip depth dir s = (.ok ds, s)) :
    ds.Pairwise fun a b => a.segments.map key < b.segments.map key := by
  induction depth generalizing dir ds with
  | zero => simp [walkBelow] at h
  | succ depth ih =>
    obtain ⟨⟨_, hdir⟩, hsub, rfl⟩ := (walkBelow_succ_eq_ok hl).mp h
    have h0 := (ht.dirsProper _ hdir).2
    have hlen := length_of_mem_subdirectories skip ht h0
    have hin := fun c hc => prefix_of_mem_walkBelow hl ht (hsub c hc)
    refine List.pairwise_cons.mpr ⟨?_, ?_⟩
    · intro d hd
      obtain ⟨c, hc, hd⟩ := List.mem_flatMap.mp hd
      exact lt_of_below_subdirectory ht h0 hc (hin c hc d hd)
    · exact pairwise_lt_flatMap hlen (ht.pairwise_lt_subdirectories hkey h0 hlegible.showsTexts) hin
        fun c hc => ih (hlegible.subdirectory ht h0 hc) (hsub c hc)

theorem subdirectories_congr {dir : Path}
    (h : ∀ n : Octets, dir.segments ++ [n] ∈ t.dirs → skip' n.shown = skip n.shown) :
    subdirectories skip' dir (t.entries dir.segments) = subdirectories skip dir (t.entries dir.segments) := by
  unfold subdirectories
  rw [List.filter_congr]
  intro e he
  obtain ⟨n, -, ⟨rfl, hd⟩ | ⟨rfl, -⟩⟩ := Tree.mem_entries.mp he
  · rw [h n hd]
  · rfl

/-- A walk asks only about the names of subdirectories of what it enters. -/
theorem walkBelow_congr (ht : t.Closed) (depth : Nat) {dir : Path} (h : ∀ (names : Segments) (n : Octets),
      t.Entered skip dir.segments names → dir.segments ++ names ++ [n] ∈ t.dirs → skip' n.shown = skip n.shown) :
    (walkBelow FileSystem.list skip' depth dir t).1 = (walkBelow FileSystem.list skip depth dir t).1 := by
  induction depth generalizing dir with
  | zero => rfl
  | succ depth ih =>
    rw [walkBelow_succ, walkBelow_succ]
    cases hl : t.list dir with
    | error e => rfl
    | ok es =>
      obtain ⟨_, hdir, rfl⟩ := Tree.list_eq_ok.mp hl
      have hhere : ∀ n : Octets, dir.segments ++ [n] ∈ t.dirs → skip' n.shown = skip n.shown := by
        intro n hn
        exact h [] n (Tree.entered_nil hdir) (by rwa [List.append_nil])
      have hbelow : ∀ c ∈ subdirectories skip dir (t.entries dir.segments),
          (walkBelow FileSystem.list skip' depth c t).1 = (walkBelow FileSystem.list skip depth c t).1 := by
        intro c hc
        refine ih fun names m henter hm => ?_
        -- what is entered there is there, so the name of the subdirectory is a text
        have hcd : c.segments ∈ t.dirs := by
          refine ht.mem_of_append ?_ henter.1.2
          rw [← List.length_pos_iff, length_of_mem_subdirectories skip ht (ht.dirsProper _ hdir).2 c hc]
          exact Nat.succ_pos _
        obtain ⟨n, rfl, hn, hs, htext, hnd⟩ :=
          (Tree.mem_subdirectories_entered ht (ht.dirsProper _ hdir).2).mp ⟨hc, hcd⟩
        rw [Path.segments_join_step dir (ht.isStep (ht.dirsProper _ hdir).2 hnd)] at henter hm
        exact h (n :: names) m ((Tree.entered_cons ht).mpr ⟨⟨hn, hs, htext, hnd⟩, henter⟩) (by simpa using hm)
      simp only [Except.bind]
      rw [subdirectories_congr hhere, List.map_congr_left hbelow]

end Walk

namespace Tree

variable {t : Tree} {skip : String → Bool} {root : Path}

/-- The names lead from the root to a directory, all of them ordinary and none of them skipped; no names lead to
    the root itself. -/
def Visits (t : Tree) (skip : String → Bool) (root : Path) (names : Segments) : Prop :=
  (∀ n ∈ names, Path.isName n = true ∧ skip n.shown = false) ∧ (names = [] ∨ root.segments ++ names ∈ t.dirs)

theorem Reached.visits {names : Segments} (h : t.Reached skip root.segments names) : t.Visits skip root names :=
  ⟨h.1, Or.inr h.2⟩

theorem Visits.reached (hroot : root.segments ∈ t.dirs) {names : Segments} (h : t.Visits skip root names) :
    t.Reached skip root.segments names := by
  rcases h.2 with rfl | hd
  · exact reached_nil hroot
  · exact ⟨h.1, hd⟩

theorem Reached.segments_descend (ht : t.Closed) (hroot : root.segments ∈ t.dirs) {names : Segments}
    (h : t.Reached skip root.segments names) : (root.descend names).segments = root.segments ++ names :=
  Path.segments_descend (ht.isSteps (ht.dirsProper _ hroot).2 h.2) root

/-- Where names are texts, all that is visited is readable exactly if it can be listed. -/
theorem readable_iff_visits (ht : t.Closed) (hlegible : t.Legible skip root.segments) :
    t.Readable skip root.segments ↔ ∀ names, t.Visits skip root names → ∃ es, t.list (root.descend names) = .ok es := by
  rw [hlegible.readable_iff]
  constructor
  · intro h names hv
    obtain ⟨hroot, hread⟩ := h
    have hr := hv.reached hroot
    have hseg := hr.segments_descend ht hroot
    exact ⟨_, list_eq_ok.mpr ⟨hseg ▸ hread names hr, hseg ▸ hr.2, rfl⟩⟩
  · intro h
    obtain ⟨es, hes⟩ := h [] ⟨by simp, Or.inl rfl⟩
    have hroot : root.segments ∈ t.dirs := (list_eq_ok.mp hes).2.1
    refine ⟨hroot, fun names hr => ?_⟩
    obtain ⟨es, hes⟩ := h names hr.visits
    rw [← hr.segments_descend ht hroot]
    exact (list_eq_ok.mp hes).1

/-- The directories are the root and all that texts lead to. -/
structure Toured (t : Tree) (skip : String → Bool) (root : Path) (ds : List Path) : Prop where
  first : ds.head? = some root
  mem : ∀ d, d ∈ ds ↔ ∃ names, t.Entered skip root.segments names ∧ d = root.descend names ∧
    d.segments = root.segments ++ names

/-- The directories are those of the unpruned tree. -/
structure Walked (t : Tree) (skip : String → Bool) (root : Path) (ds : List Path) : Prop where
  first : ds.head? = some root
  mem : ∀ d, d ∈ ds ↔ ∃ names, t.Visits skip root names ∧ d = root.descend names ∧
    d.segments = root.segments ++ names
  /-- Each once, in order: segments compare as lists of octets. -/
  ascend : ds.Pairwise fun a b => a.segments < b.segments

theorem toured_of_walkBelow (ht : t.Closed) {depth : Nat} {ds : List Path}
    (h : walkBelow FileSystem.list skip depth root t = (.ok ds, t)) : t.Toured skip root ds := by
  have hl := t.shows.list
  obtain ⟨hroot, rest, rfl⟩ : root.segments ∈ t.dirs ∧ ∃ rest, ds = root :: rest := by
    cases depth with
    | zero => simp [walkBelow] at h
    | succ depth =>
      obtain ⟨⟨_, hroot⟩, _, rfl⟩ := (walkBelow_succ_eq_ok hl).mp h
      exact ⟨hroot, _, rfl⟩
  refine ⟨rfl, fun d => ?_⟩
  rw [mem_walkBelow hl ht h]
  constructor
  · intro hd
    obtain ⟨names, henter, rfl⟩ := hd
    exact ⟨names, henter, rfl, henter.1.segments_descend ht hroot⟩
  · intro hd
    obtain ⟨names, henter, hd, _⟩ := hd
    exact ⟨names, henter, hd⟩

theorem walked_of_walkBelow (ht : t.Closed) (hlegible : t.Legible skip root.segments) {depth : Nat} {ds : List Path}
    (h : walkBelow FileSystem.list skip depth root t = (.ok ds, t)) : t.Walked skip root ds := by
  obtain ⟨hfirst, hmem⟩ := toured_of_walkBelow ht h
  have hroot := dir_of_walkBelow t.shows.list (succeeds_of_eq h)
  refine ⟨hfirst, fun d => ?_, ?_⟩
  · rw [hmem]
    refine exists_congr fun names => and_congr_left fun _ => ?_
    rw [hlegible.entered_iff]
    exact ⟨Reached.visits, Visits.reached hroot⟩
  · have hlt := pairwise_lt_walkBelow keepsOrder_id t.shows.list ht hlegible h
    simpa using hlt

/-- A walk ends, whether its depth is bounded or it keeps a stack. It succeeds exactly if all that texts lead to can be
    listed and what its listings show is there, and has then visited all that texts lead to. Of the names it has asked
    only for those of subdirectories of what it entered. Where only texts lead on, it takes no more listings than there
    are directories, and one that fails, and it succeeds exactly if all that it visits can be listed, and has then
    visited the unpruned tree in order. -/
theorem walk_exact {t : Tree} (ht : t.Built) (skip : String → Bool) (root : Path) :
    ∃ r n, FileSystem.walk skip root t = (r, t) ∧
      (∀ m r', StackWalk t skip m [root] [] r' ↔ m = n ∧ r' = r) ∧
      ((∃ ds, r = .ok ds) ↔ t.Readable skip root.segments) ∧
      (∀ ds, r = .ok ds → t.Toured skip root ds) ∧
      (∀ skip', (∀ (names : Segments) (n : Octets), t.Entered skip root.segments names →
          root.segments ++ names ++ [n] ∈ t.dirs → skip' n.shown = skip n.shown) →
        FileSystem.walk skip' root t = (r, t)) ∧
      (t.Legible skip root.segments → n ≤ t.dirs.length + 1 ∧
        ((∃ ds, r = .ok ds) ↔ ∀ names, t.Visits skip root names → ∃ es, t.list (root.descend names) = .ok es) ∧
        ∀ ds, r = .ok ds → t.Walked skip root ds) := by
  have hc := ht.closed
  have hstate := fun skip => walkBelow_state skip t.shows.list (t.dirs.length + 1) root
  have hwalk : ∀ {r}, (walkBelow FileSystem.list skip (t.dirs.length + 1) root t).1 = r ↔
      walkBelow FileSystem.list skip (t.dirs.length + 1) root t = (r, t) := by
    intro r
    rw [Prod.ext_iff, and_iff_left (hstate skip)]
  have hok : (∃ ds, (walkBelow FileSystem.list skip (t.dirs.length + 1) root t).1 = .ok ds) ↔
      t.Readable skip root.segments := by
    rw [← walkBelow_ok_iff t.shows.list hc (Nat.lt_succ_of_le (List.length_filter_le ..))]
    exact exists_congr fun ds => hwalk
  obtain ⟨n, hstack, hrounds⟩ := stackWalk_iff hc skip root
  refine ⟨(walkBelow FileSystem.list skip (t.dirs.length + 1) root t).1, n, hwalk.mp rfl, hstack, hok,
    fun ds h => toured_of_walkBelow hc (hwalk.mp h), fun skip' h => ?_, fun hlegible => ⟨hrounds hlegible, ?_, ?_⟩⟩
  · exact Prod.ext (walkBelow_congr hc _ h) (hstate skip')
  · rw [hok, readable_iff_visits hc hlegible]
  · exact fun ds h => walked_of_walkBelow hc hlegible (hwalk.mp h)

/-- Directories in another order than their texts, one that cannot be listed, and one whose name is not ordinary. -/
def prunedTree : Tree :=
  ((((Tree.empty.addDir ⟨"/w/a-b"⟩).addDir ⟨"/w/a/b"⟩).addDir ⟨"/w/.git"⟩).lock ⟨"/w/.git"⟩).addDir ⟨"/w/../z"⟩

/-- The names to pass over; that of the root is one of them. -/
def isOut (name : String) : Bool := name == "w" || name == ".git"

theorem walk_exact_prunedTree : prunedTree.Built ∧ prunedTree.Legible isOut (⟨"/w"⟩ : Path).segments ∧
    FileSystem.walk isOut ⟨"/w"⟩ prunedTree = (.ok [⟨"/w"⟩, ⟨"/w/a"⟩, ⟨"/w/a/b"⟩, ⟨"/w/a-b"⟩], prunedTree) ∧
    prunedTree.Walked isOut ⟨"/w"⟩ [⟨"/w"⟩, ⟨"/w/a"⟩, ⟨"/w/a/b"⟩, ⟨"/w/a-b"⟩] := by
  have hbuilt : prunedTree.Built := .addDir _ (.lock _ (.addDir _ (.addDir _ (.addDir _ .empty))))
  have hlegible : prunedTree.Legible isOut (⟨"/w"⟩ : Path).segments := .of_dirs (by decide +kernel)
  have hrun : FileSystem.walk isOut ⟨"/w"⟩ prunedTree =
      (.ok [⟨"/w"⟩, ⟨"/w/a"⟩, ⟨"/w/a/b"⟩, ⟨"/w/a-b"⟩], prunedTree) := rfl
  obtain ⟨r, _, hr, _, _, _, _, hwalked⟩ := walk_exact hbuilt isOut ⟨"/w"⟩
  exact ⟨hbuilt, hlegible, hrun, (hwalked hlegible).2.2 _ (Prod.ext_iff.mp (hr.symm.trans hrun)).1⟩

/-- All directories of the tree can be listed, but the walk looks for the one that the listing shows, and fails. -/
theorem walk_strayTree : strayTree.Built ∧
    (∀ names, strayTree.Visits (fun _ => false) ⟨"/ws"⟩ names →
      ∃ es, strayTree.list ((⟨"/ws"⟩ : Path).descend names) = .ok es) ∧
    FileSystem.walk (fun _ => false) ⟨"/ws"⟩ strayTree = (.error (.directoryNotFound ⟨"/ws/\uFFFD"⟩), strayTree) := by
  have hbuilt : strayTree.Built := .addDir _ .empty
  have hroot : (⟨"/ws"⟩ : Path).segments ∈ strayTree.dirs := by decide
  have hnone : strayTree.unreadable = [] := rfl
  refine ⟨hbuilt, fun names hv => ?_, rfl⟩
  have hr := hv.reached hroot
  have hseg := hr.segments_descend hbuilt.closed hroot
  exact ⟨_, list_eq_ok.mpr ⟨by simp [hnone], hseg ▸ hr.2, rfl⟩⟩

end Tree

end GoAtlas
