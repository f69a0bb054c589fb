/-
  GoAtlas.Proofs.Versions — which version a path shows.

  The path of a file in the module cache is split at every `@`, each part is cut at the next slash, and
  what is a version is counted. The statements here say the same by places in the text:
  - `candidates_eq_map`: the candidates are the runs after the places of `@`, in order.
  - `filter_candidates_eq_singleton`: exactly one candidate counts if exactly one place does, so a version
    that stands there twice is not trusted.
  - `candidates_shown`: the candidates of a path depend on its segments alone.
  - `normalize_pseudo` / `normalize_incompatible`: what is left of a version with two hyphens.
  - `inPath_exact`: the version of a file by what follows the cache in its path.
-/
import GoAtlas.Proofs.Segments
import GoAtlas.Version
import Mathlib.Data.List.Basic
import Mathlib.Data.List.TakeWhile

namespace GoAtlas

namespace Text

/-- The first field is the text up to the first separator. -/
theorem fields_eq_cons (sep : Char) (cs : List Char) : fields sep cs = upTo sep cs :: (fields sep cs).drop 1 := by
  induction cs with
  | nil => rfl
  | cons c cs ih =>
    unfold fields upTo
    by_cases e : c = sep
    · simp [e]
    · rw [if_neg e, ih]
      simp [e, upTo]

theorem after?_append (lead rest : List Char) : after? lead (lead ++ rest) = some rest := by
  induction lead with
  | nil => rfl
  | cons c lead ih => simp [after?, ih]

theorem eq_append_of_after? {lead cs rest : List Char} (h : after? lead cs = some rest) : cs = lead ++ rest := by
  induction lead generalizing cs with
  | nil => simpa [after?] using h
  | cons l lead ih =>
    cases cs with
    | nil => cases h
    | cons c cs =>
      unfold after? at h
      split at h
      · rename_i e
        rw [e, ih h, List.cons_append]
      · cases h

theorem before?_append (front tail : List Char) : before? tail (front ++ tail) = some front := by
  unfold before?
  rw [List.reverse_append, after?_append]
  simp

theorem before?_eq_none {tail cs : List Char} (h : ¬tail <:+ cs) : before? tail cs = none := by
  unfold before?
  cases ha : after? tail.reverse cs.reverse with
  | none => rfl
  | some rest =>
    have hcs := congrArg List.reverse (eq_append_of_after? ha)
    rw [List.reverse_append, List.reverse_reverse, List.reverse_reverse] at hcs
    exact absurd ⟨rest.reverse, hcs.symm⟩ h

/-- What follows the last `c`. -/
theorem afterLast?_append {c : Char} (front : List Char) {rest : List Char} (h : c ∉ rest) :
    afterLast? c (front ++ c :: rest) = some rest := by
  unfold afterLast?
  rw [fields_append_sep, fields_of_notMem h]
  obtain ⟨f, fs, hf⟩ := List.exists_cons_of_ne_nil (fields_ne_nil c front)
  rw [hf]
  cases fs with
  | nil => rfl
  | cons g gs =>
    show (f :: g :: gs ++ [rest]).getLast? = some rest
    exact List.getLast?_concat

end Text

namespace Version

/-! ## Runs after an `@` -/

/-- The longest run at the start of a text that has neither an `@` nor a slash. -/
def run (cs : List Char) : List Char := cs.takeWhile fun c => c != '@' && c != '/'

theorem run_append_slash (a b : List Char) : run (a ++ '/' :: b) = run a := by
  unfold run
  induction a with
  | nil => rfl
  | cons c a ih => simp only [List.cons_append, List.takeWhile_cons, ih]

/-- A part between two `@` that is cut at the first slash. -/
theorem upTo_upTo (cs : List Char) : Text.upTo '/' (Text.upTo '@' cs) = run cs := by
  unfold Text.upTo run
  rw [List.takeWhile_takeWhile]
  congr 1
  funext c
  rw [Bool.eq_iff_iff]
  simp [and_comm]

@[simp] theorem candidates_nil : candidates [] = [] := rfl

/-- Every `@` adds the run that follows it. -/
theorem candidates_cons (c : Char) (cs : List Char) :
    candidates (c :: cs) = if c = '@' then run cs :: candidates cs else candidates cs := by
  have hf := Text.fields_eq_cons '@' cs
  simp only [candidates, Text.fields]
  by_cases e : c = '@'
  · rw [if_pos e, if_pos e, List.drop_one, List.tail_cons, ← upTo_upTo, ← List.map_cons, ← hf]
  · rw [if_neg e, if_neg e]
    cases hfs : Text.fields '@' cs with
    | nil => exact absurd hfs (Text.fields_ne_nil '@' cs)
    | cons f fs => rfl

/-- The candidates stand after the places of `@`, in order. -/
theorem candidates_eq_map (cs : List Char) :
    candidates cs = (cs.findIdxs (· == '@')).map fun i => run (cs.drop (i + 1)) := by
  induction cs with
  | nil => rfl
  | cons c cs ih =>
    rw [candidates_cons, ih, List.findIdxs_cons, List.findIdxs_start (s := 0 + 1)]
    by_cases e : c = '@'
    · simp [e]
    · simp [e]

/-- Exactly one candidate counts if exactly one place of `@` has a run that does. -/
theorem filter_candidates_eq_singleton {p : List Char → Bool} {cs v : List Char} :
    (candidates cs).filter p = [v] ↔ ∃ i, (cs[i]? = some '@' ∧ v = run (cs.drop (i + 1)) ∧ p v = true) ∧
      ∀ j, cs[j]? = some '@' → p (run (cs.drop (j + 1))) = true → j = i := by
  have hmem : ∀ j, j ∈ (cs.findIdxs (· == '@')).filter (p ∘ fun i => run (cs.drop (i + 1))) ↔
      cs[j]? = some '@' ∧ p (run (cs.drop (j + 1))) = true := by
    intro j
    simp [List.getElem?_eq_some_iff]
  have hnodup : ((cs.findIdxs (· == '@')).filter (p ∘ fun i => run (cs.drop (i + 1)))).Nodup :=
    List.nodup_findIdxs.filter _
  rw [candidates_eq_map, List.filter_map, List.map_eq_singleton_iff]
  constructor
  · intro h
    obtain ⟨i, hi, rfl⟩ := h
    simp only [hi, List.mem_singleton] at hmem
    obtain ⟨hat, hp⟩ := (hmem i).mp rfl
    exact ⟨i, ⟨hat, rfl, hp⟩, fun j hj hpj => (hmem j).mpr ⟨hj, hpj⟩⟩
  · intro h
    obtain ⟨i, ⟨hat, rfl, hp⟩, hone⟩ := h
    -- the places are distinct, so a list with one member is a single one
    refine ⟨i, List.perm_singleton.mp ((List.perm_ext_iff_of_nodup hnodup (List.pairwise_singleton _ _)).mpr ?_), rfl⟩
    intro j
    rw [hmem, List.mem_singleton]
    constructor
    · intro hj
      exact hone j hj.1 hj.2
    · rintro rfl
      exact ⟨hat, hp⟩

/-! ## Paths -/

/-- A slash ends every run. -/
theorem candidates_append_slash (a b : List Char) : candidates (a ++ '/' :: b) = candidates a ++ candidates b := by
  induction a with
  | nil => simp [candidates_cons]
  | cons c a ih =>
    rw [List.cons_append, candidates_cons, candidates_cons, ih, run_append_slash]
    split <;> simp

/-- Pieces that are shown one after the other, with slashes between them. -/
theorem candidates_joinFields (ps : List Octets) :
    candidates (Octets.shown (Text.joinFields [Octets.slash] ps)).toList =
      ps.flatMap fun s => candidates s.shown.toList := by
  fun_induction Text.joinFields [Octets.slash] ps with
  | case1 => rfl
  | case2 f => simp
  | case3 f g fs ih =>
    rw [List.append_assoc, List.singleton_append, Octets.toList_shown_append_slash, candidates_append_slash, ih]
    rfl

theorem candidates_of_idle {piece : Octets} (h : Path.idle piece = true) : candidates piece.shown.toList = [] := by
  simp only [Path.idle, Bool.or_eq_true, beq_iff_eq] at h
  rcases h with rfl | rfl <;> rfl

/-- The candidates of a path are those of its segments. -/
theorem candidates_shown (p : Path) :
    candidates p.shown.toList = p.segments.flatMap fun s => candidates s.shown.toList := by
  have hfilter : ∀ ps : List Octets, (ps.filter fun s => !Path.idle s).flatMap (fun s => candidates s.shown.toList) =
      ps.flatMap fun s => candidates s.shown.toList := by
    intro ps
    induction ps with
    | nil => rfl
    | cons s ps ih =>
      by_cases e : Path.idle s = true
      · simp [e, ih, candidates_of_idle e]
      · simp [e, ih]
  have hpieces : candidates p.shown.toList = p.pieces.flatMap fun s => candidates s.shown.toList := by
    rw [Path.shown, ← Text.joinFields_fields Octets.slash p.octets, candidates_joinFields, Path.pieces]
  rw [hpieces]
  unfold Path.segments
  cases p.pieces with
  | nil => rfl
  | cons first rest =>
    simp only [Path.segmentsOf]
    by_cases e : first = []
    · by_cases er : rest = []
      · rw [e, er]
        rfl
      · -- the root adds as little as the empty piece before it
        have hroot : candidates (Octets.shown Path.root).toList = candidates (Octets.shown []).toList := rfl
        simp only [e, if_true, List.isEmpty_iff, er, if_false, List.flatMap_cons, hfilter, hroot]
    · simp only [e, if_false, List.flatMap_cons, hfilter]

/-! ## Versions with two hyphens -/

/-- A text without `c` that ends another ends what follows a `c` in it. -/
theorem suffix_of_suffix_append {c : Char} {tail front rest : List Char} (hc : c ∉ tail)
    (h : tail <:+ front ++ c :: rest) : tail <:+ rest := by
  rcases List.suffix_or_suffix_of_suffix h (List.suffix_append front (c :: rest)) with h | h
  · rcases List.suffix_cons_iff.mp h with rfl | h
    · exact absurd (List.mem_cons_self ..) hc
    · exact h
  · exact absurd (h.mem (List.mem_cons_self ..)) hc

/-- Where what is left after trimming has a hash after its last hyphen, that is the result. -/
theorem normalizeChars_eq {cs front hash : List Char} (hcount : cs.count '-' = 2) (hhash : '-' ∉ hash)
    (htrim : (Text.before? incompatible cs).getD cs = front ++ '-' :: hash) : normalizeChars cs = hash := by
  simp only [normalizeChars, hcount, ne_eq, not_true_eq_false, if_false, htrim, Text.afterLast?_append front hhash,
    Option.getD_some]

theorem toList_pseudo (base time hash : String) : (base ++ "-" ++ time ++ "-" ++ hash).toList =
    (base.toList ++ '-' :: time.toList) ++ '-' :: hash.toList := by
  simp only [String.toList_append, List.append_assoc]
  rfl

section Pseudo

variable {base time hash : String} (hbase : '-' ∉ base.toList) (htime : '-' ∉ time.toList) (hhash : '-' ∉ hash.toList)
include hbase htime hhash

theorem count_pseudo : (base ++ "-" ++ time ++ "-" ++ hash).toList.count '-' = 2 := by
  rw [toList_pseudo, List.count_append, List.count_append, List.count_cons_self, List.count_cons_self,
    List.count_eq_zero.mpr hbase, List.count_eq_zero.mpr htime, List.count_eq_zero.mpr hhash]

/-- Of a version `base-time-hash` the hash is left. -/
theorem normalize_pseudo (h : ¬incompatible <:+ hash.toList) :
    normalize (base ++ "-" ++ time ++ "-" ++ hash) = hash := by
  have hbefore : Text.before? incompatible (base ++ "-" ++ time ++ "-" ++ hash).toList = none := by
    refine Text.before?_eq_none ?_
    intro hs
    rw [toList_pseudo] at hs
    exact h (suffix_of_suffix_append (by decide) hs)
  rw [normalize, normalizeChars_eq (count_pseudo hbase htime hhash) hhash, String.ofList_toList]
  rw [hbefore, Option.getD_none, toList_pseudo]

/-- So it is where `+incompatible` follows. -/
theorem normalize_incompatible : normalize (base ++ "-" ++ time ++ "-" ++ hash ++ "+incompatible") = hash := by
  have hv : (base ++ "-" ++ time ++ "-" ++ hash ++ "+incompatible").toList =
      (base ++ "-" ++ time ++ "-" ++ hash).toList ++ incompatible := String.toList_append
  have hcount : ((base ++ "-" ++ time ++ "-" ++ hash).toList ++ incompatible).count '-' = 2 := by
    rw [List.count_append, count_pseudo hbase htime hhash]
    rfl
  rw [normalize, hv, normalizeChars_eq hcount hhash, String.ofList_toList]
  rw [Text.before?_append, Option.getD_some, toList_pseudo]

end Pseudo

/-! ## The version of a file -/

/-- `rel` is what follows the cache in the path of the file, by segments; a file outside the cache is left whole. -/
def Remains (cache file rel : Path) : Prop :=
  cache.segments ++ rel.segments = file.segments ∨ ¬cache.segments <+: file.segments ∧ rel = file

/-- At place `i` of the text stands an `@`, and the longest run after it that has neither an `@` nor a slash is
    the version `v`. -/
structure ShownAt (text : String) (i : Nat) (v : String) : Prop where
  mark : text.toList[i]? = some '@'
  eq_run : v = String.ofList (run (text.toList.drop (i + 1)))
  valid : isValid v = true

theorem remains_relativeTo? (cache file : Path) : Remains cache file ((file.relativeTo? cache).getD file) := by
  cases h : file.relativeTo? cache with
  | none => exact Or.inr ⟨Path.relativeTo?_eq_none.mp h, rfl⟩
  | some rel => exact Or.inl (Path.segments_relativeTo? h)

/-- All that remains of a path has the same segments. -/
theorem Remains.segments_eq {cache file rel rel' : Path} (h : Remains cache file rel) (h' : Remains cache file rel') :
    rel.segments = rel'.segments := by
  rcases h with h | ⟨hn, rfl⟩ <;> rcases h' with h' | ⟨hn', rfl⟩
  · exact List.append_cancel_left (h.trans h'.symm)
  · exact absurd ⟨_, h⟩ hn'
  · exact absurd ⟨_, h'⟩ hn
  · rfl

theorem inPath?_eq_some {cache file rel : Path} (hrel : Remains cache file rel) {v : String} :
    inPath? cache file = some v ↔ (candidates rel.shown.toList).filter isValidChars = [v.toList] := by
  have hsame : candidates ((file.relativeTo? cache).getD file).shown.toList = candidates rel.shown.toList := by
    rw [candidates_shown, candidates_shown, (remains_relativeTo? cache file).segments_eq hrel]
  unfold inPath?
  simp only [hsame]
  split
  · rename_i u hu
    simp [hu, String.ext_iff]
  · rename_i hne
    constructor
    · intro h
      cases h
    · intro h
      exact absurd h (hne _)

/-- What remains of the path of a file after the cache shows the version at exactly one place: not one that
    stands in the cache, and none that stands there twice. -/
theorem inPath_exact (cache file : Path) :
    Remains cache file ((file.relativeTo? cache).getD file) ∧
    (∀ rel, Remains cache file rel → ∀ v, inPath? cache file = some v ↔
      ∃ i, ShownAt rel.shown i v ∧ ∀ j u, ShownAt rel.shown j u → j = i) ∧
    (inPath? cache file = none → resolve? cache file = none) ∧
    ∀ v, inPath? cache file = some v →
      (v.toList.count '-' ≠ 2 → resolve? cache file = some v) ∧
      ∀ base time hash : String, '-' ∉ base.toList → '-' ∉ time.toList → '-' ∉ hash.toList →
        (¬incompatible <:+ hash.toList → v = base ++ "-" ++ time ++ "-" ++ hash → resolve? cache file = some hash) ∧
        (v = base ++ "-" ++ time ++ "-" ++ hash ++ "+incompatible" → resolve? cache file = some hash) := by
  refine ⟨remains_relativeTo? cache file, ?_, ?_, ?_⟩
  · intro rel hrel v
    rw [inPath?_eq_some hrel, filter_candidates_eq_singleton]
    constructor
    · intro h
      obtain ⟨i, ⟨hat, hrun, hvalid⟩, hone⟩ := h
      refine ⟨i, ⟨hat, ?_, hvalid⟩, ?_⟩
      · rw [← hrun, String.ofList_toList]
      · intro j u hu
        exact hone j hu.mark (by simpa [hu.eq_run, isValid] using hu.valid)
    · intro h
      obtain ⟨i, hi, hone⟩ := h
      refine ⟨i, ⟨hi.mark, ?_, hi.valid⟩, ?_⟩
      · rw [hi.eq_run, String.toList_ofList]
      · intro j hat hvalid
        exact hone j _ ⟨hat, rfl, by rwa [isValid, String.toList_ofList]⟩
  · intro h
    rw [resolve?, h, Option.map_none]
  · intro v h
    have hresolve : resolve? cache file = some (normalize v) := by rw [resolve?, h, Option.map_some]
    rw [hresolve]
    refine ⟨?_, ?_⟩
    · intro hcount
      rw [normalize, normalizeChars, if_pos hcount, String.ofList_toList]
    · intro base time hash hb ht hh
      refine ⟨?_, ?_⟩
      · rintro hinc rfl
        rw [normalize_pseudo hb ht hh hinc]
      · rintro rfl
        rw [normalize_incompatible hb ht hh]

/-- A cache below a directory that looks like one of a module, and a version that stands in a path twice. -/
theorem inPath_exact_pseudo :
    inPath? ⟨"/go@v1.2.3/mod"⟩ ⟨"/go@v1.2.3//mod/x.org/a@v0.0.0-20210101-abc12/b.go"⟩ = some "v0.0.0-20210101-abc12" ∧
    resolve? ⟨"/go@v1.2.3/mod"⟩ ⟨"/go@v1.2.3//mod/x.org/a@v0.0.0-20210101-abc12/b.go"⟩ = some "abc12" ∧
    ∀ v, inPath? ⟨"/go"⟩ ⟨"/m/a@v1.0.0/b@v1.0.0/c.go"⟩ ≠ some v := by
  have hshown : inPath? ⟨"/go@v1.2.3/mod"⟩ ⟨"/go@v1.2.3//mod/x.org/a@v0.0.0-20210101-abc12/b.go"⟩ =
      some "v0.0.0-20210101-abc12" := by
    decide +kernel
  obtain ⟨_, _, _, hresolve⟩ :=
    inPath_exact ⟨"/go@v1.2.3/mod"⟩ ⟨"/go@v1.2.3//mod/x.org/a@v0.0.0-20210101-abc12/b.go"⟩
  refine ⟨hshown, ?_, ?_⟩
  · exact ((hresolve _ hshown).2 "v0.0.0" "20210101" "abc12" (by decide) (by decide) (by decide)).1 (by decide) rfl
  · intro v h
    obtain ⟨_, hone, _, _⟩ := inPath_exact ⟨"/go"⟩ ⟨"/m/a@v1.0.0/b@v1.0.0/c.go"⟩
    obtain ⟨i, _, hi⟩ := (hone _ (Or.inr ⟨by decide, rfl⟩) v).mp h
    -- the version stands at two places
    have h4 := hi 4 "v1.0.0" ⟨by decide, by decide, by decide⟩
    have h13 := hi 13 "v1.0.0" ⟨by decide, by decide, by decide⟩
    omega

end Version

end GoAtlas
