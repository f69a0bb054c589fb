/-
  GoAtlas.Proofs.Normalization — what normalizing leaves of a version.

  A version with two hyphens is taken for a pseudo-version `base-time-hash`, and what follows its last hyphen for
  the hash of a commit. But a hyphen may stand in every identifier of a pre-release and of a build.
  - `isVersionChar_of_isValid` / `isSemantic_core`: the characters of a version, and the numbers that it begins with.
  - `exists_cut`: a version with two hyphens is cut into three, and the third is what is left.
  - `resolve_proper_iff`: the version of a file is one that the path shows or the hash of a pseudo-version, unless
    the path shows another version with two hyphens; then it is a fragment of that.
-/
import GoAtlas.Proofs.Versions

namespace GoAtlas

/-- A character of the text is the separator or stands in a field. -/
theorem Text.mem_fields_or_eq (sep : Char) {c : Char} {cs : List Char} (h : c ∈ cs) : c = sep ∨ ∃ f ∈ fields sep cs, c ∈ f := by
  rw [← joinFields_fields sep cs] at h
  generalize fields sep cs = fs at h
  fun_induction joinFields [sep] fs with
  | case1 => cases h
  | case2 f => exact Or.inr ⟨f, List.mem_cons_self .., h⟩
  | case3 f g fs ih =>
    simp only [List.append_assoc, List.mem_append, List.mem_singleton] at h
    rcases h with h | h | h
    · exact Or.inr ⟨f, List.mem_cons_self .., h⟩
    · exact Or.inl h
    · rcases ih h with e | ⟨f', hf', hc⟩
      · exact Or.inl e
      · exact Or.inr ⟨f', List.mem_cons_of_mem _ hf', hc⟩

namespace Version

/-! ## The characters of a version -/

theorem cutAt_fst (c : Char) (cs : List Char) : (cutAt c cs).1 = Text.upTo c cs := by
  induction cs with
  | nil => rfl
  | cons d cs ih =>
    unfold cutAt Text.upTo
    by_cases e : d = c
    · simp [e]
    · simp [e, ih, Text.upTo]

theorem cutAt_of_notMem {c : Char} {cs : List Char} (h : c ∉ cs) : cutAt c cs = (cs, none) := by
  induction cs with
  | nil => rfl
  | cons d cs ih =>
    rw [List.mem_cons, not_or] at h
    rw [cutAt, if_neg (Ne.symm h.1), ih h.2]

theorem cutAt_append {c : Char} {front rest : List Char} (h : c ∉ front) :
    cutAt c (front ++ c :: rest) = (front, some rest) := by
  induction front with
  | nil => simp [cutAt]
  | cons d front ih =>
    rw [List.mem_cons, not_or] at h
    rw [List.cons_append, cutAt, if_neg (Ne.symm h.1), ih h.2]

/-- A character stands on one side of the cut or is where the text is cut. -/
theorem mem_cutAt {c d : Char} {cs : List Char} (h : d ∈ cs) :
    d ∈ (cutAt c cs).1 ∨ d = c ∨ ∃ rest, (cutAt c cs).2 = some rest ∧ d ∈ rest := by
  induction cs with
  | nil => cases h
  | cons x cs ih =>
    unfold cutAt
    by_cases e : x = c
    · rw [if_pos e]
      rcases List.mem_cons.mp h with rfl | h
      · exact Or.inr (Or.inl e)
      · exact Or.inr (Or.inr ⟨cs, rfl, h⟩)
    · rw [if_neg e]
      rcases List.mem_cons.mp h with rfl | h
      · exact Or.inl (List.mem_cons_self ..)
      · exact (ih h).imp_left (List.mem_cons_of_mem _)

/-- Letters, digits, hyphens, dots and plus signs. -/
def isVersionChar (c : Char) : Bool := isIdentifierChar c || c == '.' || c == '+'

theorem isVersionChar_of_isDigit {c : Char} (h : Text.isDigit c = true) : isVersionChar c = true := by
  simp [isVersionChar, isIdentifierChar, Text.isAlnum, h]

/-- Identifiers between dots have no other characters than these. -/
theorem isVersionChar_of_fields {cs : List Char}
    (h : ∀ f ∈ Text.fields '.' cs, ∀ c ∈ f, isVersionChar c = true) : ∀ c ∈ cs, isVersionChar c = true := by
  intro c hc
  rcases Text.mem_fields_or_eq '.' hc with rfl | ⟨f, hf, hcf⟩
  · rfl
  · exact h f hf c hcf

theorem isVersionChar_of_isNumber {cs : List Char} (h : isNumber cs = true) : ∀ c ∈ cs, isVersionChar c = true := by
  intro c hc
  simp only [isNumber, Bool.and_eq_true, List.all_eq_true] at h
  exact isVersionChar_of_isDigit (h.1.2 c hc)

theorem isVersionChar_of_isIdentifier {cs : List Char} (h : isIdentifier cs = true) :
    ∀ c ∈ cs, isVersionChar c = true := by
  intro c hc
  simp only [isIdentifier, Bool.and_eq_true, List.all_eq_true] at h
  simp [isVersionChar, h.2 c hc]

theorem isVersionChar_of_isBuild {cs : List Char} (h : isBuild cs = true) : ∀ c ∈ cs, isVersionChar c = true :=
  isVersionChar_of_fields fun f hf => isVersionChar_of_isIdentifier (List.all_eq_true.mp h f hf)

theorem isVersionChar_of_isPreRelease {cs : List Char} (h : isPreRelease cs = true) :
    ∀ c ∈ cs, isVersionChar c = true := by
  refine isVersionChar_of_fields fun f hf => isVersionChar_of_isIdentifier ?_
  have hpre := List.all_eq_true.mp h f hf
  rw [isPreIdentifier, Bool.and_eq_true] at hpre
  exact hpre.1

/-- What a semantic version is made of: three numbers before the first hyphen and the first plus sign, a
    pre-release and a build. -/
theorem isSemantic_parts {cs : List Char} (h : isSemantic cs = true) :
    ∃ a b c, Text.fields '.' (Text.upTo '-' (Text.upTo '+' cs)) = [a, b, c] ∧
      (isNumber64 a = true ∧ isNumber64 b = true ∧ isNumber64 c = true) ∧
      (∀ pre, (cutAt '-' (cutAt '+' cs).1).2 = some pre → isPreRelease pre = true) ∧
      ∀ build, (cutAt '+' cs).2 = some build → isBuild build = true := by
  rw [← cutAt_fst, ← cutAt_fst]
  simp only [isSemantic] at h
  split at h
  · rename_i a b c hf
    simp only [Bool.and_eq_true] at h
    obtain ⟨⟨⟨⟨ha, hb⟩, hc⟩, hpre⟩, hbuild⟩ := h
    refine ⟨a, b, c, hf, ⟨ha, hb, hc⟩, ?_, ?_⟩
    · intro pre e
      rwa [e] at hpre
    · intro build e
      rwa [e] at hbuild
  · cases h

theorem isVersionChar_of_isSemantic {cs : List Char} (h : isSemantic cs = true) :
    ∀ c ∈ cs, isVersionChar c = true := by
  obtain ⟨x, y, z, hf, ⟨hx, hy, hz⟩, hpre, hbuild⟩ := isSemantic_parts h
  have hnumber : ∀ f, isNumber64 f = true → ∀ c ∈ f, isVersionChar c = true := by
    intro f hf64
    rw [isNumber64, Bool.and_eq_true] at hf64
    exact isVersionChar_of_isNumber hf64.1
  intro c hc
  rcases mem_cutAt (c := '+') hc with hc | rfl | ⟨build, e, hc⟩
  · rcases mem_cutAt (c := '-') hc with hc | rfl | ⟨pre, e, hc⟩
    · refine isVersionChar_of_fields ?_ c hc
      rw [cutAt_fst, cutAt_fst, hf]
      simp only [List.forall_mem_cons, List.not_mem_nil, false_imp_iff, implies_true, and_true]
      exact ⟨hnumber x hx, hnumber y hy, hnumber z hz⟩
    · rfl
    · exact isVersionChar_of_isPreRelease (hpre pre e) c hc
  · rfl
  · exact isVersionChar_of_isBuild (hbuild build e) c hc

/-- A short version is digits and dots. -/
theorem isDigit_of_isShort {cs : List Char} (h : isShort cs = true) :
    ∀ c ∈ cs, c = '.' ∨ Text.isDigit c = true := by
  have hnumber : ∀ f, isNumber f = true → ∀ c ∈ f, Text.isDigit c = true := by
    intro f hn c hc
    simp only [isNumber, Bool.and_eq_true, List.all_eq_true] at hn
    exact hn.1.2 c hc
  intro c hc
  refine (Text.mem_fields_or_eq '.' hc).imp_right ?_
  rintro ⟨f, hf, hcf⟩
  unfold isShort at h
  split at h
  · rename_i a e
    rw [e, List.mem_singleton] at hf
    exact hnumber f (hf ▸ h) c hcf
  · rename_i a b e
    rw [Bool.and_eq_true] at h
    rw [e, List.mem_cons, List.mem_singleton] at hf
    rcases hf with rfl | rfl
    · exact hnumber f h.1 c hcf
    · exact hnumber f h.2 c hcf
  · cases h

/-- A version is a `v`, then a semantic version or a short one. -/
theorem isValidChars_cases {cs : List Char} (h : isValidChars cs = true) :
    ∃ rest, cs = 'v' :: rest ∧ (isSemantic rest = true ∨ isShort rest = true) := by
  unfold isValidChars at h
  split at h
  · rename_i rest
    exact ⟨rest, rfl, by simpa using h⟩
  · cases h

theorem isVersionChar_of_isValid {cs : List Char} (h : isValidChars cs = true) : ∀ c ∈ cs, isVersionChar c = true := by
  obtain ⟨rest, rfl, hrest⟩ := isValidChars_cases h
  intro c hc
  rcases List.mem_cons.mp hc with rfl | hc
  · rfl
  · rcases hrest with hrest | hrest
    · exact isVersionChar_of_isSemantic hrest c hc
    · rcases isDigit_of_isShort hrest c hc with rfl | hd
      · rfl
      · exact isVersionChar_of_isDigit hd

/-- The three numbers that a semantic version begins with are one by themselves. -/
theorem isSemantic_core {core rest : List Char} (hhyphen : '-' ∉ core) (hplus : '+' ∉ core)
    (h : isSemantic (core ++ '-' :: rest) = true) : isSemantic core = true := by
  obtain ⟨a, b, c, hf, ⟨ha, hb, hc⟩, _, _⟩ := isSemantic_parts h
  have hcore : Text.upTo '-' (Text.upTo '+' (core ++ '-' :: rest)) = core := by
    unfold Text.upTo
    rw [List.takeWhile_append_of_pos, List.takeWhile_cons_of_pos (by decide), List.takeWhile_append_of_pos,
      List.takeWhile_cons_of_neg (by decide), List.append_nil]
    · intro d hd
      simp only [bne_iff_ne, ne_eq]
      rintro rfl
      exact hhyphen hd
    · intro d hd
      simp only [bne_iff_ne, ne_eq]
      rintro rfl
      exact hplus hd
  rw [hcore] at hf
  unfold isSemantic
  rw [cutAt_of_notMem hplus]
  simp only
  rw [cutAt_of_notMem hhyphen]
  simp [hf, ha, hb, hc]

/-- What stands before the first hyphen of a version is a version. -/
theorem isValidChars_base {base rest : List Char} (hhyphen : '-' ∉ base) (hplus : '+' ∉ base)
    (h : isValidChars (base ++ '-' :: rest) = true) : isValidChars base = true := by
  obtain ⟨cs, hcs, hvalid⟩ := isValidChars_cases h
  cases base with
  | nil => exact absurd (List.cons.inj hcs).1 (by decide)
  | cons c core =>
    obtain ⟨rfl, rfl⟩ := List.cons.inj hcs
    rw [List.mem_cons, not_or] at hhyphen hplus
    rcases hvalid with hs | hs
    · simp [isValidChars, isSemantic_core hhyphen.2 hplus.2 hs]
    · -- a short version has no hyphen
      rcases isDigit_of_isShort hs '-' (by simp) with e | e
      · exact absurd e (by decide)
      · exact absurd e (by decide)

/-! ## Three pieces -/

/-- `raw` is `base-time-tail`, with `+incompatible` or without, and there are no more hyphens in it. -/
structure Cut (raw base time tail : String) : Prop where
  base_plain : '-' ∉ base.toList
  time_plain : '-' ∉ time.toList
  tail_plain : '-' ∉ tail.toList
  text : raw = base ++ "-" ++ time ++ "-" ++ tail ∨ raw = base ++ "-" ++ time ++ "-" ++ tail ++ "+incompatible"

theorem toList_incompatible (s : String) : (s ++ "+incompatible").toList = s.toList ++ incompatible :=
  String.toList_append

theorem exists_pieces {cs : List Char} (h : cs.count '-' = 2) :
    ∃ a b c, ('-' ∉ a ∧ '-' ∉ b ∧ '-' ∉ c) ∧ cs = (a ++ '-' :: b) ++ '-' :: c := by
  have hmem : '-' ∈ cs := List.count_pos_iff.mp (by omega)
  obtain ⟨a, rest, rfl, ha⟩ := List.eq_append_cons_of_mem hmem
  rw [List.count_append, List.count_cons_self, List.count_eq_zero.mpr ha] at h
  have hrest : '-' ∈ rest := List.count_pos_iff.mp (by omega)
  obtain ⟨b, c, rfl, hb⟩ := List.eq_append_cons_of_mem hrest
  rw [List.count_append, List.count_cons_self, List.count_eq_zero.mpr hb] at h
  have hc : '-' ∉ c := List.count_eq_zero.mp (by omega)
  exact ⟨a, b, c, ⟨ha, hb, hc⟩, by simp⟩

/-- Two hyphens cut a version into three, and the third is what normalizing leaves. -/
theorem exists_cut {raw : String} (h : raw.toList.count '-' = 2) : ∃ base time, Cut raw base time (normalize raw) := by
  obtain ⟨a, b, c, ⟨ha, hb, hc⟩, hcs⟩ := exists_pieces h
  have hbase : '-' ∉ (String.ofList a).toList := by rwa [String.toList_ofList]
  have htime : '-' ∉ (String.ofList b).toList := by rwa [String.toList_ofList]
  refine ⟨String.ofList a, String.ofList b, ?_⟩
  by_cases hinc : incompatible <:+ c
  · obtain ⟨d, rfl⟩ := hinc
    have hd : '-' ∉ (String.ofList d).toList := by
      rw [String.toList_ofList]
      intro m
      exact hc (List.mem_append_left _ m)
    have htext : raw = String.ofList a ++ "-" ++ String.ofList b ++ "-" ++ String.ofList d ++ "+incompatible" := by
      rw [String.ext_iff, hcs, toList_incompatible, toList_pseudo]
      simp
    rw [htext, normalize_incompatible hbase htime hd]
    exact ⟨hbase, htime, hd, Or.inr rfl⟩
  · have hc' : '-' ∉ (String.ofList c).toList := by rwa [String.toList_ofList]
    have htext : raw = String.ofList a ++ "-" ++ String.ofList b ++ "-" ++ String.ofList c := by
      rw [String.ext_iff, hcs, toList_pseudo]
      simp
    rw [htext, normalize_pseudo hbase htime hc' (by rwa [String.toList_ofList])]
    exact ⟨hbase, htime, hc', Or.inl rfl⟩

namespace Cut

variable {raw base time tail : String}

theorem toList_eq (h : Cut raw base time tail) :
    ∃ rest, raw.toList = base.toList ++ '-' :: (time.toList ++ '-' :: (tail.toList ++ rest)) := by
  rcases h.text with rfl | rfl
  · exact ⟨[], by rw [toList_pseudo]; simp⟩
  · exact ⟨incompatible, by rw [toList_incompatible, toList_pseudo]; simp⟩

/-- The third piece is shorter than the whole. -/
theorem tail_ne (h : Cut raw base time tail) : tail ≠ raw := by
  rintro rfl
  obtain ⟨rest, hlist⟩ := h.toList_eq
  have hlen := congrArg List.length hlist
  simp only [List.length_append, List.length_cons] at hlen
  omega

/-- The third piece and the whole decide the others. -/
theorem unique {base' time' : String} (h : Cut raw base time tail) (h' : Cut raw base' time' tail) :
    base = base' ∧ time = time' := by
  obtain ⟨rest, hlist⟩ := h.toList_eq
  obtain ⟨rest', hlist'⟩ := h'.toList_eq
  have hcut := congrArg (cutAt '-') (hlist.symm.trans hlist')
  rw [cutAt_append h.base_plain, cutAt_append h'.base_plain, Prod.mk.injEq, Option.some.injEq] at hcut
  have hcut' := congrArg (cutAt '-') hcut.2
  rw [cutAt_append h.time_plain, cutAt_append h'.time_plain, Prod.mk.injEq] at hcut'
  exact ⟨String.toList_inj.mp hcut.1, String.toList_inj.mp hcut'.1⟩

end Cut

/-! ## Hashes and fragments -/

/-- Letters and digits, at least one. -/
def IsHash (s : String) : Prop := s ≠ "" ∧ s.toList.all Text.isAlnum = true

instance (s : String) : Decidable (IsHash s) := inferInstanceAs (Decidable (_ ∧ _))

theorem IsHash.notMem {s : String} (h : IsHash s) {c : Char} (hc : Text.isAlnum c = false) : c ∉ s.toList := by
  intro hmem
  rw [List.all_eq_true.mp h.2 c hmem] at hc
  cases hc

/-- `raw` is a pseudo-version with this hash: the release that it comes before or after, a time and the hash. -/
def Pseudo (raw hash : String) : Prop :=
  ∃ base time, Cut raw base time hash ∧ isValid base = true ∧ '+' ∉ base.toList ∧ '+' ∉ time.toList ∧ IsHash hash

/-- `part` is what follows two hyphens of `raw`, and it is empty, or has more than one identifier, or runs into the
    build, or the build has begun before it. -/
def Fragment (raw part : String) : Prop :=
  ∃ base time, Cut raw base time part ∧
    (part = "" ∨ '.' ∈ part.toList ∨ '+' ∈ part.toList ∨ '+' ∈ base.toList ∨ '+' ∈ time.toList)

/-- `v` is the version `raw` or the hash of the pseudo-version `raw`. -/
def Proper (raw v : String) : Prop := v = raw ∨ Pseudo raw v

theorem Pseudo.normalize_eq {raw hash : String} (h : Pseudo raw hash) : normalize raw = hash := by
  obtain ⟨base, time, hcut, _, _, _, hhash⟩ := h
  rcases hcut.text with rfl | rfl
  · refine normalize_pseudo hcut.base_plain hcut.time_plain hcut.tail_plain ?_
    intro hs
    exact hhash.notMem (by decide) (hs.mem (show '+' ∈ incompatible by decide))
  · exact normalize_incompatible hcut.base_plain hcut.time_plain hcut.tail_plain

/-- What follows two hyphens of a version is the hash of a pseudo-version or a fragment. -/
theorem Cut.pseudo_or_fragment {raw base time tail : String} (h : Cut raw base time tail) (hvalid : isValid raw = true) :
    Pseudo raw tail ∨ Fragment raw tail := by
  obtain ⟨rest, hlist⟩ := h.toList_eq
  by_cases hfragment : tail = "" ∨ '.' ∈ tail.toList ∨ '+' ∈ tail.toList ∨ '+' ∈ base.toList ∨ '+' ∈ time.toList
  · exact Or.inr ⟨base, time, h, hfragment⟩
  · simp only [not_or] at hfragment
    obtain ⟨hne, hdot, hplus, hbase, htime⟩ := hfragment
    refine Or.inl ⟨base, time, h, ?_, hbase, htime, hne, ?_⟩
    · rw [isValid, hlist] at hvalid
      exact isValidChars_base h.base_plain hbase hvalid
    · rw [List.all_eq_true]
      intro c hc
      have hchar : isVersionChar c = true := isVersionChar_of_isValid hvalid c (by simp [hlist, hc])
      simp only [isVersionChar, isIdentifierChar, Bool.or_eq_true, beq_iff_eq] at hchar
      rcases hchar with ((halnum | rfl) | rfl) | rfl
      · exact halnum
      · exact absurd hc h.tail_plain
      · exact absurd hc hdot
      · exact absurd hc hplus

/-- A fragment is neither the version nor a hash. -/
theorem Fragment.not_proper {raw part : String} (h : Fragment raw part) : ¬Proper raw part := by
  obtain ⟨base, time, hcut, hpart⟩ := h
  rintro (e | ⟨base', time', hcut', _, hbase, htime, hhash⟩)
  · exact hcut.tail_ne e
  · obtain ⟨rfl, rfl⟩ := hcut.unique hcut'
    rcases hpart with e | hdot | hplus | hplus | hplus
    · exact hhash.1 e
    · exact hhash.notMem (by decide) hdot
    · exact hhash.notMem (by decide) hplus
    · exact hbase hplus
    · exact htime hplus

theorem normalize_eq_self {raw : String} (h : raw.toList.count '-' ≠ 2) : normalize raw = raw := by
  rw [normalize, normalizeChars, if_pos h, String.ofList_toList]

section Outcome

variable {raw : String} (hvalid : isValid raw = true)

theorem proper_normalize_iff : Proper raw (normalize raw) ↔ raw.toList.count '-' ≠ 2 ∨ ∃ hash, Pseudo raw hash := by
  constructor
  · rintro (e | hpseudo)
    · refine Or.inl ?_
      intro hcount
      obtain ⟨base, time, hcut⟩ := exists_cut hcount
      exact hcut.tail_ne e
    · exact Or.inr ⟨_, hpseudo⟩
  · rintro (hcount | ⟨hash, hpseudo⟩)
    · exact Or.inl (normalize_eq_self hcount)
    · rw [hpseudo.normalize_eq]
      exact Or.inr hpseudo

include hvalid

theorem fragment_normalize (h : ¬Proper raw (normalize raw)) : Fragment raw (normalize raw) := by
  have hcount : raw.toList.count '-' = 2 := by
    by_contra hcount
    exact h (Or.inl (normalize_eq_self hcount))
  obtain ⟨base, time, hcut⟩ := exists_cut hcount
  rcases hcut.pseudo_or_fragment hvalid with hpseudo | hfragment
  · exact absurd (Or.inr hpseudo) h
  · exact hfragment

theorem Proper.wellFormed {v : String} (h : Proper raw v) : isValid v = true ∨ IsHash v := by
  rcases h with rfl | ⟨_, _, _, _, _, _, hhash⟩
  · exact Or.inl hvalid
  · exact Or.inr hhash

end Outcome

theorem isValid_of_inPath? {cache file : Path} {raw : String} (h : inPath? cache file = some raw) :
    isValid raw = true := by
  have hfilter := (inPath?_eq_some (remains_relativeTo? cache file)).mp h
  have hmem : raw.toList ∈ [raw.toList] := List.mem_singleton_self _
  rw [← hfilter, List.mem_filter] at hmem
  exact hmem.2

/-- The version of a file is the one that its path shows or the hash of a pseudo-version there, exactly if the path
    shows a pseudo-version or one that has not two hyphens; it is a version or letters and digits then. Else it is a
    fragment of a pre-release or of a build. -/
theorem resolve_proper_iff {cache file : Path} {v : String} (h : resolve? cache file = some v) :
    ∃ raw, inPath? cache file = some raw ∧ isValid raw = true ∧
      (Proper raw v ↔ raw.toList.count '-' ≠ 2 ∨ ∃ hash, Pseudo raw hash) ∧
      (Proper raw v → isValid v = true ∨ IsHash v) ∧ (¬Proper raw v ↔ Fragment raw v) := by
  obtain ⟨raw, hraw, rfl⟩ := Option.map_eq_some_iff.mp h
  have hvalid := isValid_of_inPath? hraw
  exact ⟨raw, hraw, hvalid, proper_normalize_iff, Proper.wellFormed hvalid, fragment_normalize hvalid,
    Fragment.not_proper⟩

theorem resolve_proper_iff_twoModules :
    (resolve? ⟨"/go"⟩ ⟨"/go/x.org/a@v0.0.0-20210101-abc12/b.go"⟩ = some "abc12" ∧
      Proper "v0.0.0-20210101-abc12" "abc12") ∧
    resolve? ⟨"/go"⟩ ⟨"/go/x.org/a@v1.0.0-rc-1.2/b.go"⟩ = some "1.2" ∧ Fragment "v1.0.0-rc-1.2" "1.2" := by
  have hpseudo : resolve? ⟨"/go"⟩ ⟨"/go/x.org/a@v0.0.0-20210101-abc12/b.go"⟩ = some "abc12" := by decide +kernel
  have hother : resolve? ⟨"/go"⟩ ⟨"/go/x.org/a@v1.0.0-rc-1.2/b.go"⟩ = some "1.2" := by decide +kernel
  have hshown : inPath? ⟨"/go"⟩ ⟨"/go/x.org/a@v0.0.0-20210101-abc12/b.go"⟩ = some "v0.0.0-20210101-abc12" := by
    decide +kernel
  have hshown' : inPath? ⟨"/go"⟩ ⟨"/go/x.org/a@v1.0.0-rc-1.2/b.go"⟩ = some "v1.0.0-rc-1.2" := by decide +kernel
  obtain ⟨raw, hraw, _, hproper, _, _⟩ := resolve_proper_iff hpseudo
  obtain ⟨raw', hraw', _, _, hwell, hfragment⟩ := resolve_proper_iff hother
  rw [hshown, Option.some.injEq] at hraw
  rw [hshown', Option.some.injEq] at hraw'
  subst hraw hraw'
  refine ⟨⟨hpseudo, hproper.mpr (Or.inr ⟨"abc12", "v0.0.0", "20210101", ?_, ?_⟩)⟩, hother, ?_⟩
  · exact ⟨by decide, by decide, by decide, Or.inl rfl⟩
  · decide +kernel
  · -- neither a version nor letters and digits, so it is not proper
    refine hfragment.mp fun h => ?_
    rcases hwell h with e | e
    · exact absurd e (by decide +kernel)
    · exact absurd e (by decide +kernel)

/-- The hyphens of a pre-release are taken for those of a pseudo-version: nothing is left of one version, and two
    numbers of another. -/
theorem a_prerelease_is_cut_short :
    resolve? ⟨"/go"⟩ ⟨"/go/x.org/a@v1.0.0-rc-/b.go"⟩ = some "" ∧
    resolve? ⟨"/go"⟩ ⟨"/go/x.org/a@v1.0.0-rc-1.2/b.go"⟩ = some "1.2" ∧
    ∀ v ∈ ["", "1.2"], isValid v = false ∧ ¬IsHash v := by
  decide +kernel

end Version

end GoAtlas
