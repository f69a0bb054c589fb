/-
  GoAtlas.Proofs.Grammar — the grammar of versions.

  A version is read by cutting: at the first `+`, before that at the first `-`, before that at every dot. The
  grammar here goes the other way, from the parts of a version to its text (`Form`, `Form.text`), and says of each
  part what it may be (`Form.Proper`).
  - `isNumber_iff` / `isIdentifier_iff` / `isPreIdentifier_iff`: the checks of the parts.
  - `ofBody?_body`: the text of a proper form is cut into the parts it was written from, so no text has two forms.
  - `isSemantic_iff` / `isShort_iff`: the two kinds of versions, each by its forms.
  - `isValid_exact`: the valid versions are exactly the texts of proper forms, each of one form, and with the build,
    the pre-release, the patch and the minor number left out one after the other they stay valid.
-/
import GoAtlas.Proofs.Normalization
import Mathlib.Data.List.Induction
import Mathlib.Data.Nat.Digits.Defs

namespace GoAtlas.Version

/-! ## Numbers and identifiers -/

/-- `0`, or digits of which the first is not `0`. -/
inductive Number : List Char → Prop
  | zero : Number ['0']
  | digits {d : Char} {ds : List Char} (hd : '1' ≤ d ∧ d ≤ '9') (hds : ∀ c ∈ ds, '0' ≤ c ∧ c ≤ '9') : Number (d :: ds)

/-- The number that digits write, the last of them counting one. -/
def value (cs : List Char) : Nat := Nat.ofDigits 10 (cs.reverse.map fun c => c.toNat - '0'.toNat)

/-- A number that 64 bits hold. -/
def Number64 (cs : List Char) : Prop := Number cs ∧ value cs ≤ 2 ^ 64 - 1

/-- One or more letters, digits and hyphens. -/
def Identifier (cs : List Char) : Prop :=
  cs ≠ [] ∧ ∀ c ∈ cs, '0' ≤ c ∧ c ≤ '9' ∨ 'A' ≤ c ∧ c ≤ 'Z' ∨ 'a' ≤ c ∧ c ≤ 'z' ∨ c = '-'

/-- An identifier; if it is all digits, then one without a leading zero. -/
def PreIdentifier (cs : List Char) : Prop := Identifier cs ∧ ((∀ c ∈ cs, '0' ≤ c ∧ c ≤ '9') → Number cs)

theorem isDigit_iff {c : Char} : Text.isDigit c = true ↔ '0' ≤ c ∧ c ≤ '9' := by
  simp [Text.isDigit]

/-- The digit after `0` is `1`. -/
theorem one_le_of_ne_zero {d : Char} (h : '0' ≤ d) (hd : d ≠ '0') : '1' ≤ d := by
  have hne : d.toNat ≠ '0'.toNat := fun e => hd (Char.toNat_inj.mp e)
  rw [Char.le_def, UInt32.le_iff_toNat_le] at h ⊢
  change 48 ≤ d.toNat at h
  change d.toNat ≠ 48 at hne
  change 49 ≤ d.toNat
  omega

theorem isNumber_iff {cs : List Char} : isNumber cs = true ↔ Number cs := by
  simp only [isNumber, Bool.and_eq_true, Bool.or_eq_true, List.all_eq_true, isDigit_iff]
  constructor
  · intro h
    obtain ⟨⟨hne, hdigits⟩, hzero⟩ := h
    cases cs with
    | nil => cases hne
    | cons d ds =>
      rw [List.forall_mem_cons] at hdigits
      by_cases hd : d = '0'
      · rw [hd] at hzero ⊢
        have hds : ds = [] := by simpa using hzero
        rw [hds]
        exact .zero
      · exact .digits ⟨one_le_of_ne_zero hdigits.1.1 hd, hdigits.1.2⟩ hdigits.2
  · intro h
    cases h with
    | zero => exact ⟨⟨rfl, List.forall_mem_singleton.mpr (by decide)⟩, Or.inl rfl⟩
    | @digits d ds hd hds =>
      have hzero : d ≠ '0' := by
        rintro rfl
        exact absurd hd.1 (by decide)
      have hd' : '0' ≤ d ∧ d ≤ '9' := ⟨Char.le_trans (by decide) hd.1, hd.2⟩
      exact ⟨⟨rfl, List.forall_mem_cons.mpr ⟨hd', hds⟩⟩, Or.inr (by simp [hzero])⟩

theorem decimal_eq_value (cs : List Char) : Text.decimal cs = value cs := by
  unfold Text.decimal Text.numeral value
  induction cs using List.reverseRecOn with
  | nil => rfl
  | append_singleton cs c ih =>
    rw [List.foldl_append, ih, List.reverse_append, List.reverse_singleton, List.singleton_append, List.map_cons,
      Nat.ofDigits_cons, List.foldl_cons, List.foldl_nil, Nat.mul_comm, Nat.add_comm]
    rfl

theorem isNumber64_iff {cs : List Char} : isNumber64 cs = true ↔ Number64 cs := by
  rw [isNumber64, Bool.and_eq_true, isNumber_iff, decimal_eq_value, decide_eq_true_iff]
  rfl

theorem isIdentifier_iff {cs : List Char} : isIdentifier cs = true ↔ Identifier cs := by
  simp only [isIdentifier, Identifier, isIdentifierChar, Text.isAlnum, Text.isLetter, Text.isLower, Text.isUpper,
    isDigit_iff, Bool.and_eq_true, Bool.or_eq_true, List.all_eq_true, decide_eq_true_eq, beq_iff_eq]
  refine and_congr (by simp) (forall₂_congr fun c _ => ?_)
  constructor
  · intro h
    rcases h with ((h | h) | h) | h
    · exact Or.inr (Or.inr (Or.inl h))
    · exact Or.inr (Or.inl h)
    · exact Or.inl h
    · exact Or.inr (Or.inr (Or.inr h))
  · intro h
    rcases h with h | h | h | h
    · exact Or.inl (Or.inr h)
    · exact Or.inl (Or.inl (Or.inr h))
    · exact Or.inl (Or.inl (Or.inl h))
    · exact Or.inr h

theorem isPreIdentifier_iff {cs : List Char} : isPreIdentifier cs = true ↔ PreIdentifier cs := by
  rw [isPreIdentifier, Bool.and_eq_true, isIdentifier_iff, PreIdentifier, Bool.or_eq_true, isNumber_iff]
  refine and_congr_right fun _ => ?_
  have hall : cs.all Text.isDigit = true ↔ ∀ c ∈ cs, '0' ≤ c ∧ c ≤ '9' := by
    simp only [List.all_eq_true, isDigit_iff]
  rw [Bool.not_eq_true', ← Bool.not_eq_true, hall, imp_iff_not_or]

theorem Number.isDigit {cs : List Char} (h : Number cs) : ∀ c ∈ cs, Text.isDigit c = true := by
  rw [← isNumber_iff, isNumber, Bool.and_eq_true, Bool.and_eq_true] at h
  exact List.all_eq_true.mp h.1.2

theorem Number.notMem {cs : List Char} (h : Number cs) {c : Char} (hc : Text.isDigit c = false) : c ∉ cs := by
  intro hm
  rw [h.isDigit c hm] at hc
  cases hc

theorem Identifier.notMem {cs : List Char} (h : Identifier cs) {c : Char} (hc : isIdentifierChar c = false) :
    c ∉ cs := by
  intro hm
  rw [← isIdentifier_iff, isIdentifier, Bool.and_eq_true] at h
  rw [List.all_eq_true.mp h.2 c hm] at hc
  cases hc

/-! ## Forms -/

/-- The parts that a version is written from. -/
inductive Form where
  | one (major : List Char)
  | two (major minor : List Char)
  | three (major minor patch : List Char) (pre build : Option (List (List Char)))

namespace Form

def numbers : Form → List (List Char)
  | .one a => [a]
  | .two a b => [a, b]
  | .three a b c _ _ => [a, b, c]

def pre : Form → Option (List (List Char))
  | .three _ _ _ pre _ => pre
  | _ => none

def build : Form → Option (List (List Char))
  | .three _ _ _ _ build => build
  | _ => none

/-- The identifiers between dots after the mark; nothing where there are none. -/
def tail (mark : Char) (ids : Option (List (List Char))) : List Char :=
  ids.elim [] fun ids => mark :: Text.joinFields ['.'] ids

def release (f : Form) : List Char := Text.joinFields ['.'] f.numbers ++ tail '-' f.pre

/-- The version without the `v`. -/
def body (f : Form) : List Char := f.release ++ tail '+' f.build

def text (f : Form) : String := String.ofList ('v' :: f.body)

/-- What each part may be: the numbers of a full version are bounded, those of a short one are not. -/
def Proper : Form → Prop
  | .one a => Number a
  | .two a b => Number a ∧ Number b
  | .three a b c pre build => (Number64 a ∧ Number64 b ∧ Number64 c) ∧
      (∀ ids ∈ pre, ids ≠ [] ∧ ∀ x ∈ ids, PreIdentifier x) ∧ ∀ ids ∈ build, ids ≠ [] ∧ ∀ x ∈ ids, Identifier x

/-- The forms with the build, then the pre-release, then the patch, then the minor number left out. -/
def shorter : Form → List Form
  | .one _ => []
  | .two a _ => [.one a]
  | .three a b c pre _ => [.three a b c pre none, .three a b c none none, .two a b, .one a]

theorem body_one (a : List Char) : (one a).body = Text.joinFields ['.'] [a] := by
  simp [body, release, tail, numbers, pre, build]

theorem body_two (a b : List Char) : (two a b).body = Text.joinFields ['.'] [a, b] := by
  simp [body, release, tail, numbers, pre, build]

theorem numbers_ne_nil (f : Form) : f.numbers ≠ [] := by
  cases f <;> simp [numbers]

variable {f : Form}

theorem Proper.shorter (h : f.Proper) : ∀ g ∈ f.shorter, g.Proper := by
  cases f with
  | one a => simp [Form.shorter]
  | two a b =>
    intro g hg
    rw [List.mem_singleton.mp hg]
    exact h.1
  | three a b c pre build =>
    obtain ⟨⟨ha, hb, hc⟩, hpre, _⟩ := h
    simp only [Form.shorter, List.forall_mem_cons, List.not_mem_nil, false_imp_iff, implies_true, and_true]
    exact ⟨⟨⟨ha, hb, hc⟩, hpre, by simp⟩, ⟨⟨ha, hb, hc⟩, by simp, by simp⟩, ⟨ha.1, hb.1⟩, ha.1⟩

theorem Proper.numbers (h : f.Proper) : ∀ n ∈ f.numbers, Number n := by
  cases f with
  | one a => exact List.forall_mem_cons.mpr ⟨h, by simp⟩
  | two a b => exact List.forall_mem_cons.mpr ⟨h.1, List.forall_mem_cons.mpr ⟨h.2, by simp⟩⟩
  | three a b c pre build =>
    obtain ⟨⟨ha, hb, hc⟩, _⟩ := h
    simp only [Form.numbers, List.forall_mem_cons, List.not_mem_nil, false_imp_iff, implies_true, and_true]
    exact ⟨ha.1, hb.1, hc.1⟩

theorem Proper.pre (h : f.Proper) : ∀ ids ∈ f.pre, ids ≠ [] ∧ ∀ x ∈ ids, PreIdentifier x := by
  cases f with
  | one a => simp [Form.pre]
  | two a b => simp [Form.pre]
  | three a b c pre build => exact h.2.1

theorem Proper.build (h : f.Proper) : ∀ ids ∈ f.build, ids ≠ [] ∧ ∀ x ∈ ids, Identifier x := by
  cases f with
  | one a => simp [Form.build]
  | two a b => simp [Form.build]
  | three a b c pre build => exact h.2.2

/-! ## Cutting what was written -/

theorem cutAt_append_tail {mark : Char} {front : List Char} (h : mark ∉ front) (ids : Option (List (List Char))) :
    cutAt mark (front ++ tail mark ids) = (front, ids.map (Text.joinFields ['.'])) := by
  cases ids with
  | none => simpa [tail] using cutAt_of_notMem h
  | some ids => exact cutAt_append h

/-- A text is what stands before the first mark, and the identifiers after it. -/
theorem append_tail_cutAt (mark : Char) (cs : List Char) :
    (cutAt mark cs).1 ++ tail mark ((cutAt mark cs).2.map (Text.fields '.')) = cs := by
  induction cs with
  | nil => rfl
  | cons c cs ih =>
    unfold cutAt
    by_cases e : c = mark
    · simp [e, tail, Text.joinFields_fields]
    · rw [if_neg e, List.cons_append, ih]

theorem notMem_joinFields {c : Char} (hc : c ≠ '.') {fs : List (List Char)} (h : ∀ f ∈ fs, c ∉ f) :
    c ∉ Text.joinFields ['.'] fs := by
  fun_induction Text.joinFields ['.'] fs with
  | case1 => simp
  | case2 f => exact h f (List.mem_cons_self ..)
  | case3 f g fs ih =>
    rw [List.forall_mem_cons] at h
    simp only [List.append_assoc, List.mem_append, List.mem_singleton, not_or]
    exact ⟨h.1, hc, ih h.2⟩

/-- Identifiers that were joined by dots are found again. -/
theorem fields_identifiers {ids : List (List Char)} (h : ids ≠ [] ∧ ∀ x ∈ ids, Identifier x) :
    Text.fields '.' (Text.joinFields ['.'] ids) = ids :=
  Text.fields_joinFields h.1 fun x hx => (h.2 x hx).notMem (by decide)

theorem map_fields_joinFields {ids : Option (List (List Char))} (h : ∀ xs ∈ ids, xs ≠ [] ∧ ∀ x ∈ xs, Identifier x) :
    (ids.map (Text.joinFields ['.'])).map (Text.fields '.') = ids := by
  cases ids with
  | none => rfl
  | some ids => rw [Option.map_some, Option.map_some, fields_identifiers (h ids rfl)]

theorem Proper.preIdentifiers (h : f.Proper) : ∀ xs ∈ f.pre, xs ≠ [] ∧ ∀ x ∈ xs, Identifier x := by
  intro xs hxs
  obtain ⟨h0, hids⟩ := h.pre xs hxs
  exact ⟨h0, fun x hx => (hids x hx).1⟩

theorem Proper.notMem_numbers (h : f.Proper) {c : Char} (hc : c ≠ '.') (hdigit : Text.isDigit c = false) :
    c ∉ Text.joinFields ['.'] f.numbers :=
  notMem_joinFields hc fun n hn => (h.numbers n hn).notMem hdigit

theorem Proper.fields_numbers (h : f.Proper) : Text.fields '.' (Text.joinFields ['.'] f.numbers) = f.numbers :=
  Text.fields_joinFields f.numbers_ne_nil fun n hn => (h.numbers n hn).notMem (by decide)

/-- The first `+` begins the build: none stands in the numbers or in the pre-release. -/
theorem Proper.cutAt_body (h : f.Proper) : cutAt '+' f.body = (f.release, f.build.map (Text.joinFields ['.'])) := by
  refine cutAt_append_tail ?_ f.build
  rw [release, List.mem_append, not_or]
  refine ⟨h.notMem_numbers (by decide) (by decide), ?_⟩
  cases hpre : f.pre with
  | none => simp [tail]
  | some ids =>
    have hids := (h.preIdentifiers ids hpre).2
    have hplus := notMem_joinFields (by decide) fun x hx => (hids x hx).notMem (c := '+') (by decide)
    simpa [tail] using hplus

/-- Before it, the first `-` begins the pre-release. -/
theorem Proper.cutAt_release (h : f.Proper) :
    cutAt '-' f.release = (Text.joinFields ['.'] f.numbers, f.pre.map (Text.joinFields ['.'])) :=
  cutAt_append_tail (h.notMem_numbers (by decide) (by decide)) f.pre

/-- The form that a text has by its marks and dots. -/
def ofBody? (cs : List Char) : Option Form :=
  let release := cutAt '+' cs
  let core := cutAt '-' release.1
  match Text.fields '.' core.1 with
  | [a] => some (.one a)
  | [a, b] => some (.two a b)
  | [a, b, c] => some (.three a b c (core.2.map (Text.fields '.')) (release.2.map (Text.fields '.')))
  | _ => none

theorem Proper.ofBody?_body (h : f.Proper) : ofBody? f.body = some f := by
  simp only [ofBody?, h.cutAt_body, h.cutAt_release, h.fields_numbers, map_fields_joinFields h.preIdentifiers,
    map_fields_joinFields h.build]
  cases f <;> rfl

/-- A text has one proper form at most. -/
theorem Proper.eq_of_text {g : Form} (hf : f.Proper) (hg : g.Proper) (h : f.text = g.text) : f = g := by
  have hbody : f.body = g.body := by
    have hlist := congrArg String.toList h
    simp only [text, String.toList_ofList, List.cons.injEq, true_and] at hlist
    exact hlist
  have hread := hf.ofBody?_body
  rw [hbody, hg.ofBody?_body] at hread
  exact (Option.some.inj hread).symm

end Form

/-! ## What is accepted -/

theorem isPreRelease_iff {cs : List Char} :
    isPreRelease cs = true ↔ ∀ x ∈ Text.fields '.' cs, PreIdentifier x := by
  simp only [isPreRelease, List.all_eq_true, isPreIdentifier_iff]

theorem isBuild_iff {cs : List Char} : isBuild cs = true ↔ ∀ x ∈ Text.fields '.' cs, Identifier x := by
  simp only [isBuild, List.all_eq_true, isIdentifier_iff]

theorem isSemantic_iff {cs : List Char} : isSemantic cs = true ↔
    ∃ a b c pre build, (Form.three a b c pre build).Proper ∧ cs = (Form.three a b c pre build).body := by
  constructor
  · intro h
    obtain ⟨a, b, c, hf, ⟨ha, hb, hc⟩, hpre, hbuild⟩ := isSemantic_parts h
    rw [← cutAt_fst, ← cutAt_fst] at hf
    refine ⟨a, b, c, (cutAt '-' (cutAt '+' cs).1).2.map (Text.fields '.'), (cutAt '+' cs).2.map (Text.fields '.'),
      ⟨⟨isNumber64_iff.mp ha, isNumber64_iff.mp hb, isNumber64_iff.mp hc⟩, ?_, ?_⟩, ?_⟩
    · intro ids hids
      obtain ⟨p, hp, rfl⟩ := Option.map_eq_some_iff.mp hids
      exact ⟨Text.fields_ne_nil '.' p, isPreRelease_iff.mp (hpre p hp)⟩
    · intro ids hids
      obtain ⟨p, hp, rfl⟩ := Option.map_eq_some_iff.mp hids
      exact ⟨Text.fields_ne_nil '.' p, isBuild_iff.mp (hbuild p hp)⟩
    · rw [Form.body, Form.release, Form.numbers, ← hf, Text.joinFields_fields, Form.pre, Form.append_tail_cutAt,
        Form.build, Form.append_tail_cutAt]
  · intro h
    obtain ⟨a, b, c, pre, build, hproper, rfl⟩ := h
    have hpre : ∀ p ∈ pre.map (Text.joinFields ['.']), isPreRelease p = true := by
      intro p hp
      obtain ⟨ids, hids, rfl⟩ := Option.map_eq_some_iff.mp hp
      rw [isPreRelease_iff, Form.fields_identifiers (hproper.preIdentifiers ids hids)]
      exact (hproper.pre ids hids).2
    have hbuild : ∀ p ∈ build.map (Text.joinFields ['.']), isBuild p = true := by
      intro p hp
      obtain ⟨ids, hids, rfl⟩ := Option.map_eq_some_iff.mp hp
      rw [isBuild_iff, Form.fields_identifiers (hproper.build ids hids)]
      exact (hproper.build ids hids).2
    have hfields : Text.fields '.' (Text.joinFields ['.'] (Form.three a b c pre build).numbers) = [a, b, c] :=
      hproper.fields_numbers
    simp only [isSemantic, hproper.cutAt_body, hproper.cutAt_release, hfields, Bool.and_eq_true, isNumber64_iff,
      Option.all_eq_true]
    exact ⟨⟨⟨⟨hproper.1.1, hproper.1.2.1⟩, hproper.1.2.2⟩, hpre⟩, hbuild⟩

theorem isShort_iff {cs : List Char} : isShort cs = true ↔
    (∃ a, (Form.one a).Proper ∧ cs = (Form.one a).body) ∨ ∃ a b, (Form.two a b).Proper ∧ cs = (Form.two a b).body := by
  constructor
  · intro h
    unfold isShort at h
    split at h
    · rename_i a hf
      refine Or.inl ⟨a, isNumber_iff.mp h, ?_⟩
      rw [Form.body_one, ← hf, Text.joinFields_fields]
    · rename_i a b hf
      rw [Bool.and_eq_true, isNumber_iff, isNumber_iff] at h
      refine Or.inr ⟨a, b, h, ?_⟩
      rw [Form.body_two, ← hf, Text.joinFields_fields]
    · cases h
  · intro h
    rcases h with ⟨n, hn, rfl⟩ | ⟨n, m, hnm, rfl⟩
    · have hf : Text.fields '.' (Text.joinFields ['.'] [n]) = [n] := hn.fields_numbers
      rw [isShort, Form.body_one, hf]
      exact isNumber_iff.mpr hn
    · have hf : Text.fields '.' (Text.joinFields ['.'] [n, m]) = [n, m] := hnm.fields_numbers
      rw [isShort, Form.body_two, hf]
      simp [isNumber_iff.mpr hnm.1, isNumber_iff.mpr hnm.2]

theorem isValid_iff {s : String} : isValid s = true ↔ ∃ f : Form, f.Proper ∧ s = f.text := by
  constructor
  · intro h
    obtain ⟨rest, hs, hrest⟩ := isValidChars_cases h
    have hform : ∃ f : Form, f.Proper ∧ rest = f.body := by
      rw [isSemantic_iff, isShort_iff] at hrest
      rcases hrest with ⟨a, b, c, pre, build, h⟩ | ⟨a, h⟩ | ⟨a, b, h⟩
      · exact ⟨_, h⟩
      · exact ⟨_, h⟩
      · exact ⟨_, h⟩
    obtain ⟨f, hf, rfl⟩ := hform
    refine ⟨f, hf, ?_⟩
    rw [Form.text, ← hs, String.ofList_toList]
  · intro h
    obtain ⟨f, hf, rfl⟩ := h
    rw [isValid, Form.text, String.toList_ofList]
    show (isSemantic f.body || isShort f.body) = true
    rw [Bool.or_eq_true, isSemantic_iff, isShort_iff]
    cases f with
    | one a => exact Or.inr (Or.inl ⟨a, hf, rfl⟩)
    | two a b => exact Or.inr (Or.inr ⟨a, b, hf, rfl⟩)
    | three a b c pre build => exact Or.inl ⟨a, b, c, pre, build, hf, rfl⟩

/-- A text is a version exactly if it is written from the parts of a proper form. The form is then the only one,
    and every form that is left when its last parts are dropped is a version as well. -/
theorem isValid_exact (s : String) :
    (isValid s = true ↔ ∃ f : Form, f.Proper ∧ s = f.text) ∧
    ∀ f : Form, f.Proper → s = f.text →
      (∀ g : Form, g.Proper → s = g.text → g = f) ∧ ∀ g ∈ f.shorter, isValid g.text = true := by
  refine ⟨isValid_iff, ?_⟩
  rintro f hf rfl
  refine ⟨?_, ?_⟩
  · intro g hg e
    exact hg.eq_of_text hf e.symm
  · intro g hg
    exact isValid_iff.mpr ⟨g, hf.shorter g hg, rfl⟩

/-- A hyphen in the build, a zero in the pre-release and zeros that lead in the build. -/
def hyphenated : Form :=
  .three ['1'] ['2', '0'] ['0'] (some [['r', 'c'], ['0']]) (some [['b', '-', '7'], ['0', '0', '7']])

theorem isValid_exact_hyphenated : hyphenated.Proper ∧ "v1.20.0-rc.0+b-7.007" = hyphenated.text ∧
    isValid "v1.20.0-rc.0" = true ∧ isValid "v1.20" = true := by
  have hproper : hyphenated.Proper := by
    refine ⟨⟨isNumber64_iff.mp (by decide), isNumber64_iff.mp (by decide), isNumber64_iff.mp (by decide)⟩, ?_, ?_⟩
    · rintro _ ⟨rfl⟩
      have hids : ∀ x ∈ [['r', 'c'], ['0']], isPreIdentifier x = true := by decide
      exact ⟨by simp, fun x hx => isPreIdentifier_iff.mp (hids x hx)⟩
    · rintro _ ⟨rfl⟩
      have hids : ∀ x ∈ [['b', '-', '7'], ['0', '0', '7']], isIdentifier x = true := by decide
      exact ⟨by simp, fun x hx => isIdentifier_iff.mp (hids x hx)⟩
  have htext : "v1.20.0-rc.0+b-7.007" = hyphenated.text := by decide +kernel
  obtain ⟨_, hshorter⟩ := (isValid_exact _).2 hyphenated hproper htext
  simp only [hyphenated, Form.shorter, List.forall_mem_cons] at hshorter
  exact ⟨hproper, htext, hshorter.1, hshorter.2.2.1⟩

end GoAtlas.Version
