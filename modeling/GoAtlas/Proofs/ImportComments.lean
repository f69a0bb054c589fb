/-
  GoAtlas.Proofs.ImportComments — import comments are read back from the sources that hold them.

  A source with an import comment is made of whole lines that do not begin with the keyword `package`, the
  line of the comment, and any text after it (`CommentedSource`).
  - `commentAt?_text`: the comment is found on its line, whatever tabs and spaces stand between its words and
    however the line ends.
  - `firstComment?_append_lines`: the lines before it are passed over. A quoted path may go over line ends,
    so a comment of an earlier line could take the whole line with it; but none begins on those lines.
  - `fileComment?_text`: so a file with this text declares the path of the comment.
-/
import GoAtlas.Files.Tree
import GoAtlas.Module.Name
import GoAtlas.Proofs.Quotation
import GoAtlas.Proofs.Versions

namespace GoAtlas.Module

/-! ## The line of a comment -/

/-- Tabs and spaces only. -/
def IsBlank (cs : List Char) : Prop := ∀ c ∈ cs, c = ' ' ∨ c = '\t'

/-- One or more tabs and spaces. -/
def IsGap (cs : List Char) : Prop := cs ≠ [] ∧ IsBlank cs

-- by going through the run, not through all characters there are
instance (cs : List Char) : Decidable (IsBlank cs) := List.decidableBAll _ cs

instance (cs : List Char) : Decidable (IsGap cs) := inferInstanceAs (Decidable (_ ∧ _))

/-- The name of a package ends at a tab, a space, a slash or the end of the line. -/
def IsPackageName (cs : List Char) : Prop := cs ≠ [] ∧ ∀ c ∈ cs, c ∉ [' ', '\t', '\r', '\n', '/']

instance (cs : List Char) : Decidable (IsPackageName cs) := @instDecidableAnd _ _ _ (List.decidableBAll _ cs)

/-- A path that is written between quotes as it is: without quotes, backslashes and control characters. -/
def IsPlainPath (cs : List Char) : Prop := cs ≠ [] ∧ ∀ c ∈ cs, 0x20 ≤ c.toNat ∧ c ≠ '"' ∧ c ≠ '\\'

instance (cs : List Char) : Decidable (IsPlainPath cs) := @instDecidableAnd _ _ _ (List.decidableBAll _ cs)

inductive LineEnd where
  | lf
  | crlf
  deriving DecidableEq

def LineEnd.text : LineEnd → List Char
  | .lf => ['\n']
  | .crlf => ['\r', '\n']

/-- The line of an import comment, with the tabs and spaces between its words. -/
structure CommentLine where
  name : List Char
  path : List Char
  afterKeyword : List Char
  afterName : List Char
  afterSlashes : List Char
  afterImport : List Char
  atEnd : List Char
  lineEnd : LineEnd
  isName : IsPackageName name
  isPlain : IsPlainPath path
  gaps : ∀ gap ∈ [afterKeyword, afterName, afterSlashes, afterImport], IsGap gap
  atEnd_blank : IsBlank atEnd

/-- The line as it is written. -/
def CommentLine.text (l : CommentLine) : List Char :=
  "package".toList ++ (l.afterKeyword ++ (l.name ++ (l.afterName ++ ("//".toList ++ (l.afterSlashes ++
    ("import".toList ++ (l.afterImport ++ (['"'] ++ (l.path ++ (['"'] ++ (l.atEnd ++ l.lineEnd.text)))))))))))

theorem isTabOrSpace_iff {c : Char} : isTabOrSpace c = true ↔ c = ' ' ∨ c = '\t' := by
  simp [isTabOrSpace]

theorem isPackageNameChar_iff {c : Char} : isPackageNameChar c = true ↔ c ∉ [' ', '\t', '\r', '\n', '/'] := by
  simp [isPackageNameChar, isTabOrSpace, and_assoc]

theorem IsBlank.dropWhile_append {blank : List Char} (h : IsBlank blank) (cs : List Char) :
    (blank ++ cs).dropWhile isTabOrSpace = cs.dropWhile isTabOrSpace :=
  List.dropWhile_append_of_pos fun c hc => isTabOrSpace_iff.mpr (h c hc)

/-- Tabs and spaces are passed over up to the next word. -/
theorem afterGap?_append {gap cs : List Char} (h : IsGap gap) (hcs : cs.dropWhile isTabOrSpace = cs) :
    afterGap? (gap ++ cs) = some cs := by
  obtain ⟨h0, hblank⟩ := h
  cases gap with
  | nil => exact absurd rfl h0
  | cons c gap =>
    obtain ⟨hc, hgap⟩ := List.forall_mem_cons.mp hblank
    rw [List.cons_append, afterGap?, if_pos (isTabOrSpace_iff.mpr hc), IsBlank.dropWhile_append hgap, hcs]

/-- The name of the package ends where tabs and spaces begin. -/
theorem afterPackageName?_append {name gap : List Char} (h : IsPackageName name) (hgap : IsGap gap) (cs : List Char) :
    afterPackageName? (name ++ (gap ++ cs)) = some (gap ++ cs) := by
  have hname : ∀ c ∈ name, isPackageNameChar c = true := fun c hc => isPackageNameChar_iff.mpr (h.2 c hc)
  obtain ⟨hg, hblank⟩ := hgap
  obtain ⟨c, gap, rfl⟩ := List.exists_cons_of_ne_nil hg
  have hc : ¬isPackageNameChar c = true := by
    rcases hblank c List.mem_cons_self with rfl | rfl <;> decide
  rw [afterPackageName?, List.takeWhile_append_of_pos hname, List.dropWhile_append_of_pos hname, List.cons_append,
    List.dropWhile_cons_of_neg hc, if_neg]
  simpa using fun e => absurd e h.1

theorem endsLine_append {blank : List Char} (h : IsBlank blank) (e : LineEnd) (cs : List Char) :
    endsLine (blank ++ (e.text ++ cs)) = true := by
  rw [endsLine, h.dropWhile_append]
  cases e <;> rfl

/-- The comment is found on its line. -/
theorem commentAt?_text (l : CommentLine) (rest : List Char) : commentAt? (l.text ++ rest) = some l.path := by
  have hquote : ∀ c ∈ l.path, (c != '"') = true := fun c hc => by simpa using (l.isPlain.2 c hc).2.1
  have hname (cs : List Char) : (l.name ++ cs).dropWhile isTabOrSpace = l.name ++ cs := by
    obtain ⟨c, name, hcons⟩ := List.exists_cons_of_ne_nil l.isName.1
    have hc : ¬isTabOrSpace c = true := by
      have := l.isName.2 c (by rw [hcons]; exact List.mem_cons_self)
      rw [isTabOrSpace_iff]
      rintro (rfl | rfl) <;> exact this (by decide)
    rw [hcons, List.cons_append, List.dropWhile_cons_of_neg hc]
  have hgaps := l.gaps
  simp only [List.forall_mem_cons] at hgaps
  obtain ⟨hkeyword, hafter, hslashes, himport, _⟩ := hgaps
  have hslashesGap (cs : List Char) : afterGap? (l.afterName ++ ("//".toList ++ cs)) = some ("//".toList ++ cs) :=
    afterGap?_append hafter rfl
  have himportGap (cs : List Char) :
      afterGap? (l.afterSlashes ++ ("import".toList ++ cs)) = some ("import".toList ++ cs) :=
    afterGap?_append hslashes rfl
  have hquoteGap (cs : List Char) : afterGap? (l.afterImport ++ (['"'] ++ cs)) = some (['"'] ++ cs) :=
    afterGap?_append himport rfl
  have hpath (cs : List Char) : (l.path ++ (['"'] ++ cs)).takeWhile (· != '"') = l.path := by
    rw [List.takeWhile_append_of_pos hquote, List.singleton_append, List.takeWhile_cons_of_neg (by decide),
      List.append_nil]
  have hrest (cs : List Char) : (l.path ++ (['"'] ++ cs)).dropWhile (· != '"') = ['"'] ++ cs := by
    rw [List.dropWhile_append_of_pos hquote, List.singleton_append, List.dropWhile_cons_of_neg (by decide)]
  unfold CommentLine.text
  simp only [commentAt?, List.append_assoc, Text.after?_append, Option.bind_eq_bind, Option.bind_some,
    afterGap?_append hkeyword (hname _), afterPackageName?_append l.isName hafter,
    hslashesGap, himportGap, hquoteGap, hpath, hrest, endsLine_append l.atEnd_blank]
  simp [l.isPlain.1]

/-! ## The lines before it -/

theorem commentAt?_eq_none {cs : List Char} (h : ¬"package".toList <+: cs) : commentAt? cs = none := by
  have hafter : Text.after? "package".toList cs = none := by
    cases hcs : Text.after? "package".toList cs with
    | none => rfl
    | some rest => exact absurd ⟨rest, (Text.eq_append_of_after? hcs).symm⟩ h
  rw [commentAt?, hafter]
  rfl

/-- Inside a line no comment begins. -/
theorem firstComment?_append_line {line : List Char} (h : '\n' ∉ line) (rest : List Char) :
    firstComment? false (line ++ '\n' :: rest) = firstComment? true rest := by
  induction line with
  | nil => rfl
  | cons c line ih =>
    rw [List.mem_cons, not_or] at h
    have hc : (c == '\n') = false := by simpa using Ne.symm h.1
    rw [List.cons_append, firstComment?, hc]
    exact ih h.2

/-- The keyword does not go over the end of a line. -/
theorem not_package_append {line : List Char} (h : ¬"package".toList <+: line) (rest : List Char) :
    ¬"package".toList <+: line ++ '\n' :: rest := by
  intro hwhole
  have hline : line ++ ['\n'] <+: line ++ '\n' :: rest := ⟨rest, by simp⟩
  rcases List.prefix_or_prefix_of_prefix hwhole hline with hshort | hlong
  · rcases List.prefix_concat_iff.mp hshort with heq | hshort
    · exact absurd (heq ▸ List.mem_append_right line List.mem_cons_self) (by decide : '\n' ∉ "package".toList)
    · exact h hshort
  · exact absurd (hlong.subset (List.mem_append_right line List.mem_cons_self)) (by decide)

/-- A line that does not begin with the keyword is passed over. -/
theorem firstComment?_append_other {line : List Char} (hline : '\n' ∉ line) (h : ¬"package".toList <+: line)
    (rest : List Char) : firstComment? true (line ++ '\n' :: rest) = firstComment? true rest := by
  have hnone := commentAt?_eq_none (not_package_append h rest)
  cases line with
  | nil =>
    rw [List.nil_append] at hnone ⊢
    rw [firstComment?, if_pos rfl, hnone]
    rfl
  | cons c line =>
    rw [List.mem_cons, not_or] at hline
    have hc : (c == '\n') = false := by simpa using Ne.symm hline.1
    rw [List.cons_append] at hnone ⊢
    rw [firstComment?, if_pos rfl, hnone]
    simp only [hc]
    exact firstComment?_append_line hline.2 rest

/-- The text is made of whole lines. -/
def WholeLines (cs : List Char) : Prop := cs = [] ∨ cs.getLast? = some '\n'

instance (cs : List Char) : Decidable (WholeLines cs) := inferInstanceAs (Decidable (_ ∨ _))

/-- Lines that do not begin with the keyword are passed over. -/
theorem firstComment?_append_lines {before : List Char} (hwhole : WholeLines before)
    (h : ∀ line ∈ Text.fields '\n' before, ¬"package".toList <+: line) (rest : List Char) :
    firstComment? true (before ++ rest) = firstComment? true rest := by
  induction hn : before.length using Nat.strong_induction_on generalizing before with
  | _ n ih =>
    rcases hwhole with rfl | hlast
    · rfl
    -- the first line goes, and what follows it is made of whole lines again
    · obtain ⟨line, more, rfl, hline⟩ := List.eq_append_cons_of_mem (List.mem_of_getLast? hlast)
      rw [Text.fields_append_sep, Text.fields_of_notMem hline, List.singleton_append, List.forall_mem_cons] at h
      have hmore : WholeLines more := by
        cases more with
        | nil => exact .inl rfl
        | cons c more => exact .inr (by simpa using hlast)
      have hshorter : more.length < n := by
        simp only [← hn, List.length_append, List.length_cons]
        omega
      rw [List.append_assoc, List.cons_append, firstComment?_append_other hline h.1]
      exact ih more.length hshorter hmore h.2 rfl

/-! ## Sources -/

/-- A source with an import comment: no line before it begins with the keyword. -/
structure CommentedSource where
  before : List Char
  line : CommentLine
  rest : List Char
  wholeLines : WholeLines before
  others : ∀ l ∈ Text.fields '\n' before, ¬"package".toList <+: l

namespace CommentedSource

def text (src : CommentedSource) : String := String.ofList (src.before ++ (src.line.text ++ src.rest))

theorem firstComment?_text (src : CommentedSource) : firstComment? true src.text.toList = some src.line.path := by
  rw [text, String.toList_ofList, firstComment?_append_lines src.wholeLines src.others]
  have hcomment := commentAt?_text src.line src.rest
  cases htext : src.line.text ++ src.rest with
  | nil =>
    rw [htext] at hcomment
    cases hcomment
  | cons c cs =>
    rw [htext] at hcomment
    rw [firstComment?, if_pos rfl, hcomment]

end CommentedSource

/-- The path of an import comment is recovered from a file that holds it. -/
theorem fileComment?_text {σ : Type} [FileSystem σ] (s : σ) (file : Path) (src : CommentedSource)
    (h : FileSystem.read s file = .ok (Text.bytesOf src.text)) :
    fileComment? s file = some (String.ofList src.line.path) := by
  have hpath : Json.unquote? src.line.path = some src.line.path :=
    Json.unquote?_iff.mpr (Json.quoted_of_plain src.line.isPlain.2)
  rw [fileComment?, h]
  show importComment? (Text.lossy (Text.bytesOf src.text)) = _
  rw [Text.lossy_bytesOf, importComment?, src.firstComment?_text, Option.bind_some, hpath]
  rfl

/-- A source with a build constraint and a comment in front, and a line that ends with a carriage return. -/
def commentedBar : CommentedSource where
  before := "// +build linux\n\n/* an example\n package */\n".toList
  line :=
    { name := "bar".toList
      path := "example.com/bär".toList
      afterKeyword := [' ']
      afterName := ['\t', ' ']
      afterSlashes := [' ']
      afterImport := [' ', ' ']
      atEnd := ['\t']
      lineEnd := .crlf
      isName := by decide
      isPlain := by decide
      gaps := by decide
      atEnd_blank := by decide }
  rest := "package baz // import \"example.com/baz\"\n".toList
  wholeLines := by decide
  others := by decide

/-- A directory that holds it. -/
def barFolder : Tree := Tree.empty.addFile ⟨"/ws/bar.go"⟩ (Text.bytesOf commentedBar.text)

theorem fileComment?_text_bar :
    FileSystem.read barFolder ⟨"/ws/bar.go"⟩ = .ok (Text.bytesOf commentedBar.text) ∧
      fileComment? barFolder ⟨"/ws/bar.go"⟩ = some "example.com/bär" := by
  have hread : FileSystem.read barFolder ⟨"/ws/bar.go"⟩ = .ok (Text.bytesOf commentedBar.text) := by
    simp [barFolder, FileSystem.read, Tree.read, Tree.file?, Tree.addFile, Tree.putFile, Tree.addDirs, Tree.empty]
  exact ⟨hread, fileComment?_text barFolder ⟨"/ws/bar.go"⟩ commentedBar hread⟩

end GoAtlas.Module
