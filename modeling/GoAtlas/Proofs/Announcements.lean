/-
  GoAtlas.Proofs.Announcements — tags are read back from the page that holds them.

  A page is made of announcements written as tags, with any text around them in which no tag can begin.
  - `tag?_append` / `contents_append_tag`: a tag is found where it stands and its content is read whole.
  - `contents_append_of_notMem`: text without `<` is passed over.
  - `Text.words_append_blank`: words with a blank between them are read as these words.
  - `announcements_text`: so the page announces what it was made of, in order.
  - `pageRoot_exact`: the repository of an import path is the one announced for it, if there is exactly one.
-/
import GoAtlas.Proofs.Versions
import GoAtlas.Repository.Root

namespace GoAtlas

/-! ## Words -/

namespace Text

/-- Characters that are no blanks go on the word under way. -/
theorem words_go_append {w : List Char} (h : ∀ c ∈ w, isBlank c = false) (cs run : List Char) :
    words.go (w ++ cs) run = words.go cs (w.reverse ++ run) := by
  induction w generalizing run with
  | nil => rfl
  | cons c w ih =>
    rw [List.forall_mem_cons] at h
    rw [List.cons_append, words.go, h.1, if_neg Bool.false_ne_true, ih h.2]
    simp

/-- A word ends at a blank. -/
theorem words_append_blank {w : List Char} (h0 : w ≠ []) (h : ∀ c ∈ w, isBlank c = false) {b : Char}
    (hb : isBlank b = true) (cs : List Char) : words (w ++ b :: cs) = w :: words cs := by
  rw [words, words_go_append h, words.go, if_pos hb, List.append_nil]
  simp [h0, words]

/-- A word ends with the text. -/
theorem words_of_notBlank {w : List Char} (h0 : w ≠ []) (h : ∀ c ∈ w, isBlank c = false) : words w = [w] := by
  have hgo := words_go_append h [] []
  rw [List.append_nil, List.append_nil] at hgo
  rw [words, hgo, words.go]
  simp [h0]

theorem eq_of_lower_eq_lt {c : Char} (h : lower c = '<') : c = '<' := by
  unfold lower at h
  split at h
  · rename_i hup
    simp only [isUpper, Bool.and_eq_true, decide_eq_true_eq, Char.le_def, UInt32.le_iff_toNat_le] at hup
    obtain ⟨hA, hZ⟩ : 65 ≤ c.toNat ∧ c.toNat ≤ 90 := hup
    -- a small letter stands above `<`
    have hsmall : ∀ n, 97 ≤ n → n ≤ 122 → Char.ofNat n ≠ '<' := by decide
    exact absurd h (hsmall (c.toNat + 32) (by omega) (by omega))
  · exact h

end Text

namespace Repository

/-! ## Tags -/

/-- A word of a tag: not empty, and without blanks and quotes. -/
def IsWord (cs : List Char) : Prop := cs ≠ [] ∧ ∀ c ∈ cs, Text.isBlank c = false ∧ isQuote c = false

-- by going through the word, not through all characters there are
instance (cs : List Char) : Decidable (IsWord cs) := @instDecidableAnd _ _ _ (List.decidableBAll _ cs)

theorem IsWord.words_append {w : List Char} (h : IsWord w) (cs : List Char) :
    Text.words (w ++ ' ' :: cs) = w :: Text.words cs :=
  Text.words_append_blank h.1 (fun c hc => (h.2 c hc).1) rfl cs

theorem IsWord.words_eq {w : List Char} (h : IsWord w) : Text.words w = [w] :=
  Text.words_of_notBlank h.1 fun c hc => (h.2 c hc).1

/-- What stands before the content of a tag. -/
def tagOpening : List Char := "<meta name=\"go-import\" content=\"".toList

namespace Announcement

def IsPlain (a : Announcement) : Prop := IsWord a.covered ∧ IsWord a.vcs ∧ IsWord a.repo

instance (a : Announcement) : Decidable a.IsPlain := inferInstanceAs (Decidable (_ ∧ _))

def content (a : Announcement) : List Char := a.covered ++ ' ' :: (a.vcs ++ ' ' :: a.repo)

/-- The tag that makes the announcement. -/
def tag (a : Announcement) : List Char := tagOpening ++ a.content ++ ['"', '>']

end Announcement

variable {a : Announcement}

theorem Announcement.IsPlain.isQuote_content (h : a.IsPlain) : ∀ c ∈ a.content, isQuote c = false := by
  intro c hc
  simp only [content, List.mem_append, List.mem_cons] at hc
  obtain ⟨hcovered, hvcs, hrepo⟩ := h
  rcases hc with hc | rfl | hc | rfl | hc
  · exact (hcovered.2 c hc).2
  · rfl
  · exact (hvcs.2 c hc).2
  · rfl
  · exact (hrepo.2 c hc).2

/-- The words of the content are those announced. -/
theorem announcement?_content (h : a.IsPlain) : announcement? a.content = some a := by
  obtain ⟨hcovered, hvcs, hrepo⟩ := h
  have hwords : Text.words a.content = [a.covered, a.vcs, a.repo] := by
    rw [Announcement.content, hcovered.words_append, hvcs.words_append, hrepo.words_eq]
  rw [announcement?, hwords]

theorem tag?_tagOpening (cs : List Char) : tag? (tagOpening ++ cs) =
    (afterQuote? (cs.dropWhile (!isQuote ·))).bind fun rest =>
      if (cs.takeWhile (!isQuote ·)).isEmpty then none else some (cs.takeWhile (!isQuote ·), rest) := rfl

/-- A tag is found where it begins, and its content ends at the next quote. -/
theorem tag?_append (h : a.IsPlain) (cs : List Char) : tag? (a.tag ++ cs) = some (a.content, '>' :: cs) := by
  have hquote : ∀ c ∈ a.content, (!isQuote c) = true := fun c hc => by rw [h.isQuote_content c hc]; rfl
  have h0 : a.content ≠ [] := by simp [Announcement.content]
  rw [Announcement.tag, List.append_assoc, List.append_assoc, tag?_tagOpening, List.takeWhile_append_of_pos hquote,
    List.dropWhile_append_of_pos hquote]
  show (if (a.content ++ []).isEmpty then none else some (a.content ++ [], '>' :: cs)) = _
  rw [List.append_nil, if_neg (by simpa using h0)]

/-- No tag begins with another character. -/
theorem tag?_eq_none {c : Char} (h : c ≠ '<') (cs : List Char) : tag? (c :: cs) = none := by
  have hc : Text.lower c ≠ '<' := fun e => h (Text.eq_of_lower_eq_lt e)
  have hword : afterWord? "<meta".toList (c :: cs) = none := if_neg hc
  rw [tag?, hword]
  rfl

/-! ## Pages -/

theorem contents_drop (skip : Nat) (cs : List Char) : contents skip cs = contents 0 (cs.drop skip) := by
  induction skip generalizing cs with
  | zero => rfl
  | succ skip ih =>
    cases cs with
    | nil => rfl
    | cons c cs => exact ih cs

theorem contents_cons_of_ne {c : Char} (h : c ≠ '<') (cs : List Char) : contents 0 (c :: cs) = contents 0 cs := by
  rw [contents, tag?_eq_none h]

/-- Text in which no tag begins is passed over. -/
theorem contents_append_of_notMem {text : List Char} (h : '<' ∉ text) (cs : List Char) :
    contents 0 (text ++ cs) = contents 0 cs := by
  induction text with
  | nil => rfl
  | cons c text ih =>
    rw [List.mem_cons, not_or] at h
    rw [List.cons_append, contents_cons_of_ne (Ne.symm h.1), ih h.2]

theorem tagOpening_eq : tagOpening = '<' :: tagOpening.tail := rfl

theorem contents_append_tag (h : a.IsPlain) (cs : List Char) :
    contents 0 (a.tag ++ cs) = a.content :: contents 0 cs := by
  have hcons : a.tag ++ cs = '<' :: (tagOpening.tail ++ a.content ++ ['"'] ++ '>' :: cs) := by
    rw [Announcement.tag, tagOpening_eq]
    simp
  have htag := tag?_append h cs
  rw [hcons] at htag ⊢
  have hskip (inner : List Char) : (inner ++ '>' :: cs).length - ('>' :: cs).length = inner.length := by simp
  rw [contents, htag]
  show a.content :: contents _ _ = _
  rw [hskip, contents_drop, List.drop_left, contents_cons_of_ne (by decide)]

/-- Announcements, the text before each of them and the text after the last. -/
structure Page where
  tags : List (List Char × Announcement)
  rest : List Char
  plain : ∀ t ∈ tags, '<' ∉ t.1 ∧ t.2.IsPlain
  ends : '<' ∉ rest

namespace Page

def announcements (page : Page) : List Announcement := page.tags.map Prod.snd

def text (page : Page) : String :=
  String.ofList (page.tags.flatMap (fun t => t.1 ++ t.2.tag) ++ page.rest)

end Page

theorem contents_page {tags : List (List Char × Announcement)} {rest : List Char}
    (h : ∀ t ∈ tags, '<' ∉ t.1 ∧ t.2.IsPlain) (hrest : '<' ∉ rest) :
    contents 0 (tags.flatMap (fun t => t.1 ++ t.2.tag) ++ rest) = tags.map fun t => t.2.content := by
  induction tags with
  | nil =>
    have hnone := contents_append_of_notMem hrest []
    rw [List.append_nil] at hnone
    exact hnone
  | cons t tags ih =>
    rw [List.forall_mem_cons] at h
    rw [List.flatMap_cons, List.append_assoc, List.append_assoc, contents_append_of_notMem h.1.1,
      contents_append_tag h.1.2, ih h.2, List.map_cons]

/-- A page announces what it was made of. -/
theorem announcements_text (page : Page) : Repository.announcements page.text.toList = page.announcements := by
  rw [Repository.announcements, Page.text, String.toList_ofList, contents_page page.plain page.ends,
    List.filterMap_map, Page.announcements, ← List.filterMap_eq_map]
  refine List.filterMap_congr fun t ht => ?_
  exact announcement?_content (page.plain t ht).2

/-! ## Repositories -/

/-- The path is the leading one or lies below it. -/
def AtOrBelow (lead path : List Char) : Prop := path = lead ∨ lead ++ ['/'] <+: path

instance (lead path : List Char) : Decidable (AtOrBelow lead path) := inferInstanceAs (Decidable (_ ∨ _))

theorem covers_iff {a : Announcement} {path : List Char} : a.covers path = true ↔ AtOrBelow a.covered path := by
  unfold Announcement.covers
  constructor
  · intro h
    split at h
    · rename_i hafter
      exact Or.inl (by simpa using Text.eq_append_of_after? hafter)
    · rename_i c rest hafter
      refine Or.inr ⟨rest, ?_⟩
      rw [Text.eq_append_of_after? hafter, beq_iff_eq.mp h, List.append_assoc, List.singleton_append]
    · cases h
  · intro h
    rcases h with rfl | ⟨rest, rfl⟩
    · have hself := Text.after?_append a.covered []
      rw [List.append_nil] at hself
      rw [hself]
    · rw [List.append_assoc, Text.after?_append]
      rfl

/-- What is found of those that cover an import path. -/
def settled (importPath : String) : List Announcement → Except RootError String
  | [] => .error (.noTag importPath)
  | [a] => .ok (String.ofList a.repo)
  | _ :: _ :: _ => .error (.manyTags importPath)

section Settled

variable {importPath : String} {as : List Announcement}

theorem settled_eq_ok {repo : String} :
    settled importPath as = .ok repo ↔ ∃ a, as = [a] ∧ repo = String.ofList a.repo := by
  rcases as with _ | ⟨a, _ | ⟨b, more⟩⟩ <;> simp [settled, eq_comm]

theorem settled_eq_noTag : settled importPath as = .error (.noTag importPath) ↔ as = [] := by
  rcases as with _ | ⟨a, _ | ⟨b, more⟩⟩ <;> simp [settled]

theorem settled_eq_manyTags : settled importPath as = .error (.manyTags importPath) ↔ 2 ≤ as.length := by
  rcases as with _ | ⟨a, _ | ⟨b, more⟩⟩ <;> simp [settled]

theorem settled_perm {bs : List Announcement} (h : bs.Perm as) : settled importPath bs = settled importPath as := by
  rcases as with _ | ⟨a, _ | ⟨a', more⟩⟩
  · rw [h.eq_nil]
  · rw [h.eq_singleton]
  · rw [settled, settled_eq_manyTags, h.length_eq]
    simp

end Settled

/-- What a page says of an import path is settled by the announcements that cover it. -/
theorem pageRoot_text (importPath : String) (page : Page) : pageRoot importPath page.text =
    settled importPath (page.announcements.filter (·.covers importPath.toList)) := by
  unfold pageRoot announced
  rw [announcements_text]
  generalize page.announcements.filter (·.covers importPath.toList) = as
  rcases as with _ | ⟨a, _ | ⟨b, more⟩⟩ <;> rfl

theorem filter_covers_eq_singleton {as : List Announcement} {path : List Char} {a : Announcement} :
    as.filter (·.covers path) = [a] ↔ ∃ before after, as = before ++ a :: after ∧ AtOrBelow a.covered path ∧
      ∀ b ∈ before ++ after, ¬AtOrBelow b.covered path := by
  simp only [List.filter_eq_cons_iff, List.filter_eq_nil_iff, covers_iff, List.forall_mem_append]
  constructor
  · intro h
    obtain ⟨before, after, rfl, hbefore, ha, hafter⟩ := h
    exact ⟨before, after, rfl, ha, hbefore, hafter⟩
  · intro h
    obtain ⟨before, after, rfl, ha, hbefore, hafter⟩ := h
    exact ⟨before, after, rfl, hbefore, ha, hafter⟩

theorem two_le_length_filter_covers {as : List Announcement} {path : List Char} :
    2 ≤ (as.filter (·.covers path)).length ↔
      ∃ a b, [a, b].Sublist as ∧ AtOrBelow a.covered path ∧ AtOrBelow b.covered path := by
  constructor
  · intro h
    obtain ⟨a, b, hsub⟩ : ∃ a b, [a, b].Sublist (as.filter (·.covers path)) := by
      generalize as.filter (·.covers path) = covering at h ⊢
      rcases covering with _ | ⟨a, _ | ⟨b, more⟩⟩
      · simp at h
      · simp at h
      · exact ⟨a, b, ((List.nil_sublist more).cons_cons b).cons_cons a⟩
    have hmem : ∀ c ∈ [a, b], AtOrBelow c.covered path := fun c hc =>
      covers_iff.mp (List.mem_filter.mp (hsub.subset hc)).2
    exact ⟨a, b, hsub.trans List.filter_sublist, hmem a (by simp), hmem b (by simp)⟩
  · intro h
    obtain ⟨a, b, hsub, ha, hb⟩ := h
    have hfilter := (hsub.filter (·.covers path)).length_le
    rw [← covers_iff] at ha hb
    simpa [List.filter_cons, ha, hb] using hfilter

/-- Exactly one announcement for an import path gives its repository, whatever its place on the page. -/
theorem pageRoot_exact (importPath : String) (page : Page) :
    (∀ repo, pageRoot importPath page.text = .ok repo ↔
      ∃ before a after, page.announcements = before ++ a :: after ∧ AtOrBelow a.covered importPath.toList ∧
        (∀ b ∈ before ++ after, ¬AtOrBelow b.covered importPath.toList) ∧ repo = String.ofList a.repo) ∧
      (pageRoot importPath page.text = .error (.noTag importPath) ↔
        ∀ a ∈ page.announcements, ¬AtOrBelow a.covered importPath.toList) ∧
      (pageRoot importPath page.text = .error (.manyTags importPath) ↔
        ∃ a b, [a, b].Sublist page.announcements ∧ AtOrBelow a.covered importPath.toList ∧
          AtOrBelow b.covered importPath.toList) ∧
      ∀ page' : Page, page'.announcements.Perm page.announcements →
        pageRoot importPath page'.text = pageRoot importPath page.text := by
  simp only [pageRoot_text]
  refine ⟨fun repo => ?_, ?_, ?_, fun page' hperm => ?_⟩
  · simp only [settled_eq_ok, filter_covers_eq_singleton]
    constructor
    · intro h
      obtain ⟨a, ⟨before, after, hsplit, ha, hothers⟩, hrepo⟩ := h
      exact ⟨before, a, after, hsplit, ha, hothers, hrepo⟩
    · intro h
      obtain ⟨before, a, after, hsplit, ha, hothers, hrepo⟩ := h
      exact ⟨a, ⟨before, after, hsplit, ha, hothers⟩, hrepo⟩
  · simp only [settled_eq_noTag, List.filter_eq_nil_iff, covers_iff]
  · rw [settled_eq_manyTags, two_le_length_filter_covers]
  · exact settled_perm (hperm.filter _)

/-- Two announcements, one for a path below that of the other. -/
def nestedPage : Page where
  tags :=
    [ ([], ⟨"x.org/a".toList, "git".toList, "https://h.org/a".toList⟩),
      ("go\n".toList, ⟨"x.org/a/b".toList, "hg".toList, "https://h.org/b".toList⟩) ]
  rest := "end".toList
  plain := by decide
  ends := by decide

/-- The same announcements in the other order. -/
def turnedPage : Page := ⟨nestedPage.tags.reverse, [], by decide, List.not_mem_nil⟩

theorem pageRoot_exact_nestedPage :
    pageRoot "x.org/a/z" nestedPage.text = .ok "https://h.org/a" ∧
      pageRoot "x.org/ab" nestedPage.text = .error (.noTag "x.org/ab") ∧
      pageRoot "x.org/a/b" nestedPage.text = .error (.manyTags "x.org/a/b") ∧
      pageRoot "x.org/a/z" turnedPage.text = pageRoot "x.org/a/z" nestedPage.text := by
  refine ⟨((pageRoot_exact _ nestedPage).1 _).mpr ⟨[], _, _, rfl, ?_, ?_, rfl⟩,
    (pageRoot_exact _ nestedPage).2.1.mpr ?_,
    (pageRoot_exact _ nestedPage).2.2.1.mpr ⟨_, _, List.Sublist.refl _, ?_, ?_⟩,
    (pageRoot_exact _ nestedPage).2.2.2 turnedPage ?_⟩
  all_goals decide

end Repository

end GoAtlas
