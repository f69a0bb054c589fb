/-
  GoAtlas.Proofs.Segments — joining, descending, taking the parent and what follows a path, on segments.

  Trees of files compare paths by their segments, while the code that walks them joins what is written. The
  statements here move between the two:
  - `segments_join` / `segments_join_step`: joining a relative path appends its steps; one step (a
    name without slash that is not idle) appends itself.
  - `segments_descend`: so does joining one name after the other.
  - `segments_ofSegments`: segments that a path can have write a path with these segments.
  - `segments_parent?`: the parent of a path has all its segments but the last.
  - `segments_relativeTo?`: what follows a path has the segments that follow those of the path.
  - `IsText.segments` / `Segments.ofTexts_shown`: the segments of a path that is text are texts, and come back
    from what is printed of them.
-/
import GoAtlas.Path
import GoAtlas.Proofs.Octets

namespace GoAtlas.Text

/-! ## Fields -/

variable {α : Type} [DecidableEq α]

theorem fields_append_sep (sep : α) (a b : List α) :
    fields sep (a ++ sep :: b) = fields sep a ++ fields sep b := by
  induction a with
  | nil => simp [fields]
  | cons c a ih =>
    simp only [List.cons_append, fields, ih]
    split
    · rfl
    · cases hf : fields sep a with
      | nil => exact absurd hf (fields_ne_nil sep a)
      | cons f fs => rfl

theorem fields_of_notMem {sep : α} {cs : List α} (h : sep ∉ cs) : fields sep cs = [cs] := by
  induction cs with
  | nil => rfl
  | cons c cs ih =>
    have hc : c ≠ sep := fun e => h (by simp [e])
    have hcs : sep ∉ cs := fun m => h (List.mem_cons_of_mem _ m)
    simp [fields, hc, ih hcs]

theorem fields_append_piece {sep : α} {piece : List α} (h : sep ∉ piece) (cs : List α) :
    fields sep (piece ++ sep :: cs) = piece :: fields sep cs := by
  rw [fields_append_sep, fields_of_notMem h]
  rfl

/-- What comes before the first separator is part of the first field. -/
theorem fields_append_of_notMem {sep : α} {a b f : List α} {fs : List (List α)} (h : sep ∉ a)
    (hb : fields sep b = f :: fs) : fields sep (a ++ b) = (a ++ f) :: fs := by
  induction a with
  | nil => exact hb
  | cons c a ih =>
    rw [List.mem_cons, not_or] at h
    simp only [List.cons_append, fields, ih h.2]
    rw [if_neg (fun e => h.1 e.symm)]

theorem notMem_of_mem_fields {sep : α} {cs f : List α} (h : f ∈ fields sep cs) : sep ∉ f := by
  induction cs generalizing f with
  | nil => simp only [fields, List.mem_singleton] at h; simp [h]
  | cons c cs ih =>
    simp only [fields] at h
    split at h
    · rcases List.mem_cons.mp h with rfl | h
      · simp
      · exact ih h
    · rename_i hc
      cases hf : fields sep cs with
      | nil => exact absurd hf (fields_ne_nil sep cs)
      | cons g gs =>
        rw [hf] at h ih
        rcases List.mem_cons.mp h with rfl | h
        · simp only [List.mem_cons, not_or]
          exact ⟨fun e => hc e.symm, ih (List.mem_cons_self ..)⟩
        · exact ih (List.mem_cons_of_mem _ h)

theorem fields_joinFields {sep : α} {fs : List (List α)} (h0 : fs ≠ []) (h : ∀ f ∈ fs, sep ∉ f) :
    fields sep (joinFields [sep] fs) = fs := by
  induction fs with
  | nil => exact absurd rfl h0
  | cons f fs ih =>
    rw [List.forall_mem_cons] at h
    cases fs with
    | nil => exact fields_of_notMem h.1
    | cons g fs =>
      rw [joinFields, List.append_assoc, List.singleton_append, fields_append_piece h.1,
        ih (List.cons_ne_nil g fs) h.2]

omit [DecidableEq α] in
/-- Fields with the separator in front of each, the first one too. -/
theorem flatMap_eq_joinFields (sep : α) {fs : List (List α)} (h0 : fs ≠ []) :
    fs.flatMap (sep :: ·) = joinFields [sep] ([] :: fs) := by
  induction fs with
  | nil => exact absurd rfl h0
  | cons f fs ih =>
    cases fs with
    | nil => simp [joinFields]
    | cons g fs =>
      rw [List.flatMap_cons, ih (List.cons_ne_nil g fs)]
      simp [joinFields]

/-- Only the empty list has a single empty field. -/
theorem eq_nil_of_fields {sep : α} {cs : List α} (h : fields sep cs = [[]]) : cs = [] := by
  have hj := joinFields_fields sep cs
  rw [h] at hj
  exact hj.symm

end GoAtlas.Text

namespace GoAtlas

open Octets (slash)

/-! ## Segments that are text -/

namespace Segments

/-- Every segment is text. -/
def IsText (p : Segments) : Prop := ∀ s ∈ p, Octets.IsText s

instance (p : Segments) : Decidable p.IsText := inferInstanceAs (Decidable (∀ s ∈ p, _))

@[simp] theorem shown_ofTexts (names : List String) : (ofTexts names).shown = names := by
  simp [shown, ofTexts, Function.comp_def]

theorem ofTexts_shown {p : Segments} (h : p.IsText) : ofTexts p.shown = p := by
  rw [ofTexts, shown, List.map_map]
  exact (List.map_congr_left h).trans (List.map_id p)

@[simp] theorem isText_ofTexts (names : List String) : (ofTexts names).IsText := by
  simp [IsText, ofTexts]

theorem shown_prefix_iff {p q : Segments} (hp : p.IsText) (hq : q.IsText) : p.shown <+: q.shown ↔ p <+: q := by
  constructor
  · intro h
    have hprefix := h.map Octets.ofText
    rwa [← ofTexts, ← ofTexts, ofTexts_shown hp, ofTexts_shown hq] at hprefix
  · exact fun h => h.map Octets.shown

end Segments

/-! ## Segments of paths -/

namespace Path

/-- The path is written as a text. -/
def IsText (p : Path) : Prop := p.octets.IsText

instance (p : Path) : Decidable p.IsText := inferInstanceAs (Decidable p.octets.IsText)

/-- A name that is one segment wherever it follows another. -/
def IsStep (name : Octets) : Prop := idle name = false ∧ slash ∉ name

instance (name : Octets) : Decidable (IsStep name) := inferInstanceAs (Decidable (_ ∧ _))

/-- What is shown of a step is one. -/
theorem IsStep.shown {name : Octets} (h : IsStep name) : IsStep name.shown := by
  refine ⟨?_, fun hslash => h.2 (Octets.slash_mem_of_shown (Octets.slash_mem_ofText.mp hslash))⟩
  have hidle := h.1
  have hempty : Octets.ofText name.shown = Octets.ofText "" ↔ name = Octets.ofText "" :=
    Octets.ofText_shown_eq (by decide)
  have hdot : Octets.ofText name.shown = Octets.ofText "." ↔ name = Octets.ofText "." :=
    Octets.ofText_shown_eq (by decide)
  rw [idle, Bool.or_eq_false_iff, beq_eq_false_iff_ne, beq_eq_false_iff_ne] at hidle ⊢
  exact ⟨hidle.1 ∘ hempty.mp, hidle.2 ∘ hdot.mp⟩

/-- What is shown of a name is one, and of nothing else. -/
theorem isName_shown (name : Octets) : isName (Octets.ofText name.shown) = isName name := by
  have hroot : Octets.ofText name.shown = Octets.ofText "/" ↔ name = Octets.ofText "/" :=
    Octets.ofText_shown_eq (by decide)
  have hdot : Octets.ofText name.shown = Octets.ofText "." ↔ name = Octets.ofText "." :=
    Octets.ofText_shown_eq (by decide)
  have hup : Octets.ofText name.shown = Octets.ofText ".." ↔ name = Octets.ofText ".." :=
    Octets.ofText_shown_eq (by decide)
  rw [Bool.eq_iff_iff]
  simp only [isName, Bool.and_eq_true, bne_iff_ne, ne_eq]
  exact and_congr (and_congr (not_congr hroot) (not_congr hdot)) (not_congr hup)

/-- The path written with these names joined to it one after the other. -/
def descend (p : Path) (names : List Octets) : Path := names.foldl join p

end Path

/-- What the segments of a path look like: a root or a name, then steps. -/
def Segments.Proper : Segments → Prop
  | [] => True
  | first :: rest => (first = Path.root ∨ first ≠ [] ∧ slash ∉ first) ∧ ∀ s ∈ rest, Path.IsStep s

namespace Path

theorem IsStep.head {name : Octets} (h : IsStep name) : name.head? ≠ some slash := fun e =>
  h.2 (List.mem_of_mem_head? e)

theorem IsStep.ne_empty {name : Octets} (h : IsStep name) : name ≠ [] := by
  rintro rfl
  exact absurd h.1 (by decide)

theorem IsStep.filter_split {name : Octets} (h : IsStep name) :
    (Text.fields slash name).filter (fun s => !idle s) = [name] := by
  simp [Text.fields_of_notMem h.2, h.1]

/-- The fields of a text are texts. -/
theorem fields_encode (cs : List Char) : Text.fields slash (cs.flatMap String.utf8EncodeChar) =
    (Text.fields '/' cs).map fun f => f.flatMap String.utf8EncodeChar := by
  induction cs with
  | nil => rfl
  | cons c cs ih =>
    rw [List.flatMap_cons]
    by_cases hc : c = '/'
    · subst hc
      exact congrArg ([] :: ·) ih
    · obtain ⟨f, fs, hf⟩ := List.exists_cons_of_ne_nil (Text.fields_ne_nil '/' cs)
      have hslash : slash ∉ String.utf8EncodeChar c := fun h =>
        hc (Char.toNat_inj.mp ((Octets.mem_encode_of_ascii (by decide)).mp h))
      rw [hf, List.map_cons] at ih
      rw [Text.fields_append_of_notMem hslash ih, Text.fields, if_neg hc, hf, List.map_cons, List.flatMap_cons]

theorem IsText.pieces {p : Path} (h : p.IsText) : ∀ s ∈ p.pieces, Octets.IsText s := by
  intro s hs
  rw [Path.pieces, ← h, Octets.ofText_eq, fields_encode] at hs
  obtain ⟨f, -, rfl⟩ := List.mem_map.mp hs
  rw [← Octets.ofText_ofList]
  exact Octets.isText_ofText _

/-- The segments of a path that is text are texts. -/
theorem IsText.segments {p : Path} (h : p.IsText) : p.segments.IsText := by
  have hroot : Octets.IsText root := Octets.isText_ofText "/"
  have hpieces := h.pieces
  unfold Path.segments
  split
  · simp [Segments.IsText]
  · rename_i first rest heq
    rw [heq, List.forall_mem_cons] at hpieces
    have hrest : ∀ s ∈ rest.filter fun s => !idle s, Octets.IsText s := fun s hs =>
      hpieces.2 s (List.mem_filter.mp hs).1
    unfold segmentsOf
    split
    · split
      · simp [Segments.IsText]
      · exact List.forall_mem_cons.mpr ⟨hroot, hrest⟩
    · exact List.forall_mem_cons.mpr ⟨hpieces.1, hrest⟩

theorem isText_joinFields {ps : List Octets} (h : ∀ s ∈ ps, Octets.IsText s) :
    Octets.IsText (Text.joinFields [slash] ps) := by
  induction ps with
  | nil => decide
  | cons s ps ih =>
    rw [List.forall_mem_cons] at h
    cases ps with
    | nil => exact h.1
    | cons t ps => exact (h.1.append (by decide : Octets.IsText [slash])).append (ih h.2)

/-- A path is text if its segments are texts: what is no segment is a dot or nothing. -/
theorem isText_of_segments {p : Path} (h : p.segments.IsText) : p.IsText := by
  have hidle : ∀ s, idle s = true → Octets.IsText s := by
    intro s hs
    rw [idle, Bool.or_eq_true, beq_iff_eq, beq_iff_eq] at hs
    rcases hs with rfl | rfl <;> decide
  have hrest : ∀ {ps : List Octets}, (∀ s ∈ ps.filter fun s => !idle s, Octets.IsText s) → ∀ s ∈ ps, Octets.IsText s := by
    intro ps hps s hs
    cases hi : idle s with
    | true => exact hidle s hi
    | false => exact hps s (List.mem_filter.mpr ⟨hs, by rw [hi]; rfl⟩)
  have hpieces : ∀ s ∈ p.pieces, Octets.IsText s := by
    unfold segments at h
    cases hp : p.pieces with
    | nil => simp
    | cons first rest =>
      rw [hp] at h
      simp only [segmentsOf] at h
      split at h
      · rename_i hfirst
        refine List.forall_mem_cons.mpr ⟨hfirst ▸ by decide, ?_⟩
        split at h
        · rename_i hempty
          rw [List.isEmpty_iff.mp hempty]
          simp
        · exact hrest (List.forall_mem_cons.mp h).2
      · exact List.forall_mem_cons.mpr ⟨(List.forall_mem_cons.mp h).1, hrest (List.forall_mem_cons.mp h).2⟩
  have hjoin := isText_joinFields hpieces
  rwa [pieces, Text.joinFields_fields] at hjoin

theorem segments_of_pieces {p : Path} {first : Octets} {rest : List Octets} (h : p.pieces = first :: rest) :
    p.segments = segmentsOf first rest := by
  unfold segments
  rw [h]

theorem segmentsOf_append {first : Octets} {rest : List Octets} (h : first ≠ [] ∨ rest ≠ []) (more : List Octets) :
    segmentsOf first (rest ++ more) = segmentsOf first rest ++ more.filter fun s => !idle s := by
  unfold segmentsOf
  by_cases e : first = []
  · have hr : rest ≠ [] := h.resolve_left fun hf => hf e
    simp [e, hr]
  · simp [e]

/-- The segments of a path that goes on after a slash. -/
theorem segments_of_split {p : Path} {pieces more : List Octets} {first : Octets}
    (hp : p.pieces = first :: pieces ++ more) (h : first ≠ [] ∨ pieces ≠ []) :
    p.segments = segmentsOf first pieces ++ more.filter fun s => !idle s := by
  rw [segments_of_pieces hp]
  exact segmentsOf_append h more

theorem segments_join {p : Path} {name : Octets} (hp : p.octets ≠ []) (hn : name.head? ≠ some slash) :
    (p.join name).segments = p.segments ++ (Text.fields slash name).filter fun s => !idle s := by
  by_cases hs : p.octets.getLast? = some slash
  · -- the slash is there already, and the piece after it is empty
    obtain ⟨a, ha⟩ := List.getLast?_eq_some_iff.mp hs
    have hj : p.join name = ⟨a ++ slash :: name⟩ := by
      rw [join, if_neg hn, if_pos (by simp [hs]), ha, List.append_assoc, List.singleton_append]
    obtain ⟨f, r, hf⟩ := List.exists_cons_of_ne_nil (Text.fields_ne_nil slash a)
    have h1 : p.pieces = f :: r ++ [[]] := by
      rw [pieces, ha, Text.fields_append_sep, hf]
      rfl
    have h2 : (p.join name).pieces = f :: r ++ Text.fields slash name := by
      rw [hj, pieces, Text.fields_append_sep, hf]
    obtain ⟨g, gs, hg⟩ := List.exists_cons_of_ne_nil (Text.fields_ne_nil slash name)
    unfold segments
    rw [h1, h2, hg]
    simp only [List.cons_append, segmentsOf]
    by_cases e : f = [] <;> simp [e, idle]
  · have hj : p.join name = ⟨p.octets ++ slash :: name⟩ := by
      rw [join, if_neg hn, if_neg (by simp [hp, hs])]
    obtain ⟨f, r, hf⟩ := List.exists_cons_of_ne_nil (Text.fields_ne_nil slash p.octets)
    have h2 : (p.join name).pieces = f :: r ++ Text.fields slash name := by
      rw [hj, pieces, Text.fields_append_sep, hf]
    have hfr : f ≠ [] ∨ r ≠ [] := by
      by_cases e : f = [] ∧ r = []
      · rw [e.1, e.2] at hf
        exact absurd (Text.eq_nil_of_fields hf) hp
      · by_cases e1 : f = []
        · exact Or.inr fun e2 => e ⟨e1, e2⟩
        · exact Or.inl e1
    have h1 : p.segments = segmentsOf f r := segments_of_pieces hf
    rw [segments_of_split h2 hfr, h1]

/-- Joining one step appends it. -/
@[simp] theorem segments_join_step (p : Path) {name : Octets} (h : IsStep name) :
    (p.join name).segments = p.segments ++ [name] := by
  by_cases hp : p.octets = []
  · have hj : p.join name = ⟨name⟩ := by
      rw [join, if_neg h.head, if_pos (by simp [hp]), hp, List.nil_append]
    have h0 : p.segments = [] := by
      unfold segments
      rw [pieces, hp]
      rfl
    rw [hj, h0, segments_of_pieces (Text.fields_of_notMem h.2)]
    simp [segmentsOf, h.ne_empty]
  · rw [segments_join hp h.head, h.filter_split]

@[simp] theorem descend_nil (p : Path) : p.descend [] = p := rfl

@[simp] theorem descend_cons (p : Path) (n : Octets) (names : List Octets) :
    p.descend (n :: names) = (p.join n).descend names := rfl

theorem segments_descend {names : List Octets} (h : ∀ n ∈ names, IsStep n) (p : Path) :
    (p.descend names).segments = p.segments ++ names := by
  induction names generalizing p with
  | nil => simp
  | cons n names ih =>
    rw [descend_cons, ih (fun m hm => h m (List.mem_cons_of_mem _ hm)),
      segments_join_step p (h n (List.mem_cons_self ..))]
    simp

/-! ## Proper segments -/

theorem isStep_of_mem_filter {ss : List Octets} (h : ∀ s ∈ ss, slash ∉ s) :
    ∀ s ∈ ss.filter (fun s => !idle s), IsStep s := by
  intro s hs
  obtain ⟨hm, hi⟩ := List.mem_filter.mp hs
  exact ⟨by simpa using hi, h s hm⟩

theorem proper_segments (p : Path) : p.segments.Proper := by
  obtain ⟨f, r, hf⟩ := List.exists_cons_of_ne_nil (Text.fields_ne_nil slash p.octets)
  have hslash : ∀ s ∈ f :: r, slash ∉ s := fun s hs => Text.notMem_of_mem_fields (hf ▸ hs)
  have hr := isStep_of_mem_filter fun s hs => hslash s (List.mem_cons_of_mem _ hs)
  rw [segments_of_pieces hf]
  simp only [segmentsOf]
  by_cases e : f = []
  · by_cases er : r = []
    · simp [e, er, Segments.Proper]
    · simp only [e, if_true, List.isEmpty_iff, er, if_false]
      exact ⟨Or.inl rfl, hr⟩
  · simp only [e, if_false]
    exact ⟨Or.inr ⟨e, hslash f (List.mem_cons_self ..)⟩, hr⟩

end Path

namespace Segments

theorem Proper.above {a b : Segments} (h : b.Proper) (hab : a <+: b) : a.Proper := by
  obtain ⟨c, rfl⟩ := hab
  cases a with
  | nil => trivial
  | cons x a => exact ⟨h.1, fun s hs => h.2 s (List.mem_append_left _ hs)⟩

/-- What is shown of a path's segments is a path's as well. -/
theorem Proper.shown {p : Segments} (h : p.Proper) : (Segments.ofTexts p.shown).Proper := by
  cases p with
  | nil => trivial
  | cons first rest =>
    obtain ⟨hfirst, hrest⟩ := h
    refine ⟨?_, fun s hs => ?_⟩
    · rcases hfirst with rfl | ⟨hne, hslash⟩
      · exact Or.inl (by decide)
      · refine Or.inr ⟨fun e => hne ?_, fun hmem => hslash (Octets.slash_mem_of_shown (Octets.slash_mem_ofText.mp hmem))⟩
        exact (Octets.ofText_shown_eq (s := "") (by decide)).mp e
    · obtain ⟨t, ht, rfl⟩ := List.mem_map.mp hs
      obtain ⟨o, ho, rfl⟩ := List.mem_map.mp ht
      exact (hrest o ho).shown

theorem Proper.isStep {a b : Segments} (h : (a ++ b).Proper) (ha : a ≠ []) : ∀ s ∈ b, Path.IsStep s := by
  cases a with
  | nil => exact absurd rfl ha
  | cons x a => exact fun s hs => h.2 s (List.mem_append_right _ hs)

end Segments

namespace Path

theorem segments_first {first : Octets} (h : first = root ∨ first ≠ [] ∧ slash ∉ first) :
    ((⟨[]⟩ : Path).join first).segments = [first] := by
  rcases h with rfl | ⟨h0, hs⟩
  · rfl
  · have hh : first.head? ≠ some slash := fun e => hs (List.mem_of_mem_head? e)
    have hj : (⟨[]⟩ : Path).join first = ⟨first⟩ := by
      rw [join, if_neg hh]
      simp
    rw [hj, segments_of_pieces (Text.fields_of_notMem hs)]
    simp [segmentsOf, h0]

/-- Segments that a path can have are those of the path they write. -/
theorem segments_ofSegments {ss : Segments} (h : ss.Proper) : (ofSegments ss).segments = ss := by
  cases ss with
  | nil => rfl
  | cons first rest =>
    rw [show ofSegments (first :: rest) = ((⟨[]⟩ : Path).join first).descend rest from rfl, segments_descend h.2,
      segments_first h.1]
    rfl

/-! ## Parents -/

theorem filter_idle_reverse_dropWhile (ps : List Octets) :
    ((ps.dropWhile idle).reverse).filter (fun s => !idle s) = (ps.reverse).filter fun s => !idle s := by
  induction ps with
  | nil => rfl
  | cons p ps ih =>
    by_cases e : idle p = true
    · simp [e, ih]
    · simp [e]

theorem segments_ofPieces {first : Octets} {rest : List Octets} (h : ∀ s ∈ first :: rest, slash ∉ s)
    (h0 : first ≠ [] ∨ rest ≠ []) : (ofPieces first rest).segments = segmentsOf first rest := by
  have hne : ¬(first = [] && rest.isEmpty) = true := by
    simp only [Bool.and_eq_true, decide_eq_true_eq, List.isEmpty_iff, not_and]
    exact fun e => h0.resolve_left fun hf => hf e
  rw [ofPieces, if_neg hne, ofJoined, segments_of_pieces (Text.fields_joinFields (List.cons_ne_nil _ _) h)]

theorem segments_parent? {p q : Path} (h : p.parent? = some q) : q.segments = p.segments.dropLast := by
  obtain ⟨f, r, hf⟩ := List.exists_cons_of_ne_nil (Text.fields_ne_nil slash p.octets)
  have hslash : ∀ s ∈ f :: r, slash ∉ s := fun s hs => Text.notMem_of_mem_fields (hf ▸ hs)
  have hp : p.segments = segmentsOf f r := segments_of_pieces hf
  have hr := filter_idle_reverse_dropWhile r.reverse
  simp only [parent?, pieces, hf] at h
  cases hd : r.reverse.dropWhile idle with
  | nil =>
    -- nothing but the first piece counts
    rw [hd] at h hr
    simp only [List.reverse_nil, List.filter_nil, List.reverse_reverse] at hr
    by_cases e : f = []
    · simp [e] at h
    · simp only [e, if_false, Option.some.injEq] at h
      rw [hp, ← h, segmentsOf, if_neg e, ← hr]
      rfl
  | cons last before =>
    rw [hd] at h hr
    simp only [Option.some.injEq] at h
    have hlast : idle last = false := by
      have := List.head_dropWhile_not idle (l := r.reverse) (by simp [hd])
      simpa [hd] using this
    have hrf : r.filter (fun s => !idle s) = before.reverse.filter (fun s => !idle s) ++ [last] := by
      rw [← List.reverse_reverse r, ← hr]
      simp [hlast]
    have hr0 : r ≠ [] := by
      rintro rfl
      simp at hd
    have hb : ∀ s ∈ f :: (before.dropWhile idle).reverse, slash ∉ s := by
      intro s hs
      rcases List.mem_cons.mp hs with rfl | hs
      · exact hslash _ (List.mem_cons_self ..)
      · have h1 : s ∈ before := (List.dropWhile_sublist idle).mem (List.mem_reverse.mp hs)
        have h2 : s ∈ r.reverse.dropWhile idle := hd ▸ List.mem_cons_of_mem _ h1
        exact hslash s (List.mem_cons_of_mem _ (List.mem_reverse.mp ((List.dropWhile_sublist idle).mem h2)))
    have hps : p.segments.dropLast = (if f = [] then root else f) :: before.reverse.filter fun s => !idle s := by
      rw [hp, segmentsOf, hrf]
      by_cases e : f = []
      · simp [e, hr0, List.dropLast_cons_of_ne_nil]
      · simp [e, List.dropLast_cons_of_ne_nil]
    rw [hps, ← h]
    by_cases e0 : f = [] ∧ (before.dropWhile idle).reverse = []
    · -- the parent is the root
      have hbf := filter_idle_reverse_dropWhile before
      rw [e0.2] at hbf
      rw [e0.1, e0.2, ← hbf]
      rfl
    · have h0 : f ≠ [] ∨ (before.dropWhile idle).reverse ≠ [] := by
        by_cases e1 : f = []
        · exact Or.inr fun e2 => e0 ⟨e1, e2⟩
        · exact Or.inl e1
      rw [segments_ofPieces hb h0, segmentsOf, filter_idle_reverse_dropWhile]
      by_cases e1 : f = []
      · rw [if_pos e1, if_pos e1, if_neg (by simpa using h0.resolve_left fun hf => hf e1)]
      · rw [if_neg e1, if_neg e1]

/-- A path with a segment above its last one has a parent. -/
theorem parent?_of_segments {p : Path} {d : Segments} {n : Octets} (h : p.segments = d ++ [n]) (hd : d ≠ []) :
    ∃ q, p.parent? = some q ∧ q.segments = d := by
  have hq : ∃ q, p.parent? = some q := by
    obtain ⟨f, r, hf⟩ := List.exists_cons_of_ne_nil (Text.fields_ne_nil slash p.octets)
    simp only [parent?, pieces, hf]
    split
    · exact ⟨_, rfl⟩
    · rename_i hnil
      by_cases e : f = []
      · -- all pieces after the root are idle, so there is one segment only
        have hr := filter_idle_reverse_dropWhile r.reverse
        rw [hnil] at hr
        simp only [List.reverse_nil, List.filter_nil, List.reverse_reverse] at hr
        have hp : p.segments = segmentsOf f r := segments_of_pieces hf
        have hlen : p.segments.length ≤ 1 := by
          rw [hp, segmentsOf, if_pos e, ← hr]
          split <;> simp
        rw [h] at hlen
        simp only [List.length_append, List.length_singleton] at hlen
        exact absurd (List.eq_nil_of_length_eq_zero (by omega)) hd
      · exact ⟨⟨[]⟩, by simp [e]⟩
  obtain ⟨q, hq⟩ := hq
  exact ⟨q, hq, by rw [segments_parent? hq, h]; simp⟩

/-! ## What follows a path -/

theorem filter_dropWhile_idle (ps : List Octets) :
    (ps.dropWhile idle).filter (fun s => !idle s) = ps.filter fun s => !idle s := by
  have h := filter_idle_reverse_dropWhile ps
  rwa [List.filter_reverse, List.filter_reverse, List.reverse_inj] at h

theorem filter_trimIdleEnd (ps : List Octets) :
    (trimIdleEnd ps).filter (fun s => !idle s) = ps.filter fun s => !idle s := by
  unfold trimIdleEnd
  rw [filter_idle_reverse_dropWhile, List.reverse_reverse]

/-- Pieces without the idle ones at their end are the pieces up to some place. -/
theorem prefix_of_trimIdleEnd (ps : List Octets) : trimIdleEnd ps <+: ps := by
  rw [← List.reverse_suffix, trimIdleEnd, List.reverse_reverse]
  exact List.dropWhile_suffix _

theorem filter_dropSegments (n : Nat) (ps : List Octets) :
    (dropSegments n ps).filter (fun s => !idle s) = (ps.filter fun s => !idle s).drop n := by
  induction n generalizing ps with
  | zero => rfl
  | succ n ih =>
    rw [dropSegments, ih, ← filter_dropWhile_idle ps]
    cases hd : ps.dropWhile idle with
    | nil => simp
    | cons p rest =>
      have hp : idle p = false := by
        have := List.head_dropWhile_not idle (l := ps) (by simp [hd])
        simpa [hd] using this
      simp [hp]

theorem dropSegments_suffix (n : Nat) (ps : List Octets) : dropSegments n ps <:+ ps := by
  induction n generalizing ps with
  | zero => exact List.suffix_refl ps
  | succ n ih => exact (ih _).trans ((List.drop_suffix ..).trans (List.dropWhile_suffix _))

/-- Pieces that begin with a segment are joined to a path with these segments. -/
theorem segments_join_pieces {ps : List Octets} (h : ∀ s ∈ ps, slash ∉ s)
    (hd : ∀ s ∈ ps.head?, idle s = false) : (ofJoined ps).segments = ps.filter fun s => !idle s := by
  cases ps with
  | nil => rfl
  | cons p ps =>
    have hp : idle p = false := hd p rfl
    have hp0 : p ≠ [] := by
      rintro rfl
      cases hp
    rw [ofJoined, segments_of_pieces (Text.fields_joinFields (List.cons_ne_nil _ _) h)]
    simp [segmentsOf, hp, hp0]

/-- Without the idle pieces at its end a path names the same place. -/
theorem segments_ofPieces_trimIdleEnd {first : Octets} {rest : List Octets}
    (h : ∀ s ∈ first :: rest, slash ∉ s) (h0 : first = [] → rest ≠ []) :
    (ofPieces first (trimIdleEnd rest)).segments = segmentsOf first rest := by
  have hfilter := filter_trimIdleEnd rest
  by_cases e : first = [] ∧ trimIdleEnd rest = []
  · -- what is left is the root
    rw [e.2] at hfilter
    rw [e.1, e.2, segmentsOf, if_pos rfl, if_neg (by simpa using h0 e.1), ← hfilter]
    rfl
  · have hne : first ≠ [] ∨ trimIdleEnd rest ≠ [] := by
      by_cases ef : first = []
      · exact Or.inr fun er => e ⟨ef, er⟩
      · exact Or.inl ef
    have hslash : ∀ s ∈ first :: trimIdleEnd rest, slash ∉ s := by
      intro s hs
      rcases List.mem_cons.mp hs with rfl | hs
      · exact h _ (List.mem_cons_self ..)
      · exact h s (List.mem_cons_of_mem _ ((prefix_of_trimIdleEnd rest).mem hs))
    rw [segments_ofPieces hslash hne, segmentsOf, segmentsOf, hfilter]
    by_cases ef : first = []
    · rw [if_pos ef, if_pos ef, if_neg (by simpa using hne.resolve_left fun hf => hf ef),
        if_neg (by simpa using h0 ef)]
    · rw [if_neg ef, if_neg ef]

/-- The pieces that are left after `n` segments write a path of the segments that are left. -/
theorem segments_dropSegments {rest : List Octets} (h : ∀ s ∈ rest, slash ∉ s) (n : Nat) :
    (ofJoined (trimIdleEnd ((dropSegments n rest).dropWhile idle))).segments =
      (rest.filter fun s => !idle s).drop n := by
  have htrim := prefix_of_trimIdleEnd ((dropSegments n rest).dropWhile idle)
  rw [segments_join_pieces, filter_trimIdleEnd, filter_dropWhile_idle, filter_dropSegments]
  · intro s hs
    exact h s ((dropSegments_suffix n rest).mem ((List.dropWhile_suffix _).mem (htrim.mem hs)))
  · intro s hs
    obtain ⟨more, hmore⟩ := htrim
    have hidle := List.head?_dropWhile_not idle (dropSegments n rest)
    rw [← hmore, List.head?_append, hs] at hidle
    simpa using hidle

theorem drop_segmentsOf (first : Octets) (rest : List Octets) (n : Nat) :
    (segmentsOf first rest).drop (n + 1) = (rest.filter fun s => !idle s).drop n := by
  unfold segmentsOf
  split
  · split
    · rename_i hr
      simp [List.isEmpty_iff.mp hr]
    · rfl
  · rfl

/-- What follows `base` has the segments after those of `base`. -/
theorem segments_relativeTo? {p base q : Path} (h : p.relativeTo? base = some q) :
    base.segments ++ q.segments = p.segments := by
  obtain ⟨f, r, hf⟩ := List.exists_cons_of_ne_nil (Text.fields_ne_nil slash p.octets)
  have hslash : ∀ s ∈ f :: r, slash ∉ s := fun s hs => Text.notMem_of_mem_fields (hf ▸ hs)
  have hp : p.segments = segmentsOf f r := segments_of_pieces hf
  unfold relativeTo? at h
  by_cases hpre : p.startsWith base = true
  · simp only [hpre, if_true, pieces, hf] at h
    have hdrop : q.segments = p.segments.drop base.segments.length := by
      cases hlen : base.segments.length with
      | zero =>
        simp only [hlen] at h
        by_cases ht : p.octets = []
        · rw [if_pos ht, Option.some.injEq] at h
          rw [h, List.drop_zero]
        · rw [if_neg ht, Option.some.injEq] at h
          have hr : f = [] → r ≠ [] := by
            rintro rfl rfl
            exact ht (Text.eq_nil_of_fields hf)
          rw [← h, hp, segments_ofPieces_trimIdleEnd hslash hr, List.drop_zero]
      | succ n =>
        simp only [hlen, Option.some.injEq] at h
        rw [← h, hp, drop_segmentsOf]
        exact segments_dropSegments (fun s hs => hslash s (List.mem_cons_of_mem _ hs)) n
    rw [hdrop]
    exact List.prefix_iff_eq_append.mp (List.isPrefixOf_iff_prefix.mp hpre)
  · rw [if_neg hpre] at h
    cases h

theorem relativeTo?_eq_none {p base : Path} : p.relativeTo? base = none ↔ ¬base.segments <+: p.segments := by
  unfold relativeTo?
  rw [← List.isPrefixOf_iff_prefix]
  split
  · rename_i h
    refine iff_of_false ?_ fun hn => hn h
    split
    · simp
    · split <;> simp
    · simp
  · rename_i h
    exact iff_of_true rfl h

end Path

end GoAtlas
