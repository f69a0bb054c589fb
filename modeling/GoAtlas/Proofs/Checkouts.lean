/-
  GoAtlas.Proofs.Checkouts — module paths that a checkout's own layout gives.

  The path of a checkout is cut, as a text, wherever a slash and two underscores stand, and both parts are
  split again. The statements here say the same by segments:
  - `Text.cuts_append`: cutting passes over a part in which no mark begins.
  - `cuts_led_plain` / `cuts_led_marker`: segments that are led by slashes are cut at those that begin with
    two underscores, and nowhere else.
  - `length_cuts_led`: so there are two parts exactly if one segment does.
  - `checkoutPath_exact`: the path is that of the layout if the only such segment follows three others, and
    else the folder's own.
-/
import GoAtlas.Module.Name
import GoAtlas.Proofs.Versions

namespace GoAtlas

namespace Text

/-! ## Cutting at a mark -/

variable {mark : List Char}

theorem cutsWithin_congr (h0 : mark ≠ []) {n m : Nat} {cs : List Char} (hn : cs.length < n) (hm : cs.length < m) :
    cutsWithin mark n cs = cutsWithin mark m cs := by
  induction n generalizing m cs with
  | zero => omega
  | succ n ih =>
    obtain _ | m := m
    · omega
    cases cs with
    | nil => rfl
    | cons c cs =>
      simp only [List.length_cons] at hn hm
      simp only [cutsWithin]
      cases h : after? mark (c :: cs) with
      | none => simp only [@ih m cs (by omega) (by omega)]
      | some rest =>
        have hlen := congrArg List.length (eq_append_of_after? h)
        have hmark := List.length_pos_of_ne_nil h0
        simp only [List.length_cons, List.length_append] at hlen
        simp only [@ih m rest (by omega) (by omega)]

theorem cuts_ne_nil (mark cs : List Char) : cuts mark cs ≠ [] := by
  cases cs with
  | nil => exact List.cons_ne_nil _ _
  | cons c cs =>
    rw [cuts, cutsWithin]
    split
    · exact List.cons_ne_nil _ _
    · split <;> exact List.cons_ne_nil _ _

/-- A text is cut where a mark begins. -/
theorem cuts_of_after? (h0 : mark ≠ []) {c : Char} {cs rest : List Char} (h : after? mark (c :: cs) = some rest) :
    cuts mark (c :: cs) = [] :: cuts mark rest := by
  have hlen := congrArg List.length (eq_append_of_after? h)
  have hmark := List.length_pos_of_ne_nil h0
  simp only [List.length_cons, List.length_append] at hlen
  rw [cuts, cutsWithin, h, cuts]
  simp only [List.length_cons]
  rw [cutsWithin_congr h0 (m := rest.length + 1) (by omega) (by omega)]

theorem cuts_cons_of_none {c : Char} {cs : List Char} (h : after? mark (c :: cs) = none) :
    cuts mark (c :: cs) = (cuts mark cs).modifyHead (c :: ·) := by
  obtain ⟨f, fs, hf⟩ := List.exists_cons_of_ne_nil (cuts_ne_nil mark cs)
  rw [hf]
  rw [cuts] at hf
  rw [cuts, cutsWithin, h]
  simp only [List.length_cons, hf]
  rfl

/-- A part in which no mark begins stays with what follows it. -/
theorem cuts_append {front rest : List Char}
    (h : ∀ tail, tail ≠ [] → tail <:+ front → after? mark (tail ++ rest) = none) :
    cuts mark (front ++ rest) = (cuts mark rest).modifyHead (front ++ ·) := by
  induction front with
  | nil =>
    obtain ⟨f, fs, hf⟩ := List.exists_cons_of_ne_nil (cuts_ne_nil mark rest)
    rw [List.nil_append, hf]
    rfl
  | cons c front ih =>
    have hhere : after? mark (c :: (front ++ rest)) = none := h (c :: front) (List.cons_ne_nil _ _) (List.suffix_refl _)
    have hbelow := ih fun tail htail hsuffix => h tail htail (hsuffix.trans (List.suffix_cons c front))
    rw [List.cons_append, cuts_cons_of_none hhere, hbelow, List.modifyHead_modifyHead]
    rfl

end Text

namespace Module

/-! ## Segments led by slashes -/

/-- The segments one after the other, each after a slash. -/
def led (ss : List (List Char)) : List Char := ss.flatMap ('/' :: ·)

@[simp] theorem led_nil : led [] = [] := rfl

@[simp] theorem led_cons (s : List Char) (ss : List (List Char)) : led (s :: ss) = '/' :: (s ++ led ss) := rfl

theorem fields_append_led {x : List Char} {ss : List (List Char)} (hx : '/' ∉ x) (hss : ∀ s ∈ ss, '/' ∉ s) :
    Text.fields '/' (x ++ led ss) = x :: ss := by
  induction ss generalizing x with
  | nil => rw [led_nil, List.append_nil, Text.fields_of_notMem hx]
  | cons s ss ih =>
    rw [List.forall_mem_cons] at hss
    rw [led_cons, Text.fields_append_piece hx, ih hss.1 hss.2]

/-- The segment begins with two underscores. -/
def isMarker (s : List Char) : Bool := "__".toList.isPrefixOf s

theorem isMarker_iff {s : List Char} : isMarker s = true ↔ ∃ x, s = '_' :: '_' :: x := by
  rw [isMarker, List.isPrefixOf_iff_prefix]
  constructor
  · rintro ⟨x, rfl⟩
    exact ⟨x, rfl⟩
  · rintro ⟨x, rfl⟩
    exact ⟨x, rfl⟩

/-- The mark at which checkout paths are cut. -/
abbrev checkoutMark : List Char := "/__".toList

theorem after?_checkoutMark_of_ne {c : Char} (h : c ≠ '/') (cs : List Char) :
    Text.after? checkoutMark (c :: cs) = none := if_neg h.symm

/-- No mark begins at the slash before another segment. -/
theorem after?_checkoutMark_plain {s : List Char} (h : isMarker s = false) (ss : List (List Char)) :
    Text.after? checkoutMark ('/' :: (s ++ led ss)) = none := by
  cases hafter : Text.after? checkoutMark ('/' :: (s ++ led ss)) with
  | none => rfl
  | some rest =>
    -- both underscores would have to stand in the segment, because a slash or the end follows it
    have heq : s ++ led ss = '_' :: '_' :: rest := (List.cons.inj (Text.eq_append_of_after? hafter)).2
    have hled : ∀ cs, led ss ≠ '_' :: cs := by
      intro cs e
      cases ss with
      | nil => cases e
      | cons t ss => exact absurd (List.cons.inj e).1 (by decide)
    match s, h, heq with
    | [], _, heq => exact absurd heq (hled _)
    | [a], _, heq => exact absurd (List.cons.inj heq).2 (hled _)
    | a :: b :: s, h, heq =>
      obtain ⟨ha, heq⟩ := List.cons.inj heq
      rw [isMarker_iff.mpr ⟨s, by rw [ha, (List.cons.inj heq).1]⟩] at h
      cases h

/-- Text without slashes is passed over. -/
theorem cuts_append_of_notMem {x : List Char} (h : '/' ∉ x) (rest : List Char) :
    Text.cuts checkoutMark (x ++ rest) = (Text.cuts checkoutMark rest).modifyHead (x ++ ·) := by
  refine Text.cuts_append fun tail h0 htail => ?_
  obtain ⟨c, cs, rfl⟩ := List.exists_cons_of_ne_nil h0
  refine after?_checkoutMark_of_ne ?_ _
  rintro rfl
  exact h (htail.mem (List.mem_cons_self ..))

theorem cuts_led_plain {s : List Char} (hs : '/' ∉ s) (hm : isMarker s = false) (ss : List (List Char)) :
    Text.cuts checkoutMark (led (s :: ss)) = (Text.cuts checkoutMark (led ss)).modifyHead ('/' :: s ++ ·) := by
  rw [led_cons, Text.cuts_cons_of_none (after?_checkoutMark_plain hm ss), cuts_append_of_notMem hs,
    List.modifyHead_modifyHead]
  rfl

theorem cuts_led_marker {x : List Char} (hx : '/' ∉ x) (ss : List (List Char)) :
    Text.cuts checkoutMark (led (('_' :: '_' :: x) :: ss)) =
      [] :: (Text.cuts checkoutMark (led ss)).modifyHead (x ++ ·) := by
  have hafter : Text.after? checkoutMark (led (('_' :: '_' :: x) :: ss)) = some (x ++ led ss) :=
    Text.after?_append checkoutMark (x ++ led ss)
  rw [led_cons] at hafter ⊢
  rw [Text.cuts_of_after? (by decide) hafter, cuts_append_of_notMem hx]

/-- Segments before the first marker stay together. -/
theorem cuts_led_append {front : List (List Char)} (hs : ∀ s ∈ front, '/' ∉ s)
    (hm : ∀ s ∈ front, isMarker s = false) (ss : List (List Char)) :
    Text.cuts checkoutMark (led (front ++ ss)) = (Text.cuts checkoutMark (led ss)).modifyHead (led front ++ ·) := by
  induction front with
  | nil =>
    obtain ⟨f, fs, hf⟩ := List.exists_cons_of_ne_nil (Text.cuts_ne_nil checkoutMark (led ss))
    rw [List.nil_append, hf]
    rfl
  | cons s front ih =>
    rw [List.forall_mem_cons] at hs hm
    rw [List.cons_append, cuts_led_plain hs.1 hm.1, ih hs.2 hm.2, List.modifyHead_modifyHead]
    simp [Function.comp_def]

/-- There is one part more than there are markers. -/
theorem length_cuts_led {ss : List (List Char)} (hs : ∀ s ∈ ss, '/' ∉ s) :
    (Text.cuts checkoutMark (led ss)).length = ss.countP isMarker + 1 := by
  induction ss with
  | nil => rfl
  | cons s ss ih =>
    rw [List.forall_mem_cons] at hs
    cases hm : isMarker s with
    | true =>
      obtain ⟨x, rfl⟩ := isMarker_iff.mp hm
      have hx : '/' ∉ x := fun h => hs.1 (List.mem_cons_of_mem _ (List.mem_cons_of_mem _ h))
      rw [cuts_led_marker hx, List.length_cons, List.length_modifyHead, ih hs.2, List.countP_cons_of_pos hm]
    | false =>
      rw [cuts_led_plain hs.1 hm, List.length_modifyHead, ih hs.2, List.countP_cons_of_neg (by simp [hm])]

/-- The parts around the only marker. -/
theorem cuts_led_single {before after : List (List Char)} {x : List Char} (hx : '/' ∉ x)
    (hbefore : ∀ s ∈ before, '/' ∉ s ∧ isMarker s = false) (hafter : ∀ s ∈ after, '/' ∉ s ∧ isMarker s = false) :
    Text.cuts checkoutMark (led (before ++ ('_' :: '_' :: x) :: after)) = [led before, x ++ led after] := by
  have hrest := cuts_led_append (fun s hs => (hafter s hs).1) (fun s hs => (hafter s hs).2) []
  rw [List.append_nil] at hrest
  rw [cuts_led_append (fun s hs => (hbefore s hs).1) (fun s hs => (hbefore s hs).2), cuts_led_marker hx, hrest]
  simp [Text.cuts, Text.cutsWithin]

/-! ## Folders -/

/-- The `k`-th of the segments is the only one that begins with two underscores. -/
def MarkedAt (segments : List String) (k : Nat) : Prop :=
  k < segments.length ∧ ∀ j s, segments[j]? = some s → (isMarker s.toList = true ↔ j = k)

theorem markedAt_iff {segments : List String} {k : Nat} : MarkedAt segments k ↔
    ∃ before marker after, segments = before ++ marker :: after ∧ before.length = k ∧ isMarker marker.toList = true ∧
      (∀ s ∈ before, isMarker s.toList = false) ∧ ∀ s ∈ after, isMarker s.toList = false := by
  constructor
  · intro h
    obtain ⟨hk, honly⟩ := h
    have hplain : ∀ j s, segments[j]? = some s → j ≠ k → isMarker s.toList = false := by
      intro j s hs hne
      exact Bool.eq_false_iff.mpr fun hm => hne ((honly j s hs).mp hm)
    refine ⟨segments.take k, segments[k], segments.drop (k + 1), ?_, ?_, ?_, fun s hs => ?_, fun s hs => ?_⟩
    · rw [← List.drop_eq_getElem_cons hk, List.take_append_drop]
    · rw [List.length_take]
      omega
    · exact (honly k _ (List.getElem?_eq_getElem hk)).mpr rfl
    · obtain ⟨j, hj, hjk⟩ := List.mem_take_iff_getElem.mp hs
      exact hplain j s (by rw [List.getElem?_eq_getElem (by omega), hjk]) (by omega)
    · obtain ⟨j, hj, hjk⟩ := List.mem_drop_iff_getElem.mp hs
      exact hplain (k + 1 + j) s (by rw [List.getElem?_eq_getElem (by omega), hjk]) (by omega)
  · rintro ⟨before, marker, after, rfl, rfl, hmarker, hbefore, hafter⟩
    refine ⟨by simp, fun j s hs => ?_⟩
    rcases Nat.lt_trichotomy j before.length with hj | rfl | hj
    · rw [List.getElem?_append_left hj] at hs
      simp [hbefore s (List.mem_of_getElem? hs), Nat.ne_of_lt hj]
    · rw [List.getElem?_append_right (Nat.le_refl _), Nat.sub_self] at hs
      cases hs
      simp [hmarker]
    · rw [List.getElem?_append_right (Nat.le_of_lt hj)] at hs
      obtain ⟨i, hi⟩ : ∃ i, j - before.length = i + 1 := ⟨j - before.length - 1, by omega⟩
      rw [hi, List.getElem?_cons_succ] at hs
      simp [hafter s (List.mem_of_getElem? hs), Nat.ne_of_gt hj]

theorem exists_single_marker {segments : List String} (h : (segments.map String.toList).countP isMarker = 1) :
    ∃ before marker after, segments = before ++ marker :: after ∧ isMarker marker.toList = true ∧
      (∀ s ∈ before, isMarker s.toList = false) ∧ ∀ s ∈ after, isMarker s.toList = false := by
  rw [List.countP_map] at h
  obtain ⟨marker, hmem, hmarker⟩ := List.countP_pos_iff.mp (Nat.lt_of_lt_of_eq Nat.zero_lt_one h.symm)
  obtain ⟨before, after, rfl⟩ := List.append_of_mem hmem
  rw [List.countP_append, List.countP_cons_of_pos hmarker] at h
  have hbefore := List.countP_eq_zero.mp (show before.countP (isMarker ∘ String.toList) = 0 by omega)
  have hafter := List.countP_eq_zero.mp (show after.countP (isMarker ∘ String.toList) = 0 by omega)
  exact ⟨before, marker, after, rfl, hmarker, fun s hs => Bool.eq_false_iff.mpr (hbefore s hs),
    fun s hs => Bool.eq_false_iff.mpr (hafter s hs)⟩

theorem ofList_joinFields (ss : List String) :
    String.ofList (Text.joinFields ['/'] (ss.map String.toList)) = Text.join "/" ss := by
  induction ss with
  | nil => rfl
  | cons s ss ih =>
    cases ss with
    | nil => simp [Text.joinFields, Text.join]
    | cons t ss =>
      rw [Text.join, ← ih, ← String.toList_inj]
      simp [Text.joinFields]

theorem toList_folder {segments : List String} (h0 : segments ≠ []) :
    ("/" ++ Text.join "/" segments).toList = led (segments.map String.toList) := by
  have hled : led (segments.map String.toList) = '/' :: Text.joinFields ['/'] (segments.map String.toList) := by
    rw [led, Text.flatMap_eq_joinFields '/' (by simpa using h0)]
    cases segments with
    | nil => exact absurd rfl h0
    | cons s ss => simp [Text.joinFields]
  rw [hled, ← ofList_joinFields]
  simp

/-- A path that is not cut in two is kept. -/
theorem checkoutPath_of_length {folder : String} (h : (Text.cuts checkoutMark folder.toList).length ≠ 2) :
    checkoutPath folder = folder := by
  unfold checkoutPath
  split
  · rename_i heq
    rw [heq] at h
    exact absurd rfl h
  · rfl

/-- What a single marker makes of a path. -/
theorem checkoutPath_single {before after : List String} {marker : String}
    (hslash : ∀ s ∈ before ++ marker :: after, '/' ∉ s.toList) (hmarker : isMarker marker.toList = true)
    (hbefore : ∀ s ∈ before, isMarker s.toList = false) (hafter : ∀ s ∈ after, isMarker s.toList = false) :
    checkoutPath ("/" ++ Text.join "/" (before ++ marker :: after)) =
      if before.length < 3 then "/" ++ Text.join "/" (before ++ marker :: after)
      else Text.join "/" (before.drop (before.length - 3) ++ after.drop 1) := by
  obtain ⟨x, hx⟩ := isMarker_iff.mp hmarker
  obtain ⟨hbs, hms, has⟩ : (∀ s ∈ before, '/' ∉ s.toList) ∧ '/' ∉ marker.toList ∧ ∀ s ∈ after, '/' ∉ s.toList := by
    rw [List.forall_mem_append, List.forall_mem_cons] at hslash
    exact hslash
  have hxs : '/' ∉ x := by
    rw [hx] at hms
    exact fun h => hms (List.mem_cons_of_mem _ (List.mem_cons_of_mem _ h))
  have hcuts : Text.cuts checkoutMark ("/" ++ Text.join "/" (before ++ marker :: after)).toList =
      [led (before.map String.toList), x ++ led (after.map String.toList)] := by
    rw [toList_folder (by simp), List.map_append, List.map_cons, hx]
    refine cuts_led_single hxs ?_ ?_
    · exact List.forall_mem_map.mpr fun s hs => ⟨hbs s hs, hbefore s hs⟩
    · exact List.forall_mem_map.mpr fun s hs => ⟨has s hs, hafter s hs⟩
  have houter : Text.fields '/' (led (before.map String.toList)) = [] :: before.map String.toList :=
    fields_append_led (x := []) List.not_mem_nil (List.forall_mem_map.mpr hbs)
  have hinner := fields_append_led hxs (List.forall_mem_map.mpr has)
  simp only [checkoutPath, hcuts, houter, hinner, List.length_cons, List.length_map]
  by_cases hlen : before.length < 3
  · rw [if_pos (by omega), if_pos hlen]
  · obtain ⟨n, hn⟩ : ∃ n, before.length = n + 3 := ⟨before.length - 3, by omega⟩
    rw [if_neg (by omega), if_neg hlen, hn, Nat.add_sub_cancel, show n + 3 + 1 - 3 = n + 1 by omega,
      List.drop_succ_cons, List.drop_succ_cons, ← List.map_drop, ← List.map_drop, ← List.map_append,
      ofList_joinFields]

/-- The module path of a checkout is that of its layout if the only segment with two underscores in front follows
    at least three others: these three, and what comes after the segment and the next one. Every other path is kept
    as it is written. -/
theorem checkoutPath_exact {segments : List String} (h : ∀ s ∈ segments, '/' ∉ s.toList) :
    (∀ k, 3 ≤ k → MarkedAt segments k → checkoutPath ("/" ++ Text.join "/" segments) =
      Text.join "/" ((segments.take k).drop (k - 3) ++ segments.drop (k + 2))) ∧
    ((∀ k, 3 ≤ k → ¬MarkedAt segments k) →
      checkoutPath ("/" ++ Text.join "/" segments) = "/" ++ Text.join "/" segments) := by
  constructor
  · intro k hk hmarked
    obtain ⟨before, marker, after, rfl, rfl, hmarker, hbefore, hafter⟩ := markedAt_iff.mp hmarked
    rw [checkoutPath_single h hmarker hbefore hafter, if_neg (by omega), List.take_left,
      show before.length + 2 = before.length + 1 + 1 from rfl, ← List.drop_drop]
    simp
  · intro hnone
    by_cases hcount : (segments.map String.toList).countP isMarker = 1
    · -- the only marker comes too early
      obtain ⟨before, marker, after, rfl, hmarker, hbefore, hafter⟩ := exists_single_marker hcount
      rw [checkoutPath_single h hmarker hbefore hafter, if_pos]
      by_contra hlen
      exact hnone _ (Nat.le_of_not_lt hlen)
        (markedAt_iff.mpr ⟨before, marker, after, rfl, rfl, hmarker, hbefore, hafter⟩)
    · by_cases h0 : segments = []
      · rw [h0]
        decide
      · apply checkoutPath_of_length
        rw [toList_folder h0, length_cuts_led (List.forall_mem_map.mpr h)]
        omega

/-- A package of a checkout, and a path with two markers. -/
theorem checkoutPath_exact_widget :
    checkoutPath "/data/github.com/acme/widget/__rev/main/pkg/x" = "github.com/acme/widget/pkg/x" ∧
      checkoutPath "/a/b/c/d/__x/__y" = "/a/b/c/d/__x/__y" := by
  have hmarked : MarkedAt ["data", "github.com", "acme", "widget", "__rev", "main", "pkg", "x"] 4 :=
    markedAt_iff.mpr ⟨["data", "github.com", "acme", "widget"], "__rev", ["main", "pkg", "x"], rfl, rfl, by decide,
      by decide, by decide⟩
  have hnot : ∀ k, ¬MarkedAt ["a", "b", "c", "d", "__x", "__y"] k := by
    intro k h
    have hx := (h.2 4 "__x" rfl).mp (by decide)
    have hy := (h.2 5 "__y" rfl).mp (by decide)
    omega
  exact ⟨(checkoutPath_exact (by decide)).1 4 (by decide) hmarked,
    (@checkoutPath_exact ["a", "b", "c", "d", "__x", "__y"] (by decide)).2 fun k _ => hnot k⟩

end Module

end GoAtlas
