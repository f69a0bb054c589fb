/-
  GoAtlas.Proofs.Preorder — an outline as it is listed.

  The place of an entry is a list of numbers: how many siblings precede it, after the same of each entry above it.
  Places compare as lists do, so an entry comes before all below it, and these come before its next sibling.
  - `exists_enumerates`: the places of an outline, in ascending order, are those that its ways lead to.
  - `flatten_preorder`: flattening lists one entry for each place, in that order, with the name of its parent and
    the names on the way to it.
  - `PlainlyNamed.place_eq` / `nodup_qnames`: where siblings have different names and no name is empty or has a dot,
    the names on the way tell a place, and the qualified name tells these names.
-/
import GoAtlas.Proofs.Naming
import GoAtlas.Proofs.Segments
import Mathlib.Data.List.Forall2
import Mathlib.Data.List.Nodup

namespace GoAtlas

namespace Outline

/-! ## Places -/

/-- Where an entry stands in an outline: how many siblings precede it, after the same of each entry above it. -/
abbrev Place := List Nat

/-- The same place below the next sibling of the topmost entry. -/
def Place.next : Place → Place
  | [] => []
  | i :: a => (i + 1) :: a

theorem Place.next_lt_next {a b : Place} (h : a < b) (ha : a ≠ []) : a.next < b.next := by
  cases h with
  | nil => exact absurd rfl ha
  | rel h => exact .rel (Nat.succ_lt_succ h)
  | cons h => exact .cons h

def entry : Outline → OutlineEntry
  | .node e _ => e

/-- The outlines directly below an entry; none if the engine lists none. -/
def nested : Outline → List Outline
  | .node _ children => children.getD []

/-- The entries met on the way to a place, the topmost first, if there is one at each level. -/
def entriesAt? : List Outline → Place → Option (List OutlineEntry)
  | _, [] => some []
  | os, i :: a => os[i]?.bind fun o => (entriesAt? o.nested a).map (o.entry :: ·)

@[simp] theorem entriesAt?_nil (os : List Outline) : entriesAt? os [] = some [] := rfl

theorem entriesAt?_zero (o : Outline) (os : List Outline) (a : Place) :
    entriesAt? (o :: os) (0 :: a) = (entriesAt? o.nested a).map (o.entry :: ·) := rfl

theorem entriesAt?_succ (o : Outline) (os : List Outline) (i : Nat) (a : Place) :
    entriesAt? (o :: os) ((i + 1) :: a) = entriesAt? os (i :: a) := rfl

theorem entriesAt?_next (o : Outline) (os : List Outline) {a : Place} (ha : a ≠ []) :
    entriesAt? (o :: os) a.next = entriesAt? os a := by
  cases a with
  | nil => exact absurd rfl ha
  | cons i a => rfl

theorem entriesAt?_cons_eq_some {os : List Outline} {i : Nat} {a : Place} {es : List OutlineEntry} :
    entriesAt? os (i :: a) = some es ↔
      ∃ o rest, os[i]? = some o ∧ entriesAt? o.nested a = some rest ∧ es = o.entry :: rest := by
  simp only [entriesAt?, Option.bind_eq_some_iff, Option.map_eq_some_iff]
  constructor
  · intro h
    obtain ⟨o, ho, rest, hrest, rfl⟩ := h
    exact ⟨o, rest, ho, hrest, rfl⟩
  · intro h
    obtain ⟨o, rest, ho, hrest, rfl⟩ := h
    exact ⟨o, ho, rest, hrest, rfl⟩

/-- An outline is read level by level: what holds of the outlines below an entry and of those after it holds of
    them together. -/
theorem forest_induction {motive : List Outline → Prop} (nil : motive [])
    (cons : ∀ o os, motive o.nested → motive os → motive (o :: os)) : ∀ os, motive os
  | [] => nil
  | .node e none :: os => cons (.node e none) os nil (forest_induction nil cons os)
  | .node e (some inner) :: os =>
    cons (.node e (some inner)) os (forest_induction nil cons inner) (forest_induction nil cons os)

theorem waysBelow_cons (above : List OutlineEntry) (o : Outline) (os : List Outline) :
    waysBelow above (o :: os) = ⟨above, o.entry⟩ :: waysBelow (above ++ [o.entry]) o.nested ++ waysBelow above os := by
  cases o with
  | node e children => cases children <;> rfl

/-- The places of all entries, in ascending order, lead through the entries of the ways. -/
structure Enumerates (outline : List Outline) (as : List Place) : Prop where
  ordered : as.Pairwise (· < ·)
  exact (a : Place) : a ∈ as ↔ a ≠ [] ∧ (entriesAt? outline a).isSome = true
  entries (above : List OutlineEntry) :
    (waysBelow above outline).map (fun w => some w.entries) = as.map fun a => (entriesAt? outline a).map (above ++ ·)

theorem enumerates_nil : Enumerates [] [] := by
  refine ⟨.nil, fun a => ?_, fun _ => rfl⟩
  cases a <;> simp [entriesAt?]

/-- The places in an outline that continues with others: below the first entry, then below the next ones. -/
def placesCons (as bs : List Place) : List Place := ([] :: as).map (0 :: ·) ++ bs.map Place.next

theorem pairwise_placesCons {as bs : List Place} (has : as.Pairwise (· < ·)) (hbs : bs.Pairwise (· < ·))
    (ha : ∀ a ∈ as, a ≠ []) (hb : ∀ b ∈ bs, b ≠ []) : (placesCons as bs).Pairwise (· < ·) := by
  refine List.pairwise_append.mpr ⟨?_, ?_, ?_⟩
  · -- an entry comes before those below it
    refine List.pairwise_map.mpr (List.Pairwise.imp .cons (List.pairwise_cons.mpr ⟨fun a hmem => ?_, has⟩))
    obtain ⟨i, a, rfl⟩ := List.exists_cons_of_ne_nil (ha a hmem)
    exact .nil
  · exact List.pairwise_map.mpr (hbs.imp_of_mem fun hmem _ hab => Place.next_lt_next hab (hb _ hmem))
  · intro x hx y hy
    obtain ⟨a, _, rfl⟩ := List.mem_map.mp hx
    obtain ⟨b, hmem, rfl⟩ := List.mem_map.mp hy
    obtain ⟨i, b, rfl⟩ := List.exists_cons_of_ne_nil (hb b hmem)
    exact .rel (Nat.succ_pos i)

theorem zero_cons_mem_placesCons {as bs : List Place} {a : Place} (hb : ∀ b ∈ bs, b ≠ []) :
    0 :: a ∈ placesCons as bs ↔ a = [] ∨ a ∈ as := by
  simp only [placesCons, List.mem_append, List.mem_map]
  constructor
  · intro h
    rcases h with ⟨a, ha, h⟩ | ⟨b, hmem, h⟩
    · obtain ⟨_, rfl⟩ := List.cons.inj h
      exact List.mem_cons.mp ha
    · obtain ⟨i, b, rfl⟩ := List.exists_cons_of_ne_nil (hb b hmem)
      cases h
  · intro h
    exact Or.inl ⟨a, List.mem_cons.mpr h, rfl⟩

theorem succ_cons_mem_placesCons {as bs : List Place} {i : Nat} {a : Place} (hb : ∀ b ∈ bs, b ≠ []) :
    (i + 1) :: a ∈ placesCons as bs ↔ i :: a ∈ bs := by
  simp only [placesCons, List.mem_append, List.mem_map]
  constructor
  · intro h
    rcases h with ⟨a, _, h⟩ | ⟨b, hmem, h⟩
    · cases h
    · obtain ⟨j, b, rfl⟩ := List.exists_cons_of_ne_nil (hb b hmem)
      obtain ⟨hij, rfl⟩ := List.cons.inj h
      obtain rfl : j = i := Nat.succ.inj hij
      exact hmem
  · intro h
    exact Or.inr ⟨i :: a, h, rfl⟩

theorem Enumerates.cons {o : Outline} {os : List Outline} {as bs : List Place} (hin : Enumerates o.nested as)
    (hos : Enumerates os bs) : Enumerates (o :: os) (placesCons as bs) := by
  have has : ∀ a ∈ as, a ≠ [] := fun a ha => ((hin.exact a).mp ha).1
  have hbs : ∀ b ∈ bs, b ≠ [] := fun b hb => ((hos.exact b).mp hb).1
  refine ⟨pairwise_placesCons hin.ordered hos.ordered has hbs, fun a => ?_, fun above => ?_⟩
  · match a with
    | [] =>
      refine iff_of_false ?_ fun h => h.1 rfl
      simp only [placesCons, List.mem_append, List.mem_map]
      intro h
      rcases h with ⟨a, _, h⟩ | ⟨b, hmem, h⟩
      · cases h
      · obtain ⟨j, b, rfl⟩ := List.exists_cons_of_ne_nil (hbs b hmem)
        cases h
    | 0 :: a =>
      rw [zero_cons_mem_placesCons hbs, entriesAt?_zero, Option.isSome_map, hin.exact]
      by_cases h : a = []
      · simp [h]
      · simp [h]
    | (i + 1) :: a =>
      rw [succ_cons_mem_placesCons hbs, entriesAt?_succ, hos.exact]
      simp
  · have hown : (waysBelow (above ++ [o.entry]) o.nested).map (fun w => some w.entries) =
        as.map fun a => (entriesAt? (o :: os) (0 :: a)).map (above ++ ·) := by
      rw [hin.entries]
      refine List.map_congr_left fun a _ => ?_
      rw [entriesAt?_zero, Option.map_map]
      simp [Function.comp_def]
    have hnext : (waysBelow above os).map (fun w => some w.entries) =
        bs.map fun b => (entriesAt? (o :: os) b.next).map (above ++ ·) := by
      rw [hos.entries]
      refine List.map_congr_left fun b hb => ?_
      rw [entriesAt?_next o os (hbs b hb)]
    rw [waysBelow_cons, placesCons, List.map_append, List.map_append, List.map_cons, List.map_cons, List.map_cons,
      hown, hnext, List.map_map, List.map_map]
    rfl

theorem Enumerates.nodup {outline : List Outline} {as : List Place} (h : Enumerates outline as) : as.Nodup := by
  apply h.ordered.imp
  intro a b hab e
  subst e
  exact List.lt_irrefl a hab

theorem exists_enumerates (outline : List Outline) : ∃ as, Enumerates outline as := by
  induction outline using forest_induction with
  | nil => exact ⟨[], enumerates_nil⟩
  | cons o os hin hos =>
    obtain ⟨as, hin⟩ := hin
    obtain ⟨bs, hos⟩ := hos
    exact ⟨_, hin.cons hos⟩

/-! ## Entries as they are listed -/

/-- Empty names at the top add nothing. -/
theorem foldl_dotted_empty (ns : List String) :
    ns.foldl dotted "" = Text.join "." (ns.dropWhile fun n => n = "") := by
  induction ns with
  | nil => rfl
  | cons n ns ih =>
    rw [List.foldl_cons, dotted, if_pos rfl]
    by_cases h : n = ""
    · rw [List.dropWhile_cons_of_pos (by simpa using h), h, ih]
    · rw [List.dropWhile_cons_of_neg (by simpa using h), foldl_dotted h]

theorem pathOf_eq_join (es : List OutlineEntry) :
    pathOf es = Text.join "." ((es.map (·.name)).dropWhile fun n => n = "") := by
  rw [← foldl_dotted_empty, List.foldl_map]
  rfl

end Outline

/-- How the entry is listed that a way leads to. -/
structure Way.ListedAs (uri : Url) (package : PackageLocator) (w : Way) (s : DetailSymbol) : Prop where
  name : s.symbol.name = w.entry.name
  kind : s.symbol.kind = w.entry.kind
  tags : s.symbol.tags = w.entry.tags
  deprecated : s.symbol.deprecated = w.entry.deprecated
  location : s.symbol.location = ⟨uri, w.entry.selectionRange⟩
  /-- The container is the entry directly above, if it has a name. -/
  container (c : String) :
    s.symbol.containerName = some c ↔ c ≠ "" ∧ ∃ parent, w.above.getLast? = some parent ∧ parent.name = c
  qname : s.qname = (if package.name = "" then "" else package.name ++ ".") ++
    Text.join "." (w.names.dropWhile fun n => n = "")
  package : s.package = package

namespace Outline

variable (uri : Url) (package : PackageLocator)

theorem listedAs_listedAt (w : Way) : w.ListedAs uri package (listedAt uri package w) := by
  refine ⟨rfl, rfl, rfl, rfl, rfl, fun c => ?_, ?_, rfl⟩
  · show (if containerOf w.above = "" then none else some (containerOf w.above)) = some c ↔ _
    unfold containerOf
    cases w.above.getLast? with
    | none => simp
    | some parent =>
      simp only [Option.map_some, Option.getD_some, Option.some.injEq, exists_eq_left']
      by_cases h : parent.name = ""
      · simp only [h, if_true, reduceCtorEq, false_iff, not_and]
        exact fun hc => hc.symm
      · rw [if_neg h, Option.some.injEq]
        exact ⟨fun e => ⟨e ▸ h, e⟩, And.right⟩
  · show dotted package.name (pathOf w.entries) = _
    rw [pathOf_eq_join, dotted]
    split
    · rw [String.empty_append]
      rfl
    · rfl

/-- Flattening lists each entry once, in the order of the places, as the entries above it say. -/
theorem flatten_preorder (outline : List Outline) :
    ∃ as : List Place, as.Pairwise (· < ·) ∧ (∀ a, a ∈ as ↔ a ≠ [] ∧ (entriesAt? outline a).isSome = true) ∧
      List.Forall₂ (fun a s => ∃ w : Way, entriesAt? outline a = some w.entries ∧ w.ListedAs uri package s) as
        (flatten uri package outline) := by
  obtain ⟨as, has⟩ := exists_enumerates outline
  refine ⟨as, has.ordered, has.exact, ?_⟩
  have hways : List.Forall₂ (fun a w => entriesAt? outline a = some w.entries) as (ways outline) := by
    have h := has.entries []
    simp only [List.nil_append, Option.map_id'] at h
    rw [← List.forall₂_eq_eq_eq, List.forall₂_map_left_iff, List.forall₂_map_right_iff] at h
    exact h.flip.imp fun _ _ e => e.symm
  rw [flatten_eq, List.forall₂_map_right_iff]
  exact hways.imp fun a w h => ⟨w, h, listedAs_listedAt uri package w⟩

/-! ## Different names -/

/-- At every level the names are not empty, have no dot and differ from those of the siblings. -/
inductive PlainlyNamed : List Outline → Prop
  | intro {os : List Outline} (plain : ∀ o ∈ os, o.entry.name ≠ "" ∧ '.' ∉ o.entry.name.toList)
      (differ : (os.map (·.entry.name)).Nodup) (nested : ∀ o ∈ os, PlainlyNamed o.nested) : PlainlyNamed os

theorem PlainlyNamed.of_entriesAt? {outline : List Outline} (h : PlainlyNamed outline) {a : Place}
    {es : List OutlineEntry} (ha : entriesAt? outline a = some es) : ∀ e ∈ es, e.name ≠ "" ∧ '.' ∉ e.name.toList := by
  induction a generalizing outline es with
  | nil =>
    rw [entriesAt?_nil, Option.some.injEq] at ha
    simp [← ha]
  | cons i a ih =>
    obtain ⟨o, rest, ho, hrest, rfl⟩ := entriesAt?_cons_eq_some.mp ha
    obtain ⟨plain, _, nested⟩ := h
    have hmem : o ∈ outline := List.mem_of_getElem? ho
    exact List.forall_mem_cons.mpr ⟨plain o hmem, ih (nested o hmem) hrest⟩

/-- The names on the way tell the place. -/
theorem PlainlyNamed.place_eq {outline : List Outline} (h : PlainlyNamed outline) {a b : Place}
    {es fs : List OutlineEntry} (ha : entriesAt? outline a = some es) (hb : entriesAt? outline b = some fs)
    (hnames : es.map (·.name) = fs.map (·.name)) : a = b := by
  induction a generalizing outline b es fs with
  | nil =>
    cases b with
    | nil => rfl
    | cons j b =>
      obtain ⟨_, _, _, _, rfl⟩ := entriesAt?_cons_eq_some.mp hb
      rw [entriesAt?_nil, Option.some.injEq] at ha
      simp [← ha] at hnames
  | cons i a ih =>
    obtain ⟨o, rest, ho, hrest, rfl⟩ := entriesAt?_cons_eq_some.mp ha
    cases b with
    | nil =>
      rw [entriesAt?_nil, Option.some.injEq] at hb
      simp [← hb] at hnames
    | cons j b =>
      obtain ⟨o', rest', ho', hrest', rfl⟩ := entriesAt?_cons_eq_some.mp hb
      obtain ⟨_, differ, nested⟩ := h
      rw [List.map_cons, List.map_cons, List.cons.injEq] at hnames
      -- siblings of one name are one, so both places go on below the same entry
      have hij : i = j := by
        have hlt : i < (outline.map (·.entry.name)).length := by
          rw [List.length_map]
          exact (List.getElem?_eq_some_iff.mp ho).1
        refine (List.getElem?_inj hlt differ).mp ?_
        rw [List.getElem?_map, List.getElem?_map, ho, ho', Option.map_some, Option.map_some, hnames.1]
      subst hij
      obtain rfl : o = o' := Option.some.inj (ho.symm.trans ho')
      rw [ih (nested o (List.mem_of_getElem? ho)) hrest hrest' hnames.2]

end Outline

namespace Text

/-- Pieces without the separator, joined by it, are the fields of the text. -/
theorem fields_join {sep : Char} {mark : String} (hm : mark.toList = [sep]) {ss : List String} (h0 : ss ≠ [])
    (h : ∀ s ∈ ss, sep ∉ s.toList) : fields sep (join mark ss).toList = ss.map String.toList := by
  fun_induction join mark ss with
  | case1 => exact absurd rfl h0
  | case2 s => exact fields_of_notMem (h s (List.mem_cons_self ..))
  | case3 s t ss ih =>
    have ht : ∀ x ∈ t :: ss, sep ∉ x.toList := fun x hx => h x (List.mem_cons_of_mem _ hx)
    rw [String.toList_append, String.toList_append, hm, List.append_assoc, List.singleton_append, fields_append_sep,
      fields_of_notMem (h s (List.mem_cons_self ..)), ih (List.cons_ne_nil _ _) ht]
    rfl

theorem join_inj {ss ts : List String} (hs : ss ≠ []) (ht : ts ≠ []) (hdots : ∀ s ∈ ss, '.' ∉ s.toList)
    (hdott : ∀ t ∈ ts, '.' ∉ t.toList) (h : join "." ss = join "." ts) : ss = ts := by
  have hm : ".".toList = ['.'] := rfl
  refine List.map_injective_iff.mpr (fun _ _ => String.toList_inj.mp) ?_
  rw [← fields_join hm hs hdots, h, fields_join hm ht hdott]

end Text

namespace Outline

theorem dotted_inj {lead a b : String} (h : dotted lead a = dotted lead b) : a = b := by
  unfold dotted at h
  split at h
  · exact h
  · exact String.append_right_inj _ |>.mp h

theorem PlainlyNamed.pathOf_eq {outline : List Outline} (h : PlainlyNamed outline) {a : Place}
    {es : List OutlineEntry} (ha : entriesAt? outline a = some es) : pathOf es = Text.join "." (es.map (·.name)) := by
  rw [pathOf_eq_join]
  cases es with
  | nil => rfl
  | cons e es =>
    have he := (h.of_entriesAt? ha e (List.mem_cons_self ..)).1
    rw [List.map_cons, List.dropWhile_cons_of_neg (by simpa using he)]

theorem entriesAt?_ne_nil {outline : List Outline} {a : Place} (h0 : a ≠ []) {es : List OutlineEntry}
    (h : entriesAt? outline a = some es) : es ≠ [] := by
  obtain ⟨i, a, rfl⟩ := List.exists_cons_of_ne_nil h0
  obtain ⟨_, _, _, _, rfl⟩ := entriesAt?_cons_eq_some.mp h
  exact List.cons_ne_nil _ _

/-- In an outline whose names are plain, different entries have different qualified names. -/
theorem nodup_qnames {outline : List Outline} (h : PlainlyNamed outline) (uri : Url) (package : PackageLocator) :
    ((flatten uri package outline).map (·.qname)).Nodup := by
  obtain ⟨as, has⟩ := exists_enumerates outline
  have hq : ((flatten uri package outline).map (·.qname)).map some =
      as.map fun a => (entriesAt? outline a).map fun es => dotted package.name (pathOf es) := by
    have he := congrArg (List.map (Option.map fun es => dotted package.name (pathOf es))) (has.entries [])
    simp only [List.nil_append, Option.map_id', List.map_map] at he
    rw [flatten_eq, List.map_map, List.map_map]
    exact he
  refine List.Nodup.of_map some ?_
  rw [hq]
  refine List.Nodup.map_on (fun a ha b hb hab => ?_) has.nodup
  obtain ⟨ha0, hsa⟩ := (has.exact a).mp ha
  obtain ⟨hb0, hsb⟩ := (has.exact b).mp hb
  obtain ⟨es, hes⟩ := Option.isSome_iff_exists.mp hsa
  obtain ⟨fs, hfs⟩ := Option.isSome_iff_exists.mp hsb
  rw [hes, hfs, Option.map_some, Option.map_some, Option.some.injEq] at hab
  have hjoin := dotted_inj hab
  rw [h.pathOf_eq hes, h.pathOf_eq hfs] at hjoin
  have hdot : ∀ {a es}, entriesAt? outline a = some es → ∀ n ∈ es.map (·.name), '.' ∉ n.toList := by
    intro a es ha n hn
    obtain ⟨e, he, rfl⟩ := List.mem_map.mp hn
    exact (h.of_entriesAt? ha e he).2
  refine h.place_eq hes hfs (Text.join_inj ?_ ?_ (hdot hes) (hdot hfs) hjoin)
  · simpa using entriesAt?_ne_nil ha0 hes
  · simpa using entriesAt?_ne_nil hb0 hfs

/-- Two structs that share names with their own fields and with each other's. -/
def namesakes : List Outline :=
  [ .node (entryNamed "Server" .struct)
      (some [.node (entryNamed "Addr" .field) none, .node (entryNamed "Server" .field) (some [])]),
    .node (entryNamed "Addr" .struct) (some [.node (entryNamed "Addr" .field) none]) ]

theorem nodup_qnames_namesakes : PlainlyNamed namesakes ∧
    ((flatten connUri ⟨"net", "net", ""⟩ namesakes).map (·.qname)).Nodup := by
  have hnone : PlainlyNamed [] := .intro (by simp) (by simp) (by simp)
  have hserver : PlainlyNamed [.node (entryNamed "Addr" .field) none, .node (entryNamed "Server" .field) (some [])] :=
    .intro (by decide) (by decide) (by simpa [nested] using hnone)
  have haddr : PlainlyNamed [.node (entryNamed "Addr" .field) none] :=
    .intro (by decide) (by decide) (by simpa [nested] using hnone)
  have hnamed : PlainlyNamed namesakes :=
    .intro (by decide) (by decide) (by simpa [nested, namesakes] using ⟨hserver, haddr⟩)
  exact ⟨hnamed, nodup_qnames hnamed connUri _⟩

end Outline

end GoAtlas
