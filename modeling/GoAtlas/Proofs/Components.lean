/-
  GoAtlas.Proofs.Components — what the octets of a path are made of.

  A component is the root, the current directory, the parent directory or the name of an entry. `Denotes`
  says which octets stand for which components: slashes may be repeated and may end a path, and a lone dot
  counts only where a path begins.
  - `exists_denotes` / `Denotes.segments_eq`: all octets stand for components, and the segments of a path
    are the octets of those that it stands for.
  - `denotes_iff`: so there is one list of components for each path.
  - `prefix_components_iff`: their octets tell components apart, so that comparing segments is comparing
    components.
  - `segments_rebuild`: joining the segments of a path that is text, as they are printed, gives a path of the
    same components, and containment is the order of what paths begin with.
-/
import GoAtlas.Proofs.Segments

namespace GoAtlas.Path

open Octets (slash dot)

/-! ## Components -/

inductive Component where
  | root
  | current
  | parent
  | name (octets : Octets) (plain : IsStep octets ∧ octets ≠ [dot, dot])
  deriving DecidableEq

namespace Component

def octets : Component → Octets
  | root => Path.root
  | current => [dot]
  | parent => [dot, dot]
  | name octets _ => octets

/-- The component that a segment writes. -/
def ofOctets? (s : Octets) : Option Component :=
  if s = Path.root then some root
  else if s = [dot] then some current
  else if hup : s = [dot, dot] then some parent
  else if hstep : IsStep s then some (name s ⟨hstep, hup⟩)
  else none

theorem isStep_octets {c : Component} (hroot : c ≠ root) (hcurrent : c ≠ current) : IsStep c.octets := by
  cases c with
  | root => exact absurd rfl hroot
  | current => exact absurd rfl hcurrent
  | parent => decide
  | name s plain => exact plain.1

theorem slash_notMem_octets {c : Component} (hroot : c ≠ root) : slash ∉ c.octets := by
  by_cases hcurrent : c = current
  · subst hcurrent
    decide
  · exact (isStep_octets hroot hcurrent).2

theorem octets_ne_nil (c : Component) : c.octets ≠ [] := by
  cases c with
  | root => decide
  | current => decide
  | parent => decide
  | name s plain => exact plain.1.ne_empty

/-- A step is what a component other than the root and the current directory is written as. -/
theorem exists_octets_eq {s : Octets} (h : IsStep s) : ∃ c : Component, c ≠ root ∧ c ≠ current ∧ c.octets = s := by
  by_cases hup : s = [dot, dot]
  · exact ⟨parent, by simp, by simp, hup.symm⟩
  · exact ⟨name s ⟨h, hup⟩, by simp, by simp, rfl⟩

theorem ofOctets?_octets (c : Component) : ofOctets? c.octets = some c := by
  cases c with
  | root => rfl
  | current => rfl
  | parent => rfl
  | name s plain =>
    have hroot : s ≠ Path.root := by
      rintro rfl
      exact absurd plain.1 (by decide)
    have hcurrent : s ≠ [dot] := by
      rintro rfl
      exact absurd plain.1 (by decide)
    simp [octets, ofOctets?, hroot, hcurrent, plain]

theorem filterMap_ofOctets? (cs : List Component) : (cs.map octets).filterMap ofOctets? = cs := by
  induction cs with
  | nil => rfl
  | cons c cs ih => simp [ofOctets?_octets, ih]

end Component

/-! ## What stands for components -/

/-- After a component the octets go on with these components. -/
inductive Continues : Octets → List Component → Prop
  | done : Continues [] []
  /-- One slash more, before another one or at the end. -/
  | slash {t : Octets} {cs : List Component} : Continues t cs → Continues (slash :: t) cs
  /-- A lone dot that does not begin the path. -/
  | dot {t : Octets} {cs : List Component} : Continues t cs → Continues (slash :: dot :: t) cs
  | step {c : Component} {t : Octets} {cs : List Component} : c ≠ .root → c ≠ .current → Continues t cs →
      Continues (slash :: (c.octets ++ t)) (c :: cs)

/-- The octets stand for these components. -/
inductive Denotes : Octets → List Component → Prop
  | empty : Denotes [] []
  | absolute {t : Octets} {cs : List Component} : Continues (slash :: t) cs → Denotes (slash :: t) (.root :: cs)
  | relative {c : Component} {t : Octets} {cs : List Component} : c ≠ .root → Continues t cs →
      Denotes (c.octets ++ t) (c :: cs)

/-- What follows the first piece, without the idle pieces, are the components that the octets go on with. -/
theorem Continues.fields_append {t : Octets} {cs : List Component} (h : Continues t cs) (first : Octets)
    (hf : Octets.slash ∉ first) : ∃ rest, Text.fields Octets.slash (first ++ t) = first :: rest ∧
      rest.filter (fun s => !idle s) = cs.map Component.octets := by
  induction h generalizing first with
  | done =>
    refine ⟨[], ?_, rfl⟩
    rw [List.append_nil, Text.fields_of_notMem hf]
  | slash _ ih =>
    obtain ⟨rest, hrest, hcs⟩ := ih [] (by simp)
    refine ⟨[] :: rest, ?_, ?_⟩
    · rw [Text.fields_append_piece hf, ← hrest, List.nil_append]
    · simpa [idle] using hcs
  | dot _ ih =>
    obtain ⟨rest, hrest, hcs⟩ := ih [Octets.dot] (by decide)
    refine ⟨[Octets.dot] :: rest, ?_, ?_⟩
    · rw [Text.fields_append_piece hf, ← hrest]
      rfl
    · rw [List.filter_cons_of_neg (by decide), hcs]
  | @step c _ _ hroot hcurrent _ ih =>
    have hstep := Component.isStep_octets hroot hcurrent
    obtain ⟨rest, hrest, hcs⟩ := ih c.octets hstep.2
    refine ⟨c.octets :: rest, ?_, ?_⟩
    · rw [Text.fields_append_piece hf, ← hrest]
    · simp [hstep.1, hcs]

/-- The segments of a path are what the components are written as that it stands for. -/
theorem Denotes.segments_eq {p : Path} {cs : List Component} (h : Denotes p.octets cs) :
    p.segments = cs.map Component.octets := by
  generalize ht : p.octets = o at h
  have hpieces : p.pieces = Text.fields Octets.slash o := by rw [pieces, ht]
  cases h with
  | empty => exact segments_of_pieces hpieces
  | @absolute t cs h =>
    obtain ⟨rest, hrest, hcs⟩ := h.fields_append [] (by simp)
    -- the slash that makes the path absolute is followed by a piece, if only an empty one
    have hne : rest ≠ [] := by
      rintro rfl
      simp [Text.fields, Text.fields_ne_nil] at hrest
    rw [List.nil_append] at hrest
    rw [hrest] at hpieces
    rw [segments_of_pieces hpieces]
    simp [segmentsOf, hne, hcs, Component.octets]
  | @relative c t cs hroot h =>
    obtain ⟨rest, hrest, hcs⟩ := h.fields_append c.octets (Component.slash_notMem_octets hroot)
    rw [hrest] at hpieces
    rw [segments_of_pieces hpieces]
    simp [segmentsOf, c.octets_ne_nil, hcs]

/-- Pieces that follow a first one are written as octets that go on with some components. -/
theorem exists_continues {rest : List Octets} (h : ∀ x ∈ rest, slash ∉ x) :
    ∃ t cs, Continues t cs ∧ ∀ first, Text.joinFields [Octets.slash] (first :: rest) = first ++ t := by
  induction rest with
  | nil => exact ⟨[], [], .done, fun first => by simp [Text.joinFields]⟩
  | cons x rest ih =>
    rw [List.forall_mem_cons] at h
    obtain ⟨t, cs, ht, hjoin⟩ := ih h.2
    have hnext : ∀ first, Text.joinFields [Octets.slash] (first :: x :: rest) = first ++ slash :: (x ++ t) := by
      intro first
      rw [Text.joinFields, hjoin x, List.append_assoc, List.singleton_append]
    by_cases hidle : idle x = true
    · have hx : x = [] ∨ x = [dot] := by simpa [idle] using hidle
      rcases hx with rfl | rfl
      · exact ⟨_, cs, .slash ht, hnext⟩
      · exact ⟨_, cs, .dot ht, hnext⟩
    · have hstep : IsStep x := ⟨by simpa using hidle, h.1⟩
      obtain ⟨c, hroot, hcurrent, rfl⟩ := Component.exists_octets_eq hstep
      exact ⟨_, c :: cs, .step hroot hcurrent ht, hnext⟩

/-- All octets stand for components. -/
theorem exists_denotes (o : Octets) : ∃ cs, Denotes o cs := by
  obtain ⟨first, rest, hfields⟩ := List.exists_cons_of_ne_nil (Text.fields_ne_nil slash o)
  have hslash : ∀ x ∈ first :: rest, slash ∉ x := fun x hx => Text.notMem_of_mem_fields (hfields ▸ hx)
  rw [List.forall_mem_cons] at hslash
  obtain ⟨t, cs, ht, hjoin⟩ := exists_continues hslash.2
  have ho : o = first ++ t := by
    rw [← hjoin first, ← hfields, Text.joinFields_fields]
  by_cases hempty : first = []
  · -- octets that begin with a slash, or none
    rw [ho, hempty, List.nil_append]
    cases ht with
    | done => exact ⟨_, .empty⟩
    | slash h => exact ⟨_, .absolute (.slash h)⟩
    | dot h => exact ⟨_, .absolute (.dot h)⟩
    | step hroot hcurrent h => exact ⟨_, .absolute (.step hroot hcurrent h)⟩
  · have hfirst : ∃ c : Component, c ≠ .root ∧ c.octets = first := by
      by_cases hdot : first = [dot]
      · exact ⟨.current, by simp, hdot.symm⟩
      · have hstep : IsStep first :=
          ⟨by simp [idle, hempty, hdot], hslash.1⟩
        obtain ⟨c, hroot, _, hc⟩ := Component.exists_octets_eq hstep
        exact ⟨c, hroot, hc⟩
    obtain ⟨c, hroot, hc⟩ := hfirst
    rw [ho, ← hc]
    exact ⟨_, .relative hroot ht⟩

/-! ## The components of a path -/

def components (p : Path) : List Component := p.segments.filterMap Component.ofOctets?

theorem Denotes.components_eq {p : Path} {cs : List Component} (h : Denotes p.octets cs) : cs = p.components := by
  rw [components, h.segments_eq, Component.filterMap_ofOctets?]

theorem denotes_iff {p : Path} {cs : List Component} : Denotes p.octets cs ↔ cs = p.components := by
  constructor
  · exact Denotes.components_eq
  · rintro rfl
    obtain ⟨cs, hcs⟩ := exists_denotes p.octets
    exact hcs.components_eq ▸ hcs

theorem segments_eq_map_components (p : Path) : p.segments = p.components.map Component.octets :=
  (denotes_iff.mpr rfl).segments_eq

theorem prefix_components_iff {p q : Path} : q.components <+: p.components ↔ q.segments <+: p.segments := by
  constructor
  · intro h
    rw [segments_eq_map_components, segments_eq_map_components]
    exact h.map Component.octets
  · intro h
    exact h.filterMap Component.ofOctets?

/-- Every path that is text has one list of components that its octets stand for, and its segments are their
    octets and come back from what is printed of them. Joined one after the other, the printed segments give a
    path of the same components and of the same printed segments. And a path lies inside another one that is
    not empty exactly if it begins with its components or, which is the same for texts, with its printed
    segments. -/
theorem segments_rebuild (p : Path) (htext : p.IsText) :
    (∀ cs, Denotes p.octets cs ↔ cs = p.components) ∧
    Segments.ofTexts p.segments.shown = p.components.map Component.octets ∧
    (ofSegments (.ofTexts p.segments.shown)).components = p.components ∧
    (ofSegments (.ofTexts p.segments.shown)).segments.shown = p.segments.shown ∧
    ∀ q : Path, (p.isInside q = true ↔ q.octets ≠ [] ∧ q.components <+: p.components) ∧
      (q.octets ≠ [] → q.IsText → (p.isInside q = true ↔ q.segments.shown <+: p.segments.shown)) := by
  have hshown : Segments.ofTexts p.segments.shown = p.segments := Segments.ofTexts_shown htext.segments
  have hsegments : (ofSegments p.segments).segments = p.segments := segments_ofSegments p.proper_segments
  rw [hshown]
  refine ⟨fun cs => denotes_iff, p.segments_eq_map_components, ?_, by rw [hsegments], ?_⟩
  · rw [components, hsegments, components]
  · intro q
    rw [prefix_components_iff]
    refine ⟨isInside_iff, fun hq hqtext => ?_⟩
    rw [isInside_iff, and_iff_right hq, Segments.shown_prefix_iff hqtext.segments htext.segments]

theorem segments_rebuild_untidy :
    (⟨".//a/./../b/"⟩ : Path).IsText ∧
    ofSegments (.ofTexts (⟨".//a/./../b/"⟩ : Path).segments.shown) = ⟨"./a/../b"⟩ ∧
    (⟨"./a/../b"⟩ : Path).components = (⟨".//a/./../b/"⟩ : Path).components ∧
    (⟨"./a//."⟩ : Path).octets ≠ [] ∧ (⟨"./a//."⟩ : Path).IsText ∧
    (⟨".//a/./../b/"⟩ : Path).isInside ⟨"./a//."⟩ = true := by
  have htext : (⟨".//a/./../b/"⟩ : Path).IsText := Octets.isText_ofText _
  have habove : (⟨"./a//."⟩ : Path).IsText := Octets.isText_ofText _
  obtain ⟨_, _, hcomponents, _, hinside⟩ := segments_rebuild ⟨".//a/./../b/"⟩ htext
  have hrebuilt : ofSegments (.ofTexts (⟨".//a/./../b/"⟩ : Path).segments.shown) = ⟨"./a/../b"⟩ := by decide +kernel
  have hnonempty : (⟨"./a//."⟩ : Path).octets ≠ [] := by decide
  rw [hrebuilt] at hcomponents
  exact ⟨htext, hrebuilt, hcomponents, hnonempty, habove, ((hinside _).2 hnonempty habove).mpr (by decide +kernel)⟩

end GoAtlas.Path
