/-
  GoAtlas.Proofs.Enclosure — the nodes around an offset.

  The search goes down from the root, each time into the first child that contains the offset, and never back. In
  a tree whose spans are nested (`Nested`) nothing is missed that way: at most one child contains the offset, and
  below a node that does not contain it no node does.
  - `filter_nodes_eq_nil`: a nested node that does not contain the offset has no node below it that does.
  - `filter_nodes_eq_descent`: of the nodes of a tree, in pre-order, those that contain the offset are the way down.
  - `Leads.pairwise_sizeOf`: the nodes on a way get smaller, so none comes twice.
  - `enclosing_exact`: what the search finds, for every tree, and for a nested one by its nodes alone.
-/
import GoAtlas.Proofs.Scopes

namespace GoAtlas

/-! ## Nested trees -/

namespace Span

/-- Every offset of the one lies in the other. -/
def Within (inner outer : Span) : Prop := ∀ offset, inner.contains offset = true → outer.contains offset = true

/-- No offset lies in both. -/
def Apart (a b : Span) : Prop := ∀ offset, a.contains offset = true → b.contains offset = false

theorem contains_iff {s : Span} {offset : Nat} : s.contains offset = true ↔ s.start ≤ offset ∧ offset < s.stop := by
  simp [contains]

theorem within_of_bounds {inner outer : Span} (h : outer.start ≤ inner.start ∧ inner.stop ≤ outer.stop) :
    inner.Within outer := by
  intro offset ho
  rw [contains_iff] at ho ⊢
  omega

theorem apart_of_bounds {a b : Span} (h : a.stop ≤ b.start) : a.Apart b := by
  intro offset ho
  rw [← Bool.not_eq_true, contains_iff]
  rw [contains_iff] at ho
  omega

end Span

namespace Node

/-- Every child lies within its parent, and no two siblings share an offset. -/
inductive Nested : Node → Prop
  | mk {kind : NodeKind} {span : Span} {children : List Node} (within : ∀ c ∈ children, c.span.Within span)
      (apart : children.Pairwise fun a b => a.span.Apart b.span) (below : ∀ c ∈ children, Nested c) :
      Nested (.mk kind span children)

mutual

/-- The node and all nodes below it, each before those below itself. -/
def nodes : Node → List Node
  | .mk k s cs => .mk k s cs :: nodesOf cs

def nodesOf : List Node → List Node
  | [] => []
  | c :: cs => nodes c ++ nodesOf cs

end

variable {offset : Nat}

mutual

theorem filter_nodes_eq_nil : (n : Node) → n.Nested → n.contains offset = false →
    n.nodes.filter (·.contains offset) = []
  | .mk k s cs, .mk within _ below, h => by
    have hcs : ∀ c ∈ cs, c.contains offset = false := by
      intro c hc
      rw [← Bool.not_eq_true]
      intro ho
      have hs : s.contains offset = true := within c hc offset ho
      rw [show (Node.mk k s cs).contains offset = s.contains offset from rfl, hs] at h
      cases h
    rw [nodes, List.filter_cons_of_neg (by simp [h])]
    exact filter_nodesOf_eq_nil cs below hcs

theorem filter_nodesOf_eq_nil : (cs : List Node) → (∀ c ∈ cs, c.Nested) → (∀ c ∈ cs, c.contains offset = false) →
    (nodesOf cs).filter (·.contains offset) = []
  | [], _, _ => rfl
  | c :: cs, hn, h => by
    rw [List.forall_mem_cons] at hn h
    rw [nodesOf, List.filter_append, filter_nodes_eq_nil c hn.1 h.1, filter_nodesOf_eq_nil cs hn.2 h.2]
    rfl

end

mutual

theorem filter_nodes_eq_descent : (n : Node) → n.Nested → n.contains offset = true →
    n.nodes.filter (·.contains offset) = descent offset n
  | .mk k s cs, .mk _ apart below, h => by
    rw [nodes, List.filter_cons_of_pos (by simp [h]), descent, filter_nodesOf_eq_descentFirst cs apart below]

theorem filter_nodesOf_eq_descentFirst : (cs : List Node) → (cs.Pairwise fun a b => a.span.Apart b.span) →
    (∀ c ∈ cs, c.Nested) → (nodesOf cs).filter (·.contains offset) = descentFirst offset cs
  | [], _, _ => rfl
  | c :: cs, apart, below => by
    obtain ⟨hc, hcs⟩ := List.pairwise_cons.mp apart
    rw [List.forall_mem_cons] at below
    rw [nodesOf, List.filter_append, descentFirst]
    by_cases h : c.contains offset = true
    · -- no later sibling contains the offset
      have hlater : ∀ d ∈ cs, d.contains offset = false := fun d hd => hc d hd offset h
      rw [if_pos h, filter_nodes_eq_descent c below.1 h, filter_nodesOf_eq_nil cs below.2 hlater, List.append_nil]
    · rw [if_neg h, filter_nodes_eq_nil c below.1 (Bool.not_eq_true _ ▸ h), List.nil_append,
        filter_nodesOf_eq_descentFirst cs hcs below.2]

end

/-! ## The way down -/

theorem sizeOf_lt_of_mem_children {n c : Node} (h : c ∈ n.children) : sizeOf c < sizeOf n := by
  cases n with
  | mk k s cs =>
    have hc := List.sizeOf_lt_of_mem h
    change sizeOf c < sizeOf cs at hc
    rw [Node.mk.sizeOf_spec]
    omega

theorem Leads.sizeOf_le {n : Node} {way : List Node} (h : Leads offset n way) : ∀ m ∈ way, sizeOf m ≤ sizeOf n := by
  induction h with
  | last _ => simp
  | @into n c way hc _ ih =>
    have hlt := sizeOf_lt_of_mem_children (List.mem_of_find?_eq_some hc)
    intro m hm
    rcases List.mem_cons.mp hm with rfl | hm
    · exact Nat.le_refl _
    · have := ih m hm
      omega

theorem Leads.pairwise_sizeOf {n : Node} {way : List Node} (h : Leads offset n way) :
    way.Pairwise fun a b => sizeOf b < sizeOf a := by
  induction h with
  | last _ => exact List.pairwise_singleton ..
  | @into n c way hc hway ih =>
    refine List.pairwise_cons.mpr ⟨?_, ih⟩
    intro m hm
    have hlt := sizeOf_lt_of_mem_children (List.mem_of_find?_eq_some hc)
    have hle := hway.sizeOf_le m hm
    omega

theorem Leads.nodup {n : Node} {way : List Node} (h : Leads offset n way) : way.Nodup := by
  refine h.pairwise_sizeOf.imp ?_
  rintro a b hlt rfl
  omega

theorem enclosing_eq_nil {root : Node} : root.enclosing offset = [] ↔ root.contains offset = false := by
  unfold enclosing
  split
  · rename_i h
    simp [h, (leads_descent root).ne_nil]
  · rename_i h
    simpa using h

theorem leads_enclosing {root : Node} (h : root.contains offset = true) :
    Leads offset root (root.enclosing offset).reverse := by
  rw [enclosing, if_pos h, List.reverse_reverse]
  exact leads_descent root

/-- The search finds nothing outside the root; else it goes down from the root, always into the first child that
    contains the offset, until there is none. In a nested tree it finds all nodes that contain the offset, the
    innermost first, and each once. -/
theorem enclosing_exact (root : Node) (offset : Nat) :
    (root.enclosing offset = [] ↔ root.contains offset = false) ∧
    (root.contains offset = true → Leads offset root (root.enclosing offset).reverse) ∧
    (root.Nested → root.enclosing offset = (root.nodes.filter (·.contains offset)).reverse ∧
      (root.enclosing offset).Nodup) := by
  refine ⟨enclosing_eq_nil, leads_enclosing, ?_⟩
  intro hnested
  by_cases h : root.contains offset = true
  · refine ⟨?_, (List.pairwise_reverse.mp (leads_enclosing h).nodup).imp Ne.symm⟩
    rw [filter_nodes_eq_descent root hnested h, enclosing, if_pos h]
  · have hout : root.contains offset = false := by simpa using h
    rw [enclosing_eq_nil.mpr hout, filter_nodes_eq_nil root hnested hout]
    exact ⟨rfl, List.nodup_nil⟩

/-- A file of two declarations, of which the second begins where the first one ends. -/
def twoDecls : Node :=
  .mk .file ⟨0, 20⟩ [.mk .genDecl ⟨0, 8⟩ [], .mk .genDecl ⟨8, 20⟩ [.mk (.ident "x") ⟨12, 13⟩ []]]

theorem enclosing_exact_twoDecls : twoDecls.Nested ∧ (twoDecls.enclosing 8).map span = [⟨8, 20⟩, ⟨0, 20⟩] ∧
    twoDecls.enclosing 8 = (twoDecls.nodes.filter (·.contains 8)).reverse := by
  have hleaf : ∀ k s, (Node.mk k s []).Nested := fun k s => .mk (by simp) .nil (by simp)
  have hsecond : (Node.mk .genDecl ⟨8, 20⟩ [.mk (.ident "x") ⟨12, 13⟩ []]).Nested := by
    refine .mk ?_ (List.pairwise_singleton ..) ?_
    · simp only [List.forall_mem_cons, List.not_mem_nil, false_imp_iff, implies_true, and_true]
      exact Span.within_of_bounds (by decide)
    · simpa using hleaf _ _
  have hnested : twoDecls.Nested := by
    refine .mk ?_ ?_ ?_
    · simp only [List.forall_mem_cons, List.not_mem_nil, false_imp_iff, implies_true, and_true]
      exact ⟨Span.within_of_bounds (by decide), Span.within_of_bounds (by decide)⟩
    · simpa using Span.apart_of_bounds (by decide)
    · simpa using ⟨hleaf _ _, hsecond⟩
  exact ⟨hnested, by decide, ((enclosing_exact twoDecls 8).2.2 hnested).1⟩

end Node

end GoAtlas
