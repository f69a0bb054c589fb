/-
  GoAtlas.Proofs.Scopes — qualified names told from the top of the tree.

  The name of a declaration is collected from the innermost node outwards. The statements here go the other way:
  - `leads_descent` / `Leads.unique`: there is one way down to an offset, always into the first child that contains it.
  - `Spells.scopes_eq`: the names that the nodes on the way add, from the top, are the scopes of the declaration.
  - `qualifiedName_topDown`: so the qualified name is the package, these names and the declaration's own.
  - `qualifiedName_like`: trees that differ in co-declared names, in pointers of receivers, in identifiers and in kinds
    that add nothing give a declaration the same name.
-/
import GoAtlas.Proofs.Naming
import Mathlib.Data.List.Forall2

namespace GoAtlas

/-! ## The way down -/

namespace Node

/-- The nodes on the way down from a node: on into the first child that contains the offset, while there is one. -/
inductive Leads (offset : Nat) : Node → List Node → Prop
  | last {n : Node} (h : n.children.find? (·.contains offset) = none) : Leads offset n [n]
  | into {n c : Node} {way : List Node} (hc : n.children.find? (·.contains offset) = some c)
      (h : Leads offset c way) : Leads offset n (n :: way)

variable {offset : Nat}

mutual

theorem leads_descent : (n : Node) → Leads offset n (descent offset n)
  | .mk k s cs => by
    obtain ⟨hnone, hsome⟩ := leads_descentFirst cs
    rw [descent]
    cases hc : cs.find? (·.contains offset) with
    | none =>
      rw [hnone hc]
      exact .last hc
    | some c => exact .into hc (hsome c hc)

theorem leads_descentFirst : (cs : List Node) →
    (cs.find? (·.contains offset) = none → descentFirst offset cs = []) ∧
      ∀ c, cs.find? (·.contains offset) = some c → Leads offset c (descentFirst offset cs)
  | [] => ⟨fun _ => rfl, fun _ h => nomatch h⟩
  | c :: cs => by
    rw [descentFirst, List.find?_cons]
    by_cases h : c.contains offset = true
    · simp only [h, if_true]
      constructor
      · intro e
        cases e
      · rintro _ ⟨rfl⟩
        exact leads_descent c
    · simp only [h]
      exact leads_descentFirst cs

end

theorem Leads.ne_nil {n : Node} {way : List Node} (h : Leads offset n way) : way ≠ [] := by
  cases h <;> simp

theorem Leads.unique {n : Node} {way way' : List Node} (h : Leads offset n way) (h' : Leads offset n way') :
    way = way' := by
  induction h generalizing way' with
  | last h =>
    cases h' with
    | last _ => rfl
    | into hc' _ => rw [h] at hc'; cases hc'
  | into hc _ ih =>
    cases h' with
    | last h' => rw [hc] at h'; cases h'
    | into hc' h' =>
      rw [hc, Option.some.injEq] at hc'
      subst hc'
      rw [ih h']

theorem Leads.enclosing_eq {root : Node} {way : List Node} (h : Leads offset root way)
    (hroot : root.contains offset = true) : root.enclosing offset = way.reverse := by
  rw [enclosing, if_pos hroot, h.unique (leads_descent root)]

end Node

/-! ## The names on the way -/

/-- What a node of a kind adds to the names below it, given the kind directly around it. -/
inductive NodeKind.Adds : NodeKind → Option NodeKind → String → Prop
  | typeStruct (name : String) : Adds .structType (some (.typeSpec name)) name
  | fieldStruct (first : String) (others : List String) : Adds .structType (some (.field (first :: others))) first
  | valueStruct (first : String) (others : List String) : Adds .structType (some (.valueSpec (first :: others))) first
  | typeInterface (name : String) : Adds .interfaceType (some (.typeSpec name)) name
  | method (base : String) (around : Option NodeKind) : Adds (.funcDecl (some (.named base))) around base
  | pointerMethod (base : String) (around : Option NodeKind) : Adds (.funcDecl (some (.pointer base))) around base

theorem NodeKind.scopeName?_eq_some {kind : NodeKind} {around : Option NodeKind} {name : String} :
    kind.scopeName? around = some name ↔ kind.Adds around name := by
  constructor
  · intro h
    unfold scopeName? at h
    split at h
    · cases h
      exact .typeStruct name
    · rename_i names
      cases names with
      | nil => cases h
      | cons first others => cases h; exact .fieldStruct name others
    · rename_i names
      cases names with
      | nil => cases h
      | cons first others => cases h; exact .valueStruct name others
    · cases h
      exact .typeInterface name
    · rename_i receiver
      cases receiver with
      | named base => cases h; exact .method base _
      | pointer base => cases h; exact .pointerMethod base _
    · cases h
  · intro h
    cases h <;> rfl

/-- The names that the nodes of a way add, all but the last, where `around` is directly around the first. -/
inductive Spells : Option NodeKind → List Node → List String → Prop
  | last (around : Option NodeKind) (n : Node) : Spells around [n] []
  | adds {around : Option NodeKind} {n : Node} {way : List Node} {name : String} {names : List String}
      (hname : n.kind.Adds around name) (h : Spells (some n.kind) way names) : Spells around (n :: way) (name :: names)
  | passes {around : Option NodeKind} {n : Node} {way : List Node} {names : List String}
      (hname : ∀ name, ¬n.kind.Adds around name) (h : Spells (some n.kind) way names) : Spells around (n :: way) names

/-- As `scopeNames`, with `around` directly around the outermost node. -/
def scopeNamesWithin (around : Option NodeKind) : List Node → List String
  | [] => []
  | [n] => (n.kind.scopeName? around).toList
  | n :: p :: rest => (n.kind.scopeName? (some p.kind)).toList ++ scopeNamesWithin around (p :: rest)

theorem scopeNamesWithin_none (ns : List Node) : scopeNamesWithin none ns = scopeNames ns := by
  fun_induction scopeNames ns with
  | case1 => rfl
  | case2 n => rfl
  | case3 n p rest ih => rw [scopeNamesWithin, ih]

/-- One node more around all others is asked last, and is what the one before it is asked about. -/
theorem scopeNamesWithin_append (around : Option NodeKind) (ns : List Node) (n : Node) :
    scopeNamesWithin around (ns ++ [n]) =
      scopeNamesWithin (some n.kind) ns ++ (n.kind.scopeName? around).toList := by
  fun_induction scopeNamesWithin (some n.kind) ns with
  | case1 => rfl
  | case2 m => rfl
  | case3 m p rest ih => rw [List.append_assoc, ← ih]; rfl

namespace Spells

variable {around : Option NodeKind} {way : List Node} {names : List String}

theorem ne_nil (h : Spells around way names) : way ≠ [] := by
  cases h <;> simp

/-- From the innermost node outwards the names come in reverse. -/
theorem scopeNames_eq (h : Spells around way names) : scopeNamesWithin around (way.reverse.drop 1) = names.reverse := by
  -- the outermost node of a way stands last in its reverse
  have houter : ∀ {n : Node} {rest : List Node}, rest ≠ [] →
      ((n :: rest).reverse.drop 1) = rest.reverse.drop 1 ++ [n] := by
    intro n rest hrest
    rw [List.reverse_cons, List.drop_append_of_le_length]
    simpa [Nat.one_le_iff_ne_zero] using hrest
  induction h with
  | last around n => rfl
  | adds hname h ih =>
    rw [houter h.ne_nil, scopeNamesWithin_append, ih, NodeKind.scopeName?_eq_some.mpr hname, List.reverse_cons]
    rfl
  | @passes around n _ _ hname h ih =>
    have hnone : n.kind.scopeName? around = none :=
      Option.eq_none_iff_forall_ne_some.mpr fun name e => hname name (NodeKind.scopeName?_eq_some.mp e)
    rw [houter h.ne_nil, scopeNamesWithin_append, ih, hnone, Option.toList_none, List.append_nil]

end Spells

theorem exists_spells (around : Option NodeKind) {way : List Node} (h : way ≠ []) : ∃ names, Spells around way names := by
  induction way generalizing around with
  | nil => exact absurd rfl h
  | cons n rest ih =>
    cases rest with
    | nil => exact ⟨[], .last around n⟩
    | cons m rest =>
      obtain ⟨names, hnames⟩ := ih (some n.kind) (List.cons_ne_nil m rest)
      cases hname : n.kind.scopeName? around with
      | none =>
        refine ⟨names, .passes ?_ hnames⟩
        intro name hadds
        rw [NodeKind.scopeName?_eq_some.mpr hadds] at hname
        cases hname
      | some name => exact ⟨name :: names, .adds (NodeKind.scopeName?_eq_some.mp hname) hnames⟩

/-! ## Names from the top -/

/-- The name of the package if there is one. -/
def Declaration.packageNames (d : Declaration) : List String := d.package.toList.map (·.name)

theorem Declaration.qualifiedName_eq_join (d : Declaration) (root : Node) :
    d.qualifiedName root = Text.join "." (d.packageNames ++ d.scopes root ++ [d.name]) := by
  have hname : nameBelow (scopeNames ((root.enclosing d.offset).drop 1)) d.name =
      Text.join "." (d.scopes root ++ [d.name]) := nameBelow_eq_join _ _
  rw [qualifiedName, hname, packageNames]
  cases d.package with
  | none => rfl
  | some p =>
    rw [Option.toList_some, List.map_singleton, List.append_assoc, List.singleton_append, Text.join_cons (by simp)]
    rfl

theorem Spells.scopes_eq {root : Node} {d : Declaration} {way : List Node} {names : List String}
    (hroot : root.contains d.offset = true) (hway : root.Leads d.offset way) (h : Spells none way names) :
    d.scopes root = names := by
  rw [Declaration.scopes, hway.enclosing_eq hroot, ← scopeNamesWithin_none, h.scopeNames_eq, List.reverse_reverse]

/-- The qualified name read off the one way down to the declaration: the package, the names that the nodes on the way
    add, the declaration. -/
theorem qualifiedName_topDown (root : Node) (d : Declaration) :
    (root.contains d.offset = false → d.qualifiedName root = Text.join "." (d.packageNames ++ [d.name])) ∧
    (root.contains d.offset = true → ∃ way names, root.Leads d.offset way ∧ Spells none way names ∧
      (∀ way' names', root.Leads d.offset way' → Spells none way' names' → way' = way ∧ names' = names) ∧
      d.qualifiedName root = Text.join "." (d.packageNames ++ names ++ [d.name])) := by
  constructor
  · intro hroot
    have hscopes : d.scopes root = [] := by simp [Declaration.scopes, Node.enclosing, hroot, scopeNames]
    rw [d.qualifiedName_eq_join, hscopes, List.append_nil]
  · intro hroot
    have hway : root.Leads d.offset (root.descent d.offset) := Node.leads_descent root
    obtain ⟨names, hnames⟩ := exists_spells none hway.ne_nil
    refine ⟨_, names, hway, hnames, ?_, ?_⟩
    · intro way' names' hway' hnames'
      exact ⟨hway'.unique hway, (hnames'.scopes_eq hroot hway').symm.trans (hnames.scopes_eq hroot hway)⟩
    · rw [d.qualifiedName_eq_join, hnames.scopes_eq hroot hway]

/-! ## What a name does not depend on -/

/-- The kinds that neither add a name nor lend one. -/
def NodeKind.isSilent : NodeKind → Bool
  | .file | .genDecl | .fieldList | .funcType | .blockStmt | .ident _ | .other => true
  | _ => false

/-- Kinds that differ in names after the first, in the pointer of a receiver, or that are both silent. -/
inductive NodeKind.Like : NodeKind → NodeKind → Prop
  | refl (k : NodeKind) : Like k k
  | values (first : String) (others others' : List String) :
      Like (.valueSpec (first :: others)) (.valueSpec (first :: others'))
  | fields (first : String) (others others' : List String) : Like (.field (first :: others)) (.field (first :: others'))
  | receivers {r r' : Receiver} (h : r.base = r'.base) : Like (.funcDecl (some r)) (.funcDecl (some r'))
  | silent {k k' : NodeKind} (h : k.isSilent = true) (h' : k'.isSilent = true) : Like k k'

/-- Trees of one shape with the same spans and with kinds that are alike. -/
inductive Node.Like : Node → Node → Prop
  | mk {k k' : NodeKind} {s : Span} {cs cs' : List Node} (hk : k.Like k') (hcs : List.Forall₂ Node.Like cs cs') :
      Node.Like (.mk k s cs) (.mk k' s cs')

namespace NodeKind

theorem scopeName?_of_isSilent {k : NodeKind} (h : k.isSilent = true) (around : Option NodeKind) :
    k.scopeName? around = none := by
  cases k with
  | file | genDecl | fieldList | funcType | blockStmt | ident | other => rfl
  | typeSpec | valueSpec | field | structType | interfaceType | funcDecl => cases h

theorem scopeName?_inside_silent (k : NodeKind) {around : NodeKind} (h : around.isSilent = true) :
    k.scopeName? (some around) = k.scopeName? none := by
  cases k with
  | structType | interfaceType =>
    cases around with
    | file | genDecl | fieldList | funcType | blockStmt | ident | other => rfl
    | typeSpec | valueSpec | field | structType | interfaceType | funcDecl => cases h
  | funcDecl receiver => cases receiver <;> rfl
  | _ => rfl

/-- A kind may be put in the place of one like it, also around another. -/
theorem Like.scopeName?_eq {k k' : NodeKind} (h : k.Like k') (around : Option NodeKind) :
    k.scopeName? around = k'.scopeName? around := by
  cases h with
  | refl => rfl
  | values | fields => rfl
  | receivers h => simp [scopeName?, h]
  | silent h h' => rw [scopeName?_of_isSilent h, scopeName?_of_isSilent h']

theorem Like.scopeName?_inside {around around' : NodeKind} (h : around.Like around') (k : NodeKind) :
    k.scopeName? (some around) = k.scopeName? (some around') := by
  cases h with
  | refl => rfl
  | values | fields | receivers =>
    cases k with
    | funcDecl receiver => cases receiver <;> rfl
    | _ => rfl
  | silent h h' => rw [scopeName?_inside_silent k h, scopeName?_inside_silent k h']

end NodeKind

namespace Node.Like

theorem kind {n n' : Node} (h : n.Like n') : n.kind.Like n'.kind := by
  cases h with
  | mk hk _ => exact hk

theorem contains_eq {n n' : Node} (h : n.Like n') (offset : Nat) : n.contains offset = n'.contains offset := by
  cases h with
  | mk _ _ => rfl

variable {offset : Nat}

mutual

/-- Trees that are alike are walked down alike. -/
theorem descent : (n n' : Node) → n.Like n' → List.Forall₂ Node.Like (n.descent offset) (n'.descent offset)
  | .mk _ _ cs, .mk _ _ cs', .mk hk hcs => by
    rw [Node.descent, Node.descent]
    exact .cons (.mk hk hcs) (descentFirst cs cs' hcs)

theorem descentFirst : (cs cs' : List Node) → List.Forall₂ Node.Like cs cs' →
    List.Forall₂ Node.Like (Node.descentFirst offset cs) (Node.descentFirst offset cs')
  | [], [], .nil => .nil
  | c :: cs, c' :: cs', .cons hc hcs => by
    rw [Node.descentFirst, Node.descentFirst, hc.contains_eq offset]
    split
    · exact descent c c' hc
    · exact descentFirst cs cs' hcs

end

theorem enclosing {root root' : Node} (h : root.Like root') :
    List.Forall₂ Node.Like (root.enclosing offset) (root'.enclosing offset) := by
  unfold Node.enclosing
  rw [h.contains_eq offset]
  split
  · exact List.rel_reverse (descent root root' h)
  · exact .nil

end Node.Like

theorem scopeNames_like {ns ns' : List Node} (h : List.Forall₂ Node.Like ns ns') : scopeNames ns = scopeNames ns' := by
  induction h with
  | nil => rfl
  | cons h hrest ih =>
    cases hrest with
    | nil => rw [scopeNames, scopeNames, h.kind.scopeName?_eq]
    | cons hp hrest => rw [scopeNames, scopeNames, ih, h.kind.scopeName?_eq, hp.kind.scopeName?_inside]

theorem Declaration.qualifiedName_congr {root root' : Node} (h : root.Like root') (d : Declaration) :
    d.qualifiedName root = d.qualifiedName root' := by
  unfold qualifiedName
  rw [scopeNames_like (List.forall₂_drop 1 h.enclosing)]

/-- The kind with no name after its first. -/
def NodeKind.firstName : NodeKind → NodeKind
  | .valueSpec (first :: _) => .valueSpec [first]
  | .field (first :: _) => .field [first]
  | k => k

theorem NodeKind.like_firstName (k : NodeKind) : k.Like k.firstName := by
  unfold firstName
  split
  · exact .values ..
  · exact .fields ..
  · exact .refl _

namespace Node

mutual

/-- The tree where only the first of several co-declared names is left. -/
def firstNames : Node → Node
  | .mk k s cs => .mk k.firstName s (firstNamesAll cs)

def firstNamesAll : List Node → List Node
  | [] => []
  | c :: cs => firstNames c :: firstNamesAll cs

end

mutual

theorem like_firstNames : (n : Node) → n.Like n.firstNames
  | .mk k _ cs => by
    rw [firstNames]
    exact .mk k.like_firstName (like_firstNamesAll cs)

theorem like_firstNamesAll : (cs : List Node) → List.Forall₂ Node.Like cs (firstNamesAll cs)
  | [] => .nil
  | c :: cs => .cons (like_firstNames c) (like_firstNamesAll cs)

end

end Node

/-- Trees that are alike name every declaration alike; co-declared names collapse to the first. -/
theorem qualifiedName_like {root root' : Node} (h : root.Like root') (d : Declaration) :
    d.qualifiedName root = d.qualifiedName root' ∧ d.qualifiedName root = d.qualifiedName root.firstNames :=
  ⟨d.qualifiedName_congr h, d.qualifiedName_congr root.like_firstNames⟩

/-- The file of `connFile` with a second variable and a second field, a method of the value and other silent kinds. -/
def connFileTwin : Node :=
  .mk .other ⟨0, 60⟩
    [ .mk (.funcDecl (some (.named "Conn"))) ⟨0, 50⟩
        [ .mk .genDecl ⟨21, 50⟩
            [ .mk (.valueSpec ["buf", "spare"]) ⟨28, 47⟩
                [ .mk (.ident "spare") ⟨28, 31⟩ [],
                  .mk .structType ⟨32, 47⟩
                    [.mk .funcType ⟨38, 47⟩ [.mk (.field ["n", "m"]) ⟨40, 45⟩ [.mk .other ⟨40, 41⟩ []]]] ] ] ] ]

theorem qualifiedName_like_connField :
    connFile.Like connFileTwin ∧ connField.qualifiedName connFile = connField.qualifiedName connFileTwin ∧
      connField.qualifiedName connFileTwin.firstNames = "net.Conn.buf.n" := by
  have hlike : connFile.Like connFileTwin :=
    .mk (.silent rfl rfl) (.cons (.mk (.receivers rfl) (.cons (.mk (.silent rfl rfl) (.cons
      (.mk (.values "buf" [] ["spare"]) (.cons (.mk (.silent rfl rfl) .nil) (.cons
        (.mk (.refl .structType) (.cons (.mk (.silent rfl rfl) (.cons
          (.mk (.fields "n" [] ["m"]) (.cons (.mk (.silent rfl rfl) .nil) .nil)) .nil)) .nil)) .nil))) .nil)) .nil)) .nil)
  exact ⟨hlike, (qualifiedName_like hlike connField).1, by decide +kernel⟩

end GoAtlas
