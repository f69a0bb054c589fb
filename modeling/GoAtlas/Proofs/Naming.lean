/-
  GoAtlas.Proofs.Naming — one symbol has one qualified name.

  An outline names its entries from the outside in, one level of nesting at a time. A declaration is named from
  the inside out, by the scopes around it in the source. Both are the names on the way, joined by dots.
  - `flatten_eq`: flattening lists each entry of an outline by the way that leads to it, in pre-order.
  - `path_eq_join` / `nameBelow_eq_join`: both names as a join.
  - `qname_flatten_eq`: so they agree wherever the ways do.
-/
import GoAtlas.Scope.QualifiedName
import GoAtlas.Symbol.Outline
import Mathlib.Data.List.Induction

namespace GoAtlas

/-! ## From the outside in -/

/-- An entry of an outline with the entries above it, the topmost first. -/
structure Way where
  above : List OutlineEntry
  entry : OutlineEntry
  deriving DecidableEq, Repr

namespace Way

def entries (w : Way) : List OutlineEntry := w.above ++ [w.entry]

/-- The names on the way. -/
def names (w : Way) : List String := w.entries.map (·.name)

end Way

namespace Outline

mutual

/-- The ways to the entries of an outline that hangs below the entries `above`, in pre-order. -/
def waysFrom (above : List OutlineEntry) : Outline → List Way
  | .node e children => ⟨above, e⟩ :: waysThrough (above ++ [e]) children

def waysThrough (above : List OutlineEntry) : Option (List Outline) → List Way
  | none => []
  | some os => waysBelow above os

def waysBelow (above : List OutlineEntry) : List Outline → List Way
  | [] => []
  | o :: os => waysFrom above o ++ waysBelow above os

end

/-- The ways to all entries, in pre-order. -/
def ways (outline : List Outline) : List Way := waysBelow [] outline

/-- What nesting makes of entries, the topmost first. -/
def pathOf (es : List OutlineEntry) : String := es.foldl (fun lead e => dotted lead e.name) ""

/-- The name of the innermost of the entries. -/
def containerOf (es : List OutlineEntry) : String := (es.getLast?.map (·.name)).getD ""

theorem pathOf_append (es : List OutlineEntry) (e : OutlineEntry) :
    pathOf (es ++ [e]) = dotted (pathOf es) e.name := by
  simp [pathOf]

theorem containerOf_append (es : List OutlineEntry) (e : OutlineEntry) : containerOf (es ++ [e]) = e.name := by
  simp [containerOf]

/-- The listing of an entry, read off the way to it. -/
def listedAt (uri : Url) (package : PackageLocator) (w : Way) : DetailSymbol :=
  listed uri package (pathOf w.entries) (containerOf w.above) w.entry

section Flattening

variable (uri : Url) (package : PackageLocator)

mutual

theorem flattenNode_eq (above : List OutlineEntry) : (o : Outline) →
    flattenNode uri package (pathOf above) (containerOf above) o = (waysFrom above o).map (listedAt uri package)
  | .node e children => by
    have hbelow := flattenChildren_eq (above ++ [e]) children
    rw [pathOf_append, containerOf_append] at hbelow
    rw [flattenNode, waysFrom, List.map_cons, hbelow, ← pathOf_append]
    rfl

theorem flattenChildren_eq (above : List OutlineEntry) : (os : Option (List Outline)) →
    flattenChildren uri package (pathOf above) (containerOf above) os =
      (waysThrough above os).map (listedAt uri package)
  | none => rfl
  | some os => by
    rw [flattenChildren, waysThrough]
    exact flattenBelow_eq above os

theorem flattenBelow_eq (above : List OutlineEntry) : (os : List Outline) →
    flattenBelow uri package (pathOf above) (containerOf above) os = (waysBelow above os).map (listedAt uri package)
  | [] => rfl
  | o :: os => by
    rw [flattenBelow, waysBelow, List.map_append, flattenNode_eq above o, flattenBelow_eq above os]

end

/-- Flattening lists every entry by the way to it, in pre-order. -/
theorem flatten_eq (outline : List Outline) :
    flatten uri package outline = (ways outline).map (listedAt uri package) := flattenBelow_eq uri package [] outline

end Flattening

end Outline

/-! ## Names as joins -/

theorem Text.join_cons {sep s : String} {ss : List String} (h : ss ≠ []) :
    Text.join sep (s :: ss) = s ++ sep ++ Text.join sep ss := by
  obtain ⟨t, ts, rfl⟩ := List.exists_cons_of_ne_nil h
  rfl

/-- A name that is not empty stays in front. -/
theorem foldl_dotted {lead : String} (h : lead ≠ "") (ns : List String) :
    ns.foldl Outline.dotted lead = Text.join "." (lead :: ns) := by
  induction ns generalizing lead with
  | nil => rfl
  | cons n ns ih =>
    have hlead : lead ++ "." ++ n ≠ "" := by simp [String.append_eq_empty_iff, h]
    rw [List.foldl_cons, Outline.dotted, if_neg h, ih hlead]
    cases ns with
    | nil => rfl
    | cons m ns => simp [Text.join, String.append_assoc]

/-- Names that are not empty are joined by dots. -/
theorem Way.path_eq_join (w : Way) (h : ∀ n ∈ w.names, n ≠ "") :
    Outline.pathOf w.entries = Text.join "." w.names := by
  have hfold : Outline.pathOf w.entries = w.names.foldl Outline.dotted "" := (List.foldl_map ..).symm
  rw [hfold]
  cases hns : w.names with
  | nil => rfl
  | cons n ns =>
    rw [List.foldl_cons, Outline.dotted, if_pos rfl]
    exact foldl_dotted (h n (hns ▸ List.mem_cons_self ..)) ns

/-- Scopes are put in front one after the other, so they are joined from the outside in. -/
theorem nameBelow_eq_join (scopes : List String) (name : String) :
    nameBelow scopes name = Text.join "." (scopes.reverse ++ [name]) := by
  induction scopes using List.reverseRecOn with
  | nil => rfl
  | append_singleton scopes s ih =>
    rw [List.reverse_append, List.reverse_singleton, List.append_assoc, List.singleton_append,
      Text.join_cons (by simp), ← ih]
    simp [nameBelow]

/-! ## Both names -/

/-- The scopes around a declaration, the outermost first. The innermost node is the declaring identifier. -/
def Declaration.scopes (d : Declaration) (root : Node) : List String :=
  (scopeNames ((root.enclosing d.offset).drop 1)).reverse

/-- An entry that an outline nests below the scopes around a declaration, and names as the declaration is named,
    is listed under the qualified name of the declaration. -/
theorem qname_flatten_eq {root : Node} {d : Declaration} {p : Package} (hp : d.package = some p) (hp0 : p.name ≠ "")
    {package : PackageLocator} (hpackage : package.name = p.name) {outline : List Outline} {i : Nat} {w : Way}
    (hw : (Outline.ways outline)[i]? = some w) (hnames : ∀ n ∈ w.names, n ≠ "")
    (hscopes : w.names = d.scopes root ++ [d.name]) (uri : Url) :
    ((Outline.flatten uri package outline)[i]?).map (·.qname) = some (d.qualifiedName root) := by
  have hlisted : (Outline.flatten uri package outline)[i]? = some (Outline.listedAt uri package w) := by
    rw [Outline.flatten_eq, List.getElem?_map, hw]
    rfl
  have hname : nameBelow (scopeNames ((root.enclosing d.offset).drop 1)) d.name = Text.join "." w.names := by
    rw [nameBelow_eq_join, hscopes]
    rfl
  rw [hlisted, Option.map_some, Declaration.qualifiedName, hp, inPackage, hname, Option.some.injEq]
  calc (Outline.listedAt uri package w).qname
      = Outline.dotted package.name (Outline.pathOf w.entries) := rfl
    _ = package.name ++ "." ++ Outline.pathOf w.entries := if_neg (hpackage ▸ hp0)
    _ = p.name ++ "." ++ Text.join "." w.names := by rw [hpackage, w.path_eq_join hnames]

/-- A file with a method of `Conn` in whose body a struct is declared, with one field. -/
def connFile : Node :=
  .mk .file ⟨0, 60⟩
    [ .mk (.funcDecl (some (.pointer "Conn"))) ⟨0, 50⟩
        [ .mk .blockStmt ⟨21, 50⟩
            [ .mk (.valueSpec ["buf"]) ⟨28, 47⟩
                [ .mk (.ident "buf") ⟨28, 31⟩ [],
                  .mk .structType ⟨32, 47⟩
                    [.mk .fieldList ⟨38, 47⟩ [.mk (.field ["n"]) ⟨40, 45⟩ [.mk (.ident "n") ⟨40, 41⟩ []]]] ] ] ] ]

/-- The field of that struct. -/
def connField : Declaration := ⟨"n", .var true, some ⟨"net", "net"⟩, ⟨"/go/src/net/conn.go"⟩, 40, .zero⟩

def entryNamed (name : String) (kind : SymbolKind) : OutlineEntry := ⟨name, none, kind, none, none, .zero, .zero⟩

/-- The outline of that file, where a function comes first. -/
def connOutline : List Outline :=
  [ .node (entryNamed "Dial" .function) (some []),
    .node (entryNamed "Conn" .struct)
      (some [.node (entryNamed "buf" .variableKind) (some [.node (entryNamed "n" .field) none])]) ]

def connUri : Url := ⟨"file", some ⟨"", none, "", none⟩, .segments ["go", "src", "net", "conn.go"], none, none⟩

theorem qname_flatten_eq_connField :
    connField.qualifiedName connFile = "net.Conn.buf.n" ∧
      ((Outline.flatten connUri ⟨"net", "net", ""⟩ connOutline)[3]?).map (·.qname) =
        some (connField.qualifiedName connFile) := by
  refine ⟨by decide +kernel, ?_⟩
  have hw : (Outline.ways connOutline)[3]? =
      some ⟨[entryNamed "Conn" .struct, entryNamed "buf" .variableKind], entryNamed "n" .field⟩ := by decide +kernel
  exact qname_flatten_eq rfl (by decide) rfl hw (by decide) (by decide +kernel) connUri

end GoAtlas
