/-
  GoAtlas.Proofs.Answers — what a request for a definition is answered with.

  `Ending` says all that a request can come to: the engine does not resolve it, the declaration is of no kind
  that has a symbol, or there is one locator. A declaration inside the view is answered by its location alone
  (`IsHere`), any other by its name, kind and package alone (`IsElsewhere`).
  - `qualifiedName_eq_empty_iff`: a name is missing only if the file does not parse.
  - `definition_ending`: every request has one of these endings.
  - `definition_answer`: which one it is, and what the answer holds, whatever the engine says.
-/
import GoAtlas.Resolve.Definition

namespace GoAtlas

/-! ## Names -/

theorem nameBelow_ne_empty {name : String} (h : name ≠ "") (scopes : List String) : nameBelow scopes name ≠ "" := by
  induction scopes generalizing name with
  | nil => exact h
  | cons s scopes ih =>
    have hlonger : s ++ "." ++ name ≠ "" := by simp [String.append_eq_empty_iff, h]
    exact ih hlonger

theorem Declaration.qualifiedName_ne_empty {d : Declaration} (h : d.name ≠ "") (root : Node) :
    d.qualifiedName root ≠ "" := by
  have hbelow := nameBelow_ne_empty h (scopeNames ((root.enclosing d.offset).drop 1))
  unfold Declaration.qualifiedName inPackage
  split
  · simp [String.append_eq_empty_iff]
  · exact hbelow

/-- A question that the engine does not answer. -/
def Engine.Fails {α : Type} (answer : Except String α) : Prop := ∃ reason, answer = .error reason

/-- A declaration with a name has a qualified name, unless its file has to be parsed and cannot be. -/
theorem qualifiedName_eq_empty_iff (engine : Engine) {d : Declaration} (h : d.name ≠ "") (kind : SymbolKind) :
    (qualifiedName engine d kind).1 = "" ↔ kind ≠ .package ∧ Engine.Fails (engine.parseFile d.file) := by
  unfold qualifiedName
  by_cases hk : kind = .package
  · simp [hk, h]
  · cases hparse : engine.parseFile d.file with
    | ok root => simp [hk, Engine.Fails, Declaration.qualifiedName_ne_empty h root]
    | error reason => simp [hk, Engine.Fails]

/-! ## Endings -/

/-- The engine knows the view of the document, and what stands at the position. -/
def Engine.Resolves (engine : Engine) (params : PositionParams) (viewRoot : Path) (ident : Identifier) : Prop :=
  engine.viewRoot params.uri = .ok viewRoot ∧ engine.identifierAt params.uri params.position = .ok ident

/-- A declaration of the requester's view, answered by its location and nothing else; no file is parsed. -/
structure IsHere (viewRoot : Path) (d : Declaration) (l : SymbolLocator) (use : Engine.Use) : Prop where
  inside : d.file.isInside viewRoot = true
  location : ∃ uri, Url.ofFilePath? d.file = some uri ∧ l.location = some ⟨uri, d.range⟩
  qname : l.qname = ""
  kind : l.kind = none
  package : l.package = .empty
  unparsed : use.parsed = []

/-- A declaration outside the view, answered by its name, kind and package. -/
structure IsElsewhere (engine : Engine) (packages : PackageResolver) (viewRoot : Path) (d : Declaration)
    (l : SymbolLocator) : Prop where
  outside : d.file.isInside viewRoot = false
  location : l.location = none
  kind : l.kind = d.kind.classify
  isClassified : l.kind ≠ none
  package : l.package = packages.locate d.package viewRoot d.file
  qname : d.name ≠ "" → (l.qname = "" ↔ l.kind ≠ some .package ∧ Engine.Fails (engine.parseFile d.file))

/-- What a request can come to: the answer, and what was asked of the engine. -/
inductive Ending (engine : Engine) (packages : PackageResolver) (params : PositionParams) :
    Except ResolveError (List SymbolLocator) × Engine.Use → Prop
  | unresolved (reason : String) (use : Engine.Use) :
      Engine.Fails (engine.viewRoot params.uri) ∨ Engine.Fails (engine.identifierAt params.uri params.position) →
      Ending engine packages params (.error (.unresolved params.uri params.position reason), use)
  | relative {viewRoot : Path} {ident : Identifier} (reason : String) (use : Engine.Use) :
      engine.Resolves params viewRoot ident → ident.declaration.file.isInside viewRoot = true →
      ident.declaration.file.isAbsolute = false → Ending engine packages params (.error (.engine reason), use)
  | unclassified {viewRoot : Path} {ident : Identifier} (use : Engine.Use) : engine.Resolves params viewRoot ident →
      ident.declaration.file.isInside viewRoot = false → ident.declaration.kind.classify = none →
      Ending engine packages params (.error (.noSymbolKind ident.name), use)
  | here {viewRoot : Path} {ident : Identifier} {l : SymbolLocator} {use : Engine.Use} :
      engine.Resolves params viewRoot ident → IsHere viewRoot ident.declaration l use →
      Ending engine packages params (.ok [l], use)
  | elsewhere {viewRoot : Path} {ident : Identifier} {l : SymbolLocator} (use : Engine.Use) :
      engine.Resolves params viewRoot ident → IsElsewhere engine packages viewRoot ident.declaration l →
      Ending engine packages params (.ok [l], use)

theorem Url.isSome_ofFilePath? (p : Path) : (Url.ofFilePath? p).isSome = p.isAbsolute := by
  unfold Url.ofFilePath?
  cases p.isAbsolute <;> rfl

/-- A request that the engine resolves ends as the place of the declaration and its kind decide. -/
theorem locateIdentifier_ending {engine : Engine} {params : PositionParams} {viewRoot : Path} {ident : Identifier}
    (h : engine.Resolves params viewRoot ident) (packages : PackageResolver) :
    Ending engine packages params ((locateIdentifier engine packages viewRoot ident).1.map ([·]),
      Engine.Use.check.append (locateIdentifier engine packages viewRoot ident).2) := by
  unfold locateIdentifier
  cases hin : ident.declaration.file.isInside viewRoot with
  | true =>
    have habs := Url.isSome_ofFilePath? ident.declaration.file
    cases hurl : Url.ofFilePath? ident.declaration.file with
    | some uri =>
      simp only [hin, hurl, if_true]
      exact .here h ⟨hin, ⟨uri, hurl, rfl⟩, rfl, rfl, rfl, rfl⟩
    | none =>
      simp only [hin, hurl, if_true]
      exact .relative _ _ h hin (by rw [← habs, hurl]; rfl)
  | false =>
    cases hkind : ident.declaration.kind.classify with
    | none =>
      simp only [hin, hkind, Bool.false_eq_true, if_false]
      exact .unclassified _ h hin hkind
    | some kind =>
      simp only [hin, hkind, Bool.false_eq_true, if_false]
      refine .elsewhere _ h ⟨hin, rfl, hkind.symm, Option.some_ne_none kind, rfl, fun hname => ?_⟩
      simpa [SymbolLocator.crossView] using qualifiedName_eq_empty_iff engine hname kind

theorem definition_ending (engine : Engine) (packages : PackageResolver) (params : PositionParams) :
    Ending engine packages params (definition engine packages params) := by
  unfold definition
  cases hview : engine.viewRoot params.uri with
  | error reason => exact .unresolved _ _ (Or.inl ⟨reason, hview⟩)
  | ok viewRoot =>
    cases hident : engine.identifierAt params.uri params.position with
    | error reason => exact .unresolved _ _ (Or.inr ⟨reason, hident⟩)
    | ok ident =>
      have hend := locateIdentifier_ending ⟨hview, hident⟩ packages
      rcases hloc : locateIdentifier engine packages viewRoot ident with ⟨e | l, use⟩
      all_goals
        rw [hloc] at hend
        simp only [hloc]
        exact hend

/-! ## Which ending it is -/

section Exclusion

variable {engine : Engine} {packages : PackageResolver} {params : PositionParams} {viewRoot viewRoot' : Path}
  {ident ident' : Identifier} {r : Except ResolveError (List SymbolLocator) × Engine.Use}

theorem Engine.Resolves.unique (h : engine.Resolves params viewRoot ident)
    (h' : engine.Resolves params viewRoot' ident') : viewRoot' = viewRoot ∧ ident' = ident :=
  ⟨Except.ok.inj (h'.1.symm.trans h.1), Except.ok.inj (h'.2.symm.trans h.2)⟩

theorem Engine.Resolves.not_fails (h : engine.Resolves params viewRoot ident) :
    ¬(Engine.Fails (engine.viewRoot params.uri) ∨
      Engine.Fails (engine.identifierAt params.uri params.position)) := by
  rintro (⟨reason, hr⟩ | ⟨reason, hr⟩)
  · rw [h.1] at hr
    cases hr
  · rw [h.2] at hr
    cases hr

theorem Ending.unresolved_iff (h : Ending engine packages params r) :
    (∃ uri position reason, r.1 = .error (.unresolved uri position reason)) ↔
      Engine.Fails (engine.viewRoot params.uri) ∨ Engine.Fails (engine.identifierAt params.uri params.position) := by
  refine ⟨fun hnone => ?_, fun hfails => ?_⟩
  · obtain ⟨_, _, _, hr⟩ := hnone
    cases h with
    | unresolved reason use hfails => exact hfails
    | _ => cases hr
  · cases h with
    | unresolved reason use _ => exact ⟨_, _, _, rfl⟩
    | relative _ _ hknown => exact absurd hfails hknown.not_fails
    | unclassified _ hknown => exact absurd hfails hknown.not_fails
    | here hknown => exact absurd hfails hknown.not_fails
    | elsewhere _ hknown => exact absurd hfails hknown.not_fails

theorem Ending.noSymbolKind_iff (h : Ending engine packages params r) :
    (∃ name, r.1 = .error (.noSymbolKind name)) ↔ ∃ viewRoot ident, engine.Resolves params viewRoot ident ∧
      ident.declaration.file.isInside viewRoot = false ∧ ident.declaration.kind.classify = none := by
  refine ⟨fun hnone => ?_, fun hnone => ?_⟩
  · obtain ⟨_, hr⟩ := hnone
    cases h with
    | unclassified use hknown hout hkind => exact ⟨_, _, hknown, hout, hkind⟩
    | _ => cases hr
  · obtain ⟨viewRoot, ident, hknown, hout, hkind⟩ := hnone
    cases h with
    | unresolved reason use hfails => exact absurd hfails hknown.not_fails
    | relative _ _ hknown' hin =>
      obtain ⟨rfl, rfl⟩ := hknown.unique hknown'
      rw [hin] at hout
      cases hout
    | unclassified use _ _ _ => exact ⟨_, rfl⟩
    | here hknown' hhere =>
      obtain ⟨rfl, rfl⟩ := hknown.unique hknown'
      rw [hhere.inside] at hout
      cases hout
    | elsewhere _ hknown' helse =>
      obtain ⟨rfl, rfl⟩ := hknown.unique hknown'
      exact absurd (helse.kind.trans hkind) helse.isClassified

theorem Ending.ok_iff (h : Ending engine packages params r) :
    (∃ found, r.1 = .ok found) ↔ ∃ viewRoot ident, engine.Resolves params viewRoot ident ∧
      if ident.declaration.file.isInside viewRoot then ident.declaration.file.isAbsolute = true
      else ident.declaration.kind.classify ≠ none := by
  refine ⟨fun hok => ?_, fun hok => ?_⟩
  · obtain ⟨_, hr⟩ := hok
    cases h with
    | here hknown hhere =>
      refine ⟨_, _, hknown, ?_⟩
      obtain ⟨uri, huri, -⟩ := hhere.location
      rw [if_pos hhere.inside, ← Url.isSome_ofFilePath?, huri]
      rfl
    | elsewhere _ hknown helse =>
      refine ⟨_, _, hknown, ?_⟩
      rw [if_neg (by simp [helse.outside]), ← helse.kind]
      exact helse.isClassified
    | _ => cases hr
  · obtain ⟨viewRoot, ident, hknown, hrest⟩ := hok
    cases h with
    | unresolved reason use hfails => exact absurd hfails hknown.not_fails
    | relative _ _ hknown' hin hrel =>
      obtain ⟨rfl, rfl⟩ := hknown.unique hknown'
      simp [hin, hrel] at hrest
    | unclassified use hknown' hout hkind =>
      obtain ⟨rfl, rfl⟩ := hknown.unique hknown'
      simp [hout, hkind] at hrest
    | here _ _ => exact ⟨_, rfl⟩
    | elsewhere _ _ _ => exact ⟨_, rfl⟩

/-- An answer is one locator. -/
theorem Ending.answer (h : Ending engine packages params r) {found : List SymbolLocator} (hfound : r.1 = .ok found) :
    ∃ viewRoot ident l, engine.Resolves params viewRoot ident ∧ found = [l] ∧
      (IsHere viewRoot ident.declaration l r.2 ∨ IsElsewhere engine packages viewRoot ident.declaration l) := by
  cases h with
  | here hknown hhere => exact ⟨_, _, _, hknown, (Except.ok.inj hfound).symm, Or.inl hhere⟩
  | elsewhere _ hknown helse => exact ⟨_, _, _, hknown, (Except.ok.inj hfound).symm, Or.inr helse⟩
  | _ => cases hfound

end Exclusion

/-- The answer to a request for a definition. It is `unresolved` exactly if the engine fails to name the view or
    the identifier. It is that there is no symbol kind exactly if the declaration lies outside the view and is of
    no kind that has one. Any other request is answered, unless its declaration is inside the view by a path that
    is not absolute, and the answer is one locator: that of a place in the view or that of a symbol elsewhere. -/
theorem definition_answer (engine : Engine) (packages : PackageResolver) (params : PositionParams) :
    ((∃ uri position reason, (definition engine packages params).1 = .error (.unresolved uri position reason)) ↔
        Engine.Fails (engine.viewRoot params.uri) ∨
          Engine.Fails (engine.identifierAt params.uri params.position)) ∧
      ((∃ name, (definition engine packages params).1 = .error (.noSymbolKind name)) ↔
        ∃ viewRoot ident, engine.Resolves params viewRoot ident ∧
          ident.declaration.file.isInside viewRoot = false ∧ ident.declaration.kind.classify = none) ∧
      ((∃ found, (definition engine packages params).1 = .ok found) ↔
        ∃ viewRoot ident, engine.Resolves params viewRoot ident ∧
          if ident.declaration.file.isInside viewRoot then ident.declaration.file.isAbsolute = true
          else ident.declaration.kind.classify ≠ none) ∧
      ∀ found, (definition engine packages params).1 = .ok found →
        ∃ viewRoot ident l, engine.Resolves params viewRoot ident ∧ found = [l] ∧
          (IsHere viewRoot ident.declaration l (definition engine packages params).2 ∨
            IsElsewhere engine packages viewRoot ident.declaration l) := by
  have hend := definition_ending engine packages params
  exact ⟨hend.unresolved_iff, hend.noSymbolKind_iff, hend.ok_iff, fun _ hfound => hend.answer hfound⟩

end GoAtlas
