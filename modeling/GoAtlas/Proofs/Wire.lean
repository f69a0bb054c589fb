/-
  GoAtlas.Proofs.Wire — what travels as JSON arrives as it was sent.

  A record is written as an object with a member per field, some of them left out, and read slot by slot.
  - `record?_ofFields`: if the names of a record are distinct, each slot holds what was written for its field.
  - `Slot.optional_written`, `Slot.optionalAtEnd_written`, `Slot.defaulted_written`: a field that is left out
    is read as the value that it was left out for.
  - `Wire.Faithful`: so the value comes back, if the text of each address in it reads back as that address and
    each path in it is a text; `Wire.Faithful.survives` draws the consequence for JSON that is read and written again.
  - `survives_wire`: this holds of every type that is exchanged with a client, and of configurations.
-/
import GoAtlas.Config
import GoAtlas.Symbol.Locator

namespace GoAtlas

/-! ## Records -/

namespace Json

/-- Every step succeeds. -/
theorem mapM_eq_some {α β : Type} {f : α → Option β} {g : α → β} {xs : List α} (h : ∀ x ∈ xs, f x = some (g x)) :
    xs.mapM f = some (xs.map g) := by
  induction xs with
  | nil => rfl
  | cons x xs ih =>
    have hx := h x (List.mem_cons_self ..)
    have hxs := ih fun y hy => h y (List.mem_cons_of_mem _ hy)
    simp [List.mapM_cons, hx, hxs]

/-- The slot that a field fills, if the record is an object. -/
def Slot.ofField : Option Json → Slot
  | some j => .value j
  | none => .absent

@[simp] theorem Slot.required_value {α : Type} (read : Json → Option α) (j : Json) :
    (Slot.value j).required read = read j := rfl

@[simp] theorem Slot.required_ofField {α : Type} (read : Json → Option α) (j : Json) :
    (Slot.ofField (some j)).required read = read j := rfl

/-- The members of a record. -/
def membersOf (fields : List (String × Option Json)) : List (String × Json) :=
  fields.filterMap fun f => f.2.map fun j => (f.1, j)

theorem membersOf_cons (f : String × Option Json) (fields : List (String × Option Json)) :
    membersOf (f :: fields) = f.2.toList.map (f.1, ·) ++ membersOf fields := by
  obtain ⟨n, _ | j⟩ := f <;> rfl

theorem named_append (names : List String) (ms ns : List (String × Json)) :
    named names (ms ++ ns) = named names ms ++ named names ns := by
  simp [named]

theorem named_field (n m : String) (o : Option Json) :
    named [n] (o.toList.map (m, ·)) = if m = n then o.toList else [] := by
  by_cases e : m = n <;> cases o <;> simp [named, e]

theorem named_of_notMem {n : String} {fields : List (String × Option Json)} (h : n ∉ fields.map Prod.fst) :
    named [n] (membersOf fields) = [] := by
  induction fields with
  | nil => rfl
  | cons f fields ih =>
    rw [List.map_cons, List.mem_cons, not_or] at h
    rw [membersOf_cons, named_append, named_field, if_neg (Ne.symm h.1), ih h.2]
    rfl

theorem named_of_mem {fields : List (String × Option Json)} (h : (fields.map Prod.fst).Nodup)
    {f : String × Option Json} (hf : f ∈ fields) : named [f.1] (membersOf fields) = f.2.toList := by
  induction fields with
  | nil => cases hf
  | cons g fields ih =>
    rw [List.map_cons, List.nodup_cons] at h
    rw [membersOf_cons, named_append, named_field]
    rcases List.mem_cons.mp hf with rfl | hf
    · rw [if_pos rfl, named_of_notMem h.1, List.append_nil]
    · -- another field bears another name
      have hne : g.1 ≠ f.1 := fun e => h.1 (e ▸ List.mem_map_of_mem hf)
      rw [if_neg hne, List.nil_append, ih h.2 hf]

/-- Each slot of a record that was written holds what was written for its field. -/
theorem record?_ofFields {fields : List (String × Option Json)} (h : (fields.map Prod.fst).Nodup) :
    (ofFields fields).record? (fields.map fun f => [f.1]) = some (fields.map fun f => Slot.ofField f.2) := by
  have hslot : ∀ f ∈ fields, slotOf [f.1] (membersOf fields) = some (Slot.ofField f.2) := by
    intro f hf
    unfold slotOf
    rw [named_of_mem h hf]
    cases f.2 <;> rfl
  simp only [record?, ofFields, List.mapM_map]
  exact mapM_eq_some hslot

theorem ofFields_some (members : List (String × Json)) :
    ofFields (members.map fun m => (m.1, some m.2)) = obj members := by
  have hall : (members.map fun m => (m.1, some m.2)).filterMap (fun f => f.2.map fun j => (f.1, j)) = members := by
    rw [List.filterMap_map]
    exact List.filterMap_some
  rw [ofFields, hall]

/-- The same for a record without optional fields. -/
theorem record?_obj {members : List (String × Json)} (h : (members.map Prod.fst).Nodup) :
    (obj members).record? (members.map fun m => [m.1]) = some (members.map fun m => Slot.value m.2) := by
  have hfields := @record?_ofFields (members.map fun m => (m.1, some m.2))
  rw [ofFields_some, List.map_map, List.map_map, List.map_map] at hfields
  exact hfields h

/-! ## Fields -/

section Fields

variable {α : Type} (read : Json → Option α) (write : α → Json)

theorem nullable?_written {v : α} (hread : read (write v) = some v) (hnull : write v ≠ .null) :
    nullable? read (write v) = some (some v) := by
  rw [nullable?_of_ne_null read hnull, hread]
  rfl

theorem nullable?_ofOption {o : Option α} (hread : ∀ v ∈ o, read (write v) = some v)
    (hnull : ∀ v ∈ o, write v ≠ .null) : nullable? read (ofOption (o.map write)) = some o := by
  cases o with
  | none => rfl
  | some v => exact nullable?_written read write (hread v rfl) (hnull v rfl)

/-- An optional field is left out for none, and null is never written for a value. -/
theorem Slot.optional_written {o : Option α} (hread : ∀ v ∈ o, read (write v) = some v)
    (hnull : ∀ v ∈ o, write v ≠ .null) : (Slot.ofField (o.map write)).optional read = some o := by
  cases o with
  | none => rfl
  | some v => exact nullable?_written read write (hread v rfl) (hnull v rfl)

theorem Slot.optionalAtEnd_written {o : Option α} (hread : ∀ v ∈ o, read (write v) = some v)
    (hnull : ∀ v ∈ o, write v ≠ .null) : (Slot.ofField (o.map write)).optionalAtEnd read = some o := by
  cases o with
  | none => rfl
  | some v => exact nullable?_written read write (hread v rfl) (hnull v rfl)

/-- A field is left out for its default value. -/
theorem Slot.defaulted_written [DecidableEq α] {v value : α} (hread : read (write v) = some v) :
    (Slot.ofField (if v = value then none else some (write v))).defaulted read value = some v := by
  by_cases e : v = value
  · rw [if_pos e, e]
    rfl
  · rw [if_neg e]
    exact hread

theorem list?_written {vs : List α} (hread : ∀ v ∈ vs, read (write v) = some v) :
    list? read (.arr (vs.map write)) = some vs := by
  have hall := mapM_eq_some (f := fun v => read (write v)) (g := id) hread
  rw [List.map_id] at hall
  simp only [list?, List.mapM_map]
  exact hall

end Fields

theorem word32?_ofWord32 (n : UInt32) : (ofWord32 n).word32? = some n := by
  have hn : (n.toNat : Int) ≤ 4294967295 := by
    have := n.toNat_lt
    omega
  simp [word32?, ofWord32, intIn?, hn]

theorem int32?_ofInt32 (n : Int32) : (ofInt32 n).int32? = some n := by
  have hleast := n.le_toInt
  have hgreatest := n.toInt_lt
  have hn : -2147483648 ≤ n.toInt ∧ n.toInt ≤ 2147483647 := by omega
  simp [int32?, ofInt32, intIn?, hn]

end Json

/-! ## Types that travel -/

/-- The text of an address reads back as the address. -/
def Url.Stable (u : Url) : Prop := Url.parse? u.text = some u

instance (u : Url) : Decidable u.Stable := inferInstanceAs (Decidable (Url.parse? u.text = some u))

theorem Url.ofJson?_toJson {u : Url} (h : u.Stable) : Url.ofJson? u.toJson = some u := by
  simp only [Url.ofJson?, Url.toJson, Json.str?, Option.bind_some]
  exact h

-- dot segments are resolved when an address is read, but not when it is made from a path
example : (Url.ofFilePath? ⟨"/ws/main.go"⟩).all (·.Stable) = true ∧
    (Url.ofFilePath? ⟨"/ws/../main.go"⟩).all (·.Stable) = false := by decide +kernel

/-- Values that travel as JSON: how they are written and read, and the addresses and the paths in them. -/
structure Wire (α : Type) where
  write : α → Json
  read? : Json → Option α
  urls : α → List Url
  paths : α → List Path

namespace Wire

variable {α : Type}

/-- Every address in the value reads back, and every path in it is a text. -/
def Stable (w : Wire α) (v : α) : Prop := (∀ u ∈ w.urls v, u.Stable) ∧ ∀ p ∈ w.paths v, p.octets.IsText

instance (w : Wire α) (v : α) : Decidable (w.Stable v) := inferInstanceAs (Decidable (_ ∧ _))

/-- What is written of a value reads back as the value. -/
def Faithful (w : Wire α) : Prop := ∀ v, w.Stable v → w.read? (w.write v) = some v

/-- A JSON value read, and written again. -/
def rewrite? (w : Wire α) (j : Json) : Option Json := (w.read? j).map w.write

/-- Values survive: they come back, and JSON that was written again is not changed by doing so once more. -/
structure Survives (w : Wire α) : Prop where
  back : ∀ v, w.Stable v → w.read? (w.write v) = some v
  again : ∀ j v, w.read? j = some v → w.Stable v → (w.rewrite? j).bind w.rewrite? = w.rewrite? j

theorem Faithful.survives {w : Wire α} (h : w.Faithful) : w.Survives := by
  refine ⟨h, fun j v hv hstable => ?_⟩
  have hback := h v hstable
  simp [rewrite?, hv, hback]

end Wire

/-! ## Places -/

theorem Position.ofJson?_toJson (p : Position) : Position.ofJson? p.toJson = some p := by
  have hslots : p.toJson.record? [["line"], ["character"]] = some _ := Json.record?_obj (by simp)
  simp [ofJson?, hslots, Json.word32?_ofWord32]

theorem Range.ofJson?_toJson (r : Range) : Range.ofJson? r.toJson = some r := by
  have hslots : r.toJson.record? [["start"], ["end"]] = some _ := Json.record?_obj (by simp)
  simp [ofJson?, hslots, Position.ofJson?_toJson]

theorem Location.ofJson?_toJson {l : Location} (hstable : l.uri.Stable) : Location.ofJson? l.toJson = some l := by
  have hslots : l.toJson.record? [["uri"], ["range"]] = some _ := Json.record?_obj (by simp)
  simp [ofJson?, hslots, Url.ofJson?_toJson hstable, Range.ofJson?_toJson]

/-! ## Locators -/

theorem SymbolKind.ofJson?_toJson (k : SymbolKind) : SymbolKind.ofJson? k.toJson = some k := by
  simp [ofJson?, toJson, Json.int32?_ofInt32]

def PackageLocator.wire : Wire PackageLocator :=
  ⟨PackageLocator.toJson, PackageLocator.ofJson?, fun _ => [], fun _ => []⟩

theorem PackageLocator.ofJson?_toJson (l : PackageLocator) : PackageLocator.ofJson? l.toJson = some l := by
  have hslots : l.toJson.record? [["name"], ["repoUri"], ["version"]] = some _ := Json.record?_obj (by simp)
  simp [ofJson?, hslots, Json.str?]

def SymbolLocator.wire : Wire SymbolLocator :=
  ⟨SymbolLocator.toJson, SymbolLocator.ofJson?, fun l => l.location.toList.map (·.uri), fun _ => []⟩

theorem SymbolLocator.faithful : SymbolLocator.wire.Faithful := by
  intro l hstable
  have hslots : l.toJson.record? [["qname"], ["kind"], ["location"], ["package"]] = some _ :=
    Json.record?_ofFields (by simp)
  have hqname : (Json.Slot.ofField (if l.qname = "" then none else some (.str l.qname))).defaulted Json.str? "" =
    some l.qname := Json.Slot.defaulted_written Json.str? Json.str rfl
  have hkind := Json.Slot.optionalAtEnd_written SymbolKind.ofJson? SymbolKind.toJson (o := l.kind)
    (fun k _ => k.ofJson?_toJson) (fun _ _ => Json.noConfusion)
  have hread : ∀ p ∈ l.location, Location.ofJson? p.toJson = some p := by
    intro p hp
    exact Location.ofJson?_toJson (hstable.1 p.uri (List.mem_map_of_mem (Option.mem_toList.mpr hp)))
  have hlocation := Json.Slot.optionalAtEnd_written Location.ofJson? Location.toJson hread
    (fun _ _ => Json.noConfusion)
  simp [wire, ofJson?, hslots, hqname, hkind, hlocation, PackageLocator.ofJson?_toJson]

/-! ## Symbols and references -/

theorem SymbolInformation.ofJson?_toJson {s : SymbolInformation} (hstable : s.location.uri.Stable) :
    SymbolInformation.ofJson? s.toJson = some s := by
  have hslots : s.toJson.record?
      [["name"], ["kind"], ["tags"], ["deprecated"], ["location"], ["containerName"]] = some _ :=
    Json.record?_ofFields (by simp)
  have htags := Json.Slot.optional_written tagsOfJson? tagsToJson (o := s.tags)
    (fun _ _ => Json.list?_written _ _ fun n _ => Json.int32?_ofInt32 n) (fun _ _ => Json.noConfusion)
  have hdeprecated := Json.Slot.optional_written Json.bool? Json.bool (o := s.deprecated)
    (fun _ _ => rfl) (fun _ _ => Json.noConfusion)
  have hcontainer := Json.Slot.optional_written Json.str? Json.str (o := s.containerName)
    (fun _ _ => rfl) (fun _ _ => Json.noConfusion)
  have hlocation := Location.ofJson?_toJson hstable
  have hname : Json.str? (.str s.name) = some s.name := rfl
  simp [ofJson?, hslots, htags, hdeprecated, hcontainer, hlocation, hname, SymbolKind.ofJson?_toJson]

def DetailSymbol.wire : Wire DetailSymbol :=
  ⟨DetailSymbol.toJson, DetailSymbol.ofJson?, fun s => [s.symbol.location.uri], fun _ => []⟩

theorem DetailSymbol.faithful : DetailSymbol.wire.Faithful := by
  intro s hstable
  have hslots : s.toJson.record? [["symbol"], ["qname"], ["package"]] = some _ := Json.record?_obj (by simp)
  have hsymbol := SymbolInformation.ofJson?_toJson (hstable.1 _ (List.mem_singleton_self _))
  simp [wire, ofJson?, hslots, hsymbol, Json.str?, PackageLocator.ofJson?_toJson]

def Reference.wire : Wire Reference :=
  ⟨Reference.toJson, Reference.ofJson?, fun r => r.location.uri :: SymbolLocator.wire.urls r.target, fun _ => []⟩

theorem Reference.faithful : Reference.wire.Faithful := by
  intro r hstable
  have hslots : r.toJson.record? [["location"], ["target"]] = some _ := Json.record?_obj (by simp)
  have hlocation := Location.ofJson?_toJson (hstable.1 r.location.uri (List.mem_cons_self ..))
  have htarget : SymbolLocator.ofJson? r.target.toJson = some r.target :=
    SymbolLocator.faithful r.target ⟨fun u hu => hstable.1 u (List.mem_cons_of_mem _ hu), nofun⟩
  simp [wire, ofJson?, hslots, hlocation, htarget]

/-! ## Requests, responses and configurations -/

def FullParams.wire : Wire FullParams := ⟨FullParams.toJson, FullParams.ofJson?, fun p => [p.uri], fun _ => []⟩

theorem FullParams.faithful : FullParams.wire.Faithful := by
  intro p hstable
  have hslots : p.toJson.record? [["textDocument"], ["reference"]] = some _ := Json.record?_obj (by simp)
  have hdocument : (documentToJson p.uri).record? [["uri"]] = some _ := Json.record?_obj (by simp)
  have huri := Url.ofJson?_toJson (hstable.1 p.uri (List.mem_singleton_self _))
  simp [wire, ofJson?, hslots, documentUri?, hdocument, huri, Json.Slot.defaulted, Json.bool?]

def FullResponse.wire : Wire FullResponse :=
  ⟨FullResponse.toJson, FullResponse.ofJson?,
    fun r => r.symbols.flatMap DetailSymbol.wire.urls ++ r.references.flatMap Reference.wire.urls,
    fun _ => []⟩

theorem FullResponse.faithful : FullResponse.wire.Faithful := by
  intro r hstable
  have hslots : r.toJson.record? [["symbols"], ["references"]] = some _ := Json.record?_obj (by simp)
  have hsymbols : Json.list? DetailSymbol.ofJson? (.arr (r.symbols.map DetailSymbol.toJson)) = some r.symbols :=
    Json.list?_written _ _ fun s hs => DetailSymbol.faithful s ⟨fun u hu =>
      hstable.1 u (List.mem_append_left _ (List.mem_flatMap.mpr ⟨s, hs, hu⟩)), nofun⟩
  have hreferences : Json.list? Reference.ofJson? (.arr (r.references.map Reference.toJson)) = some r.references :=
    Json.list?_written _ _ fun f hf => Reference.faithful f ⟨fun u hu =>
      hstable.1 u (List.mem_append_right _ (List.mem_flatMap.mpr ⟨f, hf, hu⟩)), nofun⟩
  simp [wire, ofJson?, hslots, hsymbols, hreferences]

theorem pathOfJson?_toJson {p : Path} (h : p.octets.IsText) : pathOfJson? (pathToJson p) = some p :=
  congrArg (fun o => some (Path.mk o)) h

def Config.wire : Wire Config := ⟨Config.toJson, Config.ofJson?, fun _ => [], fun c => c.goBinary.toList⟩

theorem Config.faithful : Config.wire.Faithful := by
  intro c hstable
  have hslots : c.toJson.record? [[installOption], ["goProxy"], ["remoteRepoLookup"], ["goBinary"]] = some _ :=
    Json.record?_obj (by simp [installOption])
  have hbinary := Json.nullable?_ofOption pathOfJson? pathToJson (o := c.goBinary)
    (fun p hp => pathOfJson?_toJson (hstable.2 p (Option.mem_toList.mpr hp))) (fun _ _ => Json.noConfusion)
  simp [wire, ofJson?, hslots, Json.Slot.defaulted, Json.Slot.optionalAtEnd, Json.bool?, Json.str?, hbinary]

/-! ## Survival -/

/-- Every value of a type that is exchanged with a client is read back from the JSON that it is written as, as
    far as its addresses are, if its paths are texts; so reading JSON and writing it again is idempotent. -/
theorem survives_wire :
    PackageLocator.wire.Survives ∧ SymbolLocator.wire.Survives ∧ DetailSymbol.wire.Survives ∧
      Reference.wire.Survives ∧ FullParams.wire.Survives ∧ FullResponse.wire.Survives ∧ Config.wire.Survives :=
  ⟨Wire.Faithful.survives fun l _ => l.ofJson?_toJson, SymbolLocator.faithful.survives,
    DetailSymbol.faithful.survives, Reference.faithful.survives, FullParams.faithful.survives,
    FullResponse.faithful.survives, Config.faithful.survives⟩

/-- A line of a source file. -/
def lineOfMain (line : UInt32) : Location :=
  ⟨⟨"file", some ⟨"", none, "", none⟩, .segments ["ws", "main.go"], none, none⟩, ⟨⟨line, 5⟩, ⟨line, 9⟩⟩⟩

/-- A method with a tag and a container, and two references: into the same view and into another one. -/
def listing : FullResponse :=
  { symbols :=
      [⟨⟨"Serve", .method, some [1], none, lineOfMain 3, some "Server"⟩, "main.Server.Serve", ⟨"main", "", ""⟩⟩]
    references :=
      [ ⟨lineOfMain 7, .sameView (lineOfMain 3)⟩,
        ⟨lineOfMain 8, .crossView "errors.Wrap" .function ⟨"errors", "https://github.com/pkg/errors", "v0.9.1"⟩⟩ ] }

theorem survives_wire_listing :
    FullResponse.wire.Stable listing ∧ FullResponse.ofJson? listing.toJson = some listing := by
  have hstable : FullResponse.wire.Stable listing := by decide +kernel
  obtain ⟨_, _, _, _, _, hresponse, _⟩ := survives_wire
  exact ⟨hstable, hresponse.back listing hstable⟩

end GoAtlas
