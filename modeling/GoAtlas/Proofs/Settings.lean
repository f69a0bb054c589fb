/-
  GoAtlas.Proofs.Settings — the configuration that a client's settings come to.

  A client sends options when it starts and settings later; a session may be given both any number of
  times, in any order, with any JSON. `Setting` is one field of a layer, with its two names; `LayerOf` says
  which layer a JSON value stands for, by the members of an object that bear a field's names.
  - `Setting.read_eq_none_iff` / `Setting.read_eq_some_iff`: when a field spoils its layer, and what it sets.
  - `layerOf_iff`: the layer that is read is the one that the JSON stands for.
  - `addressed_iff`: settings may come under a section of their own, and then only that section counts.
  - `step_follows` / `run_follows`: whatever a session is asked to do, its layers are those of the last
    options and of the last settings.
  - `run_config`: so every field is what the last settings set, else what the last options set, else what
    the session began with.
-/
import GoAtlas.Proofs.Ledger
import Mathlib.Data.List.Induction

namespace GoAtlas

/-! ## One field -/

/-- A field of a layer: its two names and how its value is read. Null is no value. -/
structure Setting (α : Type) where
  name : String
  otherName : String
  read? : Json → Option α
  read?_null : read? .null = none := by rfl

namespace Setting

def install : Setting Bool :=
  { name := "installGoDependency", otherName := "install_go_dependency", read? := Json.bool? }

def proxy : Setting String := { name := "goProxy", otherName := "go_proxy", read? := Json.str? }

def lookup : Setting Bool := { name := "remoteRepoLookup", otherName := "remote_repo_lookup", read? := Json.bool? }

def binary : Setting Path := { name := "goBinary", otherName := "go_binary", read? := pathOfJson? }

variable {α : Type} (f : Setting α) (members : List (String × Json))

/-- The member bears a name of the field. -/
def Names (m : String × Json) : Prop := m.1 = f.name ∨ m.1 = f.otherName

/-- A value of another type is given. -/
def Mistyped : Prop := ∃ m ∈ members, f.Names m ∧ m.2 ≠ .null ∧ f.read? m.2 = none

/-- The field is given twice, under one name or under both. -/
def Repeated : Prop := ∃ a b, [a, b].Sublist members ∧ f.Names a ∧ f.Names b

def Spoiled : Prop := f.Mistyped members ∨ f.Repeated members

/-- The members give the field this value, or leave it unset. -/
def Gives : Option α → Prop
  | some v => ∃ m ∈ members, f.Names m ∧ f.read? m.2 = some v
  | none => ∀ m ∈ members, f.Names m → m.2 = .null

/-- What an object is read to say of the field. -/
def read : Option (Option α) := (Json.slotOf [f.name, f.otherName] members).bind (·.optional f.read?)

/-- The members that bear a name of the field. -/
def given : List (String × Json) := members.filter fun m => [f.name, f.otherName].contains m.1

variable {f members}

theorem mem_given {m : String × Json} : m ∈ f.given members ↔ m ∈ members ∧ f.Names m := by
  simp [given, Names]

theorem repeated_iff : f.Repeated members ↔ 2 ≤ (f.given members).length := by
  constructor
  · intro h
    obtain ⟨a, b, hsub, ha, hb⟩ := h
    have hgiven : [a, b].Sublist (f.given members) := by
      have hfilter := hsub.filter fun m => [f.name, f.otherName].contains m.1
      rwa [List.filter_eq_self.mpr] at hfilter
      simpa [Names] using And.intro ha hb
    exact hgiven.length_le
  · intro h
    rcases hg : f.given members with _ | ⟨a, _ | ⟨b, ms⟩⟩ <;> rw [hg] at h
    · exact absurd h (by simp)
    · exact absurd h (by simp)
    · have hsub : [a, b].Sublist (f.given members) := hg ▸ ((List.nil_sublist ms).cons_cons b).cons_cons a
      have hnames : ∀ m ∈ [a, b], f.Names m := fun m hm => (mem_given.mp (hsub.subset hm)).2
      exact ⟨a, b, hsub.trans List.filter_sublist, hnames a (by simp), hnames b (by simp)⟩

/-- What the members that bear a field's names are read as. -/
def readGiven (f : Setting α) : List (String × Json) → Option (Option α)
  | [] => some none
  | [m] => Json.nullable? f.read? m.2
  | _ :: _ :: _ => none

theorem read_eq : f.read members = f.readGiven (f.given members) := by
  have hnamed : Json.named [f.name, f.otherName] members = (f.given members).map Prod.snd := rfl
  rw [read, Json.slotOf, hnamed]
  rcases f.given members with _ | ⟨a, _ | ⟨b, ms⟩⟩ <;> rfl

/-- A field that nothing gives is unset. -/
theorem gives_of_no_names (h : ∀ m ∈ members, ¬f.Names m) (o : Option α) : f.Gives members o ↔ o = none := by
  cases o with
  | none => exact iff_of_true (fun m hm hn => absurd hn (h m hm)) rfl
  | some v =>
    refine iff_of_false (fun hgives => ?_) (Option.some_ne_none v)
    obtain ⟨m, hm, hn, _⟩ := hgives
    exact h m hm hn

section Single

variable {m : String × Json} (hm : m ∈ members) (hn : f.Names m) (honly : ∀ n ∈ members, f.Names n → n = m)

include hm hn honly

theorem exists_names_iff (P : Json → Prop) : (∃ n ∈ members, f.Names n ∧ P n.2) ↔ P m.2 := by
  constructor
  · intro h
    obtain ⟨n, hn, hnames, hP⟩ := h
    exact honly n hn hnames ▸ hP
  · exact fun hP => ⟨m, hm, hn, hP⟩

theorem mistyped_of_single : f.Mistyped members ↔ m.2 ≠ .null ∧ f.read? m.2 = none :=
  exists_names_iff hm hn honly fun j => j ≠ .null ∧ f.read? j = none

/-- A field that one member gives has the member's value; null leaves it unset. -/
theorem gives_of_single (hfits : ¬f.Mistyped members) (o : Option α) : f.Gives members o ↔ o = f.read? m.2 := by
  rw [mistyped_of_single hm hn honly, not_and'] at hfits
  cases o with
  | none =>
    have hnull : f.Gives members none ↔ m.2 = .null :=
      ⟨fun h => h m hm hn, fun h n hn hnames => honly n hn hnames ▸ h⟩
    rw [hnull]
    exact ⟨fun h => h ▸ f.read?_null.symm, fun h => Classical.not_not.mp (hfits h.symm)⟩
  | some v =>
    rw [eq_comm]
    exact exists_names_iff hm hn honly fun j => f.read? j = some v

theorem nullable?_of_single (hfits : ¬f.Mistyped members) : Json.nullable? f.read? m.2 = some (f.read? m.2) := by
  rw [mistyped_of_single hm hn honly, not_and'] at hfits
  by_cases hnull : m.2 = .null
  · rw [hnull, f.read?_null]
    rfl
  · obtain ⟨v, hv⟩ := Option.ne_none_iff_exists'.mp fun h => hfits h hnull
    rw [Json.nullable?_of_ne_null f.read? hnull, hv]
    rfl

end Single

variable (f members) in
/-- A field spoils its object, or is read as what the members give. -/
theorem read_cases : f.Spoiled members ∧ f.read members = none ∨
    ¬f.Spoiled members ∧ ∃ o, f.read members = some o ∧ ∀ o', f.Gives members o' ↔ o' = o := by
  have hnames : ∀ m ∈ members, f.Names m → m ∈ f.given members := fun m hm hn => mem_given.mpr ⟨hm, hn⟩
  rw [Spoiled, repeated_iff, read_eq]
  rcases hg : f.given members with _ | ⟨m, _ | ⟨m', ms⟩⟩
  · rw [hg] at hnames
    have hno : ∀ m ∈ members, ¬f.Names m := fun m hm hn => List.not_mem_nil (hnames m hm hn)
    refine Or.inr ⟨?_, none, rfl, gives_of_no_names hno⟩
    rintro (⟨m, hm, hn, _⟩ | h)
    · exact hno m hm hn
    · cases h
  · rw [hg] at hnames
    obtain ⟨hm, hn⟩ := mem_given.mp (hg ▸ List.mem_singleton_self m)
    have honly : ∀ n ∈ members, f.Names n → n = m := fun n hn' h => List.mem_singleton.mp (hnames n hn' h)
    have hone : ¬2 ≤ [m].length := by simp
    rw [or_iff_left hone, readGiven]
    by_cases hbad : f.Mistyped members
    · obtain ⟨hnull, hread⟩ := (mistyped_of_single hm hn honly).mp hbad
      refine Or.inl ⟨hbad, ?_⟩
      rw [Json.nullable?_of_ne_null f.read? hnull, hread]
      rfl
    · exact Or.inr ⟨hbad, _, nullable?_of_single hm hn honly hbad, gives_of_single hm hn honly hbad⟩
  · exact Or.inl ⟨Or.inr (by simp), rfl⟩

/-- A field spoils the object if it has a value of another type or is given twice. -/
theorem read_eq_none_iff : f.read members = none ↔ f.Spoiled members := by
  rcases read_cases f members with ⟨hs, h⟩ | ⟨hs, o, h, _⟩
  · exact iff_of_true h hs
  · exact iff_of_false (by simp [h]) hs

/-- Otherwise it is read as what is given. -/
theorem read_eq_some_iff {o : Option α} : f.read members = some o ↔ ¬f.Spoiled members ∧ f.Gives members o := by
  rcases read_cases f members with ⟨hs, h⟩ | ⟨hs, o', h, hgives⟩
  · exact iff_of_false (by simp [h]) fun hno => hno.1 hs
  · rw [h, hgives, and_iff_right hs, Option.some_inj, eq_comm]

end Setting

/-! ## Layers -/

/-- A field of the object spoils it. -/
def SpoiledObject (members : List (String × Json)) : Prop :=
  Setting.install.Spoiled members ∨ Setting.proxy.Spoiled members ∨ Setting.lookup.Spoiled members ∨
    Setting.binary.Spoiled members

/-- Each field of the layer is what the members give. -/
structure LayerGiven (members : List (String × Json)) (l : ConfigLayer) : Prop where
  install : Setting.install.Gives members l.installGoDependency
  proxy : Setting.proxy.Gives members l.goProxy
  lookup : Setting.lookup.Gives members l.remoteRepoLookup
  binary : Setting.binary.Gives members l.goBinary

/-- The layer that a JSON value stands for: all of an object's fields, or nothing. -/
inductive LayerOf : Json → ConfigLayer → Prop
  | noObject {j : Json} : j.isObject = false → LayerOf j .empty
  | spoiled {members : List (String × Json)} : SpoiledObject members → LayerOf (.obj members) .empty
  | given {members : List (String × Json)} {l : ConfigLayer} : ¬SpoiledObject members → LayerGiven members l →
      LayerOf (.obj members) l

/-- A layer is read field by field. -/
theorem ofObject?_obj (members : List (String × Json)) : ConfigLayer.ofObject? (.obj members) = do
    return ⟨← Setting.install.read members, ← Setting.proxy.read members, ← Setting.lookup.read members,
      ← Setting.binary.read members⟩ := by
  simp only [ConfigLayer.ofObject?, Json.objectRecord?, Setting.read, Setting.install, Setting.proxy, Setting.lookup,
    Setting.binary, Config.installOption, List.mapM_cons, List.mapM_nil]
  -- all slots are found before any is read; nothing else tells the two sides apart
  cases Json.slotOf ["installGoDependency", "install_go_dependency"] members <;>
    cases Json.slotOf ["goProxy", "go_proxy"] members <;>
    cases Json.slotOf ["remoteRepoLookup", "remote_repo_lookup"] members <;>
    cases Json.slotOf ["goBinary", "go_binary"] members <;> simp

theorem ofObject?_eq_none_iff {members : List (String × Json)} :
    ConfigLayer.ofObject? (.obj members) = none ↔ SpoiledObject members := by
  simp only [ofObject?_obj, SpoiledObject, ← Setting.read_eq_none_iff]
  cases Setting.install.read members <;> cases Setting.proxy.read members <;>
    cases Setting.lookup.read members <;> cases Setting.binary.read members <;> simp

theorem ofObject?_eq_some_iff {members : List (String × Json)} {l : ConfigLayer} :
    ConfigLayer.ofObject? (.obj members) = some l ↔ ¬SpoiledObject members ∧ LayerGiven members l := by
  constructor
  · intro h
    have hsound : ¬SpoiledObject members := by
      rw [← ofObject?_eq_none_iff, h]
      exact Option.some_ne_none l
    rw [ofObject?_obj] at h
    simp only [Option.bind_eq_bind, Option.bind_eq_some_iff, Option.pure_def, Option.some_inj] at h
    obtain ⟨install, hi, proxy, hp, lookup, hl, binary, hb, rfl⟩ := h
    rw [Setting.read_eq_some_iff] at hi hp hl hb
    exact ⟨hsound, hi.2, hp.2, hl.2, hb.2⟩
  · intro h
    obtain ⟨hsound, hgiven⟩ := h
    rw [SpoiledObject, not_or, not_or, not_or] at hsound
    obtain ⟨hi, hp, hl, hb⟩ := hsound
    rw [ofObject?_obj, Setting.read_eq_some_iff.mpr ⟨hi, hgiven.install⟩,
      Setting.read_eq_some_iff.mpr ⟨hp, hgiven.proxy⟩, Setting.read_eq_some_iff.mpr ⟨hl, hgiven.lookup⟩,
      Setting.read_eq_some_iff.mpr ⟨hb, hgiven.binary⟩]
    rfl

/-- The layer that is read is the one that the JSON value stands for. -/
theorem layerOf_iff {j : Json} {l : ConfigLayer} : LayerOf j l ↔ l = .ofJson j := by
  constructor
  · intro h
    cases h with
    | noObject h =>
      cases j with
      | obj => cases h
      | null | bool | int | decimal | str | arr => rfl
    | spoiled h => rw [ConfigLayer.ofJson, ofObject?_eq_none_iff.mpr h, Option.getD_none]
    | given hsound h => rw [ConfigLayer.ofJson, ofObject?_eq_some_iff.mpr ⟨hsound, h⟩, Option.getD_some]
  · rintro rfl
    cases j with
    | obj members =>
      unfold ConfigLayer.ofJson
      cases h : ConfigLayer.ofObject? (.obj members) with
      | none => exact .spoiled (ofObject?_eq_none_iff.mp h)
      | some l => exact .given (ofObject?_eq_some_iff.mp h).1 (ofObject?_eq_some_iff.mp h).2
    | null | bool | int | decimal | str | arr => exact .noObject rfl

-- the proxy is given under both its names, and so the flag is not set either
example : ConfigLayer.ofJson
    (.obj [("goProxy", .str "direct"), ("go_proxy", .null), ("installGoDependency", .bool true)]) = .empty := by
  decide

/-! ## The last settings -/

def Operation.options? : Operation → Option (Option Json)
  | .setOptions options => some options
  | _ => none

def Operation.settings? : Operation → Option Json
  | .setSettings settings => some settings
  | _ => none

/-- The options set last; none, if there are no options or none were ever set. -/
def lastOptions (ops : List Operation) : Option Json := (ops.filterMap Operation.options?).getLast?.join

/-- The settings set last. -/
def lastSettings (ops : List Operation) : Option Json := (ops.filterMap Operation.settings?).getLast?

theorem lastOptions_append (ops : List Operation) (op : Operation) :
    lastOptions (ops ++ [op]) = op.options?.getD (lastOptions ops) := by
  cases op <;> simp [lastOptions, Operation.options?]

theorem lastSettings_append (ops : List Operation) (op : Operation) :
    lastSettings (ops ++ [op]) = op.settings?.or (lastSettings ops) := by
  cases op <;> simp [lastSettings, Operation.settings?]

/-- The layer is what the value stands for; without a value it sets nothing. -/
def StandsFor (j : Option Json) (l : ConfigLayer) : Prop := j.elim (l = .empty) (LayerOf · l)

/-- The part of a client's settings that is meant for this server: what stands under `xrepo`, whatever it is,
    or else the settings as they come. -/
inductive Addressed : Json → Json → Prop
  | nested {before after : List (String × Json)} {own : Json} : (∀ m ∈ before, m.1 ≠ "xrepo") →
      Addressed (.obj (before ++ ("xrepo", own) :: after)) own
  | bare {members : List (String × Json)} : (∀ m ∈ members, m.1 ≠ "xrepo") → Addressed (.obj members) (.obj members)
  | noObject {j : Json} : j.isObject = false → Addressed j j

theorem lookup_append_cons {before after : List (String × Json)} {key : String} {j : Json}
    (h : ∀ m ∈ before, m.1 ≠ key) : (before ++ (key, j) :: after).lookup key = some j := by
  have hbefore : before.lookup key = none :=
    List.lookup_eq_none_iff.mpr fun m hm => bne_iff_ne.mpr (h m hm).symm
  rw [List.lookup_append, hbefore, Option.none_or, List.lookup_cons_self]

/-- The section that is read is the one that is meant. -/
theorem addressed_iff {settings own : Json} : Addressed settings own ↔ own = Session.ownSection settings := by
  constructor
  · intro h
    cases h with
    | nested h => rw [Session.ownSection, Json.get?, lookup_append_cons h, Option.getD_some]
    | bare h =>
      have hnone : List.lookup "xrepo" _ = none := List.lookup_eq_none_iff.mpr fun m hm => bne_iff_ne.mpr (h m hm).symm
      rw [Session.ownSection, Json.get?, hnone, Option.getD_none]
    | noObject h =>
      cases settings with
      | obj => cases h
      | null | bool | int | decimal | str | arr => rfl
  · rintro rfl
    cases settings with
    | obj members =>
      rw [Session.ownSection, Json.get?]
      cases h : members.lookup "xrepo" with
      | none => exact .bare fun m hm => (bne_iff_ne.mp (List.lookup_eq_none_iff.mp h m hm)).symm
      | some own =>
        obtain ⟨before, after, rfl, hbefore⟩ := List.lookup_eq_some_iff.mp h
        exact .nested fun m hm => (bne_iff_ne.mp (hbefore m hm)).symm
    | null | bool | int | decimal | str | arr => exact .noObject rfl

/-- The layer is what the settings' own part stands for; settings that were never sent set nothing. -/
def SettingsStandFor (settings : Option Json) (l : ConfigLayer) : Prop :=
  settings.elim (l = .empty) fun sent => ∃ own, Addressed sent own ∧ LayerOf own l

/-- The session has this base and the layers of these options and settings. -/
structure Follows (base : Config) (options settings : Option Json) (s : Session) : Prop where
  fromBase : s.base = base
  asSent : s.options = options
  initialization : StandsFor options s.initialization
  workspace : SettingsStandFor settings s.workspace

theorem new_follows (base : Config) : Follows base none none (.new base) := ⟨rfl, rfl, rfl, rfl⟩

theorem standsFor_iff {j : Option Json} {l : ConfigLayer} : StandsFor j l ↔ l = j.elim .empty ConfigLayer.ofJson := by
  cases j with
  | none => exact Iff.rfl
  | some j => exact layerOf_iff

theorem settingsStandFor_iff {settings : Option Json} {l : ConfigLayer} : SettingsStandFor settings l ↔
    l = settings.elim .empty fun sent => .ofJson (Session.ownSection sent) := by
  cases settings with
  | none => exact Iff.rfl
  | some sent => simp [SettingsStandFor, addressed_iff, layerOf_iff]

/-- Fields of a later layer come before those of an earlier one. -/
theorem merge_merge (c : Config) (a b : ConfigLayer) : (c.merge a).merge b =
    { installGoDependency := (b.installGoDependency.or a.installGoDependency).getD c.installGoDependency
      goProxy := (b.goProxy.or a.goProxy).getD c.goProxy
      remoteRepoLookup := (b.remoteRepoLookup.or a.remoteRepoLookup).getD c.remoteRepoLookup
      goBinary := (b.goBinary.or a.goBinary).or c.goBinary } := by
  simp only [Config.merge, Option.getD_or, Option.or_assoc]

namespace Workspace

variable [ProjectSettings (Workbench Tree)]

/-- Managing folders leaves the settings alone. -/
theorem manageDeps_settings (w : Workspace (Workbench Tree)) (folders : List Folder) (options : Option Json) :
    ∃ tracked cleanup, (w.manageDeps folders options).2.session =
      { w.session with folders := tracked, cleanup := cleanup } := by
  unfold manageDeps
  split
  · exact ⟨_, _, rfl⟩
  · obtain ⟨written, _, hsession⟩ := @manageAll_scans _ w options folders [] (fun _ => True) (by simp)
    simp only [hsession]
    exact ⟨_, _, rfl⟩

/-- New options and settings take the place of those before; no other operation changes the settings. -/
theorem step_follows {base : Config} {options settings : Option Json} {w : Workspace (Workbench Tree)}
    (h : Follows base options settings w.session) (op : Operation) :
    Follows base (op.options?.getD options) (op.settings?.or settings) (w.step op).session := by
  obtain ⟨hbase, hoptions, hinitialization, hworkspace⟩ := h
  cases op with
  | setOptions options => exact ⟨hbase, rfl, standsFor_iff.mpr rfl, hworkspace⟩
  | setSettings settings => exact ⟨hbase, hoptions, hinitialization, settingsStandFor_iff.mpr rfl⟩
  | addFolders | removeFolders | clean => exact ⟨hbase, hoptions, hinitialization, hworkspace⟩
  | manage folders options =>
    obtain ⟨tracked, cleanup, hsession⟩ := manageDeps_settings w folders options
    rw [Workspace.step, hsession]
    exact ⟨hbase, hoptions, hinitialization, hworkspace⟩

variable (base : Config) (vendor : Module.Registry) (world : Workbench Tree)

theorem run_follows (ops : List Operation) :
    Follows base (lastOptions ops) (lastSettings ops) ((begun base vendor world).run ops).session := by
  induction ops using List.reverseRecOn with
  | nil => exact new_follows base
  | append_singleton ops op ih =>
    have hrun : (begun base vendor world).run (ops ++ [op]) = ((begun base vendor world).run ops).step op :=
      List.foldl_append ..
    rw [hrun, lastOptions_append, lastSettings_append]
    exact step_follows ih op

/-- Whatever a session was asked to do, and in whatever order: its options are the last ones, and each field
    of its configuration is what the last settings set, else what the last options set, else the base's. -/
theorem run_config (ops : List Operation) :
    ((begun base vendor world).run ops).session.options = lastOptions ops ∧
      ∃ initial workspace, StandsFor (lastOptions ops) initial ∧
        SettingsStandFor (lastSettings ops) workspace ∧
        ((begun base vendor world).run ops).session.config =
          { installGoDependency :=
              (workspace.installGoDependency.or initial.installGoDependency).getD base.installGoDependency
            goProxy := (workspace.goProxy.or initial.goProxy).getD base.goProxy
            remoteRepoLookup := (workspace.remoteRepoLookup.or initial.remoteRepoLookup).getD base.remoteRepoLookup
            goBinary := (workspace.goBinary.or initial.goBinary).or base.goBinary } := by
  obtain ⟨hbase, hoptions, hinitialization, hworkspace⟩ := run_follows base vendor world ops
  refine ⟨hoptions, _, _, hinitialization, hworkspace, ?_⟩
  rw [Session.config, Session.configOver, merge_merge, hbase]
  rfl

/-- Settings under a section of their own, then options that set two of the same fields. -/
def nestedSettings : List Operation :=
  [ .setSettings (.obj [("xrepo", .obj [("goProxy", .str "direct"), ("remote_repo_lookup", .bool false)])]),
    .setOptions (some (.obj [("go_proxy", .str "off"), ("installGoDependency", .bool true)])) ]

theorem run_config_nestedSettings : ((begun base vendor world).run nestedSettings).session.config =
    { installGoDependency := true, goProxy := "direct", remoteRepoLookup := false, goBinary := base.goBinary } := by
  obtain ⟨_, initial, workspace, hinitial, hworkspace, hconfig⟩ := run_config base vendor world nestedSettings
  have hi : initial = ⟨some true, some "off", none, none⟩ := (standsFor_iff.mp hinitial).trans (by decide)
  have hw : workspace = ⟨none, some "direct", some false, none⟩ := (settingsStandFor_iff.mp hworkspace).trans (by decide)
  rw [hconfig, hi, hw]
  rfl

end Workspace

end GoAtlas
