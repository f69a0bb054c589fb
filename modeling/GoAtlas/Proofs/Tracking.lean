/-
  GoAtlas.Proofs.Tracking — the folders that a session tracks, and the names they go by.

  The client calls a folder what it likes; a folder that a scan finds is called after its directory. Folders
  are added by address and name together, and removed by the address alone.
  - `segments_eq_of_same` / `NamedAfter.name_eq`: an address belongs to one directory, so folders called after
    their directories have one name for one address.
  - `manageFolder_found` / `manageAll_found`: what managing folders brings up beyond them lies inside one of
    them and is called after its directory.
  - `nodup_addresses_addNew`: when the addresses of a list stay distinct as folders are added.
  - `Tracks`: what holds of the folders tracked, given those that the client named.
  - `run_tracks`: an address is tracked twice only under two names, one of them the client's; it is tracked
    once as long as the names agree, and twice as soon as one does not.
  - `a_folder_is_tracked_under_two_names`: the client names a folder that a later scan finds.
-/
import GoAtlas.Proofs.Events
import GoAtlas.Proofs.Ledger

namespace GoAtlas

open GoAtlas.Module

/-! ## One directory, one name -/

namespace Url

theorem same_iff {u v : Url} : u.same v = true ↔ u.text = v.text := beq_iff_eq

/-- The address of a directory has no other host, and at least one segment. -/
theorem ofFilePath?_eq_some {p : Path} {u : Url} (h : ofFilePath? p = some u) :
    ∃ s ss, u = ⟨"file", some ⟨"", none, "", none⟩, .segments (s :: ss), none, none⟩ := by
  unfold ofFilePath? at h
  split at h
  · generalize (p.segments.drop 1).map (fun s => String.ofList (encodeBytes segmentSet s)) = segments at h
    cases segments with
    | nil => exact ⟨"", [], (Option.some.inj h).symm⟩
    | cons s ss => exact ⟨s, ss, (Option.some.inj h).symm⟩
  · cases h

/-- It is read by its text alone. -/
theorem toFilePath?_eq_of_same {d e : Path} {u v : Url} (hu : ofFilePath? d = some u) (hv : ofFilePath? e = some v)
    (h : u.same v = true) : u.toFilePath? = v.toFilePath? := by
  obtain ⟨s, ss, rfl⟩ := ofFilePath?_eq_some hu
  obtain ⟨t, ts, rfl⟩ := ofFilePath?_eq_some hv
  have hroute : String.join ((s :: ss).map ("/" ++ ·)) = String.join ((t :: ts).map ("/" ++ ·)) := by
    have htext := same_iff.mp h
    simpa [text, path, Route.text] using htext
  simp only [toFilePath?, segments?, hroute]

theorem segments_eq_of_same {d e : Path} {u v : Url} (hu : ofFilePath? d = some u) (hv : ofFilePath? e = some v)
    (h : u.same v = true) : d.segments = e.segments := by
  obtain ⟨p, hp, hpd⟩ := toFilePath?_ofFilePath? hu
  obtain ⟨q, hq, hqe⟩ := toFilePath?_ofFilePath? hv
  rw [toFilePath?_eq_of_same hu hv h, hq, Option.some.injEq] at hp
  rw [← hpd, ← hqe, hp]

end Url

namespace Folder

/-- An address belongs to the folders of one directory. -/
theorem segments_eq_of_same {d e : Path} {f g : Folder} (hf : ofDir? d = some f) (hg : ofDir? e = some g)
    (h : f.uri.same g.uri = true) : d.segments = e.segments := by
  obtain ⟨u, hu, rfl⟩ := Option.map_eq_some_iff.mp hf
  obtain ⟨v, hv, rfl⟩ := Option.map_eq_some_iff.mp hg
  exact Url.segments_eq_of_same hu hv h

/-- The folder looks like the one that the segments of the directory give. -/
def NamedAfter (f : Folder) (d : Path) : Prop := ∃ g, ofDir? (.ofSegments d.segments) = some g ∧ g.shown = f.shown

/-- The directory has one name for one address; different spellings of the path do not matter. -/
theorem NamedAfter.name_eq {f g : Folder} {d e : Path} (hf : f.NamedAfter d) (hg : g.NamedAfter e)
    (h : f.uri.same g.uri = true) : f.name = g.name := by
  obtain ⟨f', hf', hff'⟩ := hf
  obtain ⟨g', hg', hgg'⟩ := hg
  obtain ⟨hfuri, hfname⟩ := Prod.mk.inj hff'
  obtain ⟨hguri, hgname⟩ := Prod.mk.inj hgg'
  have hsegments : d.segments = e.segments := by
    have hplace := segments_eq_of_same hf' hg'
      (Url.same_iff.mpr (hfuri.trans ((Url.same_iff.mp h).trans hguri.symm)))
    rwa [Path.segments_ofSegments d.proper_segments, Path.segments_ofSegments e.proper_segments] at hplace
  rw [hsegments, hg', Option.some.injEq] at hf'
  rw [← hfname, ← hgname, hf']

/-- A folder called by the last segment, or by all of a path that is written from its segments, is the one that the
    segments give. -/
theorem ofDir?_ofSegments {d : Path} (h : (∃ name, d.fileName? = some name) ∨ Path.ofSegments d.segments = d) :
    ofDir? (.ofSegments d.segments) = ofDir? d := by
  rcases h with ⟨name, hname⟩ | h
  · have hsegments := Path.segments_ofSegments d.proper_segments
    have hlast : (Path.ofSegments d.segments).fileName? = d.fileName? := by
      rw [Path.fileName?, Path.fileName?, hsegments]
    rw [ofDir?, ofDir?, Url.ofFilePath?_congr hsegments, hlast, hname]
    rfl
  · rw [h]

/-- One of the others encloses the folder, and it is called after its directory. -/
def FoundIn (g : Folder) (fs : List Folder) : Prop := (∃ f ∈ fs, f.Encloses g.uri) ∧ ∃ d, g.NamedAfter d

theorem FoundIn.mono {g : Folder} {fs gs : List Folder} (h : g.FoundIn fs) (hsub : fs ⊆ gs) : g.FoundIn gs := by
  obtain ⟨⟨f, hf, henc⟩, hnamed⟩ := h
  exact ⟨⟨f, hsub hf, henc⟩, hnamed⟩

/-- The folders of `fs` agree on the names with each other and with all that may be found in them. -/
def Agree (fs : List Folder) : Prop :=
  ∀ f ∈ fs, ∀ g, g ∈ fs ∨ g.FoundIn fs → f.uri.same g.uri = true → f.name = g.name

theorem agree_of_namedAfter {fs : List Folder} (h : ∀ f ∈ fs, ∃ d, f.NamedAfter d) : Agree fs := by
  intro f hf g hg hsame
  obtain ⟨d, hd⟩ := h f hf
  obtain ⟨e, he⟩ : ∃ e, g.NamedAfter e := hg.elim (h g) And.right
  exact hd.name_eq he hsame

/-- Adding shows nothing twice. -/
theorem nodup_addNew {fs : List Folder} (h : (fs.map shown).Nodup) (more : List Folder) :
    ((addNew fs more).map shown).Nodup := by
  obtain ⟨rest, heq, _, hnodup, hmem⟩ := addNew_spec fs more
  rw [heq, List.map_append]
  refine List.nodup_append'.mpr ⟨h, hnodup, fun k hk hrest => ?_⟩
  exact ((hmem k).mp hrest).2 hk

theorem mem_of_mem_addNew {fs more : List Folder} {g : Folder} (h : g ∈ addNew fs more) : g ∈ fs ∨ g ∈ more := by
  obtain ⟨rest, heq, hsub, _⟩ := addNew_spec fs more
  rw [heq, List.mem_append] at h
  exact h.imp_right (hsub g)

/-- A list with distinct addresses has distinct addresses with more folders in it exactly if these agree with each
    other and with the list on the names. -/
theorem nodup_addresses_addNew {fs : List Folder} (h : (fs.map (·.uri.text)).Nodup) (more : List Folder) :
    ((addNew fs more).map (·.uri.text)).Nodup ↔
      ∀ f ∈ more, ∀ g ∈ fs ++ more, f.uri.same g.uri = true → f.name = g.name := by
  constructor
  · intro hnodup f hf g hg hsame
    have hmem : ∀ k ∈ fs ++ more, ∃ a ∈ addNew fs more, a.shown = k.shown := by
      intro k hk
      refine List.mem_map.mp (mem_addNew_shown.mpr ?_)
      exact (List.mem_append.mp hk).imp List.mem_map_of_mem List.mem_map_of_mem
    obtain ⟨a, ha, haf⟩ := hmem f (List.mem_append_right _ hf)
    obtain ⟨b, hb, hbg⟩ := hmem g hg
    have htext : a.uri.text = b.uri.text :=
      calc a.uri.text = f.uri.text := congrArg Prod.fst haf
        _ = g.uri.text := Url.same_iff.mp hsame
        _ = b.uri.text := (congrArg Prod.fst hbg).symm
    obtain rfl : a = b := List.inj_on_of_nodup_map hnodup ha hb htext
    exact congrArg Prod.snd (haf.symm.trans hbg)
  · intro hagree
    obtain ⟨rest, heq, hsub, hdistinct, hmem⟩ := addNew_spec fs more
    rw [heq, List.map_append]
    refine List.nodup_append'.mpr ⟨h, List.pairwise_map.mpr ?_, ?_⟩
    · refine List.Pairwise.imp_of_mem (fun {a b} ha hb hne htext => hne ?_) (List.pairwise_map.mp hdistinct)
      exact Prod.ext htext
        (hagree a (hsub a ha) b (List.mem_append_right _ (hsub b hb)) (Url.same_iff.mpr htext))
    · -- a folder with the address of one of the list would show the same as that one
      intro text hfs hrest
      obtain ⟨g, hg, rfl⟩ := List.mem_map.mp hfs
      obtain ⟨f, hf, htext⟩ := List.mem_map.mp hrest
      have hname := hagree f (hsub f hf) g (List.mem_append_left _ hg) (Url.same_iff.mpr htext)
      have hshown : f.shown = g.shown := Prod.ext htext hname
      refine ((hmem f.shown).mp (List.mem_map_of_mem hf)).2 ?_
      rw [hshown]
      exact List.mem_map_of_mem hg

end Folder

/-! ## Folders that a scan finds -/

namespace Module

/-- The folder of a root other than the scan's own is the one that its segments give. -/
theorem ofDir?_of_root {w w' : Workbench Tree} (hw : w.files.Closed) {policy : Policy} {folder : Path}
    {roots : List ModuleRoot} {written : List Path} (h : scan policy folder w = (.ok (roots, written), w'))
    {r : ModuleRoot} (hr : r ∈ roots) (hother : r.path.same folder = false) :
    Folder.ofDir? (.ofSegments r.path.segments) = Folder.ofDir? r.path := by
  rcases scan_eq_createAll hw folder with ⟨_, e, he⟩ | ⟨_, ds, found, hpass, hscan⟩
  · rw [he] at h
    cases h
  rw [hscan] at h
  cases h
  -- a directory that is entered below the folder ends in a name
  have hentered : ∀ {skip : String → Bool} {names : Segments}, w.files.Entered skip folder.segments names →
      r.path = folder.descend names → ∃ name, r.path.fileName? = some name := by
    intro skip names henter hpath
    have hseg := hpass.segments_descend henter.1
    have hne : names ≠ [] := by
      rintro rfl
      rw [hpath, Path.same_iff.mpr (hseg.trans (List.append_nil _))] at hother
      cases hother
    refine ⟨names.getLast hne, ?_⟩
    have hlast : r.path.segments.getLast? = some (names.getLast hne) := by
      rw [hpath, hseg, List.getLast?_append, List.getLast?_eq_some_getLast hne, Option.some_or]
    simp only [Path.fileName?, hlast, (henter.1.1 _ (List.getLast_mem hne)).1, if_true]
  refine Folder.ofDir?_ofSegments ?_
  rcases List.mem_append.mp hr with hr | hr
  · obtain ⟨d, hd, rfl⟩ := List.mem_map.mp hr
    obtain ⟨names, henter, hpath⟩ :=
      (mem_walkBelow w.files.shows.list hpass.closed hpass.walk).mp (List.mem_filter.mp hd).1
    exact Or.inl (hentered henter hpath)
  · rcases List.mem_append.mp ((createAll_sublist ..).mem hr) with hr | hr
    · obtain ⟨d, hd, rfl⟩ := List.mem_map.mp hr
      obtain ⟨names, henter, _, _, _, hpath⟩ := (mem_manifestDirs hpass.toFinds).mp hd
      exact Or.inl (hentered henter hpath)
    · exact Or.inr (path_sourceRoots (fun x hx => (sourceDirs_below hpass.toFinds x hx).1) r hr)

end Module

/-- What managing one local folder returns beyond it is called after its directory. -/
theorem Manager.manage_named {policy : Policy} {f : Folder} {dir : Path} {w : Workbench Tree} (hw : w.files.Closed)
    (hf : f.uri.toFilePath? = some dir) (v : Registry) :
    ∃ rest, ((Manager.new policy).manage [f] v w).1 = f :: rest ∧ ∀ g ∈ rest, ∃ d, g.NamedAfter d := by
  rw [Manager.manage_eq hf]
  rcases hscan : Module.scan policy dir w with ⟨e | ⟨roots, written⟩, w'⟩
  · exact ⟨[], rfl, by simp⟩
  · obtain ⟨rest, heq, hrest⟩ := Manager.groupOf_eq f dir roots
    refine ⟨rest, heq, fun g hg => ?_⟩
    obtain ⟨r, hr, hother, hrg⟩ := hrest g hg
    exact ⟨r.path, g, (ofDir?_of_root hw hscan hr hother).trans hrg, rfl⟩

namespace Workspace

variable [ProjectSettings (Workbench Tree)] {w : Workspace (Workbench Tree)}

/-- Managing a folder returns it first, and then folders found in it. -/
theorem manageFolder_found (hw : w.world.files.Closed) (options : Option Json) (f : Folder) :
    ∃ rest, (w.manageFolder options f).1 = f :: rest ∧ ∀ g ∈ rest, g.FoundIn [f] := by
  obtain ⟨rest, hgroup, hinside⟩ := manageFolder_group hw options f
  have hnamed : ∃ rest, (w.manageFolder options f).1 = f :: rest ∧ ∀ g ∈ rest, ∃ d, g.NamedAfter d := by
    rw [show (w.manageFolder options f).1 = ((Manager.new (w.policyFor options f)).manage [f] w.vendor w.world).1 from
      rfl]
    cases hf : f.uri.toFilePath? with
    | none =>
      rw [Manager.manage_of_not_local hf]
      exact ⟨[], rfl, by simp⟩
    | some dir => exact Manager.manage_named hw hf w.vendor
  obtain ⟨rest', hgroup', hnamed⟩ := hnamed
  obtain rfl : rest' = rest := (List.cons.inj (hgroup'.symm.trans hgroup)).2
  exact ⟨rest', hgroup, fun g hg => ⟨⟨f, List.mem_singleton_self f, hinside g hg⟩, hnamed g hg⟩⟩

/-- Managing folders returns those found so far and the folders themselves, and beyond them only folders
    found in one. -/
theorem manageAll_found (hw : w.world.files.Closed) (options : Option Json) (fs found : List Folder) :
    ∀ g ∈ (w.manageAll options fs found).1, g ∈ found ∨ g ∈ fs ∨ g.FoundIn fs := by
  induction fs generalizing w found with
  | nil => exact fun g hg => Or.inl hg
  | cons f fs ih =>
    obtain ⟨rest, hgroup, hrest⟩ := manageFolder_found hw options f
    intro g hg
    rw [manageAll] at hg
    have hlater := ih (manageFolder_closed hw options f) (Folder.addNew found (w.manageFolder options f).1) g hg
    rcases hlater with hg | hg | hg
    · rcases Folder.mem_of_mem_addNew hg with hg | hg
      · exact Or.inl hg
      rw [hgroup] at hg
      rcases List.mem_cons.mp hg with rfl | hg
      · exact Or.inr (Or.inl (List.mem_cons_self ..))
      · exact Or.inr (Or.inr ((hrest g hg).mono (by simp)))
    · exact Or.inr (Or.inl (List.mem_cons_of_mem _ hg))
    · exact Or.inr (Or.inr (hg.mono (List.subset_cons_self ..)))

end Workspace

/-! ## What is tracked -/

/-- The folders that the client names. -/
def Operation.given : Operation → List Folder
  | .addFolders folders => folders
  | .manage folders _ => folders
  | _ => []

/-- The tracked folders have pairwise distinct addresses. -/
def Session.TracksOnce (s : Session) : Prop := (s.folders.map (·.uri.text)).Nodup

instance (s : Session) : Decidable s.TracksOnce :=
  inferInstanceAs (Decidable (s.folders.map (·.uri.text)).Nodup)

namespace Workspace

/-- Of the folders tracked, each shows something else, and was named by the client or found in a folder that
    was. -/
structure Tracks (given : List Folder) (w : Workspace (Workbench Tree)) : Prop where
  closed : w.world.files.Closed
  distinct : (w.session.folders.map Folder.shown).Nodup
  origin : ∀ g ∈ w.session.folders, g ∈ given ∨ g.FoundIn given

namespace Tracks

variable {given : List Folder} {w : Workspace (Workbench Tree)}

theorem mono (h : Tracks given w) {more : List Folder} (hsub : given ⊆ more) : Tracks more w :=
  ⟨h.closed, h.distinct, fun g hg => (h.origin g hg).imp (@hsub g) (·.mono hsub)⟩

/-- Two tracked folders with one address have different names, and the client named one of them. -/
theorem pairwise (h : Tracks given w) : w.session.folders.Pairwise fun a b =>
    a.uri.same b.uri = true → a.name ≠ b.name ∧ (a ∈ given ∨ b ∈ given) := by
  refine List.Pairwise.imp_of_mem (fun {a b} ha hb hne hsame => ?_) (List.pairwise_map.mp h.distinct)
  have hname : a.name ≠ b.name := fun e => hne (Prod.ext (Url.same_iff.mp hsame) e)
  refine ⟨hname, ?_⟩
  rcases h.origin a ha with ha | ⟨_, d, hd⟩
  · exact Or.inl ha
  rcases h.origin b hb with hb | ⟨_, e, he⟩
  · exact Or.inr hb
  exact absurd (hd.name_eq he hsame) hname

/-- Folders are added to those tracked. -/
theorem grow (h : Tracks given w) {w' : Workspace (Workbench Tree)} {more : List Folder}
    (hclosed : w'.world.files.Closed) (hfolders : w'.session.folders = Folder.addNew w.session.folders more)
    (hmore : ∀ g ∈ more, g ∈ given ∨ g.FoundIn given) : Tracks given w' := by
  refine ⟨hclosed, ?_, fun g hg => ?_⟩
  · rw [hfolders]
    exact Folder.nodup_addNew h.distinct more
  · rw [hfolders] at hg
    exact (Folder.mem_of_mem_addNew hg).elim (h.origin g) (hmore g)

/-- If the names agree, no address is tracked twice. -/
theorem once (h : Tracks given w) (hagree : Folder.Agree given) : w.session.TracksOnce := by
  refine List.pairwise_map.mpr (List.Pairwise.imp_of_mem (fun {a b} ha hb hclash htext => ?_) h.pairwise)
  obtain ⟨hname, hga | hgb⟩ := hclash (Url.same_iff.mpr htext)
  · exact hname (hagree a hga b (h.origin b hb) (Url.same_iff.mpr htext))
  · exact hname (hagree b hgb a (h.origin a ha) (Url.same_iff.mpr htext.symm)).symm

end Tracks

theorem begun_tracks (base : Config) (vendor : Registry) {world : Workbench Tree} (ht : world.files.Built) :
    Tracks [] (begun base vendor world) :=
  ⟨ht.closed, List.nodup_nil, fun _ hg => absurd hg List.not_mem_nil⟩

variable [ProjectSettings (Workbench Tree)] {w : Workspace (Workbench Tree)} {given : List Folder}

/-- An operation adds folders that it names or that are found in them, or takes some away, or leaves them alone. -/
theorem Tracks.step (h : Tracks given w) (op : Operation) : Tracks (given ++ op.given) (w.step op) := by
  have hall := h.mono (List.subset_append_left given op.given)
  cases op with
  | setOptions options => exact ⟨hall.closed, hall.distinct, hall.origin⟩
  | setSettings settings => exact ⟨hall.closed, hall.distinct, hall.origin⟩
  | addFolders folders =>
    exact hall.grow hall.closed rfl fun g hg => Or.inl (List.mem_append_right _ hg)
  | removeFolders folders =>
    have hsub : (w.session.removeFolders folders).folders.Sublist w.session.folders := List.filter_sublist
    exact ⟨hall.closed, hall.distinct.sublist (hsub.map _), fun g hg => hall.origin g (hsub.subset hg)⟩
  | manage folders options =>
    cases hopen : w.session.closed with
    | true =>
      rw [Workspace.step, manageDeps_of_closed hopen]
      exact hall
    | false =>
      refine hall.grow (manageDeps_closed h.closed folders options) (manageDeps_folders hopen folders options) ?_
      intro g hg
      rcases manageAll_found h.closed options folders [] g hg with hg | hg | hg
      · cases hg
      · exact Or.inl (List.mem_append_right _ hg)
      · exact Or.inr (hg.mono (List.subset_append_right ..))
  | clean => exact ⟨Server.closed_cleanupFolders hall.closed _, hall.distinct, hall.origin⟩

theorem Tracks.run (h : Tracks given w) (ops : List Operation) :
    Tracks (given ++ ops.flatMap Operation.given) (w.run ops) := by
  induction ops generalizing given w with
  | nil =>
    rw [List.flatMap_nil, List.append_nil]
    exact h
  | cons op ops ih =>
    rw [List.flatMap_cons, ← List.append_assoc]
    exact ih (h.step op)

/-- The folders that an operation brings: those of the client, or what managing them returns. A closed session
    manages nothing. -/
def brought (w : Workspace (Workbench Tree)) : Operation → List Folder
  | .addFolders folders => folders
  | .manage folders options => if w.session.closed then [] else (w.manageDeps folders options).1
  | _ => []

/-- The addresses stay distinct exactly if the folders that come agree with each other and with those tracked. -/
theorem tracksOnce_step (h : w.session.TracksOnce) (op : Operation) :
    (w.step op).session.TracksOnce ↔
      ∀ f ∈ w.brought op, ∀ g ∈ w.session.folders ++ w.brought op, f.uri.same g.uri = true → f.name = g.name := by
  have hkeep : ∀ {fs : List Folder}, fs.Sublist w.session.folders → ((fs.map (·.uri.text)).Nodup ↔
      ∀ f ∈ ([] : List Folder), ∀ g ∈ w.session.folders ++ [], f.uri.same g.uri = true → f.name = g.name) := by
    intro fs hsub
    exact ⟨fun _ f hf => absurd hf List.not_mem_nil, fun _ => List.Nodup.sublist (hsub.map _) h⟩
  cases op with
  | setOptions | setSettings | clean => exact hkeep (.refl _)
  | addFolders folders => exact Folder.nodup_addresses_addNew h folders
  | removeFolders folders => exact hkeep List.filter_sublist
  | manage folders options =>
    cases hopen : w.session.closed with
    | true =>
      rw [Workspace.step, manageDeps_of_closed hopen, brought, if_pos hopen]
      exact hkeep (.refl _)
    | false =>
      have hreturned : w.brought (.manage folders options) = (w.manageAll options folders []).1 := by
        simp only [brought, manageDeps, hopen, Bool.false_eq_true, if_false]
      rw [Workspace.step, Session.TracksOnce, manageDeps_folders hopen, hreturned]
      exact Folder.nodup_addresses_addNew h _

variable (base : Config) (vendor : Registry) (world : Workbench Tree)

/-- What a session tracks after any operations of the client: folders that the client named, and folders found
    in these. An address is tracked twice only under different names, of which the client gave one; so it is
    tracked once if the client's names agree with each other and with those found. From then on the next operation
    leaves it so exactly if the folders that it brings agree with each other and with those tracked. -/
theorem run_tracks (ht : world.files.Built) (ops : List Operation) :
    (∀ g ∈ ((begun base vendor world).run ops).session.folders,
        g ∈ ops.flatMap Operation.given ∨ g.FoundIn (ops.flatMap Operation.given)) ∧
      (((begun base vendor world).run ops).session.folders.Pairwise fun a b => a.uri.same b.uri = true →
        a.name ≠ b.name ∧ (a ∈ ops.flatMap Operation.given ∨ b ∈ ops.flatMap Operation.given)) ∧
      (Folder.Agree (ops.flatMap Operation.given) → ((begun base vendor world).run ops).session.TracksOnce) ∧
      ∀ op, ((begun base vendor world).run ops).session.TracksOnce →
        ((((begun base vendor world).run ops).step op).session.TracksOnce ↔
          ∀ f ∈ ((begun base vendor world).run ops).brought op,
            ∀ g ∈ ((begun base vendor world).run ops).session.folders ++ ((begun base vendor world).run ops).brought op,
              f.uri.same g.uri = true → f.name = g.name) := by
  have h := (begun_tracks base vendor ht).run ops
  rw [List.nil_append] at h
  exact ⟨h.origin, h.pairwise, h.once, fun op honce => tracksOnce_step honce op⟩

end Workspace

open Workspace

/-- A module with another one inside. -/
def nestedModules : Workbench Tree :=
  ⟨(Tree.empty.addFile ⟨"/ws/go.mod"⟩ .empty).addFile ⟨"/ws/svc/go.mod"⟩ .empty, ⟨[], []⟩⟩

/-- The folder of a local directory below the root, under some name. -/
def localFolder (segments : List String) (name : String) : Folder :=
  ⟨⟨"file", some ⟨"", none, "", none⟩, .segments segments, none, none⟩, name⟩

/-- The client adds the inner folder under a name, and then has the outer one managed. -/
def addThenManage (name : String) : List Operation :=
  [.addFolders [localFolder ["ws", "svc"] name], .manage [localFolder ["ws"] "ws"] none]

/-- Under its own name the inner folder is tracked once, until it is added under another name. -/
theorem nestedModules_tracked_once :
    ((begun .default .empty nestedModules).run (addThenManage "svc")).session.TracksOnce ∧
      ¬(((begun .default .empty nestedModules).run (addThenManage "svc")).step
        (.addFolders [localFolder ["ws", "svc"] "service"])).session.TracksOnce := by
  have hbuilt : nestedModules.files.Built := .addFile _ _ (.addFile _ _ .empty)
  have hnamed : ∀ f ∈ (addThenManage "svc").flatMap Operation.given, ∃ d, f.NamedAfter d := by
    intro f hf
    simp only [addThenManage, Operation.given, List.flatMap_cons, List.flatMap_nil, List.cons_append, List.nil_append,
      List.mem_cons, List.not_mem_nil, or_false] at hf
    rcases hf with rfl | rfl
    · exact ⟨⟨"/ws/svc"⟩, Option.map_eq_some_iff.mp (by decide +kernel)⟩
    · exact ⟨⟨"/ws"⟩, Option.map_eq_some_iff.mp (by decide +kernel)⟩
  obtain ⟨_, _, honce, hstep⟩ := run_tracks .default .empty nestedModules hbuilt (addThenManage "svc")
  have honce := honce (Folder.agree_of_namedAfter hnamed)
  refine ⟨honce, fun hagain => ?_⟩
  have hname := (hstep _ honce).mp hagain (localFolder ["ws", "svc"] "service") (by decide)
    (localFolder ["ws", "svc"] "svc") (by decide +kernel) (by decide +kernel)
  exact absurd hname (by decide)

/-- The client calls the inner folder by another name: the scan of the outer one has it tracked once more. -/
theorem a_folder_is_tracked_under_two_names :
    ((begun .default .empty nestedModules).run (addThenManage "service")).session.folders.map Folder.shown =
        [("file:///ws/svc", "service"), ("file:///ws", "ws"), ("file:///ws/svc", "svc")] ∧
      ¬((begun .default .empty nestedModules).run (addThenManage "service")).session.TracksOnce := by
  decide +kernel

end GoAtlas
