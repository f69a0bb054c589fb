/-
  GoAtlas.Proofs.Directives — when a written module file is one directive.

  A module path goes into the file as it was found, so the file is one line with a path exactly if the path is
  not empty and has no line break. Which paths are found is known (`IsFirst`); here is what each place lets
  through.
  - `importComment?_eq_some`: a comment declares what its quoted text stands for, so that an escape can put a
    line break into the path.
  - `parentImportPath_append`: the parent of a path ends before the last slash, and is empty if that stands first.
  - `checkoutPath_ne_empty`: a folder's own path or that of its checkout is never empty.
  - `Declares.oneLine_iff`: so each place can spoil the path in its own way, and in no other.
  - `scan_directives`: a scan writes one directive into a module file exactly if the place that decides does not
    spoil it.
  - `a_directive_breaks_or_is_empty`: an escape makes two lines of it, and a comment one directory down whose path
    has its only slash in front leaves the path out.
-/
import GoAtlas.Proofs.Creation
import GoAtlas.Proofs.Derivation
import GoAtlas.Proofs.Quotation

namespace GoAtlas

open GoAtlas.Module GoAtlas.Json

namespace Text

/-- What stands before the last `c`. -/
theorem beforeLast?_append {c : Char} (front : List Char) {rest : List Char} (h : c ∉ rest) :
    beforeLast? c (front ++ c :: rest) = some front := by
  unfold beforeLast?
  rw [fields_append_sep, fields_of_notMem h]
  have hjoin := joinFields_fields c front
  obtain ⟨f, fs, hf⟩ := List.exists_cons_of_ne_nil (fields_ne_nil c front)
  rw [hf] at hjoin ⊢
  cases fs with
  | nil => exact congrArg some hjoin
  | cons g gs =>
    show some (joinFields [c] (f :: g :: gs ++ [rest]).dropLast) = some front
    rw [List.dropLast_concat, hjoin]

theorem beforeLast?_of_notMem {c : Char} {cs : List Char} (h : c ∉ cs) : beforeLast? c cs = none := by
  rw [beforeLast?, fields_of_notMem h]

theorem joinFields_ne_nil {sep : Char} {fs : List (List Char)} (h : 1 < fs.length) : joinFields [sep] fs ≠ [] := by
  match fs, h with
  | f :: g :: fs, _ => simp [joinFields]

end Text

namespace Module

/-! ## What each place declares -/

theorem ne_nil_of_commentAt? {cs q : List Char} (h : commentAt? cs = some q) : q ≠ [] := by
  simp only [commentAt?, Option.bind_eq_bind, Option.bind_eq_some_iff, Option.ite_none_right_eq_some,
    Bool.and_eq_true, Bool.not_eq_true', List.isEmpty_eq_false_iff, Option.some.injEq] at h
  obtain ⟨_, _, _, _, _, _, _, _, _, _, _, _, _, _, _, _, _, _, _, _, ⟨hne, _⟩, rfl⟩ := h
  exact hne

/-- An import comment has something between its quotes. -/
theorem ne_nil_of_firstComment? {atStart : Bool} {cs q : List Char} (h : firstComment? atStart cs = some q) :
    q ≠ [] := by
  fun_induction firstComment? atStart cs with
  | case1 => cases h
  | case2 atStart c cs path hpath =>
    cases h
    rw [Option.ite_none_right_eq_some] at hpath
    exact ne_nil_of_commentAt? hpath.2
  | case3 _ _ _ _ ih => exact ih h

/-- A source declares what the quoted text of its first import comment stands for. -/
theorem importComment?_eq_some {source path : String} : importComment? source = some path ↔
    ∃ q, firstComment? true source.toList = some q ∧ Quoted q path.toList := by
  rw [importComment?, Option.bind_eq_some_iff]
  refine exists_congr fun q => and_congr_right fun _ => ?_
  rw [← unquote?_iff, Option.map_eq_some_iff]
  constructor
  · rintro ⟨t, ht, rfl⟩
    rw [ht, String.toList_ofList]
  · intro h
    exact ⟨_, h, String.ofList_toList⟩

/-- The parent of an import path ends before the last slash. -/
theorem parentImportPath_append {path : String} {lead last : List Char} (h : path.toList = lead ++ '/' :: last)
    (hlast : '/' ∉ last) : parentImportPath path = String.ofList lead := by
  rw [parentImportPath, h, Text.beforeLast?_append lead hlast]

theorem parentImportPath_of_notMem {path : String} (h : '/' ∉ path.toList) : parentImportPath path = "." := by
  rw [parentImportPath, Text.beforeLast?_of_notMem h]

theorem checkoutPath_ne_empty {folder : String} (h : folder ≠ "") : checkoutPath folder ≠ "" := by
  unfold checkoutPath
  split
  · rename_i outer inner _
    simp only
    split
    · exact h
    · rename_i hlen
      have hparts : 1 < ((Text.fields '/' outer).drop ((Text.fields '/' outer).length - 3) ++
          (Text.fields '/' inner).drop 2).length := by
        rw [List.length_append, List.length_drop]
        omega
      intro hempty
      exact Text.joinFields_ne_nil hparts (by simpa using congrArg String.toList hempty)
  · exact h

end Module

/-- The first import comment of a source has this text between its quotes. -/
def Tree.Quotes (t : Tree) (dir : Segments) (file : String) (q : List Char) : Prop :=
  ∃ b, t.contents? (dir ++ [Octets.ofText file]) = some b ∧ firstComment? true (Text.lossy b).toList = some q

theorem Tree.Quotes.unique {t : Tree} {dir : Segments} {file : String} {q r : List Char} (hq : t.Quotes dir file q)
    (hr : t.Quotes dir file r) : q = r := by
  obtain ⟨b, hb, hq⟩ := hq
  obtain ⟨c, hc, hr⟩ := hr
  cases hb.symm.trans hc
  exact Option.some.inj (hq.symm.trans hr)

theorem Tree.Comments.exists_quotes {t : Tree} {dir : Segments} {file path : String} (h : t.Comments dir file path) :
    ∃ q, t.Quotes dir file q ∧ Quoted q path.toList ∧ path.toList ≠ [] := by
  obtain ⟨_, _, b, hb, hpath⟩ := h
  obtain ⟨q, hq, hquoted⟩ := importComment?_eq_some.mp hpath
  exact ⟨q, ⟨b, hb, hq⟩, hquoted, hquoted.ne_nil (ne_nil_of_firstComment? hq)⟩

namespace Module

/-! ## Paths on one line -/

variable {t : Tree} {path : String}

/-- The path can stand on the line of a directive: it is not empty and has no line break. -/
def OneLine (path : String) : Prop := path ≠ "" ∧ ¬HasBreak path.toList

instance (path : String) : Decidable (OneLine path) := inferInstanceAs (Decidable (_ ∧ _))

theorem oneLine_iff : OneLine path ↔ ¬(path.toList = [] ∨ HasBreak path.toList) := by
  rw [OneLine, not_or, ne_eq, String.toList_eq_nil_iff]

/-- What stands at the place spoils the path that it declares: a comment of the folder writes a line break; the
    path of a comment one directory down has its last slash in front, or a line break before it; the value of a
    manifest has a line break. -/
inductive Spoils (t : Tree) (folder : Segments) : Source → Prop
  | own {file : String} {q : List Char} : t.Quotes folder file q → EscapesBreak q → Spoils t folder (.own file)
  | below {dir file : String} {q lead last : List Char} : t.Quotes (folder ++ [Octets.ofText dir]) file q →
      Quoted q (lead ++ '/' :: last) → '/' ∉ last → lead = [] ∨ HasBreak lead → Spoils t folder (.below dir file)
  | manifest {tool : OldTool} {b : Text.Bytes} {path : String} : t.contents? (folder ++ tool.manifest) = some b →
      tool.Gives b path → HasBreak path.toList → Spoils t folder (.manifest tool)

theorem spoils_own_iff {d : Segments} {file : String} {q : List Char} (hq : t.Quotes d file q) :
    Spoils t d (.own file) ↔ EscapesBreak q := by
  constructor
  · intro h
    cases h with
    | own hq' hbreak => rwa [hq.unique hq']
  · exact .own hq

theorem spoils_below_iff {d : Segments} {dir file : String} {q : List Char}
    (hq : t.Quotes (d ++ [Octets.ofText dir]) file q) (hquoted : Quoted q path.toList) :
    Spoils t d (.below dir file) ↔ ¬OneLine (parentImportPath path) := by
  constructor
  · intro h
    cases h with
    | below hq' hquoted' hlast hlead =>
      rw [← hq.unique hq'] at hquoted'
      rw [parentImportPath_append (hquoted.unique hquoted') hlast, oneLine_iff, String.toList_ofList, not_not]
      exact hlead
  · intro h
    by_cases hslash : '/' ∈ path.toList
    · obtain ⟨last, lead, hsplit, hlast⟩ := List.eq_append_cons_of_mem (List.mem_reverse.mpr hslash)
      have hpath : path.toList = lead.reverse ++ '/' :: last.reverse := by
        rw [← List.reverse_reverse path.toList, hsplit]
        simp
      have hlast' : '/' ∉ last.reverse := fun h => hlast (List.mem_reverse.mp h)
      rw [parentImportPath_append hpath hlast', oneLine_iff, String.toList_ofList, not_not] at h
      exact .below hq (hpath ▸ hquoted) hlast' h
    · rw [parentImportPath_of_notMem hslash] at h
      exact absurd (by decide) h

theorem spoils_manifest_iff {d : Segments} {tool : OldTool} {b : Text.Bytes}
    (hb : t.contents? (d ++ tool.manifest) = some b) (hpath : tool.Gives b path) :
    Spoils t d (.manifest tool) ↔ HasBreak path.toList := by
  constructor
  · intro h
    cases h with
    | manifest hb' hpath' hbreak =>
      cases hb.symm.trans hb'
      cases hpath.unique hpath'
      exact hbreak
  · exact .manifest hb hpath

/-- A place declares a path on one line exactly if it does not spoil it. -/
theorem Declares.oneLine_iff {d : Segments} {src : Source} (h : Declares t d src path) :
    OneLine path ↔ ¬Spoils t d src := by
  cases h with
  | own hc =>
    obtain ⟨q, hq, hquoted, hne⟩ := hc.exists_quotes
    rw [spoils_own_iff hq, ← hquoted.break_iff, Module.oneLine_iff, or_iff_right hne]
  | below _ _ hc =>
    obtain ⟨q, hq, hquoted, _⟩ := hc.exists_quotes
    rw [spoils_below_iff hq hquoted, not_not]
  | manifest hb hpath =>
    rw [spoils_manifest_iff hb hpath, OneLine, and_iff_right hpath.1]

/-- The place that decides on the module path of the folder spoils it; or nothing decides, and the folder's own
    path, or that of its checkout, has a line break. -/
def Spoiled (t : Tree) (folder : Path) : Prop :=
  (∃ src path, IsFirst t folder.segments src path ∧ Spoils t folder.segments src) ∨
    (∀ src path, ¬Declares t folder.segments src path) ∧ HasBreak (checkoutPath folder.shown).toList

theorem modulePath_oneLine_iff (ht : t.Closed) {folder : Path} (h0 : folder.octets ≠ []) :
    OneLine (modulePath folder t).1 ↔ ¬Spoiled t folder := by
  rcases modulePath_cases ht folder with ⟨src, hfirst⟩ | ⟨hnone, hpath⟩
  · rw [hfirst.declares.oneLine_iff, not_iff_not]
    constructor
    · intro h
      exact .inl ⟨src, _, hfirst, h⟩
    · rintro (⟨src', path', hfirst', h⟩ | ⟨hnone, _⟩)
      -- two places that decide declare the same path
      · by_contra hno
        rw [← hfirst.declares.oneLine_iff, hfirst.unique hfirst', hfirst'.declares.oneLine_iff] at hno
        exact hno h
      · exact absurd hfirst.declares (hnone _ _)
  · have hshown : folder.shown ≠ "" := fun e => h0 (Octets.eq_ofText_of_shown (by decide) e)
    rw [hpath, OneLine, and_iff_right (checkoutPath_ne_empty hshown), not_iff_not]
    constructor
    · exact fun h => .inr ⟨hnone, h⟩
    · rintro (⟨src, path, hfirst, _⟩ | ⟨_, h⟩)
      · exact absurd hfirst.declares (hnone _ _)
      · exact h

/-! ## Scans -/

variable {w : Workbench Tree} {m : Manager}

/-- A scan without the go command adds module files, each a directive with the module path of its directory; that
    is one line with a path exactly where the path is not spoiled. -/
theorem scan_directives (ht : w.files.Built) (hp : m.policy.install = false) (folder : Path) :
    ∃ made : List Creation, (m.scan folder w).2.2.files = withFiles w.files made ∧
      ∀ c ∈ made, OneLine c.modulePath ↔ ¬Spoiled w.files c.dir := by
  rcases scan_eq_createAll ht.closed folder with ⟨_, e, he⟩ | ⟨_, ds, found, hpass, hscan⟩
  · refine ⟨[], ?_, by simp⟩
    rw [manager_scan_eq, he, withFiles_nil]
  · have hne := pendingRoots_ne_nil hpass.toFinds
    refine ⟨fresh w.files (plan w (pendingRoots folder (.ofFindings found))), ?_, fun c hc => ?_⟩
    · rw [manager_scan_eq, hscan, createAll_manual hp ht.closed hne]
    · obtain ⟨r, hr, rfl⟩ := List.mem_map.mp ((fresh_sublist _ _).subset hc)
      have h0 : r.path.octets ≠ [] := fun e => hne r hr (Tree.segments_eq_nil_of_octets e)
      rw [modulePath_reads (Workbench.reads w)]
      exact modulePath_oneLine_iff ht.closed h0

/-- A source whose import comment writes a line break. -/
def brokenComment : Workbench Tree :=
  ⟨Tree.empty.addFile ⟨"/ws/a.go"⟩ (Text.bytesOf "package a // import \"x\\ny\"\n"), ⟨[], []⟩⟩

theorem brokenComment_files : ((Manager.new ⟨false, .default⟩).scan ⟨"/ws"⟩ brokenComment).2.2.files.files =
    brokenComment.files.files ++ [((["/", "ws", "go.mod"] : Segments), Text.bytesOf "module x\ny")] := by
  decide +kernel

theorem scan_directives_brokenComment : brokenComment.files.Built ∧
    ∃ made, ((Manager.new ⟨false, .default⟩).scan ⟨"/ws"⟩ brokenComment).2.2.files =
      withFiles brokenComment.files made ∧
      ∃ c ∈ made, c.modulePath = "x\ny" ∧ Spoiled brokenComment.files c.dir := by
  have hbuilt : brokenComment.files.Built := .addFile _ _ .empty
  obtain ⟨made, hfiles, hmade⟩ := @scan_directives brokenComment (.new ⟨false, .default⟩) hbuilt rfl ⟨"/ws"⟩
  have hone : made.map Creation.file = [((["/", "ws", "go.mod"] : Segments), Text.bytesOf "module x\ny")] :=
    List.append_cancel_left ((congrArg Tree.files hfiles).symm.trans brokenComment_files)
  obtain ⟨c, hc, hfile⟩ := List.map_eq_singleton_iff.mp hone
  have hpath : c.modulePath = "x\ny" := by
    have hbytes := congrArg (fun f => Text.lossy f.2) hfile
    simp only [Creation.file, Creation.text, Text.lossy_bytesOf] at hbytes
    exact String.append_right_inj "module " |>.mp hbytes
  have hmem : c ∈ made := by rw [hc]; exact List.mem_singleton_self c
  refine ⟨hbuilt, made, hfiles, c, hmem, hpath, ?_⟩
  by_contra hno
  rw [← hmade c hmem, hpath] at hno
  exact absurd hno (by decide)

/-- A comment one directory down whose path begins with its only slash. -/
def rootedComment : Workbench Tree :=
  ⟨(Tree.empty.addFile ⟨"/ws/a.go"⟩ (Text.bytesOf "package a\n")).addFile ⟨"/ws/b/b.go"⟩
    (Text.bytesOf "package b // import \"/b\"\n"), ⟨[], []⟩⟩

/-- A directive can go over two lines, and it can be without a path. -/
theorem a_directive_breaks_or_is_empty :
    (((Manager.new ⟨false, .default⟩).scan ⟨"/ws"⟩ brokenComment).2.2.files.contents? ["/", "ws", "go.mod"] =
        some (Text.bytesOf "module x\ny") ∧ ¬OneLine "x\ny") ∧
      ((Manager.new ⟨false, .default⟩).scan ⟨"/ws"⟩ rootedComment).2.2.files.contents? ["/", "ws", "go.mod"] =
        some (Text.bytesOf "module ") ∧ ¬OneLine "" := by
  refine ⟨⟨?_, by decide⟩, by decide +kernel, by decide⟩
  rw [Tree.contents?, brokenComment_files]
  decide +kernel

end Module

end GoAtlas
