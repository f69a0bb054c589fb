/-
  GoAtlas.Proofs.Repositories — the root of a repository and the paths below it.

  A rule says how many segments of an import path name the repository. All packages of a repository should agree on
  them, whatever follows:
  - `Counts`: a rule counts the segments of a root in front of others. Each rule is shown to be of this form, with its
    own roots and its own segments after them.
  - `rooted`: so the root counts as much by itself and below one more plain segment. There are two exceptions: a
    project by itself, which its series follows, and a segment with an extension where no host is known, since there
    the last extension ends the root.
  - `staticRoot_canonical`: the same of texts.
-/
import GoAtlas.Proofs.Versions
import GoAtlas.Repository.HostRule
import Mathlib.Data.List.Nodup

namespace GoAtlas

namespace Text

theorem joinFields_append (sep : List Char) {fs gs : List (List Char)} (hf : fs ≠ []) (hg : gs ≠ []) :
    joinFields sep (fs ++ gs) = joinFields sep fs ++ sep ++ joinFields sep gs := by
  obtain ⟨g, gs, rfl⟩ := List.exists_cons_of_ne_nil hg
  induction fs with
  | nil => exact absurd rfl hf
  | cons f fs ih =>
    cases fs with
    | nil => rfl
    | cons f' fs =>
      show f ++ sep ++ joinFields sep (f' :: fs ++ g :: gs) = _
      rw [ih (List.cons_ne_nil f' fs), joinFields]
      simp only [List.append_assoc]

/-- Fields lead the text if they do, joined and with a separator after them. -/
theorem append_ne_nil_eq_fields {sep : Char} {lead : List (List Char)} (h0 : lead ≠ []) (h : ∀ f ∈ lead, sep ∉ f)
    {cs : List Char} :
    (∃ rest, rest ≠ [] ∧ fields sep cs = lead ++ rest) ↔ joinFields [sep] lead ++ [sep] <+: cs := by
  constructor
  · rintro ⟨rest, hrest, hf⟩
    refine ⟨joinFields [sep] rest, ?_⟩
    rw [← joinFields_append [sep] h0 hrest, ← hf, joinFields_fields]
  · rintro ⟨t, rfl⟩
    refine ⟨fields sep t, fields_ne_nil sep t, ?_⟩
    rw [List.append_assoc, List.singleton_append, fields_append_sep, fields_joinFields h0 h]

theorem before?_eq_some {tail cs front : List Char} : before? tail cs = some front ↔ cs = front ++ tail := by
  constructor
  · intro h
    obtain ⟨rest, hrest, rfl⟩ := Option.map_eq_some_iff.mp h
    have hcs := congrArg List.reverse (eq_append_of_after? hrest)
    rwa [List.reverse_append, List.reverse_reverse, List.reverse_reverse] at hcs
  · rintro rfl
    exact before?_append front tail

theorem isScriptLetter_of_isLetter {c : Char} (h : isLetter c = true) : isScriptLetter c = true := by
  simp only [isLetter, isLower, isUpper, Bool.or_eq_true, Bool.and_eq_true, decide_eq_true_eq, Char.le_def,
    UInt32.le_iff_toNat_le] at h
  simp only [isScriptLetter, List.any_eq_true, Bool.and_eq_true, decide_eq_true_eq]
  rcases h with h | h
  · exact ⟨(0x61, 0x7A), .tail _ (.head _), h⟩
  · exact ⟨(0x41, 0x5A), .head _, h⟩

end Text

namespace Repository

/-! ## What a rule counts -/

/-- The rule counts the segments of a root, where only certain segments follow it. -/
structure Counts (depth? : List Segment → Option Nat) (root : List Segment → Prop)
    (isSub : List Segment → Segment → Bool) : Prop where
  ne_nil {rs : List Segment} (h : root rs) : rs ≠ []
  some_iff (ss : List Segment) (n : Nat) : depth? ss = some n ↔
    ∃ rs subs, ss = rs ++ subs ∧ n = rs.length ∧ root rs ∧ subs.all (isSub rs) = true

section Counting

variable {depth? : List Segment → Option Nat} {root : List Segment → Prop} {isSub : List Segment → Segment → Bool}
  {ss : List Segment} {n : Nat}

theorem Counts.pos (h : Counts depth? root isSub) (hn : depth? ss = some n) : 0 < n := by
  obtain ⟨rs, subs, rfl, rfl, hroot, _⟩ := (h.some_iff ss n).mp hn
  exact List.length_pos_iff.mpr (h.ne_nil hroot)

theorem Counts.le (h : Counts depth? root isSub) (hn : depth? ss = some n) : n ≤ ss.length := by
  obtain ⟨rs, subs, rfl, rfl, _⟩ := (h.some_iff ss n).mp hn
  simp

/-- The root counts as much by itself. -/
theorem Counts.take (h : Counts depth? root isSub) (hn : depth? ss = some n) : depth? (ss.take n) = some n := by
  obtain ⟨rs, subs, rfl, rfl, hroot, _⟩ := (h.some_iff ss n).mp hn
  rw [List.take_left]
  exact (h.some_iff rs _).mpr ⟨rs, [], by simp, rfl, hroot, rfl⟩

/-- It counts as much with one more segment after it. -/
theorem Counts.append (h : Counts depth? root isSub) (hn : depth? ss = some n) {s : Segment}
    (hs : isSub (ss.take n) s = true) : depth? (ss ++ [s]) = some n := by
  obtain ⟨rs, subs, rfl, rfl, hroot, hsubs⟩ := (h.some_iff ss n).mp hn
  rw [List.take_left] at hs
  refine (h.some_iff _ _).mpr ⟨rs, subs ++ [s], by simp, rfl, hroot, ?_⟩
  simp [hsubs, hs]

/-- A rule that asks for two segments and for what follows them. -/
theorem counts_two {first second sub : Segment → Bool} (hnil : depth? [] = none) (hone : ∀ a, depth? [a] = none)
    (htwo : ∀ a b subs, depth? (a :: b :: subs) = if first a && second b && subs.all sub then some 2 else none) :
    Counts depth? (fun rs => ∃ a b, rs = [a, b] ∧ first a = true ∧ second b = true) (fun _ => sub) := by
  refine ⟨by rintro _ ⟨a, b, rfl, _⟩; simp, fun ss n => ⟨?_, ?_⟩⟩
  · intro hn
    rcases ss with _ | ⟨a, _ | ⟨b, subs⟩⟩
    · rw [hnil] at hn
      cases hn
    · rw [hone] at hn
      cases hn
    · rw [htwo, Option.ite_none_right_eq_some, Bool.and_eq_true, Bool.and_eq_true] at hn
      obtain ⟨⟨⟨ha, hb⟩, hsubs⟩, hn⟩ := hn
      exact ⟨[a, b], subs, rfl, (Option.some.inj hn).symm, ⟨a, b, rfl, ha, hb⟩, hsubs⟩
  · rintro ⟨rs, subs, rfl, rfl, ⟨a, b, rfl, ha, hb⟩, hsubs⟩
    show depth? (a :: b :: subs) = some 2
    rw [htwo, ha, hb, hsubs]
    rfl

end Counting

theorem counts_ownerAndRepo (isSub : Segment → Bool) :
    Counts (ownerAndRepo isSub) (fun rs => ∃ a b, rs = [a, b] ∧ isPlain a = true ∧ isPlain b = true)
      (fun _ => isSub) :=
  counts_two rfl (fun _ => rfl) fun _ _ _ => rfl

theorem counts_lowerOwnerAndRepo :
    Counts lowerOwnerAndRepo
      (fun rs => ∃ a b, rs = [a, b] ∧ (!a.isEmpty && a.all isLowerAlnum) = true ∧ isPlain b = true)
      (fun _ => isPlain) :=
  counts_two rfl (fun _ => rfl) fun _ _ _ => rfl

/-- A name before `.git`. -/
def isGitRepo (repo : Segment) : Bool :=
  (Text.before? ".git".toList repo).any fun name => !name.isEmpty && name.all fun c => isLowerAlnum c || isMark c

theorem gitRepo_cons (repo : Segment) (subs : List Segment) :
    gitRepo (repo :: subs) = if isGitRepo repo && subs.all isPlain then some 1 else none := by
  simp only [gitRepo]
  split
  · rename_i name hname
    rw [isGitRepo, hname, Option.any_some]
  · rename_i hname
    rw [isGitRepo, hname, Option.any_none]
    rfl

theorem counts_gitRepo : Counts gitRepo (fun rs => ∃ repo, rs = [repo] ∧ isGitRepo repo = true) (fun _ => isPlain) := by
  refine ⟨by rintro _ ⟨repo, rfl, _⟩; simp, fun ss n => ⟨?_, ?_⟩⟩
  · intro hn
    cases ss with
    | nil => cases hn
    | cons repo subs =>
      rw [gitRepo_cons, Option.ite_none_right_eq_some, Bool.and_eq_true] at hn
      obtain ⟨⟨hrepo, hsubs⟩, hn⟩ := hn
      exact ⟨[repo], subs, rfl, (Option.some.inj hn).symm, ⟨repo, rfl, hrepo⟩, hsubs⟩
  · rintro ⟨rs, subs, rfl, rfl, ⟨repo, rfl, hrepo⟩, hsubs⟩
    show gitRepo (repo :: subs) = some 1
    rw [gitRepo_cons, hrepo, hsubs]
    rfl

theorem isPlain_tilde (s : Segment) : isPlain ('~' :: s) = false := by
  simp only [isPlain, List.all_cons]
  rw [show (Text.isAlnum '~' || isMark '~') = false from rfl]
  simp

/-- A branch of a user, a series of a project, or a project by itself. -/
inductive IsBranch : List Segment → Prop
  | user {user series branch : Segment} (hu : isPlain user = true)
      (hs : (series == "+junk".toList || isPlain series) = true) (hb : isPlain branch = true) :
      IsBranch [('~' :: user), series, branch]
  | series {project series : Segment} (hp : isPlain project = true) (hs : isPlain series = true) :
      IsBranch [project, series]
  | project {project : Segment} (hp : isPlain project = true) : IsBranch [project]

theorem projectOrBranch_two {project : Segment} (hp : isPlain project = true) (series : Segment) (subs : List Segment) :
    projectOrBranch (project :: series :: subs) =
      if isPlain project && isPlain series && subs.all isPlain then some 2 else none := by
  unfold projectOrBranch
  split
  · rename_i heq
    rw [List.cons.injEq] at heq
    rw [heq.1, isPlain_tilde] at hp
    cases hp
  · rename_i heq
    cases heq
  · rename_i heq
    cases heq
    rfl
  · rename_i heq
    cases heq

/-- What follows a project by itself is its series. -/
theorem counts_projectOrBranch :
    Counts projectOrBranch IsBranch (fun rs s => isPlain s && rs.length != 1) := by
  refine ⟨by rintro _ ⟨⟩ <;> simp, fun ss n => ⟨?_, ?_⟩⟩
  · intro hn
    unfold projectOrBranch at hn
    split at hn
    · rename_i user series branch subs
      rw [Option.ite_none_right_eq_some] at hn
      simp only [Bool.and_eq_true] at hn
      obtain ⟨⟨⟨⟨hu, hs⟩, hb⟩, hsubs⟩, hn⟩ := hn
      refine ⟨[('~' :: user), series, branch], subs, rfl, (Option.some.inj hn).symm, .user hu hs hb, ?_⟩
      simpa using hsubs
    · rename_i project
      rw [Option.ite_none_right_eq_some] at hn
      exact ⟨[project], [], rfl, (Option.some.inj hn.2).symm, .project hn.1, rfl⟩
    · rename_i project series subs _
      rw [Option.ite_none_right_eq_some] at hn
      simp only [Bool.and_eq_true] at hn
      obtain ⟨⟨⟨hp, hs⟩, hsubs⟩, hn⟩ := hn
      refine ⟨[project, series], subs, rfl, (Option.some.inj hn).symm, .series hp hs, ?_⟩
      simpa using hsubs
    · cases hn
  · rintro ⟨rs, subs, rfl, rfl, hroot, hsubs⟩
    cases hroot with
    | user hu hs hb =>
      have hplain : subs.all isPlain = true := by simpa using hsubs
      show projectOrBranch (('~' :: _) :: _ :: _ :: subs) = some 3
      rw [projectOrBranch, hu, hs, hb, hplain]
      rfl
    | series hp hs =>
      have hplain : subs.all isPlain = true := by simpa using hsubs
      show projectOrBranch (_ :: _ :: subs) = some 2
      rw [projectOrBranch_two hp, hp, hs, hplain]
      rfl
    | project hp =>
      cases subs with
      | nil => simp [projectOrBranch, hp]
      | cons s subs => simp at hsubs

/-! ## Other hosts -/

theorem isPersonal_of_isPlain {s : Segment} (h : isPlain s = true) : isPersonal s = true := by
  unfold isPersonal
  split
  · rw [isPlain_tilde] at h
    cases h
  · exact h

theorem extensionDepth?_eq_none {ss : List Segment} : extensionDepth? ss = none ↔ ∀ s ∈ ss, hasExtension s = false := by
  induction ss with
  | nil => simp [extensionDepth?]
  | cons s ss ih =>
    rw [List.forall_mem_cons, ← ih, extensionDepth?]
    cases extensionDepth? ss <;> simp

/-- The last segment with an extension is counted up to. -/
theorem extensionDepth?_append {s : Segment} (h : hasExtension s = true) {subs : List Segment}
    (hsubs : ∀ t ∈ subs, hasExtension t = false) (ss : List Segment) :
    extensionDepth? (ss ++ s :: subs) = some (ss.length + 1) := by
  induction ss with
  | nil => rw [List.nil_append, extensionDepth?, extensionDepth?_eq_none.mpr hsubs, h]; rfl
  | cons t ss ih => rw [List.cons_append, extensionDepth?, ih]; rfl

theorem exists_of_extensionDepth? {ss : List Segment} {n : Nat} (h : extensionDepth? ss = some n) :
    ∃ before s subs, ss = before ++ s :: subs ∧ n = before.length + 1 ∧ hasExtension s = true ∧
      ∀ t ∈ subs, hasExtension t = false := by
  induction ss generalizing n with
  | nil => cases h
  | cons t ss ih =>
    rw [extensionDepth?] at h
    cases hss : extensionDepth? ss with
    | some m =>
      rw [hss] at h
      obtain ⟨before, s, subs, rfl, rfl, hs, hsubs⟩ := ih hss
      exact ⟨t :: before, s, subs, rfl, (Option.some.inj h).symm, hs, hsubs⟩
    | none =>
      rw [hss] at h
      simp only [Option.ite_none_right_eq_some] at h
      exact ⟨[], t, ss, rfl, (Option.some.inj h.2).symm, h.1, extensionDepth?_eq_none.mp hss⟩

/-- A host, then segments of which the last has an extension. -/
def IsExtended (rs : List Segment) : Prop :=
  ∃ host before s, rs = host :: (before ++ [s]) ∧ isDottedHost host = true ∧ before.all isPersonal = true ∧
    isPersonal s = true ∧ hasExtension s = true

theorem counts_anyHostDepth? : Counts anyHostDepth? IsExtended (fun _ s => isPersonal s && !hasExtension s) := by
  refine ⟨by rintro _ ⟨host, before, s, rfl, _⟩; simp, fun ss n => ⟨?_, ?_⟩⟩
  · intro hn
    cases ss with
    | nil => cases hn
    | cons host subs =>
      rw [anyHostDepth?, Option.ite_none_right_eq_some, Bool.and_eq_true] at hn
      obtain ⟨⟨hhost, hall⟩, hn⟩ := hn
      obtain ⟨m, hm, rfl⟩ := Option.map_eq_some_iff.mp hn
      obtain ⟨before, s, subs, rfl, rfl, hs, hsubs⟩ := exists_of_extensionDepth? hm
      simp only [List.all_append, List.all_cons, Bool.and_eq_true] at hall
      refine ⟨host :: (before ++ [s]), subs, by simp, by simp, ⟨host, before, s, rfl, hhost, hall.1, hall.2.1, hs⟩, ?_⟩
      simp only [List.all_eq_true, Bool.and_eq_true, Bool.not_eq_true']
      intro t ht
      exact ⟨List.all_eq_true.mp hall.2.2 t ht, hsubs t ht⟩
  · rintro ⟨rs, subs, rfl, rfl, ⟨host, before, s, rfl, hhost, hbefore, hpersonal, hs⟩, hsubs⟩
    simp only [List.all_eq_true, Bool.and_eq_true, Bool.not_eq_true'] at hsubs
    have hdepth := extensionDepth?_append hs (fun t ht => (hsubs t ht).2) before
    have hall : (before ++ s :: subs).all isPersonal = true := by
      simp only [List.all_append, List.all_cons, hbefore, hpersonal, Bool.true_and, List.all_eq_true]
      exact fun t ht => (hsubs t ht).1
    have hsplit : host :: (before ++ [s]) ++ subs = host :: (before ++ s :: subs) := by simp
    rw [hsplit, anyHostDepth?, hhost, hall, hdepth]
    simp

/-! ## Known hosts -/

/-- The segments make the host known, and there is something after them. -/
def HostRule.Knows (r : HostRule) (segments : List Segment) : Prop := ∃ rest, rest ≠ [] ∧ segments = r.lead ++ rest

theorem HostRule.knows_iff {r : HostRule} {segments : List Segment} :
    (r.lead.isPrefixOf segments && decide (r.lead.length < segments.length)) = true ↔ r.Knows segments := by
  rw [Bool.and_eq_true, List.isPrefixOf_iff_prefix, decide_eq_true_eq]
  constructor
  · rintro ⟨⟨rest, rfl⟩, hlt⟩
    refine ⟨rest, ?_, rfl⟩
    rintro rfl
    simp at hlt
  · rintro ⟨rest, hrest, rfl⟩
    refine ⟨List.prefix_append r.lead rest, ?_⟩
    have := List.length_pos_iff.mpr hrest
    rw [List.length_append]
    omega

theorem lead_ne_nil {r : HostRule} (h : r ∈ knownHosts) : r.lead ≠ [] := by
  revert r
  decide

theorem slash_notMem_lead {r : HostRule} (h : r ∈ knownHosts) : ∀ s ∈ r.lead, '/' ∉ s := by
  revert r
  decide

theorem HostRule.Knows.head? {r : HostRule} (hr : r ∈ knownHosts) {segments : List Segment} (h : r.Knows segments) :
    segments.head? = r.lead.head? := by
  obtain ⟨rest, _, rfl⟩ := h
  rw [List.head?_append_of_ne_nil _ (lead_ne_nil hr)]

/-- The first segments of two known hosts differ. -/
theorem HostRule.Knows.unique {r r' : HostRule} (hr : r ∈ knownHosts) (hr' : r' ∈ knownHosts) {segments : List Segment}
    (h : r.Knows segments) (h' : r'.Knows segments) : r = r' := by
  have hnodup : (knownHosts.map (·.lead.head?)).Nodup := by decide
  exact List.inj_on_of_nodup_map hnodup hr hr' ((h.head? hr).symm.trans (h'.head? hr'))

theorem ruleFor?_eq_none {segments : List Segment} : ruleFor? segments = none ↔ ∀ r ∈ knownHosts, ¬r.Knows segments := by
  simp only [ruleFor?, List.find?_eq_none, HostRule.knows_iff]

theorem HostRule.knows_of_ruleFor? {segments : List Segment} {r : HostRule} (h : ruleFor? segments = some r) :
    r.Knows segments := by
  unfold ruleFor? at h
  have hp := List.find?_some h
  exact HostRule.knows_iff.mp hp

theorem ruleFor?_eq_some {segments : List Segment} {r : HostRule} (hr : r ∈ knownHosts) (h : r.Knows segments) :
    ruleFor? segments = some r := by
  cases hfound : ruleFor? segments with
  | none => exact absurd h (ruleFor?_eq_none.mp hfound r hr)
  | some r' =>
    have hr' : r' ∈ knownHosts := List.mem_of_find?_eq_some hfound
    rw [(HostRule.knows_of_ruleFor? hfound).unique hr' hr h]

/-- The host of projects and their branches. -/
def projects : Segment := "launchpad.net".toList

def projectsRule : HostRule := ⟨[projects], projectOrBranch⟩

theorem projectsRule_mem : projectsRule ∈ knownHosts := .tail _ (.tail _ (.head _))

theorem isPlainScript_of_isPlain {s : Segment} (h : isPlain s = true) : isPlainScript s = true := by
  simp only [isPlain, isPlainScript, Bool.and_eq_true, List.all_eq_true, Bool.or_eq_true, Text.isAlnum] at h ⊢
  refine ⟨h.1, ?_⟩
  intro c hc
  exact (h.2 c hc).imp_left (Or.imp_left Text.isScriptLetter_of_isLetter)

/-- What the rule of a known host counts is there, counts as much by itself, and as much with one more plain segment,
    except for a project by itself. -/
structure Settles (r : HostRule) (rest : List Segment) (n : Nat) : Prop where
  pos : 0 < n
  le : n ≤ rest.length
  take : r.depth? (rest.take n) = some n
  append {s : Segment} (hs : isPlain s = true) (h : ¬(r = projectsRule ∧ rest.length = 1)) : r.depth? (rest ++ [s]) = some n

theorem Counts.settles {r : HostRule} {root : List Segment → Prop} {isSub : Segment → Bool}
    (h : Counts r.depth? root fun _ => isSub) (hsub : ∀ s, isPlain s = true → isSub s = true)
    {rest : List Segment} {n : Nat} (hn : r.depth? rest = some n) : Settles r rest n :=
  ⟨h.pos hn, h.le hn, h.take hn, fun hs _ => h.append hn (hsub _ hs)⟩

theorem settles_projectsRule {rest : List Segment} {n : Nat} (hn : projectsRule.depth? rest = some n) :
    Settles projectsRule rest n := by
  have h : Counts projectsRule.depth? IsBranch (fun rs s => isPlain s && rs.length != 1) := counts_projectOrBranch
  refine ⟨h.pos hn, h.le hn, h.take hn, ?_⟩
  intro s hs hlong
  refine h.append hn ?_
  obtain ⟨rs, subs, rfl, rfl, _, hsubs⟩ := (h.some_iff rest n).mp hn
  rw [List.take_left, hs, Bool.true_and, bne_iff_ne]
  -- nothing may follow a root of one segment
  intro hone
  cases subs with
  | nil => exact hlong ⟨rfl, by rwa [List.append_nil]⟩
  | cons t subs => simp [hone] at hsubs

theorem settles {r : HostRule} (hr : r ∈ knownHosts) {rest : List Segment} {n : Nat} (hn : r.depth? rest = some n) :
    Settles r rest n := by
  simp only [knownHosts, List.mem_cons, List.not_mem_nil, or_false] at hr
  rcases hr with rfl | rfl | rfl | rfl | rfl
  · exact (counts_ownerAndRepo isPlainScript).settles (fun _ => isPlainScript_of_isPlain) hn
  · exact (counts_ownerAndRepo isPlain).settles (fun _ hs => hs) hn
  · exact settles_projectsRule hn
  · exact counts_lowerOwnerAndRepo.settles (fun _ hs => hs) hn
  · exact counts_gitRepo.settles (fun _ hs => hs) hn

/-! ## Roots -/

theorem HostRule.Knows.append {r : HostRule} {segments : List Segment} (h : r.Knows segments) (more : List Segment) :
    r.Knows (segments ++ more) := by
  obtain ⟨rest, hrest, rfl⟩ := h
  exact ⟨rest ++ more, by simp [hrest], by simp⟩

/-- One segment more makes no other host known than the one whose lead these are. -/
theorem HostRule.Knows.of_append {r : HostRule} {segments : List Segment} {s : Segment}
    (h : r.Knows (segments ++ [s])) : r.Knows segments ∨ segments = r.lead := by
  obtain ⟨rest, hrest, heq⟩ := h
  obtain ⟨rest', t, rfl⟩ := (List.eq_nil_or_concat rest).resolve_left hrest
  rw [List.concat_eq_append, ← List.append_assoc] at heq
  obtain ⟨hsegments, _⟩ := List.append_inj' heq rfl
  by_cases hnil : rest' = []
  · exact Or.inr (by rw [hsegments, hnil, List.append_nil])
  · exact Or.inl ⟨rest', hnil, hsegments⟩

theorem rootDepth?_lead {r : HostRule} (hr : r ∈ knownHosts) {rest : List Segment} (hrest : rest ≠ []) :
    rootDepth? (r.lead ++ rest) = (r.depth? rest).map (r.lead.length + ·) := by
  rw [rootDepth?, ruleFor?_eq_some hr ⟨rest, hrest, rfl⟩]
  simp only [List.drop_left]

/-- A project and its series make one root. -/
theorem rootDepth?_series {project s : Segment} {m : Nat} (hm : projectOrBranch [project] = some m)
    (hs : isPlain s = true) : rootDepth? [projects, project, s] = some 3 := by
  have hproject : isPlain project = true := by
    by_contra hno
    simp [projectOrBranch, hno] at hm
  have hdepth : projectsRule.depth? [project, s] = some 2 := by
    show projectOrBranch [project, s] = some 2
    rw [projectOrBranch_two hproject, hproject, hs]
    rfl
  have hroot := rootDepth?_lead projectsRule_mem (List.cons_ne_nil project [s])
  rw [hdepth] at hroot
  exact hroot

theorem rootDepth?_of_unknown {segments : List Segment} (h : ∀ r ∈ knownHosts, ¬r.Knows segments) :
    rootDepth? segments = anyHostDepth? segments := by
  rw [rootDepth?, ruleFor?_eq_none.mpr h]

/-- The lead of a known host is no repository. -/
theorem rootDepth?_lead_eq_none {r : HostRule} (hr : r ∈ knownHosts) : rootDepth? r.lead = none := by
  revert r
  decide

/-- One segment more takes the root along: after a project by itself, and, where no host is known, if it has an
    extension. -/
def TakesAlong (segments : List Segment) (s : Segment) : Prop :=
  (∃ project, segments = [projects, project]) ∨
    (∀ r ∈ knownHosts, ¬r.Knows segments) ∧ hasExtension s = true

/-- `n` of the segments are a root, and what becomes of it with one plain segment more. -/
structure Rooted (segments : List Segment) (n : Nat) : Prop where
  pos : 0 < n
  le : n ≤ segments.length
  take : rootDepth? (segments.take n) = some n
  kept {s : Segment} (hs : isPlain s = true) (h : ¬TakesAlong segments s) : rootDepth? (segments ++ [s]) = some n
  taken {s : Segment} (hs : isPlain s = true) (h : TakesAlong segments s) :
    rootDepth? (segments ++ [s]) = some (segments.length + 1)

theorem rooted_known {r : HostRule} (hr : r ∈ knownHosts) {rest : List Segment} {m : Nat} (hm : r.depth? rest = some m) :
    Rooted (r.lead ++ rest) (r.lead.length + m) := by
  obtain ⟨hpos, hle, htake, happend⟩ := settles hr hm
  have hrest : rest ≠ [] := by
    rintro rfl
    simp at hle
    omega
  have hknows : r.Knows (r.lead ++ rest) := ⟨rest, hrest, rfl⟩
  refine ⟨by omega, by simp [hle], ?_, ?_, ?_⟩
  · have htake0 : rest.take m ≠ [] := by
      rw [ne_eq, List.take_eq_nil_iff, not_or]
      exact ⟨by omega, hrest⟩
    rw [List.take_length_add_append, rootDepth?_lead hr htake0, htake, Option.map_some]
  · intro s hs h
    have hlong : ¬(r = projectsRule ∧ rest.length = 1) := by
      rintro ⟨rfl, hone⟩
      obtain ⟨project, rfl⟩ := List.length_eq_one_iff.mp hone
      exact h (Or.inl ⟨project, rfl⟩)
    rw [List.append_assoc, rootDepth?_lead hr (by simp), happend hs hlong, Option.map_some]
  · rintro s hs (⟨project, heq⟩ | ⟨hunknown, _⟩)
    · -- the rule is the one for projects
      have hother : projectsRule.Knows (r.lead ++ rest) := ⟨[project], by simp, heq⟩
      obtain rfl := hknows.unique hr projectsRule_mem hother
      have hrest' : [projects] ++ rest = [projects] ++ [project] := heq
      obtain rfl := List.append_cancel_left hrest'
      exact rootDepth?_series hm hs
    · exact absurd hknows (hunknown r hr)

theorem rooted_unknown {segments : List Segment} (hunknown : ∀ r ∈ knownHosts, ¬r.Knows segments) {n : Nat}
    (hn : anyHostDepth? segments = some n) : Rooted segments n := by
  have hcounts := counts_anyHostDepth?
  have hgrown : ∀ s, ∀ r ∈ knownHosts, ¬r.Knows (segments ++ [s]) := by
    intro s r hr hknows
    rcases hknows.of_append with h | rfl
    · exact hunknown r hr h
    · rw [← rootDepth?_of_unknown hunknown, rootDepth?_lead_eq_none hr] at hn
      cases hn
  refine ⟨hcounts.pos hn, hcounts.le hn, ?_, ?_, ?_⟩
  · rw [rootDepth?_of_unknown, hcounts.take hn]
    intro r hr hknows
    have hwhole := hknows.append (segments.drop n)
    rw [List.take_append_drop] at hwhole
    exact hunknown r hr hwhole
  · intro s hs h
    have hext : hasExtension s = false := by
      rw [Bool.eq_false_iff]
      intro hext
      exact h (Or.inr ⟨hunknown, hext⟩)
    rw [rootDepth?_of_unknown (hgrown s)]
    exact hcounts.append hn (by rw [isPersonal_of_isPlain hs, hext]; rfl)
  · rintro s hs (⟨project, rfl⟩ | ⟨_, hext⟩)
    · exact absurd ⟨[project], by simp, rfl⟩ (hunknown projectsRule projectsRule_mem)
    · rw [rootDepth?_of_unknown (hgrown s)]
      cases segments with
      | nil => cases hn
      | cons host subs =>
        rw [anyHostDepth?, Option.ite_none_right_eq_some, Bool.and_eq_true] at hn
        refine (hcounts.some_iff _ _).mpr ⟨host :: (subs ++ [s]), [], by simp, by simp, ?_, rfl⟩
        exact ⟨host, subs, s, rfl, hn.1.1, hn.1.2, isPersonal_of_isPlain hs, hext⟩

theorem rooted {segments : List Segment} {n : Nat} (h : rootDepth? segments = some n) : Rooted segments n := by
  cases hrule : ruleFor? segments with
  | none =>
    have hunknown := ruleFor?_eq_none.mp hrule
    rw [rootDepth?_of_unknown hunknown] at h
    exact rooted_unknown hunknown h
  | some r =>
    have hr : r ∈ knownHosts := List.mem_of_find?_eq_some hrule
    obtain ⟨rest, hrest, rfl⟩ := HostRule.knows_of_ruleFor? hrule
    rw [rootDepth?_lead hr hrest] at h
    obtain ⟨m, hm, rfl⟩ := Option.map_eq_some_iff.mp h
    exact rooted_known hr hm

/-- A segment that was added does not make the next one take the root along. -/
theorem TakesAlong.of_append {segments : List Segment} {n : Nat} (hn : rootDepth? segments = some n) {s t : Segment}
    (h : TakesAlong (segments ++ [s]) t) : TakesAlong segments t := by
  rcases h with ⟨project, heq⟩ | ⟨hunknown, hext⟩
  · have hsplit : segments ++ [s] = [projects] ++ [project] := heq
    obtain ⟨rfl, _⟩ := List.append_inj' hsplit rfl
    rw [show [projects] = projectsRule.lead from rfl, rootDepth?_lead_eq_none projectsRule_mem] at hn
    cases hn
  · exact Or.inr ⟨fun r hr hknows => hunknown r hr (hknows.append [s]), hext⟩

theorem rootDepth?_append_all {segments : List Segment} {n : Nat} (hn : rootDepth? segments = some n)
    {ss : List Segment} (h : ∀ s ∈ ss, isPlain s = true ∧ ¬TakesAlong segments s) :
    rootDepth? (segments ++ ss) = some n := by
  induction ss generalizing segments with
  | nil => rwa [List.append_nil]
  | cons s ss ih =>
    rw [List.forall_mem_cons] at h
    rw [List.append_cons]
    refine ih ((rooted hn).kept h.1.1 h.1.2) ?_
    intro t ht
    exact ⟨(h.2 t ht).1, fun htakes => (h.2 t ht).2 (htakes.of_append hn)⟩

/-! ## Texts -/

/-- The paths of known hosts begin with one of these. -/
def knownLeads : List String :=
  ["github.com/", "bitbucket.org/", "launchpad.net/", "hub.jazz.net/git/", "git.apache.org/"]

def OnKnownHost (p : String) : Prop := ∃ lead ∈ knownLeads, lead.toList <+: p.toList

instance (p : String) : Decidable (OnKnownHost p) := inferInstanceAs (Decidable (∃ lead ∈ knownLeads, _))

/-- A project by itself. -/
def IsProject (p : String) : Prop := ∃ project : String, '/' ∉ project.toList ∧ p = "launchpad.net/" ++ project

/-- A name and the extension of a version control system. -/
def IsExtension (s : String) : Prop :=
  ∃ name ext : String, name ≠ "" ∧ ext ∈ [".bzr", ".fossil", ".git", ".hg", ".svn"] ∧ s = name ++ ext

/-- The segment after the path ends another repository. -/
def Moves (p s : String) : Prop := IsProject p ∨ ¬OnKnownHost p ∧ IsExtension s

def segmentsOf (p : String) : List Segment := Text.fields '/' p.toList

theorem knownLeads_eq : knownLeads = knownHosts.map fun r => String.ofList (Text.joinFields ['/'] r.lead ++ ['/']) := by
  decide

theorem onKnownHost_iff {p : String} : OnKnownHost p ↔ ∃ r ∈ knownHosts, r.Knows (segmentsOf p) := by
  simp only [OnKnownHost, knownLeads_eq, List.mem_map, exists_exists_and_eq_and]
  refine exists_congr fun r => and_congr_right fun hr => ?_
  rw [String.toList_ofList]
  exact (Text.append_ne_nil_eq_fields (lead_ne_nil hr) (slash_notMem_lead hr)).symm

theorem toList_project (project : String) :
    ("launchpad.net/" ++ project).toList = projects ++ '/' :: project.toList := by
  have hlead : "launchpad.net/".toList = projects ++ ['/'] := by decide
  rw [String.toList_append, hlead, List.append_assoc, List.singleton_append]

theorem isProject_iff {p : String} : IsProject p ↔ ∃ project, segmentsOf p = [projects, project] := by
  constructor
  · rintro ⟨project, hslash, rfl⟩
    refine ⟨project.toList, ?_⟩
    rw [segmentsOf, toList_project, Text.fields_append_sep, Text.fields_of_notMem hslash, Text.fields_of_notMem (by decide)]
    rfl
  · rintro ⟨project, heq⟩
    have hmem : project ∈ segmentsOf p := by simp [heq]
    have hslash : '/' ∉ project := Text.notMem_of_mem_fields hmem
    refine ⟨String.ofList project, by rwa [String.toList_ofList], ?_⟩
    have hjoin := Text.joinFields_fields '/' p.toList
    rw [← segmentsOf, heq] at hjoin
    rw [String.ext_iff, toList_project, String.toList_ofList, ← hjoin]
    rfl

theorem not_isProject_of_length {p : String} (h : (segmentsOf p).length ≠ 2) : ¬IsProject p := by
  rw [isProject_iff]
  rintro ⟨project, heq⟩
  rw [heq] at h
  exact h rfl

theorem isPlain_of_append {a b : Segment} (ha : a ≠ []) (h : isPlain (a ++ b) = true) : isPlain a = true := by
  simp only [isPlain, List.all_append, Bool.and_eq_true] at h ⊢
  exact ⟨by simpa using ha, h.2.1⟩

theorem isExtension_iff {s : String} (hs : isPlain s.toList = true) :
    IsExtension s ↔ hasExtension s.toList = true := by
  have hext : extensions = [".bzr", ".fossil", ".git", ".hg", ".svn"].map String.toList := rfl
  simp only [hasExtension, List.any_eq_true, Option.any_eq_true, Text.before?_eq_some, hext, List.mem_map]
  constructor
  · rintro ⟨name, ext, hname, hmem, rfl⟩
    rw [String.toList_append] at hs ⊢
    have hname' : name.toList ≠ [] := by simpa using hname
    exact ⟨ext.toList, ⟨ext, hmem, rfl⟩, name.toList, rfl, isPersonal_of_isPlain (isPlain_of_append hname' hs)⟩
  · rintro ⟨_, ⟨ext, hmem, rfl⟩, name, heq, hpersonal⟩
    refine ⟨String.ofList name, ext, ?_, hmem, ?_⟩
    · intro hempty
      rw [show name = [] by simpa using hempty] at hpersonal
      cases hpersonal
    · rw [String.ext_iff, heq, String.toList_append, String.toList_ofList]

theorem takesAlong_iff {p s : String} (hs : isPlain s.toList = true) :
    TakesAlong (segmentsOf p) s.toList ↔ Moves p s := by
  rw [TakesAlong, Moves, isProject_iff, isExtension_iff hs, onKnownHost_iff]
  simp

theorem slash_notMem_of_isPlain {s : Segment} (h : isPlain s = true) : '/' ∉ s := by
  intro hslash
  simp only [isPlain, Bool.and_eq_true, List.all_eq_true] at h
  exact absurd (h.2 '/' hslash) (by decide)

theorem segmentsOf_append {p s : String} (hs : '/' ∉ s.toList) : segmentsOf (p ++ "/" ++ s) = segmentsOf p ++ [s.toList] := by
  have hlist : (p ++ "/" ++ s).toList = p.toList ++ '/' :: s.toList := by simp
  rw [segmentsOf, hlist, Text.fields_append_sep, Text.fields_of_notMem hs, segmentsOf]

theorem segmentsOf_join {p : String} {ss : List String} (h : ∀ s ∈ ss, '/' ∉ s.toList) :
    segmentsOf (Text.join "/" (p :: ss)) = segmentsOf p ++ ss.map String.toList := by
  induction ss generalizing p with
  | nil => simp [Text.join]
  | cons s ss ih =>
    rw [List.forall_mem_cons] at h
    have hjoin : Text.join "/" (p :: s :: ss) = Text.join "/" ((p ++ "/" ++ s) :: ss) := by
      cases ss with
      | nil => rfl
      | cons t ss => simp [Text.join, String.append_assoc]
    rw [hjoin, ih h.2, segmentsOf_append h.1]
    simp

/-- The path that segments make. -/
def pathOf (segments : List Segment) : String := String.ofList (Text.joinFields ['/'] segments)

theorem pathOf_segmentsOf (p : String) : pathOf (segmentsOf p) = p := by
  rw [pathOf, segmentsOf, Text.joinFields_fields, String.ofList_toList]

theorem segmentsOf_pathOf {segments : List Segment} (h0 : segments ≠ []) (h : ∀ s ∈ segments, '/' ∉ s) :
    segmentsOf (pathOf segments) = segments := by
  rw [segmentsOf, pathOf, String.toList_ofList, Text.fields_joinFields h0 h]

theorem staticRoot?_eq_some {p u : String} :
    staticRoot? p = some u ↔ ∃ n, rootDepth? (segmentsOf p) = some n ∧ u = "https://" ++ pathOf ((segmentsOf p).take n) := by
  constructor
  · intro h
    obtain ⟨n, hn, rfl⟩ := Option.map_eq_some_iff.mp h
    exact ⟨n, hn, rfl⟩
  · rintro ⟨n, hn, rfl⟩
    exact Option.map_eq_some_iff.mpr ⟨n, hn, rfl⟩

section Segments

variable (p : String) {n : Nat}

theorem take_segmentsOf_ne_nil (h : 0 < n) : (segmentsOf p).take n ≠ [] := by
  rw [ne_eq, List.take_eq_nil_iff, not_or]
  exact ⟨by omega, Text.fields_ne_nil _ _⟩

theorem segmentsOf_pathOf_take (h : 0 < n) : segmentsOf (pathOf ((segmentsOf p).take n)) = (segmentsOf p).take n :=
  segmentsOf_pathOf (take_segmentsOf_ne_nil p h) fun _ hs => Text.notMem_of_mem_fields (List.mem_of_mem_take hs)

/-- A path is made of its first segments, or begins with them and a slash. -/
theorem eq_or_leads_of_take (h : 0 < n) :
    p = pathOf ((segmentsOf p).take n) ∨ (pathOf ((segmentsOf p).take n) ++ "/").toList <+: p.toList := by
  by_cases hdrop : (segmentsOf p).drop n = []
  · left
    have hwhole : (segmentsOf p).take n = segmentsOf p := by
      rw [← List.append_nil (List.take n _), ← hdrop, List.take_append_drop]
    rw [hwhole, pathOf_segmentsOf]
  · right
    refine ⟨Text.joinFields ['/'] ((segmentsOf p).drop n), ?_⟩
    have hjoin := Text.joinFields_append ['/'] (take_segmentsOf_ne_nil p h) hdrop
    rw [List.take_append_drop, segmentsOf, Text.joinFields_fields] at hjoin
    rw [hjoin, pathOf, String.toList_append, String.toList_ofList]
    rfl

end Segments

section Root

variable {p u : String} (h : staticRoot? p = some u)
include h

theorem staticRoot?_kept {s : String} (hs : isPlain s.toList = true) (hstay : ¬Moves p s) :
    staticRoot? (p ++ "/" ++ s) = some u := by
  obtain ⟨n, hn, rfl⟩ := staticRoot?_eq_some.mp h
  have hroot := rooted hn
  refine staticRoot?_eq_some.mpr ⟨n, ?_, ?_⟩
  · rw [segmentsOf_append (slash_notMem_of_isPlain hs)]
    exact hroot.kept hs (mt (takesAlong_iff hs).mp hstay)
  · rw [segmentsOf_append (slash_notMem_of_isPlain hs), List.take_append_of_le_length hroot.le]

theorem staticRoot?_moved {s : String} (hs : isPlain s.toList = true) (hmoves : Moves p s) :
    staticRoot? (p ++ "/" ++ s) = some ("https://" ++ (p ++ "/" ++ s)) := by
  obtain ⟨n, hn, rfl⟩ := staticRoot?_eq_some.mp h
  refine staticRoot?_eq_some.mpr ⟨(segmentsOf p).length + 1, ?_, ?_⟩
  · rw [segmentsOf_append (slash_notMem_of_isPlain hs)]
    exact (rooted hn).taken hs ((takesAlong_iff hs).mpr hmoves)
  · rw [List.take_of_length_le, pathOf_segmentsOf]
    rw [segmentsOf_append (slash_notMem_of_isPlain hs), List.length_append, List.length_singleton]

theorem staticRoot?_join {ss : List String} (hss : ∀ s ∈ ss, isPlain s.toList = true ∧ ¬Moves p s) :
    staticRoot? (Text.join "/" (p :: ss)) = some u := by
  obtain ⟨n, hn, rfl⟩ := staticRoot?_eq_some.mp h
  have hsegments : segmentsOf (Text.join "/" (p :: ss)) = segmentsOf p ++ ss.map String.toList :=
    segmentsOf_join fun s hs => slash_notMem_of_isPlain (hss s hs).1
  refine staticRoot?_eq_some.mpr ⟨n, ?_, ?_⟩
  · rw [hsegments]
    refine rootDepth?_append_all hn ?_
    intro t ht
    obtain ⟨s, hs, rfl⟩ := List.mem_map.mp ht
    exact ⟨(hss s hs).1, mt (takesAlong_iff (hss s hs).1).mp (hss s hs).2⟩
  · rw [hsegments, List.take_append_of_le_length (rooted hn).le]

end Root

/-- The root of a path is its own root and leads the path. One plain segment more leaves it as it is, unless the path
    is a project by itself or, on no known host, the segment has an extension: then the root is all of it. -/
theorem staticRoot_canonical {p u : String} (h : staticRoot? p = some u) :
    ∃ r : String, u = "https://" ++ r ∧ (p = r ∨ (r ++ "/").toList <+: p.toList) ∧ staticRoot? r = some u ∧
      (∀ s : String, isPlain s.toList = true →
        (staticRoot? (p ++ "/" ++ s) = some u ↔ ¬Moves p s) ∧
        (Moves p s → staticRoot? (p ++ "/" ++ s) = some ("https://" ++ (p ++ "/" ++ s)))) ∧
      ∀ ss : List String, (∀ s ∈ ss, isPlain s.toList = true ∧ ¬Moves p s) →
        staticRoot? (Text.join "/" (p :: ss)) = some u := by
  obtain ⟨n, hn, hu⟩ := staticRoot?_eq_some.mp h
  have hroot := rooted hn
  have hleads := eq_or_leads_of_take p hroot.pos
  refine ⟨pathOf ((segmentsOf p).take n), hu, hleads, ?_, ?_, fun _ => staticRoot?_join h⟩
  · refine staticRoot?_eq_some.mpr ⟨n, ?_, ?_⟩
    · rw [segmentsOf_pathOf_take p hroot.pos]
      exact hroot.take
    · rw [hu, segmentsOf_pathOf_take p hroot.pos, List.take_take, Nat.min_self]
  · intro s hs
    refine ⟨⟨?_, staticRoot?_kept h hs⟩, staticRoot?_moved h hs⟩
    -- the root that is taken along is longer than the path
    intro hsame hmoves
    rw [staticRoot?_moved h hs hmoves, hu, Option.some.injEq, String.ext_iff, String.toList_append,
      String.toList_append (s := "https://")] at hsame
    have hlen := congrArg List.length (List.append_cancel_left hsame)
    rcases hleads with hp | hp
    · rw [← hp] at hlen
      simp at hlen
    · have hle := hp.length_le
      simp at hlen hle
      omega

theorem staticRoot_canonical_tool :
    staticRoot? "example.com/repos/tool.git/cmd" = some "https://example.com/repos/tool.git" ∧
    staticRoot? (Text.join "/" ["example.com/repos/tool.git/cmd", "a", "b.go"]) =
      some "https://example.com/repos/tool.git" ∧
    staticRoot? ("example.com/repos/tool.git/cmd" ++ "/" ++ "b.hg") =
      some ("https://" ++ ("example.com/repos/tool.git/cmd" ++ "/" ++ "b.hg")) := by
  have htool : staticRoot? "example.com/repos/tool.git/cmd" = some "https://example.com/repos/tool.git" := by
    decide +kernel
  have hproject : ¬IsProject "example.com/repos/tool.git/cmd" := not_isProject_of_length (by decide +kernel)
  have hhost : ¬OnKnownHost "example.com/repos/tool.git/cmd" := by decide +kernel
  obtain ⟨_, _, _, _, hone, hall⟩ := staticRoot_canonical htool
  refine ⟨htool, hall ["a", "b.go"] ?_, (hone "b.hg" (by decide +kernel)).2 (Or.inr ⟨hhost, "b", ".hg", ?_⟩)⟩
  · have hplain : ∀ s ∈ ["a", "b.go"], isPlain s.toList = true ∧ hasExtension s.toList = false := by decide +kernel
    intro s hs
    obtain ⟨hs, hext⟩ := hplain s hs
    refine ⟨hs, ?_⟩
    rintro (h | ⟨_, h⟩)
    · exact hproject h
    · rw [isExtension_iff hs, hext] at h
      cases h
  · decide +kernel

/-- On no known host a package below the root of a repository has another root, if its directory has an extension. -/
theorem a_nested_extension_moves_the_root :
    staticRoot? "example.com/a/b.git" = some "https://example.com/a/b.git" ∧ ¬IsProject "example.com/a/b.git" ∧
    isPlain "c.hg".toList = true ∧
    staticRoot? ("example.com/a/b.git" ++ "/" ++ "c.hg") = some "https://example.com/a/b.git/c.hg" :=
  ⟨by decide +kernel, not_isProject_of_length (by decide +kernel), by decide +kernel, by decide +kernel⟩

end Repository

end GoAtlas
