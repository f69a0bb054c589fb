/-
  GoAtlas.Proofs.Address — the address of a directory leads back to it.

  - `decodeBytes_encodeBytes`: what a segment's encoding stands for is the segment.
  - `toFilePath?_ofFilePath?`: the address of an absolute path names a path with the same segments.
-/
import GoAtlas.Module.Folder
import GoAtlas.Proofs.Segments

namespace GoAtlas

open Octets (slash)

/-! ## Digits -/

namespace Text

theorem utf8EncodeChar_ascii {c : Char} (h : c.toNat < 128) : String.utf8EncodeChar c = [c.toNat.toUInt8] := by
  have hsize : c.utf8Size = 1 := Char.utf8Size_eq_one_iff.mpr (UInt32.le_iff_toNat_le.mpr (Nat.le_of_lt_succ h))
  rw [String.utf8EncodeChar_eq_singleton hsize]
  rfl

theorem hexUpper_ascii : ∀ n < 16, (hexUpper n).toNat < 128 := by decide

theorem hexValue?_hexUpper : ∀ n < 16, hexValue? (Char.ofNat (hexUpper n).toNat.toUInt8.toNat) = some n := by decide

end Text

/-! ## Percent-encoding -/

namespace Url

/-- A byte that is no percent sign stands for itself. -/
theorem decodeBytes_cons {b : UInt8} (hb : b ≠ 0x25) (rest : List UInt8) :
    decodeBytes (b :: rest) = b :: decodeBytes rest := by
  rw [decodeBytes.eq_def]
  split
  · rename_i h
    exact absurd (List.cons.inj h).1 hb
  · rename_i h
    cases h
    rfl
  · rename_i h
    cases h

theorem decodeBytes_percentByte (b : UInt8) (rest : List UInt8) :
    decodeBytes ((percentByte b).flatMap String.utf8EncodeChar ++ rest) = b :: decodeBytes rest := by
  have hb := b.toNat_lt
  have hhigh : b.toNat / 16 < 16 := by omega
  have hlow : b.toNat % 16 < 16 := by omega
  have hbytes : (percentByte b).flatMap String.utf8EncodeChar =
      [0x25, (Text.hexUpper (b.toNat / 16)).toNat.toUInt8, (Text.hexUpper (b.toNat % 16)).toNat.toUInt8] := by
    rw [percentByte, List.flatMap_cons, List.flatMap_cons, List.flatMap_cons, List.flatMap_nil,
      Text.utf8EncodeChar_ascii (by decide), Text.utf8EncodeChar_ascii (Text.hexUpper_ascii _ hhigh),
      Text.utf8EncodeChar_ascii (Text.hexUpper_ascii _ hlow)]
    rfl
  rw [hbytes]
  simp only [List.cons_append, List.nil_append, decodeBytes, Text.hexValue?_hexUpper _ hhigh,
    Text.hexValue?_hexUpper _ hlow]
  rw [show b.toNat / 16 * 16 + b.toNat % 16 = b.toNat by omega]
  simp

/-- What an octet's encoding stands for is the octet. -/
theorem decodeBytes_encodeByte (b : UInt8) (rest : List UInt8) :
    decodeBytes ((encodeByte segmentSet b).flatMap String.utf8EncodeChar ++ rest) = b :: decodeBytes rest := by
  unfold encodeByte
  split
  · exact decodeBytes_percentByte b rest
  · -- an octet that stands for itself is a character of its own and no percent sign
    rename_i h
    simp only [Bool.or_eq_true, decide_eq_true_eq, not_or] at h
    have hpercent : b ≠ 0x25 := by
      rintro rfl
      exact h.2 (by decide)
    have hsmall : b.toNat < 128 := by
      have hle : ¬0x7E < b.toNat := fun hlt => h.1.2 (UInt8.lt_iff_toNat_lt.mpr hlt)
      omega
    have hchar : (Char.ofNat b.toNat).toNat = b.toNat := Text.toNat_val_ofNat (Or.inl (by omega))
    rw [List.flatMap_singleton, Text.utf8EncodeChar_ascii (by omega), hchar, Nat.toUInt8_eq, UInt8.ofNat_toNat]
    exact decodeBytes_cons hpercent rest

theorem decodeBytes_encodeBytes (bs rest : List UInt8) :
    decodeBytes ((encodeBytes segmentSet bs).flatMap String.utf8EncodeChar ++ rest) = bs ++ decodeBytes rest := by
  induction bs with
  | nil => rfl
  | cons b bs ih =>
    rw [encodeBytes, List.flatMap_cons, List.flatMap_append, List.append_assoc, decodeBytes_encodeByte]
    exact congrArg (b :: ·) ih

/-! ## Paths -/

/-- The characters of segments, each after a slash. -/
theorem toList_route (ss : List String) :
    (String.join (ss.map ("/" ++ ·))).toList = ss.flatMap fun s => '/' :: s.toList := by
  simp [String.toList_join, List.flatMap_map]

theorem decodeBytes_route (ss : Segments) :
    decodeBytes ((ss.flatMap fun s => '/' :: encodeBytes segmentSet s).flatMap String.utf8EncodeChar) =
      ss.flatMap (slash :: ·) := by
  induction ss with
  | nil => rfl
  | cons s ss ih =>
    have hslash : String.utf8EncodeChar '/' = [0x2F] := by decide
    rw [List.flatMap_cons, List.flatMap_append, List.flatMap_cons, hslash, List.append_assoc, List.singleton_append,
      decodeBytes_cons (by decide), decodeBytes_encodeBytes, ih, List.flatMap_cons]
    rfl

/-- A segment as addresses write it. -/
def encodeSegment (s : Octets) : String := String.ofList (encodeBytes segmentSet s)

theorem decodeText_route (ss : Segments) :
    decodeText (String.join ((ss.map encodeSegment).map ("/" ++ ·))) = ss.flatMap (slash :: ·) := by
  rw [decodeText, Octets.ofText_eq, toList_route, List.flatMap_map, ← decodeBytes_route]
  simp [encodeSegment]

/-- A path written with names after slashes has these names below the root. -/
theorem segments_route {ss : Segments} (h0 : ss ≠ []) (hs : ∀ s ∈ ss, slash ∉ s) :
    (⟨ss.flatMap (slash :: ·)⟩ : Path).segments = Path.root :: ss.filter fun s => !Path.idle s := by
  have hpieces : (⟨ss.flatMap (slash :: ·)⟩ : Path).pieces = [] :: ss := by
    rw [Path.pieces, Text.flatMap_eq_joinFields slash h0]
    exact Text.fields_joinFields (List.cons_ne_nil _ _) (List.forall_mem_cons.mpr ⟨List.not_mem_nil, hs⟩)
  rw [Path.segments, hpieces]
  simp [Path.segmentsOf, h0]

/-- The slash behind a drive letter adds no segment. -/
theorem segments_closeDrive (o : Octets) : (⟨closeDrive o⟩ : Path).segments = (⟨o⟩ : Path).segments := by
  unfold closeDrive
  split
  · rename_i mark letter c rest hrev
    split
    · rename_i hmark
      have hlast : o.getLast? = some mark := by
        rw [← List.head?_reverse, hrev]
        rfl
      have hwritten : o ≠ [] := by
        rintro rfl
        cases hlast
      have hslash : o.getLast? ≠ some slash := by
        rw [hlast]
        intro e
        rw [Option.some.inj e] at hmark
        exact absurd hmark (by simp [slash])
      have hjoin : (⟨o⟩ : Path).join [] = ⟨o ++ Path.root⟩ := by
        rw [Path.join, if_neg (by decide), if_neg (by simp [hwritten, hslash])]
        rfl
      have hseg := @Path.segments_join ⟨o⟩ [] hwritten (by decide)
      rw [hjoin] at hseg
      rw [hseg, show (Text.fields slash []).filter (fun s => !Path.idle s) = [] by decide, List.append_nil]
    · rfl
  · rfl

theorem segments_of_isAbsolute {p : Path} (h : p.isAbsolute = true) :
    ∃ ns, p.segments = Path.root :: ns ∧ ∀ n ∈ ns, Path.IsStep n := by
  have hhead : p.octets.head? = some slash := by simpa [Path.isAbsolute] using h
  obtain ⟨os, hos⟩ : ∃ os, p.octets = slash :: os := List.head?_eq_some_iff.mp hhead
  have hpieces : p.pieces = [] :: Text.fields slash os := by
    rw [Path.pieces, hos]
    exact Text.fields_append_sep slash [] os
  have hseg : p.segments = Path.root :: (Text.fields slash os).filter fun s => !Path.idle s := by
    rw [Path.segments, hpieces]
    simp [Path.segmentsOf, Text.fields_ne_nil]
  exact ⟨_, hseg, Path.isStep_of_mem_filter fun s hs => Text.notMem_of_mem_fields hs⟩

/-- Whether a path is absolute is told by its first segment. -/
theorem isAbsolute_iff {p : Path} : p.isAbsolute = true ↔ p.segments.head? = some Path.root := by
  constructor
  · intro h
    obtain ⟨ns, hns, _⟩ := segments_of_isAbsolute h
    rw [hns]
    rfl
  · intro h
    rw [Path.isAbsolute, beq_iff_eq]
    cases hoctets : p.octets with
    | nil =>
      rw [Path.segments, Path.pieces, hoctets] at h
      cases h
    | cons b bs =>
      by_cases hb : b = slash
      · rw [hb]
        rfl
      -- the first piece is not empty and no slash, and so is the first segment
      · obtain ⟨f, fs, hf⟩ := List.exists_cons_of_ne_nil (Text.fields_ne_nil slash bs)
        have hpieces : p.pieces = (b :: f) :: fs := by simp [Path.pieces, hoctets, Text.fields, hb, hf]
        have hfirst : b :: f = Path.root := by simpa [Path.segments, hpieces, Path.segmentsOf] using h
        exact absurd (List.cons.inj hfirst).1 hb

/-- The address of a path depends on its segments only. -/
theorem ofFilePath?_congr {p q : Path} (h : p.segments = q.segments) : ofFilePath? p = ofFilePath? q := by
  have habs : p.isAbsolute = q.isAbsolute := by rw [Bool.eq_iff_iff, isAbsolute_iff, isAbsolute_iff, h]
  rw [ofFilePath?, ofFilePath?, habs, h]

/-- The address of an absolute path names a path with the same segments. -/
theorem toFilePath?_ofFilePath? {p : Path} {u : Url} (h : ofFilePath? p = some u) :
    ∃ q, u.toFilePath? = some q ∧ q.segments = p.segments := by
  unfold ofFilePath? at h
  split at h
  · rename_i habs
    obtain ⟨ns, hns, hstep⟩ := segments_of_isAbsolute habs
    rw [hns, List.drop_one, List.tail_cons] at h
    -- what is written: the names below the root, or an empty one for the root itself
    have hroute : ∃ ss : Segments, ss ≠ [] ∧ (∀ s ∈ ss, slash ∉ s) ∧ ss.filter (fun s => !Path.idle s) = ns ∧
        (if (ns.map encodeSegment).isEmpty then [""] else ns.map encodeSegment) = ss.map encodeSegment := by
      cases ns with
      | nil => exact ⟨[[]], by simp, by decide, by decide, by decide⟩
      | cons n ns =>
        refine ⟨n :: ns, by simp, fun s hs => (hstep s hs).2, List.filter_eq_self.mpr fun s hs => ?_, by simp⟩
        simp [(hstep s hs).1]
    obtain ⟨ss, h0, hslash, hfilter, hss⟩ := hroute
    have hu : (⟨"file", some ⟨"", none, "", none⟩, .segments (ss.map encodeSegment), none, none⟩ : Url) = u := by
      rw [← hss]
      exact Option.some.inj h
    subst hu
    refine ⟨⟨closeDrive (ss.flatMap (slash :: ·))⟩, ?_, ?_⟩
    · cases hcase : ss.map encodeSegment with
      | nil => exact absurd hcase (by simpa using h0)
      | cons e es =>
        simp only [toFilePath?, segments?, Option.elim_some, decide_true, Bool.true_or, if_true]
        rw [← hcase, decodeText_route]
    · rw [segments_closeDrive, segments_route h0 hslash, hfilter, hns]
  · cases h

end Url

end GoAtlas
