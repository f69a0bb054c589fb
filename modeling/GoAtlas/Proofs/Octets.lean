/-
  GoAtlas.Proofs.Octets — what is read of octets.

  - `lossyFrom_encode`: between characters, the octets of a character are read as that character.
  - `shown_ofText` / `isText_iff`: so a text is shown as itself, and the octets that are those of a text are
    those that come back from what they are shown as.
  - `reads_shown`: octets are read as characters that some of them encode, and as a replacement for each run of
    them that encodes none; so what shows no replacement is a text (`isText_of_shown`).
  - `ofText_lt`: texts are ordered as their octets are.
  - `toList_shown_append_slash`: what is on the two sides of a slash is shown piece by piece.
  - `slash_mem_ofText`: a slash in a text is one in its octets, since the octets of other characters are
    neither slashes nor anything else below 128.
-/
import GoAtlas.Text.Octets
import Mathlib.Tactic.SplitIfs

namespace GoAtlas

namespace Text

/-! ## Reading characters back -/

namespace Sequence

/-- A byte in its range is taken up while more are owed. -/
theorem step_of_more {s : Sequence} {b : Nat} (ho : 1 < s.owed) (hl : s.least ≤ b) (hg : b ≤ s.greatest) :
    s.step b = ([], ⟨s.owed - 1, 0x80, 0xBF, s.bits * 64 + (b - 0x80)⟩) := by
  have h0 : s.owed ≠ 0 := by omega
  have h1 : s.owed ≠ 1 := by omega
  simp [step, h0, h1, hl, hg]

/-- The last byte that is owed ends the character. -/
theorem step_of_last {s : Sequence} {b : Nat} (ho : s.owed = 1) (hl : s.least ≤ b) (hg : b ≤ s.greatest) :
    s.step b = ([Char.ofNat (s.bits * 64 + (b - 0x80))], .none) := by
  simp [step, ho, hl, hg]

theorem start_two {b : Nat} (hl : 0xC2 ≤ b) (hg : b < 0xE0) : start b = ([], ⟨1, 0x80, 0xBF, b - 0xC0⟩) := by
  have h1 : ¬b < 0x80 := by omega
  have h2 : ¬b < 0xC2 := by omega
  simp [start, h1, h2, hg]

/-- The lead of three octets; the range of the next keeps out what fewer octets write, and half pairs. -/
theorem start_three {b : Nat} (hl : 0xE0 ≤ b) (hg : b < 0xF0) : start b =
    ([], ⟨2, if b = 0xE0 then 0xA0 else 0x80, if b = 0xED then 0x9F else 0xBF, b - 0xE0⟩) := by
  have h1 : ¬b < 0x80 := by omega
  have h2 : ¬b < 0xC2 := by omega
  have h3 : ¬b < 0xE0 := by omega
  unfold start
  by_cases he0 : b = 0xE0
  · subst he0
    rfl
  · by_cases hed : b = 0xED
    · subst hed
      rfl
    · simp [h1, h2, h3, he0, hed, hg]

/-- The lead of four octets; the range of the next keeps out what fewer octets write, and what is no character. -/
theorem start_four {b : Nat} (hl : 0xF0 ≤ b) (hg : b ≤ 0xF4) : start b =
    ([], ⟨3, if b = 0xF0 then 0x90 else 0x80, if b = 0xF4 then 0x8F else 0xBF, b - 0xF0⟩) := by
  have hb : b = 0xF0 ∨ b = 0xF1 ∨ b = 0xF2 ∨ b = 0xF3 ∨ b = 0xF4 := by omega
  rcases hb with rfl | rfl | rfl | rfl | rfl <;> rfl

end Sequence

theorem lossyFrom_cons (s : Sequence) (b : UInt8) (bs : List UInt8) :
    lossyFrom s (b :: bs) = (s.step b.toNat).1 ++ lossyFrom (s.step b.toNat).2 bs := rfl

theorem lossyFrom_none_cons (b : UInt8) (bs : List UInt8) : lossyFrom .none (b :: bs) =
    (Sequence.start b.toNat).1 ++ lossyFrom (Sequence.start b.toNat).2 bs := rfl

theorem lossyFrom_one {v : Nat} (h : v < 0x80) (bs : List UInt8) :
    lossyFrom .none (UInt8.ofNat v :: bs) = Char.ofNat v :: lossyFrom .none bs := by
  rw [lossyFrom_none_cons, UInt8.toNat_ofNat_of_lt' (show v < 256 by omega), Sequence.start, if_pos (by omega)]
  rfl

theorem lossyFrom_two {v : Nat} (hl : 0x80 ≤ v) (hg : v < 0x800) (bs : List UInt8) :
    lossyFrom .none (UInt8.ofNat (v / 64 % 32 + 192) :: UInt8.ofNat (v % 64 + 128) :: bs) =
      Char.ofNat v :: lossyFrom .none bs := by
  have hlead : v / 64 % 32 + 192 < 256 := by omega
  have hlast : v % 64 + 128 < 256 := by omega
  rw [lossyFrom_none_cons, UInt8.toNat_ofNat_of_lt' hlead, Sequence.start_two (by omega) (by omega), lossyFrom_cons,
    UInt8.toNat_ofNat_of_lt' hlast, Sequence.step_of_last rfl (by simp) (by simp; omega)]
  have hbits : (v / 64 % 32 + 192 - 0xC0) * 64 + (v % 64 + 128 - 0x80) = v := by omega
  simp only [hbits]
  rfl

theorem lossyFrom_three {v : Nat} (hl : 0x800 ≤ v) (hg : v < 0x10000) (hvalid : v.isValidChar) (bs : List UInt8) :
    lossyFrom .none (UInt8.ofNat (v / 4096 % 16 + 224) :: UInt8.ofNat (v / 64 % 64 + 128) ::
      UInt8.ofNat (v % 64 + 128) :: bs) = Char.ofNat v :: lossyFrom .none bs := by
  have hlead : v / 4096 % 16 + 224 < 256 := by omega
  have hnext : v / 64 % 64 + 128 < 256 := by omega
  have hlast : v % 64 + 128 < 256 := by omega
  rw [Nat.isValidChar] at hvalid
  rw [lossyFrom_none_cons, UInt8.toNat_ofNat_of_lt' hlead, Sequence.start_three (by omega) (by omega), lossyFrom_cons,
    UInt8.toNat_ofNat_of_lt' hnext,
    Sequence.step_of_more (by simp) (by simp only; split <;> omega) (by simp only; split <;> omega), lossyFrom_cons,
    UInt8.toNat_ofNat_of_lt' hlast, Sequence.step_of_last rfl (by simp) (by simp; omega)]
  have hbits : ((v / 4096 % 16 + 224 - 0xE0) * 64 + (v / 64 % 64 + 128 - 0x80)) * 64 + (v % 64 + 128 - 0x80) = v := by
    omega
  simp only [hbits]
  rfl

theorem lossyFrom_four {v : Nat} (hl : 0x10000 ≤ v) (hvalid : v.isValidChar) (bs : List UInt8) :
    lossyFrom .none (UInt8.ofNat (v / 262144 % 8 + 240) :: UInt8.ofNat (v / 4096 % 64 + 128) ::
      UInt8.ofNat (v / 64 % 64 + 128) :: UInt8.ofNat (v % 64 + 128) :: bs) = Char.ofNat v :: lossyFrom .none bs := by
  have hlead : v / 262144 % 8 + 240 < 256 := by omega
  have hnext : v / 4096 % 64 + 128 < 256 := by omega
  have hthird : v / 64 % 64 + 128 < 256 := by omega
  have hlast : v % 64 + 128 < 256 := by omega
  rw [Nat.isValidChar] at hvalid
  rw [lossyFrom_none_cons, UInt8.toNat_ofNat_of_lt' hlead, Sequence.start_four (by omega) (by omega), lossyFrom_cons,
    UInt8.toNat_ofNat_of_lt' hnext,
    Sequence.step_of_more (by simp) (by simp only; split <;> omega) (by simp only; split <;> omega), lossyFrom_cons,
    UInt8.toNat_ofNat_of_lt' hthird, Sequence.step_of_more (by simp) (by simp) (by simp; omega), lossyFrom_cons,
    UInt8.toNat_ofNat_of_lt' hlast, Sequence.step_of_last rfl (by simp) (by simp; omega)]
  have hbits : (((v / 262144 % 8 + 240 - 0xF0) * 64 + (v / 4096 % 64 + 128 - 0x80)) * 64 +
      (v / 64 % 64 + 128 - 0x80)) * 64 + (v % 64 + 128 - 0x80) = v := by omega
  simp only [hbits]
  rfl

/-- Between characters, the octets of a character are read as that character. -/
theorem lossyFrom_encode (c : Char) (bs : List UInt8) :
    lossyFrom .none (String.utf8EncodeChar c ++ bs) = c :: lossyFrom .none bs := by
  have hc : Char.ofNat c.val.toNat = c := Char.ofNat_toNat c
  have hvalid : c.val.toNat.isValidChar := c.valid
  generalize hv : c.val.toNat = v at hc hvalid
  unfold String.utf8EncodeChar
  simp only [hv]
  rw [← hc]
  split
  · exact lossyFrom_one (by omega) bs
  split
  · exact lossyFrom_two (by omega) (by omega) bs
  split
  · exact lossyFrom_three (by omega) (by omega) hvalid bs
  · exact lossyFrom_four (by omega) hvalid bs

theorem lossyFrom_flatMap (cs : List Char) : lossyFrom .none (cs.flatMap String.utf8EncodeChar) = cs := by
  induction cs with
  | nil => rfl
  | cons c cs ih => rw [List.flatMap_cons, lossyFrom_encode, ih]

/-! ## Reading across a slash -/

/-- The next octet of a character under way is none below 128. -/
def Sequence.Ranged (s : Sequence) : Prop := s.owed = 0 ∨ 0x80 ≤ s.least

theorem Sequence.ranged_start (b : Nat) : (start b).2.Ranged := by
  unfold start Ranged
  repeat' split
  all_goals simp [Sequence.none]

theorem Sequence.Ranged.step {s : Sequence} (b : Nat) : (s.step b).2.Ranged := by
  unfold Sequence.step
  split_ifs
  · exact ranged_start b
  · exact Or.inl rfl
  · exact Or.inr (Nat.le_refl _)
  · exact ranged_start b

/-- A slash ends what is under way, and nothing is after it. -/
theorem lossyFrom_append_slash {s : Sequence} (h : s.Ranged) (a b : List UInt8) :
    lossyFrom s (a ++ 0x2F :: b) = lossyFrom s a ++ '/' :: lossyFrom .none b := by
  induction a generalizing s with
  | nil =>
    rw [List.nil_append, lossyFrom_cons, lossyFrom]
    have hstart : Sequence.start (0x2F : UInt8).toNat = (['/'], .none) := rfl
    rcases Nat.eq_zero_or_pos s.owed with h0 | h0
    · rw [Sequence.step, if_pos h0, if_pos h0, hstart]
      rfl
    · have hleast : ¬(s.least ≤ (0x2F : UInt8).toNat ∧ (0x2F : UInt8).toNat ≤ s.greatest) := fun hr =>
        absurd (h.resolve_left (Nat.ne_of_gt h0)) (Nat.not_le.mpr (Nat.lt_of_le_of_lt hr.1 (by decide)))
      rw [Sequence.step, if_neg (Nat.ne_of_gt h0), if_neg (Nat.ne_of_gt h0), if_neg hleast, hstart]
      rfl
  | cons x a ih => rw [List.cons_append, lossyFrom_cons, lossyFrom_cons, ih (.step x.toNat), List.append_assoc]

/-! ## What a reading comes from -/

/-- The octets that a character under way has taken up, and what is known of it. -/
inductive UnderWay : List UInt8 → Sequence → Prop
  | none : UnderWay [] .none
  | two {b : UInt8} : 0xC2 ≤ b.toNat → b.toNat < 0xE0 → UnderWay [b] ⟨1, 0x80, 0xBF, b.toNat - 0xC0⟩
  | three {b : UInt8} : 0xE0 ≤ b.toNat → b.toNat < 0xF0 → UnderWay [b]
      ⟨2, if b.toNat = 0xE0 then 0xA0 else 0x80, if b.toNat = 0xED then 0x9F else 0xBF, b.toNat - 0xE0⟩
  | threeLast {b x : UInt8} {bits : Nat} : bits = (b.toNat - 0xE0) * 64 + (x.toNat - 0x80) →
      0xE0 ≤ b.toNat → b.toNat < 0xF0 → 0x80 ≤ x.toNat → x.toNat ≤ 0xBF →
      (b.toNat = 0xE0 → 0xA0 ≤ x.toNat) → (b.toNat = 0xED → x.toNat ≤ 0x9F) →
      UnderWay [b, x] ⟨1, 0x80, 0xBF, bits⟩
  | four {b : UInt8} : 0xF0 ≤ b.toNat → b.toNat ≤ 0xF4 → UnderWay [b]
      ⟨3, if b.toNat = 0xF0 then 0x90 else 0x80, if b.toNat = 0xF4 then 0x8F else 0xBF, b.toNat - 0xF0⟩
  | fourThird {b x : UInt8} {bits : Nat} : bits = (b.toNat - 0xF0) * 64 + (x.toNat - 0x80) →
      0xF0 ≤ b.toNat → b.toNat ≤ 0xF4 → 0x80 ≤ x.toNat → x.toNat ≤ 0xBF →
      (b.toNat = 0xF0 → 0x90 ≤ x.toNat) → (b.toNat = 0xF4 → x.toNat ≤ 0x8F) →
      UnderWay [b, x] ⟨2, 0x80, 0xBF, bits⟩
  | fourLast {b x y : UInt8} {bits : Nat} : bits = ((b.toNat - 0xF0) * 64 + (x.toNat - 0x80)) * 64 + (y.toNat - 0x80) →
      0xF0 ≤ b.toNat → b.toNat ≤ 0xF4 → 0x80 ≤ x.toNat → x.toNat ≤ 0xBF →
      (b.toNat = 0xF0 → 0x90 ≤ x.toNat) → (b.toNat = 0xF4 → x.toNat ≤ 0x8F) → 0x80 ≤ y.toNat → y.toNat ≤ 0xBF →
      UnderWay [b, x, y] ⟨1, 0x80, 0xBF, bits⟩

/-- Octets are read as these characters: each is one that some of them encode, or stands for some that
    encode none. -/
inductive Reads : List UInt8 → List Char → Prop
  | nil : Reads [] []
  | char (c : Char) {o : List UInt8} {cs : List Char} : Reads o cs → Reads (String.utf8EncodeChar c ++ o) (c :: cs)
  | stray {a o : List UInt8} {cs : List Char} : a ≠ [] → Reads o cs → Reads (a ++ o) (replacement :: cs)

theorem toNat_val_ofNat {n : Nat} (h : n.isValidChar) : (Char.ofNat n).val.toNat = n := by
  rw [Char.ofNat, dif_pos h]
  rfl

theorem ofNat_eq_octet {n : Nat} {b : UInt8} (h : n = b.toNat) : UInt8.ofNat n = b := by
  rw [h]
  exact UInt8.ofNat_toNat

namespace UnderWay

/-- The last octet that is owed completes those of a character. -/
theorem encode_eq {pre : List UInt8} {s : Sequence} (h : UnderWay pre s) (ho : s.owed = 1) {b : UInt8}
    (hl : s.least ≤ b.toNat) (hg : b.toNat ≤ s.greatest) :
    String.utf8EncodeChar (Char.ofNat (s.bits * 64 + (b.toNat - 0x80))) = pre ++ [b] := by
  cases h with
  | none => cases ho
  | three | four | fourThird => cases ho
  | @two x h1 h2 =>
    simp only at hl hg ⊢
    have hv : ((x.toNat - 0xC0) * 64 + (b.toNat - 0x80)).isValidChar := Or.inl (by omega)
    unfold String.utf8EncodeChar
    simp only [toNat_val_ofNat hv]
    rw [if_neg (by omega), if_pos (by omega), ofNat_eq_octet (b := x) (by omega), ofNat_eq_octet (b := b) (by omega)]
    rfl
  | @threeLast x y bits hbits h1 h2 h3 h4 h5 h6 =>
    simp only at hl hg ⊢
    have hv : (bits * 64 + (b.toNat - 0x80)).isValidChar := by
      rw [Nat.isValidChar]
      omega
    unfold String.utf8EncodeChar
    simp only [toNat_val_ofNat hv]
    rw [if_neg (by omega), if_neg (by omega), if_pos (by omega), ofNat_eq_octet (b := x) (by omega),
      ofNat_eq_octet (b := y) (by omega), ofNat_eq_octet (b := b) (by omega)]
    rfl
  | @fourLast x y z bits hbits h1 h2 h3 h4 h5 h6 h7 h8 =>
    simp only at hl hg ⊢
    have hv : (bits * 64 + (b.toNat - 0x80)).isValidChar := by
      rw [Nat.isValidChar]
      omega
    unfold String.utf8EncodeChar
    simp only [toNat_val_ofNat hv]
    rw [if_neg (by omega), if_neg (by omega), if_neg (by omega), ofNat_eq_octet (b := x) (by omega),
      ofNat_eq_octet (b := y) (by omega), ofNat_eq_octet (b := z) (by omega), ofNat_eq_octet (b := b) (by omega)]
    rfl

/-- An octet in its range leaves a character under way if more are owed. -/
theorem step {pre : List UInt8} {s : Sequence} (h : UnderWay pre s) (ho : 1 < s.owed) {b : UInt8}
    (hl : s.least ≤ b.toNat) (hg : b.toNat ≤ s.greatest) :
    UnderWay (pre ++ [b]) ⟨s.owed - 1, 0x80, 0xBF, s.bits * 64 + (b.toNat - 0x80)⟩ := by
  cases h with
  | none => simp [Sequence.none] at ho
  | two | threeLast | fourLast => simp at ho
  | @three x h1 h2 =>
    simp only at hl hg
    exact .threeLast rfl h1 h2 (by split at hl <;> omega) (by split at hg <;> omega)
      (fun e => by rwa [if_pos e] at hl) (fun e => by rwa [if_pos e] at hg)
  | @four x h1 h2 =>
    simp only at hl hg
    exact .fourThird rfl h1 h2 (by split at hl <;> omega) (by split at hg <;> omega)
      (fun e => by rwa [if_pos e] at hl) (fun e => by rwa [if_pos e] at hg)
  | @fourThird x y bits hbits h1 h2 h3 h4 h5 h6 => exact .fourLast (by rw [hbits]) h1 h2 h3 h4 h5 h6 hl hg

theorem ne_nil {pre : List UInt8} {s : Sequence} (h : UnderWay pre s) (ho : s.owed ≠ 0) : pre ≠ [] := by
  rintro rfl
  cases h
  exact ho rfl

theorem eq_none {pre : List UInt8} {s : Sequence} (h : UnderWay pre s) (ho : s.owed = 0) : pre = [] := by
  cases h with
  | none => rfl
  | _ => cases ho

end UnderWay

/-- Between characters an octet is one, or stands for none, or begins one. -/
theorem reads_start {bs : List UInt8} (ih : ∀ {pre s}, UnderWay pre s → Reads (pre ++ bs) (lossyFrom s bs))
    (b : UInt8) : Reads (b :: bs) ((Sequence.start b.toNat).1 ++ lossyFrom (Sequence.start b.toNat).2 bs) := by
  have hbs : Reads bs (lossyFrom .none bs) := ih .none
  have hstray : Reads (b :: bs) ([replacement] ++ lossyFrom .none bs) := .stray (List.cons_ne_nil b []) hbs
  by_cases hascii : b.toNat < 0x80
  · have hv : b.toNat.isValidChar := Or.inl (by omega)
    have hb : String.utf8EncodeChar (Char.ofNat b.toNat) = [b] := by
      unfold String.utf8EncodeChar
      simp only [toNat_val_ofNat hv]
      rw [if_pos (by omega), ofNat_eq_octet rfl]
    rw [Sequence.start, if_pos hascii, ← List.singleton_append, ← hb]
    exact .char _ hbs
  by_cases hlow : b.toNat < 0xC2
  · rw [Sequence.start, if_neg hascii, if_pos hlow]
    exact hstray
  by_cases htwo : b.toNat < 0xE0
  · rw [Sequence.start_two (by omega) htwo]
    exact ih (.two (by omega) htwo)
  by_cases hthree : b.toNat < 0xF0
  · rw [Sequence.start_three (by omega) hthree]
    exact ih (.three (by omega) hthree)
  by_cases hfour : b.toNat ≤ 0xF4
  · rw [Sequence.start_four (by omega) hfour]
    exact ih (.four (by omega) hfour)
  · have hstart : Sequence.start b.toNat = ([replacement], .none) := by
      unfold Sequence.start
      repeat rw [if_neg (by omega)]
    rw [hstart]
    exact hstray

theorem reads_lossyFrom {pre : List UInt8} {s : Sequence} (h : UnderWay pre s) (bs : List UInt8) :
    Reads (pre ++ bs) (lossyFrom s bs) := by
  induction bs generalizing pre s with
  | nil =>
    rw [lossyFrom]
    split
    · rename_i ho
      rw [h.eq_none ho]
      exact .nil
    · rename_i ho
      exact .stray (h.ne_nil ho) .nil
  | cons b bs ih =>
    rw [lossyFrom_cons]
    by_cases h0 : s.owed = 0
    · rw [h.eq_none h0, Sequence.step, if_pos h0]
      exact reads_start ih b
    by_cases hrange : s.least ≤ b.toNat ∧ b.toNat ≤ s.greatest
    · by_cases h1 : s.owed = 1
      · rw [Sequence.step_of_last h1 hrange.1 hrange.2, ← List.singleton_append, ← List.append_assoc,
          ← h.encode_eq h1 hrange.1 hrange.2]
        exact .char _ (ih .none)
      · rw [Sequence.step_of_more (by omega) hrange.1 hrange.2, ← List.singleton_append, ← List.append_assoc]
        exact ih (h.step (by omega) hrange.1 hrange.2)
    · rw [Sequence.step, if_neg h0, if_neg hrange]
      exact .stray (h.ne_nil h0) (reads_start ih b)

/-! ## The order of octets -/

theorem toNat_lt_of_lt {c d : Char} (h : c < d) : c.val.toNat < d.val.toNat ∧ d.val.toNat < 0x110000 := by
  refine ⟨UInt32.lt_iff_toNat_lt.mp h, ?_⟩
  rcases d.valid with hd | hd
  · omega
  · exact hd.2

/-- Bytes compare by the first that differs. -/
theorem cons_lt_cons_bytes {a b : Nat} {xs ys : List UInt8} (hb : b < 256) (hab : a ≤ b) (h : a = b → xs < ys) :
    UInt8.ofNat a :: xs < UInt8.ofNat b :: ys := by
  rcases Nat.lt_or_eq_of_le hab with hlt | rfl
  · refine .rel (UInt8.lt_iff_toNat_lt.mpr ?_)
    rwa [UInt8.toNat_ofNat_of_lt' (Nat.lt_trans hlt hb), UInt8.toNat_ofNat_of_lt' hb]
  · exact .cons (h rfl)

/-- Of two characters the smaller has the smaller bytes, whatever follows them. -/
theorem encode_append_lt {c d : Char} (h : c < d) (xs ys : List UInt8) :
    String.utf8EncodeChar c ++ xs < String.utf8EncodeChar d ++ ys := by
  obtain ⟨hlt, hd⟩ := toNat_lt_of_lt h
  unfold String.utf8EncodeChar
  generalize c.val.toNat = v at hlt
  generalize d.val.toNat = w at hlt hd
  dsimp only
  -- the first byte tells how many there are, and of as many bytes the first that differs decides
  by_cases h1 : v ≤ 127
  · rw [if_pos h1]
    split_ifs <;> exact cons_lt_cons_bytes (by omega) (by omega) fun e => absurd e (by omega)
  rw [if_neg h1, if_neg (show ¬w ≤ 127 by omega)]
  by_cases h2 : v ≤ 2047
  · rw [if_pos h2]
    split_ifs
    · exact cons_lt_cons_bytes (by omega) (by omega) fun e1 =>
        cons_lt_cons_bytes (by omega) (by omega) fun e2 => absurd e2 (by omega)
    all_goals exact cons_lt_cons_bytes (by omega) (by omega) fun e => absurd e (by omega)
  rw [if_neg h2, if_neg (show ¬w ≤ 2047 by omega)]
  by_cases h3 : v ≤ 65535
  · rw [if_pos h3]
    split_ifs
    · exact cons_lt_cons_bytes (by omega) (by omega) fun e1 => cons_lt_cons_bytes (by omega) (by omega) fun e2 =>
        cons_lt_cons_bytes (by omega) (by omega) fun e3 => absurd e3 (by omega)
    · exact cons_lt_cons_bytes (by omega) (by omega) fun e => absurd e (by omega)
  rw [if_neg h3, if_neg (show ¬w ≤ 65535 by omega)]
  exact cons_lt_cons_bytes (by omega) (by omega) fun e1 => cons_lt_cons_bytes (by omega) (by omega) fun e2 =>
    cons_lt_cons_bytes (by omega) (by omega) fun e3 =>
      cons_lt_cons_bytes (by omega) (by omega) fun e4 => absurd e4 (by omega)

theorem encode_ne_nil (c : Char) : String.utf8EncodeChar c ≠ [] := by
  rw [← List.length_pos_iff, String.length_utf8EncodeChar]
  exact c.utf8Size_pos

theorem encode_lt {cs ds : List Char} (h : cs < ds) :
    cs.flatMap String.utf8EncodeChar < ds.flatMap String.utf8EncodeChar := by
  induction h with
  | nil =>
    obtain ⟨b, bs, hb⟩ := List.exists_cons_of_ne_nil (encode_ne_nil _)
    rw [List.flatMap_nil, List.flatMap_cons, hb]
    exact .nil
  | rel h => exact encode_append_lt h _ _
  | cons _ ih => exact List.append_left_lt ih

end Text

namespace Octets

theorem reads_shown (o : Octets) : Text.Reads o o.shown.toList := by
  rw [shown, String.toList_ofList]
  exact Text.reads_lossyFrom .none o

theorem toList_shown_append_slash (a b : Octets) :
    (a ++ slash :: b : Octets).shown.toList = a.shown.toList ++ '/' :: b.shown.toList := by
  simp only [shown, String.toList_ofList]
  exact Text.lossyFrom_append_slash (Or.inl rfl) a b

/-! ## Texts among octets -/

theorem ofText_ofList (cs : List Char) : ofText (String.ofList cs) = cs.flatMap String.utf8EncodeChar := by
  rw [ofText, Text.bytesOf, String.toUTF8, String.toByteArray_ofList, List.utf8Encode, List.data_toByteArray]

theorem ofText_eq (s : String) : ofText s = s.toList.flatMap String.utf8EncodeChar := by
  rw [← ofText_ofList, String.ofList_toList]

@[simp] theorem shown_ofText (s : String) : (ofText s).shown = s := by
  rw [shown, ofText_eq, Text.lossyFrom_flatMap, String.ofList_toList]

theorem ofText_inj {s t : String} : ofText s = ofText t ↔ s = t := by
  constructor
  · intro h
    have := congrArg shown h
    rwa [shown_ofText, shown_ofText] at this
  · exact fun h => h ▸ rfl

@[simp] theorem isText_ofText (s : String) : (ofText s).IsText := congrArg ofText (shown_ofText s)

theorem isText_iff {o : Octets} : o.IsText ↔ ∃ s : String, o = ofText s := by
  constructor
  · exact fun h => ⟨_, h.symm⟩
  · rintro ⟨s, rfl⟩
    exact isText_ofText s

theorem IsText.append {a b : Octets} (ha : IsText a) (hb : IsText b) : IsText (a ++ b : List UInt8) := by
  obtain ⟨s, rfl⟩ := isText_iff.mp ha
  obtain ⟨t, rfl⟩ := isText_iff.mp hb
  refine isText_iff.mpr ⟨s ++ t, ?_⟩
  simp [ofText_eq]

theorem ofText_append (s t : String) : ofText (s ++ t) = ofText s ++ ofText t := by
  simp only [ofText_eq, String.toList_append, List.flatMap_append]

theorem suffix_ofText {s t : String} (h : s.toList <:+ t.toList) : ofText s <:+ ofText t := by
  obtain ⟨front, h⟩ := h
  refine ⟨ofText (String.ofList front), ?_⟩
  rw [← ofText_append]
  congr 1
  exact String.toList_inj.mp (by rw [String.toList_append, String.toList_ofList, h])

/-- An octet below 128 is that of a character below 128, which has no other. -/
theorem mem_encode_of_ascii {b : UInt8} (hb : b.toNat < 128) {c : Char} :
    b ∈ String.utf8EncodeChar c ↔ c.toNat = b.toNat := by
  have hv : c.val.toNat = c.toNat := rfl
  have hbyte : ∀ n, 128 ≤ n → n < 256 → b ≠ UInt8.ofNat n := by
    rintro n hl hg rfl
    rw [UInt8.toNat_ofNat_of_lt' hg] at hb
    omega
  unfold String.utf8EncodeChar
  simp only [hv]
  split
  · rename_i h
    rw [List.mem_singleton, ← UInt8.toNat_inj, UInt8.toNat_ofNat_of_lt' (Nat.lt_of_le_of_lt h (by decide)), eq_comm]
  · rename_i h
    refine iff_of_false ?_ (by omega)
    split
    · simp only [List.mem_cons, List.not_mem_nil, or_false, not_or]
      exact ⟨hbyte _ (by omega) (by omega), hbyte _ (by omega) (by omega)⟩
    split
    · simp only [List.mem_cons, List.not_mem_nil, or_false, not_or]
      exact ⟨hbyte _ (by omega) (by omega), hbyte _ (by omega) (by omega), hbyte _ (by omega) (by omega)⟩
    · simp only [List.mem_cons, List.not_mem_nil, or_false, not_or]
      exact ⟨hbyte _ (by omega) (by omega), hbyte _ (by omega) (by omega), hbyte _ (by omega) (by omega),
        hbyte _ (by omega) (by omega)⟩

theorem slash_mem_ofText {s : String} : slash ∈ ofText s ↔ '/' ∈ s.toList := by
  rw [ofText_eq, List.mem_flatMap]
  constructor
  · intro h
    obtain ⟨c, hc, hslash⟩ := h
    have heq : c = '/' := Char.toNat_inj.mp ((mem_encode_of_ascii (by decide)).mp hslash)
    exact heq ▸ hc
  · intro h
    exact ⟨'/', h, by decide⟩

/-- What shows no replacement is a text. -/
theorem isText_of_shown {o : Octets} (h : Text.replacement ∉ o.shown.toList) : o.IsText := by
  rw [IsText, ofText_eq]
  have hreads := o.reads_shown
  generalize o.shown.toList = cs at h hreads
  induction hreads with
  | nil => rfl
  | char c _ ih => rw [List.flatMap_cons, ih fun m => h (List.mem_cons_of_mem _ m)]
  | stray => exact absurd (List.mem_cons_self ..) h

theorem eq_ofText_of_shown {o : Octets} {s : String} (hs : Text.replacement ∉ s.toList) (h : o.shown = s) :
    o = ofText s := by
  have ho : ofText o.shown = o := isText_of_shown (h ▸ hs)
  rw [← ho, h]

theorem ofText_shown_eq {o : Octets} {s : String} (hs : Text.replacement ∉ s.toList) :
    ofText o.shown = ofText s ↔ o = ofText s := by
  rw [ofText_inj]
  constructor
  · exact eq_ofText_of_shown hs
  · rintro rfl
    exact shown_ofText s

/-- A slash is shown only where there is one. -/
theorem slash_mem_of_shown {o : Octets} (h : '/' ∈ o.shown.toList) : slash ∈ o := by
  have hreads := o.reads_shown
  generalize o.shown.toList = cs at h hreads
  induction hreads with
  | nil => cases h
  | char c _ ih =>
    rcases List.mem_cons.mp h with rfl | h
    · exact List.mem_append_left _ (by decide)
    · exact List.mem_append_right _ (ih h)
  | stray _ _ ih => exact List.mem_append_right _ (ih ((List.mem_cons.mp h).resolve_left (by decide)))

/-- Texts are ordered as their octets are. -/
theorem ofText_lt {a b : String} (h : a < b) : ofText a < ofText b := by
  have h : a.toList < b.toList := h
  rw [ofText_eq, ofText_eq]
  exact Text.encode_lt h

end Octets

/-- Contents that are written as a text are read as that text. -/
theorem Text.lossy_bytesOf (s : String) : lossy (bytesOf s) = s := Octets.shown_ofText s

end GoAtlas
