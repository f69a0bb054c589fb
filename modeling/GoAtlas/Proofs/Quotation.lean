/-
  GoAtlas.Proofs.Quotation — what a text between quotes stands for.

  `Quoted q t` says that `q`, written between quotes, stands for `t`: most characters stand for themselves,
  and the others are written as escapes.
  - `unquote?_iff`: reading a quoted text finds what it stands for, and finds nothing else.
  - `Quoted.break_iff`: a line break comes out of a quoted text exactly if an escape for one stands in it.
-/
import GoAtlas.Json.Reader
import Mathlib.Data.List.Basic

namespace GoAtlas

namespace Text

theorem toNat_between {low high c : Char} (h : (low ≤ c && c ≤ high) = true) :
    low.toNat ≤ c.toNat ∧ c.toNat ≤ high.toNat := by
  simp only [Bool.and_eq_true, decide_eq_true_eq, Char.le_def, UInt32.le_iff_toNat_le] at h
  exact h

/-- A digit of base sixteen and its value. -/
theorem hexValue?_eq_some {c : Char} {v : Nat} (h : hexValue? c = some v) :
    c.toNat = v + 48 ∧ v < 10 ∨ c.toNat = v + 87 ∧ 10 ≤ v ∧ v < 16 ∨ c.toNat = v + 55 ∧ 10 ≤ v ∧ v < 16 := by
  unfold hexValue? at h
  split at h
  · rename_i hc
    obtain ⟨hlow, hhigh⟩ : 48 ≤ c.toNat ∧ c.toNat ≤ 57 := toNat_between hc
    cases h
    omega
  split at h
  · rename_i hc
    obtain ⟨hlow, hhigh⟩ : 97 ≤ c.toNat ∧ c.toNat ≤ 102 := toNat_between hc
    cases h
    omega
  split at h
  · rename_i hc
    obtain ⟨hlow, hhigh⟩ : 65 ≤ c.toNat ∧ c.toNat ≤ 70 := toNat_between hc
    cases h
    omega
  · cases h

/-- A character made from a number has that number, unless it has none. -/
theorem eq_of_ofNat {n : Nat} {c : Char} (h : Char.ofNat n = c) (hc : c.toNat ≠ 0) : n = c.toNat := by
  by_cases hvalid : n.isValidChar
  · have hn : Char.ofNat n = Char.ofNatAux n hvalid := dif_pos hvalid
    rw [← h, hn]
    rfl
  · have hn : Char.ofNat n = Char.ofNat 0 := dif_neg hvalid
    rw [← h, hn] at hc
    exact absurd rfl hc

end Text

namespace Json

/-- Between quotes, the text writes the character. -/
inductive Writes : List Char → Char → Prop
  | plain {c : Char} : 0x20 ≤ c.toNat → c ≠ '"' → c ≠ '\\' → Writes [c] c
  | escape {c e : Char} : escape? c = some e → Writes ['\\', c] e
  | point {ds : List Char} {n : Nat} : hex4? ds = some (n, []) → isHighSurrogate n = false →
      isLowSurrogate n = false → Writes ('\\' :: 'u' :: ds) (Char.ofNat n)
  | pair {ds es : List Char} {n m : Nat} : hex4? ds = some (n, []) → isHighSurrogate n = true →
      hex4? es = some (m, []) → isLowSurrogate m = true →
      Writes ('\\' :: 'u' :: (ds ++ '\\' :: 'u' :: es)) (Char.ofNat (0x10000 + (n - 0xD800) * 1024 + (m - 0xDC00)))

/-- The quoted text stands for the other one, character by character. -/
inductive Quoted : List Char → List Char → Prop
  | nil : Quoted [] []
  | cons {x q t : List Char} {c : Char} : Writes x c → Quoted q t → Quoted (x ++ q) (c :: t)

theorem hex4?_eq_some {ds q : List Char} {n : Nat} (h : hex4? ds = some (n, q)) :
    ∃ a b c d v w x y, ds = a :: b :: c :: d :: q ∧ Text.hexValue? a = some v ∧ Text.hexValue? b = some w ∧
      Text.hexValue? c = some x ∧ Text.hexValue? d = some y ∧ n = ((v * 16 + w) * 16 + x) * 16 + y := by
  unfold hex4? at h
  split at h
  · rename_i a b c d cs
    split at h
    · rename_i v w x y ha hb hc hd
      cases h
      exact ⟨a, b, c, d, v, w, x, y, rfl, ha, hb, hc, hd, rfl⟩
    · cases h
  · cases h

theorem hex4?_append {ds : List Char} {n : Nat} (h : hex4? ds = some (n, [])) (more : List Char) :
    hex4? (ds ++ more) = some (n, more) := by
  obtain ⟨a, b, c, d, v, w, x, y, rfl, ha, hb, hc, hd, rfl⟩ := hex4?_eq_some h
  simp [hex4?, ha, hb, hc, hd]

theorem hex4?_split {cs q : List Char} {n : Nat} (h : hex4? cs = some (n, q)) :
    ∃ ds, cs = ds ++ q ∧ hex4? ds = some (n, []) := by
  obtain ⟨a, b, c, d, v, w, x, y, rfl, ha, hb, hc, hd, rfl⟩ := hex4?_eq_some h
  exact ⟨[a, b, c, d], rfl, by simp [hex4?, ha, hb, hc, hd]⟩

/-! ## Reading -/

/-- One character is read in front of the rest of a string. -/
theorem map_cons_eq_some {r : Option (Option (List Char) × List Char)} {c : Char} {t rest : List Char}
    (h : (r.map fun r => (r.1.map (c :: ·), r.2)) = some (some t, rest)) :
    ∃ u, r = some (some u, rest) ∧ t = c :: u := by
  obtain ⟨⟨text, rest'⟩, hr, heq⟩ := Option.map_eq_some_iff.mp h
  obtain ⟨htext, hrest⟩ := Prod.mk.inj heq
  obtain ⟨u, hu, rfl⟩ := Option.map_eq_some_iff.mp htext
  simp only at hu hrest
  exact ⟨u, by rw [hr, hu, hrest], rfl⟩

/-- Past an escape that is no character nothing comes out. -/
theorem map_none_ne_some {r : Option (Option (List Char) × List Char)} {t rest : List Char} :
    (r.map fun r => ((none : Option (List Char)), r.2)) ≠ some (some t, rest) := by
  intro h
  obtain ⟨_, _, heq⟩ := Option.map_eq_some_iff.mp h
  cases (Prod.mk.inj heq).1

/-- What a string is read as is what it stands for. -/
theorem quoted_of_stringBody {fuel : Nat} {cs t rest : List Char}
    (h : stringBody (fun c => [c]) fuel cs = some (some t, rest)) : ∃ q, cs = q ++ '"' :: rest ∧ Quoted q t := by
  fun_induction stringBody (fun c => [c]) fuel cs generalizing t with
  | case3 fuel cs =>
    cases h
    exact ⟨[], rfl, .nil⟩
  | case6 fuel ds n hhigh es m cs hes hlow hds ih =>
    obtain ⟨u, hbody, rfl⟩ := map_cons_eq_some h
    obtain ⟨q, rfl, hq⟩ := ih hbody
    obtain ⟨first, rfl, hfirst⟩ := hex4?_split hds
    obtain ⟨second, rfl, hsecond⟩ := hex4?_split hes
    exact ⟨_, by simp, .cons (.pair hfirst hhigh hsecond hlow) hq⟩
  | case10 fuel ds n cs hds hhigh hlow ih =>
    obtain ⟨u, hbody, rfl⟩ := map_cons_eq_some h
    obtain ⟨q, rfl, hq⟩ := ih hbody
    obtain ⟨digits, rfl, hdigits⟩ := hex4?_split hds
    exact ⟨_, by simp, .cons (.point hdigits (Bool.eq_false_iff.mpr hhigh) (Bool.eq_false_iff.mpr hlow)) hq⟩
  | case12 fuel c cs hu e he ih =>
    obtain ⟨u, hbody, rfl⟩ := map_cons_eq_some h
    obtain ⟨q, rfl, hq⟩ := ih hbody
    exact ⟨_, rfl, .cons (.escape he) hq⟩
  | case14 fuel c cs hquote _ hslash hplain ih =>
    obtain ⟨u, hbody, rfl⟩ := map_cons_eq_some h
    obtain ⟨q, rfl, hq⟩ := ih hbody
    simp only [Bool.or_eq_true, decide_eq_true_eq, beq_iff_eq, not_or, Nat.not_lt] at hplain
    exact ⟨_, rfl, .cons (.plain hplain.1 hquote hplain.2) hq⟩
  | case7 | case8 | case9 => exact absurd h map_none_ne_some
  | _ => cases h

/-- A character that is written is read, and then the rest. -/
theorem Writes.stringBody_eq {x : List Char} {c : Char} (h : Writes x c) (fuel : Nat) (cs : List Char) :
    stringBody (fun c => [c]) (fuel + 1) (x ++ cs) =
      (stringBody (fun c => [c]) fuel cs).map fun r => (r.1.map (c :: ·), r.2) := by
  cases h with
  | plain hspace hquote hslash =>
    rw [List.singleton_append, stringBody, if_neg (by simpa [hslash] using hspace)]
    · exact hquote
    · exact fun _ e => absurd e hslash
    · exact fun _ _ e => absurd e hslash
  | escape he =>
    rw [List.cons_append, List.singleton_append, stringBody, he]
    rintro rfl
    cases he
  | point hds hhigh hlow =>
    rw [List.cons_append, List.cons_append, stringBody, hex4?_append hds]
    simp only [hhigh, hlow, Bool.false_eq_true, if_false, List.singleton_append]
  | pair hds hhigh hes hlow =>
    rw [List.cons_append, List.cons_append, List.append_assoc, stringBody, hex4?_append hds]
    simp only [hhigh, if_true, List.cons_append, hex4?_append hes, hlow]
    rfl

theorem Writes.ne_nil {x : List Char} {c : Char} (h : Writes x c) : x ≠ [] := by
  cases h <;> exact List.cons_ne_nil _ _

/-- A text that stands for another is read as that, up to the closing quote. -/
theorem Quoted.stringBody_eq {q t : List Char} (h : Quoted q t) (rest : List Char) {fuel : Nat}
    (hfuel : q.length < fuel) :
    stringBody (fun c => [c]) fuel (q ++ '"' :: rest) = some (some t, rest) := by
  induction h generalizing fuel with
  | nil =>
    obtain ⟨fuel, rfl⟩ := Nat.exists_eq_add_one_of_ne_zero (Nat.ne_zero_of_lt hfuel)
    rfl
  | @cons x q t c hx _ ih =>
    obtain ⟨fuel, rfl⟩ := Nat.exists_eq_add_one_of_ne_zero (Nat.ne_zero_of_lt hfuel)
    have hlen : q.length < fuel := by
      have := List.length_pos_of_ne_nil hx.ne_nil
      rw [List.length_append] at hfuel
      omega
    rw [List.append_assoc, hx.stringBody_eq, ih hlen]
    rfl

/-- Reading what stands between quotes finds what it stands for. -/
theorem unquote?_iff {q t : List Char} : unquote? q = some t ↔ Quoted q t := by
  unfold unquote?
  constructor
  · intro h
    split at h
    · rename_i text heq
      cases h
      obtain ⟨q', hq', hquoted⟩ := quoted_of_stringBody heq
      rwa [List.append_cancel_right hq']
    · cases h
  · intro h
    rw [h.stringBody_eq [] (Nat.lt_succ_self _)]

/-- Text without quotes, backslashes and control characters stands for itself. -/
theorem quoted_of_plain {t : List Char} (h : ∀ c ∈ t, 0x20 ≤ c.toNat ∧ c ≠ '"' ∧ c ≠ '\\') : Quoted t t := by
  induction t with
  | nil => exact .nil
  | cons c t ih =>
    rw [List.forall_mem_cons] at h
    exact .cons (.plain h.1.1 h.1.2.1 h.1.2.2) (ih h.2)

theorem Quoted.ne_nil {q t : List Char} (h : Quoted q t) (hq : q ≠ []) : t ≠ [] := by
  cases h with
  | nil => exact absurd rfl hq
  | cons => exact List.cons_ne_nil _ _

/-- A quoted text stands for one text only. -/
theorem Quoted.unique {q t u : List Char} (ht : Quoted q t) (hu : Quoted q u) : t = u :=
  Option.some.inj ((unquote?_iff.mpr ht).symm.trans (unquote?_iff.mpr hu))

theorem Quoted.append {q r t u : List Char} (hq : Quoted q t) (hr : Quoted r u) : Quoted (q ++ r) (t ++ u) := by
  induction hq with
  | nil => exact hr
  | cons hx _ ih =>
    rw [List.append_assoc]
    exact .cons hx ih

/-! ## Line breaks -/

def isLineBreak (c : Char) : Bool := c == '\n' || c == '\r'

def HasBreak (cs : List Char) : Prop := ∃ c ∈ cs, isLineBreak c = true

-- by going through the text, not through all characters there are
instance (cs : List Char) : Decidable (HasBreak cs) := List.decidableBEx _ cs

/-- How a line break is written between quotes. -/
def breakEscapes : List (List Char) :=
  ["\\n", "\\r", "\\u000a", "\\u000A", "\\u000d", "\\u000D"].map String.toList

/-- One of the characters that the quoted text writes is a line break. -/
def EscapesBreak (q : List Char) : Prop :=
  ∃ lead escape rest before after, q = lead ++ (escape ++ rest) ∧ escape ∈ breakEscapes ∧
    Quoted lead before ∧ Quoted rest after

theorem isLineBreak_iff {c : Char} : isLineBreak c = true ↔ c = '\n' ∨ c = '\r' := by
  simp [isLineBreak]

/-- A number below sixteen, written with four digits. -/
theorem hex4?_small {ds : List Char} {n : Nat} (h : hex4? ds = some (n, [])) (hn : n < 16) :
    ∃ d, ds = ['0', '0', '0', d] ∧ Text.hexValue? d = some n := by
  obtain ⟨a, b, c, d, v, w, x, y, rfl, ha, hb, hc, hd, rfl⟩ := hex4?_eq_some h
  have zero {e : Char} (he : Text.hexValue? e = some 0) : e = '0' := by
    have := Text.hexValue?_eq_some he
    exact Char.toNat_inj.mp (by simpa using this)
  obtain ⟨rfl, rfl, rfl⟩ : v = 0 ∧ w = 0 ∧ x = 0 := by omega
  exact ⟨d, by rw [zero ha, zero hb, zero hc], by simpa using hd⟩

/-- Nothing but its escapes writes a line break. -/
theorem Writes.mem_breakEscapes {x : List Char} {c : Char} (h : Writes x c) (hc : isLineBreak c = true) :
    x ∈ breakEscapes := by
  have hnum : c.toNat = 10 ∨ c.toNat = 13 := by
    rcases isLineBreak_iff.mp hc with rfl | rfl
    · exact .inl rfl
    · exact .inr rfl
  cases h with
  | plain hspace => omega
  | escape he =>
    unfold escape? at he
    split at he <;> cases he <;> revert hc <;> decide
  | @point ds n hds =>
    have hn : n = (Char.ofNat n).toNat := Text.eq_of_ofNat rfl (by omega)
    obtain ⟨d, rfl, hd⟩ := hex4?_small hds (by omega)
    have hdigit : d = 'a' ∨ d = 'A' ∨ d = 'd' ∨ d = 'D' := by
      have := Text.hexValue?_eq_some hd
      simp only [← Char.toNat_inj, Char.reduceToNat]
      omega
    rcases hdigit with rfl | rfl | rfl | rfl <;> decide
  | @pair ds es n m =>
    have := Text.eq_of_ofNat rfl (by omega : (Char.ofNat (0x10000 + (n - 0xD800) * 1024 + (m - 0xDC00))).toNat ≠ 0)
    omega

/-- Each of the escapes writes a line break. -/
theorem exists_writes_break {x : List Char} (h : x ∈ breakEscapes) : ∃ c, Writes x c ∧ isLineBreak c = true := by
  simp only [breakEscapes, List.map_cons, List.map_nil, List.mem_cons, List.not_mem_nil, or_false] at h
  rcases h with rfl | rfl | rfl | rfl | rfl | rfl
  · exact ⟨_, @Writes.escape 'n' '\n' rfl, rfl⟩
  · exact ⟨_, @Writes.escape 'r' '\r' rfl, rfl⟩
  · exact ⟨_, @Writes.point "000a".toList 10 rfl rfl rfl, rfl⟩
  · exact ⟨_, @Writes.point "000A".toList 10 rfl rfl rfl, rfl⟩
  · exact ⟨_, @Writes.point "000d".toList 13 rfl rfl rfl, rfl⟩
  · exact ⟨_, @Writes.point "000D".toList 13 rfl rfl rfl, rfl⟩

/-- A line break comes out of a quoted text exactly if an escape for one stands in it. -/
theorem Quoted.break_iff {q t : List Char} (h : Quoted q t) : HasBreak t ↔ EscapesBreak q := by
  constructor
  · intro ht
    induction h with
    | nil => exact absurd ht (by decide)
    | @cons x q t c hx hq ih =>
      obtain ⟨d, hd, hbreak⟩ := ht
      rcases List.mem_cons.mp hd with rfl | hd
      · exact ⟨[], x, q, [], t, rfl, hx.mem_breakEscapes hbreak, .nil, hq⟩
      · obtain ⟨lead, escape, rest, before, after, rfl, hmem, hlead, hrest⟩ := ih ⟨d, hd, hbreak⟩
        exact ⟨x ++ lead, escape, rest, c :: before, after, by rw [List.append_assoc], hmem, .cons hx hlead, hrest⟩
  · rintro ⟨lead, escape, rest, before, after, rfl, hmem, hlead, hrest⟩
    obtain ⟨c, hc, hbreak⟩ := exists_writes_break hmem
    rw [h.unique (hlead.append (.cons hc hrest))]
    exact ⟨c, by simp, hbreak⟩

end Json

end GoAtlas
