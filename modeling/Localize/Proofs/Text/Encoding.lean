/-
  Bytes and text. Bytes are read in UTF-8 as the text that is encoded as them, and no other bytes are
  read (`decodeUtf8_eq_ok_iff`). What is decoded in any encoding is encoded as the bytes that it was
  decoded from, but that a file without a mark may get one (`Encoding.encode_of_decode`). A carriage
  return is the same byte in every encoding (`Encoding.return_mem_encode`). So text whose ends of lines
  were unified is encoded as the bytes it comes from just where these have no carriage return
  (`Encoding.encode_unified_iff`).
-/
import Localize.Text.Split
import Localize.Text.Encoding
import Mathlib.Data.List.TakeWhile
import Mathlib.Tactic.NormNum
import Mathlib.Tactic.SplitIfs

namespace Localize.Text

/-! ## Bytes and code points -/

theorem ofNat_eq {b : UInt8} {n : Nat} (h : b.toNat = n) : UInt8.ofNat n = b := by
  rw [← h]
  exact UInt8.ofNat_toNat

theorem toNat_ofNat_byte {n : Nat} (h : n < 256) : (UInt8.ofNat n).toNat = n := by
  rw [UInt8.toNat_ofNat']
  exact Nat.mod_eq_of_lt h

theorem toNat_ofNat_char {n : Nat} (h : n < 0xd800 ∨ 0xe000 ≤ n ∧ n < 0x110000) :
    (Char.ofNat n).toNat = n := by
  have hvalid : n.isValidChar := by
    unfold Nat.isValidChar
    omega
  unfold Char.ofNat
  rw [dif_pos hvalid]
  rfl

theorem toNat_charOf {n : Nat} (h : n < 0xd800 ∨ 0xe000 ≤ n ∧ n < 0x110000) :
    (charOf n).toNat = n := by
  unfold charOf
  rw [if_neg (by omega)]
  exact toNat_ofNat_char h

/-- The code of a character reads as the character. -/
theorem charOf_toNat (c : Char) : charOf c.toNat = c := by
  have hvalid : c.val.toNat < 0xd800 ∨ 0xdfff < c.val.toNat ∧ c.val.toNat < 0x110000 := c.valid
  have hcode : c.toNat = c.val.toNat := rfl
  rw [charOf, if_neg (by omega), Char.ofNat_toNat]

theorem toNat_lt (c : Char) : c.toNat < 0x110000 := by
  have h : c.val.toNat < 0xd800 ∨ 0xdfff < c.val.toNat ∧ c.val.toNat < 0x110000 := c.valid
  show c.val.toNat < 0x110000
  omega

theorem isContinuation_iff {b : UInt8} :
    isContinuation b = true ↔ 128 ≤ b.toNat ∧ b.toNat < 192 := by
  unfold isContinuation
  rw [decide_eq_true_eq]
  omega

/-! ## Sequences of UTF-8 -/

theorem utf8Char_one {a : UInt8} (h : a.toNat < 0x80) : utf8Char (Char.ofNat a.toNat) = [a] := by
  have hn : (Char.ofNat a.toNat).toNat = a.toNat := toNat_ofNat_char (by omega)
  unfold utf8Char
  dsimp only
  rw [hn, if_pos h, UInt8.ofNat_toNat]

theorem utf8Char_two {a b : UInt8} (ha : 0xc2 ≤ a.toNat) (ha' : a.toNat < 0xe0)
    (hb : isContinuation b = true) : utf8Char (charOf (codePointOf [a, b])) = [a, b] := by
  have hb' := isContinuation_iff.mp hb
  have hn : (charOf (codePointOf [a, b])).toNat = a.toNat % 32 * 64 + b.toNat % 64 := by
    refine toNat_charOf ?_
    rw [codePointOf, payload]
    omega
  unfold utf8Char
  dsimp only
  rw [hn, if_neg (by omega), if_pos (by omega), ofNat_eq (b := a) (by omega),
    ofNat_eq (b := b) (by rw [Nat.shiftRight_eq_div_pow]; omega)]

/-- The bounds on a second byte keep longer forms than needed and surrogates out of sequences of three. -/
theorem utf8Char_three {a b c : UInt8} (ha : 0xe0 ≤ a.toNat) (ha' : a.toNat < 0xf0)
    (hb : canFollow a b = true) (hc : isContinuation c = true) :
    utf8Char (charOf (codePointOf [a, b, c])) = [a, b, c] := by
  have hc' := isContinuation_iff.mp hc
  simp only [canFollow, Bool.and_eq_true, Bool.or_eq_true, bne_iff_ne, decide_eq_true_eq,
    isContinuation_iff] at hb
  have hn : (charOf (codePointOf [a, b, c])).toNat =
      (a.toNat % 16 * 64 + b.toNat % 64) * 64 + c.toNat % 64 := by
    refine toNat_charOf ?_
    rw [codePointOf, payload, payload]
    omega
  unfold utf8Char
  dsimp only
  rw [hn, if_neg (by omega), if_neg (by omega), if_pos (by omega),
    ofNat_eq (b := a) (by rw [Nat.shiftRight_eq_div_pow]; omega),
    ofNat_eq (b := b) (by rw [Nat.shiftRight_eq_div_pow]; omega),
    ofNat_eq (b := c) (by rw [Nat.shiftRight_eq_div_pow]; omega)]

theorem utf8Char_four {a b c d : UInt8} (ha : 0xf0 ≤ a.toNat) (ha' : a.toNat < 0xf5)
    (hb : canFollow a b = true) (hc : isContinuation c = true) (hd : isContinuation d = true) :
    utf8Char (charOf (codePointOf [a, b, c, d])) = [a, b, c, d] := by
  have hc' := isContinuation_iff.mp hc
  have hd' := isContinuation_iff.mp hd
  simp only [canFollow, Bool.and_eq_true, Bool.or_eq_true, bne_iff_ne, decide_eq_true_eq,
    isContinuation_iff] at hb
  have hn : (charOf (codePointOf [a, b, c, d])).toNat =
      ((a.toNat % 8 * 64 + b.toNat % 64) * 64 + c.toNat % 64) * 64 + d.toNat % 64 := by
    refine toNat_charOf ?_
    rw [codePointOf, payload, payload, payload]
    omega
  unfold utf8Char
  dsimp only
  rw [hn, if_neg (by omega), if_neg (by omega), if_neg (by omega),
    ofNat_eq (b := a) (by rw [Nat.shiftRight_eq_div_pow]; omega),
    ofNat_eq (b := b) (by rw [Nat.shiftRight_eq_div_pow]; omega),
    ofNat_eq (b := c) (by rw [Nat.shiftRight_eq_div_pow]; omega),
    ofNat_eq (b := d) (by rw [Nat.shiftRight_eq_div_pow]; omega)]

/-! ## Text of UTF-8 -/

/-- The bytes behind the first one of a sequence that is read as it should be. -/
theorem followers_of_good (a b : UInt8) (rest : Bytes)
    (h : (b :: rest).length ≤ goodFollowers a (b :: rest)) :
    canFollow a b = true ∧ ∀ c ∈ rest, isContinuation c = true := by
  rw [goodFollowers, List.length_cons] at h
  split at h
  · rename_i hfirst
    have hall : rest.takeWhile isContinuation = rest :=
      (List.takeWhile_sublist isContinuation).eq_of_length_le (by omega)
    exact ⟨hfirst, List.takeWhile_eq_self_iff.mp hall⟩
  · omega

theorem isContinuation_of_canFollow {a b : UInt8} (h : canFollow a b = true) :
    isContinuation b = true := by
  simp only [canFollow, Bool.and_eq_true] at h
  exact h.1.1.1.1

theorem sequenceLength?_eq_some {a : UInt8} {n : Nat} (h : sequenceLength? a = some n) :
    n = 1 ∧ a.toNat < 0x80 ∨ n = 2 ∧ 0xc2 ≤ a.toNat ∧ a.toNat < 0xe0 ∨
      n = 3 ∧ 0xe0 ≤ a.toNat ∧ a.toNat < 0xf0 ∨ n = 4 ∧ 0xf0 ≤ a.toNat ∧ a.toNat < 0xf5 := by
  simp only [sequenceLength?, Bool.and_eq_true, decide_eq_true_eq] at h
  split at h
  · cases h
    omega
  · split at h
    · cases h
      omega
    · split at h
      · cases h
        omega
      · split at h
        · cases h
          omega
        · cases h

/-- A sequence of several bytes is read if all that follow the first one can. -/
theorem decodeUtf8From_several {position n : Nat} {read cs : List Char} {a : UInt8} {rest : Bytes}
    (hlength : sequenceLength? a = some n) (hn : n ≠ 1)
    (h : decodeUtf8From position read (a :: rest) = .ok cs) :
    min (n - 1) rest.length ≤ goodFollowers a (rest.take (n - 1)) ∧
      (match n, rest with
        | 2, b :: rest => decodeUtf8From (position + 2) (charOf (codePointOf [a, b]) :: read) rest
        | 3, b :: c :: rest =>
          decodeUtf8From (position + 3) (charOf (codePointOf [a, b, c]) :: read) rest
        | 4, b :: c :: d :: rest =>
          decodeUtf8From (position + 4) (charOf (codePointOf [a, b, c, d]) :: read) rest
        | _, _ => .error ⟨"utf-8", a, position, rest.length + 1, "unexpected end of data"⟩) =
        .ok cs := by
  rw [decodeUtf8From, hlength] at h
  split at h
  · rename_i heq
    cases heq
  · rename_i heq
    exact absurd (Option.some.inj heq) hn
  · rename_i heq
    cases heq
    dsimp only at h
    split at h
    · cases h
    · rename_i hgood
      exact ⟨by omega, h⟩

/-- What is read from a first byte on is a character whose sequence stands there, and then the rest. -/
theorem decodeUtf8From_cons {position : Nat} {read cs : List Char} {a : UInt8} {rest : Bytes}
    (h : decodeUtf8From position read (a :: rest) = .ok cs) :
    ∃ c rest', a :: rest = utf8Char c ++ rest' ∧ rest'.length ≤ rest.length ∧
      ∃ next, decodeUtf8From next (c :: read) rest' = .ok cs := by
  rcases hlength : sequenceLength? a with _ | n
  · rw [decodeUtf8From, hlength] at h
    cases h
  · rcases sequenceLength?_eq_some hlength with ⟨rfl, ha⟩ | ⟨rfl, ha, ha'⟩ | ⟨rfl, ha, ha'⟩ |
      ⟨rfl, ha, ha'⟩
    · rw [decodeUtf8From, hlength] at h
      exact ⟨_, rest, by rw [utf8Char_one ha]; rfl, Nat.le_refl _, _, h⟩
    · obtain ⟨hgood, hnext⟩ := decodeUtf8From_several hlength (by decide) h
      rcases rest with _ | ⟨b, rest⟩
      · cases hnext
      · obtain ⟨hb, -⟩ := followers_of_good a b [] (by simpa using hgood)
        exact ⟨_, rest, by rw [utf8Char_two ha ha' (isContinuation_of_canFollow hb)]; rfl,
          by simp, _, hnext⟩
    · obtain ⟨hgood, hnext⟩ := decodeUtf8From_several hlength (by decide) h
      rcases rest with _ | ⟨b, _ | ⟨c, rest⟩⟩
      · cases hnext
      · cases hnext
      · obtain ⟨hb, hc⟩ := followers_of_good a b [c] (by simpa using hgood)
        exact ⟨_, rest, by rw [utf8Char_three ha ha' hb (hc c (by simp))]; rfl, by simp; omega, _,
          hnext⟩
    · obtain ⟨hgood, hnext⟩ := decodeUtf8From_several hlength (by decide) h
      rcases rest with _ | ⟨b, _ | ⟨c, _ | ⟨d, rest⟩⟩⟩
      · cases hnext
      · cases hnext
      · cases hnext
      · obtain ⟨hb, hcd⟩ := followers_of_good a b [c, d] (by simpa using hgood)
        exact ⟨_, rest, by rw [utf8Char_four ha ha' hb (hcd c (by simp)) (hcd d (by simp))]; rfl,
          by simp; omega, _, hnext⟩

theorem decodeUtf8From_eq_ok {position : Nat} {read cs : List Char} {bytes : Bytes}
    (h : decodeUtf8From position read bytes = .ok cs) :
    ∃ rest, cs = read.reverse ++ rest ∧ encodeUtf8 rest = bytes := by
  induction hlength : bytes.length using Nat.strong_induction_on generalizing position read bytes with
  | _ n ih =>
    rcases bytes with _ | ⟨a, rest⟩
    · rw [decodeUtf8From] at h
      cases h
      exact ⟨[], (List.append_nil _).symm, rfl⟩
    · obtain ⟨c, rest', hsplit, hle, next, hnext⟩ := decodeUtf8From_cons h
      rw [List.length_cons] at hlength
      obtain ⟨tail, hcs, hbytes⟩ := ih rest'.length (by omega) hnext rfl
      refine ⟨c :: tail, ?_, ?_⟩
      · rw [hcs, List.reverse_cons, List.append_assoc]
        rfl
      · rw [hsplit, ← hbytes]
        rfl

theorem encodeUtf8_of_decodeUtf8 {bytes : Bytes} {cs : List Char} (h : decodeUtf8 bytes = .ok cs) :
    encodeUtf8 cs = bytes := by
  obtain ⟨rest, hcs, hbytes⟩ := decodeUtf8From_eq_ok h
  rw [hcs]
  exact hbytes

/-! ## Decoding what was encoded -/

section Sequences

variable {a b c d : UInt8} (position : Nat) (read : List Char) (rest : Bytes)

theorem decodeUtf8From_one (ha : a.toNat < 0x80) :
    decodeUtf8From position read (a :: rest) =
      decodeUtf8From (position + 1) (Char.ofNat a.toNat :: read) rest := by
  have hlength : sequenceLength? a = some 1 := by simp [sequenceLength?, ha]
  rw [decodeUtf8From, hlength]
  rfl

theorem decodeUtf8From_two (ha : 0xc2 ≤ a.toNat) (ha' : a.toNat < 0xe0) (hb : canFollow a b = true) :
    decodeUtf8From position read (a :: b :: rest) =
      decodeUtf8From (position + 2) (charOf (codePointOf [a, b]) :: read) rest := by
  have hlength : sequenceLength? a = some 2 := by
    simp [sequenceLength?, ha, ha', show ¬ a.toNat < 0x80 by omega]
  rw [decodeUtf8From, hlength]
  simp [goodFollowers, hb]

theorem decodeUtf8From_three (ha : 0xe0 ≤ a.toNat) (ha' : a.toNat < 0xf0) (hb : canFollow a b = true)
    (hc : isContinuation c = true) :
    decodeUtf8From position read (a :: b :: c :: rest) =
      decodeUtf8From (position + 3) (charOf (codePointOf [a, b, c]) :: read) rest := by
  have hlength : sequenceLength? a = some 3 := by
    simp [sequenceLength?, ha, ha', show ¬ a.toNat < 0x80 by omega, show ¬ a.toNat < 0xe0 by omega]
  rw [decodeUtf8From, hlength]
  simp [goodFollowers, hb, hc]

theorem decodeUtf8From_four (ha : 0xf0 ≤ a.toNat) (ha' : a.toNat < 0xf5) (hb : canFollow a b = true)
    (hc : isContinuation c = true) (hd : isContinuation d = true) :
    decodeUtf8From position read (a :: b :: c :: d :: rest) =
      decodeUtf8From (position + 4) (charOf (codePointOf [a, b, c, d]) :: read) rest := by
  have hlength : sequenceLength? a = some 4 := by
    simp [sequenceLength?, ha, ha', show ¬ a.toNat < 0x80 by omega, show ¬ a.toNat < 0xe0 by omega,
      show ¬ a.toNat < 0xf0 by omega]
  rw [decodeUtf8From, hlength]
  simp [goodFollowers, hb, hc, hd]

end Sequences

theorem canFollow_of {a b : UInt8} (hb : 128 ≤ b.toNat ∧ b.toNat < 192)
    (h : (a.toNat = 0xe0 → 0xa0 ≤ b.toNat) ∧ (a.toNat = 0xed → b.toNat < 0xa0) ∧
      (a.toNat = 0xf0 → 0x90 ≤ b.toNat) ∧ (a.toNat = 0xf4 → b.toNat < 0x90)) : canFollow a b = true := by
  simp only [canFollow, isContinuation_iff.mpr hb, Bool.and_eq_true, Bool.or_eq_true, bne_iff_ne,
    decide_eq_true_eq, true_and]
  omega

/-- The byte of six bits that goes on a sequence. -/
theorem toNat_tail (n k : Nat) :
    (UInt8.ofNat (0x80 + n >>> (6 * k) % 64)).toNat = 0x80 + n / 2 ^ (6 * k) % 64 := by
  rw [toNat_ofNat_byte (by omega), Nat.shiftRight_eq_div_pow]

/-- The bytes of a character are read as it, whatever follows. -/
theorem decodeUtf8From_utf8Char (c : Char) (position : Nat) (read : List Char) (rest : Bytes) :
    ∃ next, decodeUtf8From position read (utf8Char c ++ rest) = decodeUtf8From next (c :: read) rest := by
  have hvalid : c.val.toNat < 0xd800 ∨ 0xdfff < c.val.toNat ∧ c.val.toNat < 0x110000 := c.valid
  have hcode : c.toNat = c.val.toNat := rfl
  have hlast := toNat_tail c.toNat 0
  have hthird := toNat_tail c.toNat 1
  have hsecond := toNat_tail c.toNat 2
  unfold utf8Char
  dsimp only
  generalize UInt8.ofNat (0x80 + c.toNat >>> (6 * 0) % 64) = last at *
  generalize UInt8.ofNat (0x80 + c.toNat >>> (6 * 1) % 64) = third at *
  generalize UInt8.ofNat (0x80 + c.toNat >>> (6 * 2) % 64) = second at *
  norm_num at hlast hthird hsecond
  split_ifs with hone htwo hthree
  · have ha : (UInt8.ofNat c.toNat).toNat = c.toNat := toNat_ofNat_byte (by omega)
    refine ⟨position + 1, ?_⟩
    rw [List.singleton_append, decodeUtf8From_one _ _ _ (by omega), ha, Char.ofNat_toNat]
  · have ha : (UInt8.ofNat (0xc0 + c.toNat / 64)).toNat = 0xc0 + c.toNat / 64 := toNat_ofNat_byte (by omega)
    generalize UInt8.ofNat (0xc0 + c.toNat / 64) = a at *
    have hn : codePointOf [a, last] = c.toNat := by
      rw [codePointOf, payload]
      omega
    refine ⟨position + 2, ?_⟩
    rw [List.cons_append, List.singleton_append, decodeUtf8From_two _ _ _ (by omega) (by omega)
      (canFollow_of (by omega) (by omega)), hn, charOf_toNat]
  · have ha : (UInt8.ofNat (0xe0 + c.toNat >>> 12)).toNat = 0xe0 + c.toNat / 4096 := by
      rw [Nat.shiftRight_eq_div_pow]
      exact toNat_ofNat_byte (by omega)
    generalize UInt8.ofNat (0xe0 + c.toNat >>> 12) = a at *
    have hn : codePointOf [a, third, last] = c.toNat := by
      rw [codePointOf, payload, payload]
      omega
    refine ⟨position + 3, ?_⟩
    rw [List.cons_append, List.cons_append, List.singleton_append,
      decodeUtf8From_three _ _ _ (by omega) (by omega) (canFollow_of (by omega) (by omega))
        (isContinuation_iff.mpr (by omega)), hn, charOf_toNat]
  · have ha : (UInt8.ofNat (0xf0 + c.toNat >>> 18)).toNat = 0xf0 + c.toNat / 262144 := by
      rw [Nat.shiftRight_eq_div_pow]
      exact toNat_ofNat_byte (by omega)
    generalize UInt8.ofNat (0xf0 + c.toNat >>> 18) = a at *
    have hn : codePointOf [a, second, third, last] = c.toNat := by
      rw [codePointOf, payload, payload, payload]
      omega
    refine ⟨position + 4, ?_⟩
    rw [List.cons_append, List.cons_append, List.cons_append, List.singleton_append,
      decodeUtf8From_four _ _ _ (by omega) (by omega) (canFollow_of (by omega) (by omega))
        (isContinuation_iff.mpr (by omega)) (isContinuation_iff.mpr (by omega)), hn, charOf_toNat]

theorem decodeUtf8_encodeUtf8 (cs : List Char) : decodeUtf8 (encodeUtf8 cs) = .ok cs := by
  have hread : ∀ (position : Nat) (read : List Char),
      decodeUtf8From position read (encodeUtf8 cs) = .ok (read.reverse ++ cs) := by
    induction cs with
    | nil =>
      intro position read
      rw [List.append_nil]
      rfl
    | cons c cs ih =>
      intro position read
      obtain ⟨next, hnext⟩ := decodeUtf8From_utf8Char c position read (encodeUtf8 cs)
      rw [encodeUtf8, List.flatMap_cons, ← encodeUtf8, hnext, ih, List.reverse_cons, List.append_assoc]
      rfl
  exact hread 0 []

/-- The bytes of a text are read as it, and no other bytes are. -/
theorem decodeUtf8_eq_ok_iff {bytes : Bytes} {cs : List Char} :
    decodeUtf8 bytes = .ok cs ↔ bytes = encodeUtf8 cs := by
  constructor
  · exact fun h => (encodeUtf8_of_decodeUtf8 h).symm
  · rintro rfl
    exact decodeUtf8_encodeUtf8 cs

/-! ## Bytes beyond ASCII -/

/-- A character beyond ASCII has no byte of ASCII in its sequence. -/
theorem utf8Char_high {c : Char} (h : 0x80 ≤ c.toNat) {b : UInt8} (hb : b ∈ utf8Char c) :
    0x80 ≤ b.toNat := by
  have hlt := toNat_lt c
  have htail : ∀ n : Nat, 0x80 ≤ (UInt8.ofNat (0x80 + n % 64)).toNat := by
    intro n
    rw [toNat_ofNat_byte (by omega)]
    omega
  have hlead : ∀ n : Nat, 0x80 ≤ n → n < 256 → 0x80 ≤ (UInt8.ofNat n).toNat := by
    intro n hn hn'
    rw [toNat_ofNat_byte hn']
    exact hn
  unfold utf8Char at hb
  dsimp only at hb
  rw [if_neg (by omega)] at hb
  split at hb
  · simp only [List.mem_cons, List.not_mem_nil, or_false] at hb
    rcases hb with rfl | rfl
    · exact hlead _ (by omega) (by omega)
    · exact htail _
  · split at hb
    · simp only [List.mem_cons, List.not_mem_nil, or_false] at hb
      rcases hb with rfl | rfl | rfl
      · rw [Nat.shiftRight_eq_div_pow]
        exact hlead _ (by omega) (by omega)
      · exact htail _
      · exact htail _
    · simp only [List.mem_cons, List.not_mem_nil, or_false] at hb
      rcases hb with rfl | rfl | rfl | rfl
      · rw [Nat.shiftRight_eq_div_pow]
        exact hlead _ (by omega) (by omega)
      · exact htail _
      · exact htail _
      · exact htail _

/-! ## Carriage returns -/

theorem ofNat_eq_return_iff {c : Char} (h : c.toNat < 256) : 13 = UInt8.ofNat c.toNat ↔ c = '\r' := by
  constructor
  · intro heq
    have hn : c.toNat = 13 := by
      rw [← toNat_ofNat_byte h, ← heq]
      rfl
    rw [← Char.ofNat_toNat c, hn]
  · rintro rfl
    rfl

theorem return_mem_utf8Char (c : Char) : 13 ∈ utf8Char c ↔ c = '\r' := by
  by_cases h : c.toNat < 0x80
  · have hone : utf8Char c = [UInt8.ofNat c.toNat] := by
      unfold utf8Char
      exact if_pos h
    rw [hone, List.mem_singleton, ofNat_eq_return_iff (by omega)]
  · constructor
    · intro hmem
      exact absurd (utf8Char_high (Nat.le_of_not_lt h) hmem) (by decide)
    · rintro rfl
      exact absurd (by decide) h

theorem return_mem_encodeUtf8 (cs : List Char) : 13 ∈ encodeUtf8 cs ↔ '\r' ∈ cs := by
  rw [encodeUtf8, List.mem_flatMap]
  constructor
  · rintro ⟨c, hc, hmem⟩
    exact (return_mem_utf8Char c).mp hmem ▸ hc
  · exact fun h => ⟨_, h, (return_mem_utf8Char _).mpr rfl⟩

theorem return_not_mem_unifyLineEnds (cs : List Char) : '\r' ∉ unifyLineEnds cs := by
  fun_induction unifyLineEnds cs with
  | case1 => exact List.not_mem_nil
  | case2 rest ih =>
    rw [List.mem_cons, not_or]
    exact ⟨by decide, ih⟩
  | case3 c rest hother ih =>
    rw [List.mem_cons, not_or]
    refine ⟨?_, ih⟩
    split
    · decide
    · rename_i hc
      exact Ne.symm hc

theorem mem_of_mem_unifyLineEnds {cs : List Char} {c : Char} (h : c ∈ unifyLineEnds cs) :
    c ∈ cs ∨ c = '\n' := by
  fun_induction unifyLineEnds cs with
  | case1 => cases h
  | case2 rest ih =>
    rcases List.mem_cons.mp h with rfl | h
    · exact .inr rfl
    · exact (ih h).imp_left fun h => List.mem_cons_of_mem _ (List.mem_cons_of_mem _ h)
  | case3 c' rest hother ih =>
    rcases List.mem_cons.mp h with rfl | h
    · split
      · exact .inr rfl
      · exact .inl List.mem_cons_self
    · exact (ih h).imp_left (List.mem_cons_of_mem _)

/-! ## All encodings -/

namespace Encoding

/-- The number of code points that an encoding has bytes for. -/
def limit : Encoding → Nat
  | utf8 | utf8Mark => 0x110000
  | latin1 => 256
  | ascii => 128

theorem flatMap_limitedChar {n : Nat} {cs : List Char} (h : ∀ c ∈ cs, c.toNat < n) :
    cs.flatMap (limitedChar n) = cs.map fun c => UInt8.ofNat c.toNat := by
  induction cs with
  | nil => rfl
  | cons c cs ih =>
    rw [List.flatMap_cons, ih fun c' hc' => h c' (List.mem_cons_of_mem _ hc'), limitedChar,
      if_pos (h c List.mem_cons_self)]
    rfl

theorem decodeAsciiFrom_eq_ok {position : Nat} {read cs : List Char} {bytes : Bytes}
    (h : decodeAsciiFrom position read bytes = .ok cs) :
    (∀ b ∈ bytes, b.toNat < 128) ∧
      cs = read.reverse ++ bytes.map fun b => Char.ofNat b.toNat := by
  induction bytes generalizing position read with
  | nil =>
    cases h
    exact ⟨nofun, (List.append_nil _).symm⟩
  | cons a rest ih =>
    rw [decodeAsciiFrom] at h
    split at h
    · rename_i ha
      obtain ⟨hrest, hcs⟩ := ih h
      refine ⟨?_, ?_⟩
      · intro b hb
        rcases List.mem_cons.mp hb with rfl | hb
        · exact ha
        · exact hrest b hb
      · rw [hcs, List.reverse_cons, List.append_assoc]
        rfl
    · cases h

theorem toNat_mem_latin {bytes : Bytes} {c : Char}
    (h : c ∈ bytes.map fun b => Char.ofNat b.toNat) : ∃ b ∈ bytes, c.toNat = b.toNat := by
  obtain ⟨b, hb, rfl⟩ := List.mem_map.mp h
  have hlt := b.toNat_lt
  exact ⟨b, hb, toNat_ofNat_char (by omega)⟩

theorem map_ofNat_latin (bytes : Bytes) :
    (bytes.map fun b => Char.ofNat b.toNat).map (fun c => UInt8.ofNat c.toNat) = bytes := by
  have hself : ∀ b : UInt8, UInt8.ofNat (Char.ofNat b.toNat).toNat = b := by
    intro b
    have hlt := b.toNat_lt
    exact ofNat_eq (toNat_ofNat_char (by omega)).symm
  rw [List.map_map]
  exact (List.map_congr_left fun b _ => hself b).trans (List.map_id bytes)

/-- What is decoded has bytes of its own in the encoding. -/
theorem limit_of_decode {e : Encoding} {bytes : Bytes} {cs : List Char}
    (h : e.decode bytes = .ok cs) : ∀ c ∈ cs, c.toNat < e.limit := by
  intro c hc
  cases e with
  | utf8 => exact toNat_lt c
  | utf8Mark => exact toNat_lt c
  | latin1 =>
    cases h
    obtain ⟨b, -, hb⟩ := toNat_mem_latin hc
    rw [hb]
    exact b.toNat_lt
  | ascii =>
    obtain ⟨hbytes, rfl⟩ := decodeAsciiFrom_eq_ok h
    obtain ⟨b, hmem, hb⟩ := toNat_mem_latin hc
    rw [hb]
    exact hbytes b hmem

/-- The bytes of a file in an encoding, with the mark that the encoding writes. -/
def marked : Encoding → Bytes → Bytes
  | utf8Mark, bytes => utf8MarkBytes ++ withoutMark bytes
  | _, bytes => bytes

/-- What is decoded is encoded as it was, but that there is a mark where the encoding writes one. -/
theorem encode_of_decode {e : Encoding} {bytes : Bytes} {cs : List Char}
    (h : e.decode bytes = .ok cs) : e.encode cs = e.marked bytes := by
  have hlimit := limit_of_decode h
  cases e with
  | utf8 => exact encodeUtf8_of_decodeUtf8 h
  | utf8Mark => exact congrArg (utf8MarkBytes ++ ·) (encodeUtf8_of_decodeUtf8 h)
  | latin1 =>
    rw [encode, flatMap_limitedChar (n := 256) hlimit]
    cases h
    exact map_ofNat_latin bytes
  | ascii =>
    rw [encode, flatMap_limitedChar (n := 128) hlimit]
    obtain ⟨-, rfl⟩ := decodeAsciiFrom_eq_ok h
    exact map_ofNat_latin bytes

theorem marked_eq_iff (e : Encoding) (bytes : Bytes) :
    e.marked bytes = bytes ↔ (e = .utf8Mark → utf8MarkBytes <+: bytes) := by
  cases e with
  | utf8Mark =>
    constructor
    · intro heq _
      exact ⟨_, heq⟩
    · intro h
      obtain ⟨rest, rfl⟩ := h rfl
      have hprefix : utf8MarkBytes.isPrefixOf (utf8MarkBytes ++ rest) = true :=
        List.isPrefixOf_iff_prefix.mpr (List.prefix_append _ _)
      rw [marked, withoutMark, if_pos hprefix]
      rfl
  | _ => exact ⟨fun _ => nofun, fun _ => rfl⟩

theorem return_mem_marked (e : Encoding) (bytes : Bytes) : 13 ∈ e.marked bytes ↔ 13 ∈ bytes := by
  cases e with
  | utf8Mark =>
    have hmark : (13 : UInt8) ∉ utf8MarkBytes := by decide
    rw [marked, List.mem_append, or_iff_right hmark, withoutMark]
    split
    · rename_i hprefix
      obtain ⟨rest, rfl⟩ := List.isPrefixOf_iff_prefix.mp hprefix
      rw [List.mem_append, or_iff_right hmark]
      exact Iff.rfl
    · exact Iff.rfl
  | _ => exact Iff.rfl

/-- A carriage return is the same byte in every encoding. -/
theorem return_mem_encode {e : Encoding} {cs : List Char} (h : ∀ c ∈ cs, c.toNat < e.limit) :
    13 ∈ e.encode cs ↔ '\r' ∈ cs := by
  have hlimited : ∀ n ≤ 256, (∀ c ∈ cs, c.toNat < n) →
      (13 ∈ cs.flatMap (limitedChar n) ↔ '\r' ∈ cs) := by
    intro n hn hcs
    rw [flatMap_limitedChar hcs, List.mem_map]
    constructor
    · rintro ⟨c, hc, heq⟩
      exact (ofNat_eq_return_iff (Nat.lt_of_lt_of_le (hcs c hc) hn)).mp heq.symm ▸ hc
    · exact fun hmem => ⟨_, hmem, rfl⟩
  cases e with
  | utf8 => exact return_mem_encodeUtf8 cs
  | utf8Mark =>
    have hmark : (13 : UInt8) ∉ utf8MarkBytes := by decide
    rw [encode, List.mem_append, or_iff_right hmark]
    exact return_mem_encodeUtf8 cs
  | latin1 => exact hlimited 256 (Nat.le_refl _) h
  | ascii => exact hlimited 128 (by decide) h

/-- Text whose ends of lines were unified is encoded as the bytes that it was decoded from just where these
have no carriage return, and begin with the mark if the encoding writes one. -/
theorem encode_unified_iff {e : Encoding} {bytes : Bytes} {cs : List Char}
    (h : e.decode bytes = .ok cs) :
    e.encode (unifyLineEnds cs) = bytes ↔
      13 ∉ bytes ∧ (e = .utf8Mark → utf8MarkBytes <+: bytes) := by
  have hlimit := limit_of_decode h
  have hunified : ∀ c ∈ unifyLineEnds cs, c.toNat < e.limit := by
    intro c hc
    rcases mem_of_mem_unifyLineEnds hc with hc | rfl
    · exact hlimit c hc
    · cases e <;> decide
  have hreturns : 13 ∈ bytes ↔ '\r' ∈ cs := by
    rw [← return_mem_marked e, ← encode_of_decode h, return_mem_encode hlimit]
  have hsame : '\r' ∉ cs → e.encode (unifyLineEnds cs) = e.marked bytes := by
    intro hnone
    rw [unifyLineEnds_of_not_mem cs hnone, encode_of_decode h]
  rw [← marked_eq_iff]
  constructor
  · intro heq
    have hnone : 13 ∉ bytes := by
      rw [← heq, return_mem_encode hunified]
      exact return_not_mem_unifyLineEnds cs
    exact ⟨hnone, (hsame (mt hreturns.mpr hnone)).symm.trans heq⟩
  · rintro ⟨hnone, hmarked⟩
    exact (hsame (mt hreturns.mpr hnone)).trans hmarked

end Encoding

end Localize.Text
