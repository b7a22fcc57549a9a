/-
  Literals in an encoding that lacks some characters. Each of these is written as a backslash escape of its
  code point, in the width that the code point asks for (`codePointEscape_eq`). In a literal an escape like
  this stands for itself: a character is lacking only where it is spelled as itself, and the backslashes in
  front of it belong to whole escapes (`respelled_escaping`). So source code reads the same text from the
  literal, whichever characters are lacking, as long as ASCII is there, and it does so from the bytes that
  are written in ASCII and in Latin-1 (`parseExpression_escaped`).
-/
import Localize.Proofs.Fold.Literal
import Localize.Proofs.Text.Encoding

namespace Localize

open Json (Spelled isClosed stringChar letterEscapes)

/-! ## Escapes by code points -/

namespace Text

/-- The letters that begin an escape by a code, with the digits that they ask for. -/
def codeMarks : List (Char × Nat) := [('x', 2), ('u', 4), ('U', 8)]

/-- The code point of a character fits the width of its escape. -/
theorem codePointEscape_eq (c : Char) :
    ∃ mark width, (mark, width) ∈ codeMarks ∧ c.toNat < 16 ^ width ∧
      codePointEscape c = '\\' :: mark :: hexPadded width c.toNat := by
  have hmax := toNat_lt c
  unfold codePointEscape
  split_ifs with hbyte hword
  · exact ⟨'x', 2, by decide, by omega, rfl⟩
  · exact ⟨'u', 4, by decide, by omega, rfl⟩
  · exact ⟨'U', 8, by decide, by omega, rfl⟩

/-- A character as it is, or its escape if it is lacking. -/
def escapeUnless (keeps : Char → Bool) (c : Char) : List Char :=
  if keeps c then [c] else codePointEscape c

/-- A text with escapes for all characters that are lacking. -/
def escaping (keeps : Char → Bool) (cs : List Char) : List Char := cs.flatMap (escapeUnless keeps)

section Escaping

variable {keeps : Char → Bool}

theorem escaping_cons (c : Char) (cs : List Char) :
    escaping keeps (c :: cs) = escapeUnless keeps c ++ escaping keeps cs := List.flatMap_cons

theorem escaping_append (cs ds : List Char) :
    escaping keeps (cs ++ ds) = escaping keeps cs ++ escaping keeps ds := List.flatMap_append

/-- A text without lacking characters stays as it is. -/
theorem escaping_of_kept {cs : List Char} (h : ∀ c ∈ cs, keeps c) : escaping keeps cs = cs := by
  induction cs with
  | nil => rfl
  | cons c cs ih =>
    obtain ⟨hc, hcs⟩ := List.forall_mem_cons.mp h
    rw [escaping_cons, escapeUnless, if_pos hc, ih hcs, List.singleton_append]

end Escaping

end Text

/-! ## Escapes in a literal -/

/-- How a character stands in a literal that was written anew: as it is spelled, or by its code point. -/
inductive Respelled (c : Char) : List Char → Prop
  | spelled {cs : List Char} (h : Spelled c cs) : Respelled c cs
  | escaped : Respelled c (Text.codePointEscape c)

theorem isClosed_respelled {c : Char} {cs : List Char} (h : Respelled c cs) {rest : List Char}
    (hrest : isClosed rest) : isClosed (cs ++ rest) := by
  cases h with
  | spelled h => exact Json.isClosed_spelled h hrest
  | escaped =>
    obtain ⟨mark, width, -, -, hescape⟩ := Text.codePointEscape_eq c
    rw [hescape]
    exact Json.isClosed_code mark width c.toNat hrest

theorem visible_respelled {c : Char} {cs : List Char} (h : Respelled c cs) :
    ∀ d ∈ cs, 32 ≤ d.toNat := by
  cases h with
  | spelled h => exact Json.visible_spelled h
  | escaped =>
    have hmarks : ∀ p ∈ Text.codeMarks, 32 ≤ p.1.toNat := by decide
    obtain ⟨mark, width, hmark, -, hescape⟩ := Text.codePointEscape_eq c
    rw [hescape]
    exact Json.visible_code (hmarks _ hmark) width c.toNat

/-- Source code takes one respelled character for what it is. -/
theorem unescapeFrom_respelled {c : Char} {cs : List Char} (h : Respelled c cs)
    (out rest : List Char) :
    Syntax.unescapeFrom .plain out (cs ++ rest) = Syntax.unescapeFrom .plain (c :: out) rest := by
  cases h with
  | spelled h => exact Syntax.unescapeFrom_spelled h out rest
  | escaped =>
    have hmarks : ∀ p ∈ Text.codeMarks, ∃ width, p.2 = width + 1 ∧ ∀ digits,
        Syntax.unescapeFrom .plain out ('\\' :: p.1 :: digits) =
          Syntax.unescapeFrom (.hex 0 (width + 1)) out digits := by
      simp only [Text.codeMarks, List.forall_mem_cons]
      exact ⟨⟨1, rfl, fun _ => rfl⟩, ⟨3, rfl, fun _ => rfl⟩, ⟨7, rfl, fun _ => rfl⟩, nofun⟩
    obtain ⟨mark, _, hmark, hfits, hescape⟩ := Text.codePointEscape_eq c
    obtain ⟨width, rfl, hbegin⟩ := hmarks _ hmark
    have hmax := Text.toNat_lt c
    rw [hescape, List.cons_append, List.cons_append, hbegin,
      Syntax.unescapeFrom_code hfits (by omega), Text.charOf_toNat]

section Respelled

variable {spell : Char → List Char} (h : ∀ c, Respelled c (spell c))

include h

theorem isClosed_respelling (cs : List Char) : isClosed (cs.flatMap spell) := by
  induction cs with
  | nil => rfl
  | cons c cs ih =>
    rw [List.flatMap_cons]
    exact isClosed_respelled (h c) ih

theorem unescapeFrom_respelling (cs out : List Char) :
    Syntax.unescapeFrom .plain out (cs.flatMap spell) = some (out.reverse ++ cs) := by
  induction cs generalizing out with
  | nil => rw [List.flatMap_nil, List.append_nil]; rfl
  | cons c cs ih =>
    rw [List.flatMap_cons, unescapeFrom_respelled (h c), ih, List.reverse_cons, List.append_assoc]
    rfl

/-- Source code reads a text from every literal that respells it. -/
theorem parseExpression_respelling (cs : List Char) :
    Syntax.parseExpression ('"' :: (cs.flatMap spell ++ ['"'])) = .ok (.text (String.ofList cs)) := by
  have hcontrol (d : Char) (hd : d.toNat < 32) : d ∉ cs.flatMap spell := by
    intro hmem
    obtain ⟨c, -, hc⟩ := List.mem_flatMap.mp hmem
    exact absurd (visible_respelled (h c) d hc) (Nat.not_le.mpr hd)
  exact Syntax.parseExpression_literal (isClosed_respelling h cs) (hcontrol '\n' (by decide))
    (hcontrol '\r' (by decide)) (unescapeFrom_respelling h cs [])

end Respelled

/-- Only a character that is spelled as itself can be lacking: all other spellings are ASCII. -/
theorem respelled_escaping {keeps : Char → Bool} (hascii : ∀ c : Char, c.toNat < 128 → keeps c)
    (c : Char) : Respelled c (Text.escaping keeps (stringChar c)) := by
  have hspelled := Json.spelled_stringChar c
  generalize stringChar c = cs at hspelled
  have hkept : (∀ d ∈ cs, d.toNat < 128) → Respelled c (Text.escaping keeps cs) := by
    intro hlow
    rw [Text.escaping_of_kept fun d hd => hascii d (hlow d hd)]
    exact .spelled hspelled
  cases hspelled with
  | plain hquote hslash hvisible =>
    rw [Text.escaping_cons, Text.escapeUnless]
    split_ifs with hc
    · exact .spelled (.plain hquote hslash hvisible)
    · rw [show Text.escaping keeps [] = [] from rfl, List.append_nil]
      exact .escaped
  | letter e hknown =>
    have hletters : letterEscapes.all (fun p => p.1.toNat < 128) = true := by decide
    have hletter := of_decide_eq_true (List.all_eq_true.mp hletters _ hknown)
    exact hkept (List.forall_mem_cons.mpr ⟨by decide, List.forall_mem_cons.mpr ⟨hletter, nofun⟩⟩)
  | code _ =>
    have hdigits : ∀ d < 16, (Text.hexChar d).toNat < 128 := by decide
    refine hkept (List.forall_mem_cons.mpr ⟨by decide, List.forall_mem_cons.mpr ⟨by decide, ?_⟩⟩)
    intro d hd
    obtain ⟨n, hn, rfl⟩ := Text.mem_hexPadded hd
    exact hdigits n hn

/-- Source code reads a text from its literal, whichever characters above ASCII are escaped. -/
theorem parseExpression_escaping {keeps : Char → Bool}
    (hascii : ∀ c : Char, c.toNat < 128 → keeps c) (s : String) :
    Syntax.parseExpression (Text.escaping keeps (Json.string s).toList) = .ok (.text s) := by
  have hquote : Text.escapeUnless keeps '"' = ['"'] := if_pos (hascii '"' (by decide))
  have hclose : Text.escaping keeps ['"'] = ['"'] := by
    rw [Text.escaping_cons, hquote]
    rfl
  have hbody : Text.escaping keeps (s.toList.flatMap stringChar) =
      s.toList.flatMap fun c => Text.escaping keeps (stringChar c) := List.flatMap_assoc
  rw [Json.toList_string, Text.escaping_cons, Text.escaping_append, hquote, hclose, hbody,
    List.singleton_append, parseExpression_respelling (respelled_escaping hascii),
    String.ofList_toList]

/-! ## Literals in bytes -/

namespace Text.Encoding

/-- Encodings that have bytes for their first code points only. -/
def IsLimited (e : Encoding) : Prop := e = .latin1 ∨ e = .ascii

theorem encode_limited {n : Nat} (cs : List Char) :
    cs.flatMap (limitedChar n) =
      (escaping (fun c => c.toNat < n) cs).map fun c => UInt8.ofNat c.toNat := by
  unfold escaping
  rw [List.map_flatMap]
  refine List.flatMap_congr fun c _ => ?_
  unfold limitedChar escapeUnless
  simp only [decide_eq_true_eq]
  split <;> rfl

/-- What stands for lacking characters is ASCII. -/
theorem lt_of_mem_escaping {n : Nat} (hn : 128 ≤ n) {cs : List Char} {d : Char}
    (h : d ∈ escaping (fun c => c.toNat < n) cs) : d.toNat < n := by
  obtain ⟨c, -, hd⟩ := List.mem_flatMap.mp h
  unfold escapeUnless at hd
  split_ifs at hd with hc
  · rw [List.mem_singleton.mp hd]
    exact of_decide_eq_true hc
  · obtain ⟨mark, width, hmark, -, hescape⟩ := codePointEscape_eq c
    have hmarks : ∀ p ∈ codeMarks, p.1.toNat < 128 := by decide
    have hdigits : ∀ d < 16, (hexChar d).toNat < 128 := by decide
    rw [hescape, List.mem_cons, List.mem_cons] at hd
    refine Nat.lt_of_lt_of_le ?_ hn
    rcases hd with rfl | rfl | hd
    · decide
    · exact hmarks _ hmark
    · obtain ⟨k, hk, rfl⟩ := mem_hexPadded hd
      exact hdigits k hk

theorem decodeAsciiFrom_of_lt {cs : List Char} (h : ∀ c ∈ cs, c.toNat < 128) (position : Nat)
    (read : List Char) :
    decodeAsciiFrom position read (cs.map fun c => UInt8.ofNat c.toNat) = .ok (read.reverse ++ cs) := by
  induction cs generalizing position read with
  | nil =>
    rw [List.append_nil]
    rfl
  | cons c cs ih =>
    obtain ⟨hc, hcs⟩ := List.forall_mem_cons.mp h
    have hbyte : (UInt8.ofNat c.toNat).toNat = c.toNat := toNat_ofNat_byte (by omega)
    rw [List.map_cons, decodeAsciiFrom, hbyte, if_pos hc, Char.ofNat_toNat, ih hcs, List.reverse_cons,
      List.append_assoc]
    rfl

/-- What was encoded is decoded with escapes for the characters that the encoding lacks. -/
theorem decode_encode {e : Encoding} (he : e.IsLimited) (cs : List Char) :
    e.decode (e.encode cs) = .ok (escaping (fun c => c.toNat < e.limit) cs) := by
  rcases he with rfl | rfl
  · have hself : ∀ c ∈ escaping (fun c => c.toNat < 256) cs,
        Char.ofNat (UInt8.ofNat c.toNat).toNat = c := by
      intro c hc
      rw [toNat_ofNat_byte (lt_of_mem_escaping (by decide) hc), Char.ofNat_toNat]
    show Except.ok ((cs.flatMap (limitedChar 256)).map _) = _
    rw [encode_limited, List.map_map]
    exact congrArg Except.ok ((List.map_congr_left hself).trans (List.map_id _))
  · show decodeAsciiFrom 0 [] (cs.flatMap (limitedChar 128)) = _
    rw [encode_limited,
      decodeAsciiFrom_of_lt fun c hc => lt_of_mem_escaping (Nat.le_refl 128) hc]
    rfl

end Text.Encoding

open Text (Encoding escaping)

/-- Source code reads a text from its literal, also where this is written with escapes for the characters
that are lacking, as long as none of them is ASCII. So it does from the bytes of the literal in ASCII and
in Latin-1. -/
theorem parseExpression_escaped (s : String) :
    (∀ keeps : Char → Bool, (∀ c : Char, c.toNat < 128 → keeps c) →
      Syntax.parseExpression (escaping keeps (literal (.text s)).toList) = .ok (.text s)) ∧
    ∀ e : Encoding, e.IsLimited →
      ∃ cs, e.decode (e.encode (literal (.text s)).toList) = .ok cs ∧
        Syntax.parseExpression cs = .ok (.text s) := by
  refine ⟨fun keeps hascii => parseExpression_escaping hascii s, fun e he => ?_⟩
  have hascii : ∀ c : Char, c.toNat < 128 → decide (c.toNat < e.limit) = true := by
    intro c hc
    have hlimit : 128 ≤ e.limit := by rcases he with rfl | rfl <;> decide
    exact decide_eq_true (Nat.lt_of_lt_of_le hc hlimit)
  exact ⟨_, Encoding.decode_encode he _, parseExpression_escaping hascii s⟩

/-- A backslash in front of a lacking character, a quote, and characters of all three widths. -/
theorem parseExpression_escaped_mixed :
    ((∀ c : Char, c.toNat < 128 → decide (c.toNat < 0x10000) = true) ∧ Encoding.ascii.IsLimited) ∧
    Syntax.parseExpression
        (escaping (fun c => c.toNat < 0x10000) (literal (.text "\\é\"€\n😀")).toList) =
      .ok (.text "\\é\"€\n😀") ∧
    ∃ cs, Encoding.ascii.decode (Encoding.ascii.encode (literal (.text "\\é\"€\n😀")).toList) = .ok cs ∧
      Syntax.parseExpression cs = .ok (.text "\\é\"€\n😀") := by
  have hascii : ∀ c : Char, c.toNat < 128 → decide (c.toNat < 0x10000) = true :=
    fun c hc => decide_eq_true (Nat.lt_of_lt_of_le hc (by decide))
  have hread := parseExpression_escaped "\\é\"€\n😀"
  exact ⟨⟨hascii, .inr rfl⟩, hread.1 _ hascii, hread.2 .ascii (.inr rfl)⟩

example : escaping (fun c => c.toNat < 128) (literal (.text "\\é\"€\n😀")).toList =
    "\"\\\\\\xe9\\\"\\u20ac\\n\\U0001f600\"".toList := by
  decide +kernel

end Localize
