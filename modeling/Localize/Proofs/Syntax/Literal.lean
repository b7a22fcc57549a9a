/-
  Source code that is one string literal between double quotes. What JSON writes for a text has
  escapes that source code reads alike (`unescape_written`), and the literal is one token, whatever
  stands behind it other than a quote (`scanLiteral_closed`). A source of nothing else has this token
  and the end (`lexAt_literal`).
-/
import Localize.Proofs.Json.Strings
import Localize.Proofs.Position.Offset
import Localize.Syntax.Literal
import Mathlib.Data.List.TakeDrop

namespace Localize.Syntax

open Json (Spelled isClosed stringChar letterEscapes)
open Text (hexPadded hexChar charOf)

/-! ## Escapes -/

/-- A digit of a code that is not its last one. -/
theorem unescapeFrom_hexChar {d : Nat} (hd : d < 16) (value left : Nat) (out rest : List Char) :
    unescapeFrom (.hex value (left + 2)) out (hexChar d :: rest) =
      unescapeFrom (.hex (16 * value + d) (left + 1)) out rest := by
  rw [unescapeFrom]
  simp [Text.hexValue?_hexChar hd]

/-- The last digit of a code. -/
theorem unescapeFrom_hexChar_last {d : Nat} (hd : d < 16) {value : Nat}
    (hvalue : 16 * value + d ≤ 0x10ffff) (out rest : List Char) :
    unescapeFrom (.hex value 1) out (hexChar d :: rest) =
      unescapeFrom .plain (charOf (16 * value + d) :: out) rest := by
  rw [unescapeFrom]
  simp [Text.hexValue?_hexChar hd, Nat.not_lt.mpr hvalue]

/-- Digits of a code, as long as more of them are needed behind. -/
theorem unescapeFrom_hexPadded (width n value left : Nat) (out rest : List Char) :
    unescapeFrom (.hex value (width + (left + 1))) out (hexPadded width n ++ rest) =
      unescapeFrom (.hex (16 ^ width * value + n % 16 ^ width) (left + 1)) out rest := by
  induction width generalizing n left rest with
  | zero => simp [hexPadded, Nat.mod_one]
  | succ width ih =>
    have hlast : n % 16 < 16 := Nat.mod_lt n (by decide)
    have hneeded : width + 1 + (left + 1) = width + (left + 1 + 1) := by omega
    have hvalue : 16 * (16 ^ width * value + n / 16 % 16 ^ width) + n % 16 =
        16 ^ (width + 1) * value + n % 16 ^ (width + 1) := by
      rw [Nat.pow_succ', Nat.mod_mul, Nat.mul_add, Nat.mul_assoc]
      omega
    rw [hexPadded, List.append_assoc, List.singleton_append, hneeded, ih (n / 16) (left + 1),
      unescapeFrom_hexChar hlast, hvalue]

/-- All digits of a code denote its character. -/
theorem unescapeFrom_code {width n : Nat} (hn : n < 16 ^ (width + 1)) (hmax : n ≤ 0x10ffff)
    (out rest : List Char) :
    unescapeFrom (.hex 0 (width + 1)) out (hexPadded (width + 1) n ++ rest) =
      unescapeFrom .plain (charOf n :: out) rest := by
  have hlast : n % 16 < 16 := Nat.mod_lt n (by decide)
  have hfront : n / 16 % 16 ^ width = n / 16 := by
    refine Nat.mod_eq_of_lt (Nat.div_lt_of_lt_mul ?_)
    rwa [← Nat.pow_succ']
  have hvalue : 16 * (16 ^ width * 0 + n / 16 % 16 ^ width) + n % 16 = n := by
    rw [hfront]
    omega
  rw [hexPadded, List.append_assoc, List.singleton_append, unescapeFrom_hexPadded,
    unescapeFrom_hexChar_last hlast (by rw [hvalue]; exact hmax), hvalue]

/-- Source code takes one spelled character for what it is. -/
theorem unescapeFrom_spelled {c : Char} {cs : List Char} (h : Spelled c cs) (out rest : List Char) :
    unescapeFrom .plain out (cs ++ rest) = unescapeFrom .plain (c :: out) rest := by
  cases h with
  | plain _ hslash _ =>
    rw [List.singleton_append, unescapeFrom]
    exact if_neg hslash
  | letter e hknown =>
    have hletters : ∀ p ∈ letterEscapes,
        unescapeFrom .plain out (['\\', p.1] ++ rest) = unescapeFrom .plain (p.2 :: out) rest := by
      simp only [letterEscapes, List.forall_mem_cons]
      exact ⟨rfl, rfl, rfl, rfl, rfl, rfl, rfl, nofun⟩
    exact hletters _ hknown
  | code hcontrol =>
    show unescapeFrom (.hex 0 4) out (hexPadded 4 c.toNat ++ rest) = _
    rw [unescapeFrom_code (by omega) (by omega), Text.charOf_toNat]

theorem unescapeFrom_written (cs out : List Char) :
    unescapeFrom .plain out (cs.flatMap stringChar) = some (out.reverse ++ cs) := by
  induction cs generalizing out with
  | nil => rw [List.flatMap_nil, List.append_nil]; rfl
  | cons c cs ih =>
    rw [List.flatMap_cons, unescapeFrom_spelled (Json.spelled_stringChar c), ih, List.reverse_cons,
      List.append_assoc]
    rfl

/-- The escapes of what is written for a text denote the text. -/
theorem unescape_written (cs : List Char) : unescape (cs.flatMap stringChar) = some cs :=
  unescapeFrom_written cs []

/-! ## The literal as a token -/

theorem Point.after_append (p : Point) (xs ys : List Char) :
    p.after (xs ++ ys) = (p.after xs).after ys := by
  unfold Point.after
  rw [byteSize_append, Nat.add_assoc]

/-- Reading up to the closing quote passes over a body whose quotes are all escaped. -/
theorem scanQuoted_closed {body : List Char} (hclosed : isClosed body) (hline : '\n' ∉ body)
    (p : Point) (taken rest : List Char) :
    scanQuoted '"' false 0 p taken (body ++ '"' :: rest) =
      .ok ('"' :: (body.reverse ++ taken), rest, p.after (body ++ ['"'])) := by
  fun_induction isClosed body generalizing p taken with
  | case1 => rfl
  | case2 c body ih =>
    have hc : c ≠ '\n' := fun h => hline (by simp [h])
    show scanQuoted '"' false 0 p taken ('\\' :: c :: (body ++ '"' :: rest)) = _
    rw [scanQuoted, if_neg hc, ih hclosed (fun h => hline (by simp [h])), ← Point.after_append]
    simp
  | case3 c body _ ih =>
    simp only [Bool.and_eq_true, decide_eq_true_eq] at hclosed
    obtain ⟨⟨hquote, hslash⟩, hbody⟩ := hclosed
    have hc : c ≠ '\n' := fun h => hline (by simp [h])
    rw [List.cons_append, scanQuoted.eq_3 _ _ _ _ _ _ _ (fun _ _ h _ => hslash h), if_neg hquote,
      if_neg hc, ih hbody (fun h => hline (by simp [h])), ← Point.after_append]
    simp

/-- A quote that no two others follow opens a literal that one quote closes. -/
theorem scanLiteral_quote {tail : List Char} (h : tail.take 2 ≠ ['"', '"']) (p : Point) :
    scanLiteral [] p ('"' :: tail) =
      match scanQuoted '"' false 0 ((p.after []).after ['"']) ['"'] tail with
      | .ok (taken, rest, p) => .ok (taken.reverse, rest, p)
      | .error line => .error (.unterminated line) := by
  rcases tail with _ | ⟨a, _ | ⟨b, tail⟩⟩
  · rfl
  · rfl
  · have htriple : ¬ (a = '"' ∧ b = '"') := by
      rintro ⟨rfl, rfl⟩
      exact h rfl
    rw [scanLiteral]
    simp only [Bool.and_eq_true, decide_eq_true_eq]
    rw [if_neg htriple]
    rfl

/-- A literal whose inner quotes are escaped does not begin like one of three quotes. -/
theorem take_two_ne {body : List Char} (hclosed : isClosed body) {rest : List Char}
    (hrest : rest.head? ≠ some '"') : (body ++ '"' :: rest).take 2 ≠ ['"', '"'] := by
  rcases body with _ | ⟨b, body⟩
  · rcases rest with _ | ⟨c, rest⟩
    · nofun
    · simpa using hrest
  · have hb : b ≠ '"' := by
      rintro rfl
      cases hclosed
    rw [List.cons_append, List.take_succ_cons]
    exact fun h => hb (List.cons.inj h).1

/-- A literal is read as a whole, where no quote follows that would open a longer one. -/
theorem scanLiteral_closed {body : List Char} (hclosed : isClosed body) (hline : '\n' ∉ body)
    (p : Point) (rest : List Char) (hrest : rest.head? ≠ some '"') :
    scanLiteral [] p ('"' :: (body ++ '"' :: rest)) =
      .ok ('"' :: (body ++ ['"']), rest, p.after ('"' :: (body ++ ['"']))) := by
  rw [scanLiteral_quote (take_two_ne hclosed hrest), scanQuoted_closed hclosed hline,
    ← Point.after_append, ← Point.after_append]
  simp

theorem literalPrefix?_quote (rest : List Char) :
    literalPrefix? ('"' :: rest) = some ([], '"' :: rest) := rfl

/-- The part between the quotes of a literal, where escapes mean something. -/
theorem quotation_of {body : List Char} (hclosed : isClosed body) (start : Point) :
    Quotation.of start ('"' :: (body ++ ['"'])) =
      ⟨false, false, false, body, start.after ['"']⟩ := by
  have hcut : cut (!isQuote ·) ('"' :: (body ++ ['"'])) = ([], '"' :: (body ++ ['"'])) := rfl
  unfold Quotation.of
  simp only [hcut]
  rcases body with _ | ⟨b, body⟩
  · rfl
  · have hb : '"' ≠ b := by
      rintro rfl
      cases hclosed
    rcases body with _ | ⟨c, body⟩ <;> simp [hb]

/-- What reading comes to behind a token in a line. -/
def readBehind (fuel : Nat) (s : Reading) : Except Fault Reading → Lexed
  | .error fault => s.stopAt fault.cause fault.point
  | .ok next => readFrom fuel false next

/-- A character that neither is a blank nor begins a comment or another line. -/
structure BeginsToken (c : Char) : Prop where
  inline : isInlineBlank c = false
  comment : c ≠ '#'
  feed : c ≠ '\n'
  slash : c ≠ '\\'

theorem readFrom_token {s : Reading} {c : Char} {tail : List Char} (hs : s.rest = c :: tail)
    (hc : BeginsToken c) (fuel : Nat) :
    readFrom (fuel + 1) false s = readBehind fuel s (readToken s c tail) := by
  have hcut : cut isInlineBlank (c :: tail) = ([], c :: tail) := by
    rw [cut, List.span_eq_takeWhile_dropWhile, List.takeWhile_cons_of_neg (by simp [hc.inline]),
      List.dropWhile_cons_of_neg (by simp [hc.inline])]
  obtain ⟨_, point, lineEnd, indents, brackets, joined, tokens⟩ := s
  subst hs
  unfold readFrom
  rw [hcut]
  dsimp only
  split
  · rename_i heq
    cases heq
  · rename_i heq
    exact absurd (List.cons.inj heq).1 hc.comment
  · rename_i heq
    exact absurd (List.cons.inj heq).1 hc.feed
  · rename_i heq
    exact absurd (List.cons.inj heq).1 hc.slash
  · rename_i heq
    exact absurd (List.cons.inj heq).1 hc.slash
  · rename_i heq
    obtain ⟨rfl, rfl⟩ := List.cons.inj heq
    rfl

/-- Reading adds the literal that comes next to the tokens. -/
theorem readFrom_literal {s : Reading} {text rest : List Char} {stop : Point} {tail : List Char}
    (hs : s.rest = '"' :: tail)
    (h : scanLiteral [] s.point ('"' :: tail) = .ok (text, rest, stop)) (fuel : Nat) :
    readFrom (fuel + 1) false s = readFrom fuel false (s.push (.quotation text) stop rest) := by
  have htoken : readToken s '"' tail = .ok (s.push (.quotation text) stop rest) := by
    rw [readToken, hs, literalPrefix?_quote]
    simp only [h]
  rw [readFrom_token hs ⟨rfl, by decide, by decide, by decide⟩, htoken]
  rfl

/-- A source that is one literal has one token before the end. -/
theorem lexAt_literal {body : List Char} (hclosed : isClosed body) (hline : '\n' ∉ body)
    (p : Point) :
    ∃ stop, (lexAt true p ('"' :: (body ++ ['"']))).tokens =
      [⟨.quotation ('"' :: (body ++ ['"'])), p, stop⟩, ⟨.finish, stop, stop⟩] := by
  have hscan := scanLiteral_closed hclosed hline p [] nofun
  obtain ⟨fuel, hfuel⟩ : ∃ fuel, 2 * ('"' :: (body ++ ['"'])).length + 2 = fuel + 3 :=
    ⟨2 * body.length + 3, by simp; omega⟩
  have hstart (s : Reading) (hs : s = ⟨'"' :: (body ++ ['"']), p, p, [(0, 0)], [], [], []⟩) :
      readFrom (fuel + 3) true s = readFrom (fuel + 2) false s := by
    rw [hs]
    rfl
  refine ⟨p.after ('"' :: (body ++ ['"'])), ?_⟩
  rw [lexAt, hfuel, hstart _ rfl, readFrom_literal rfl hscan]
  rfl

end Localize.Syntax
