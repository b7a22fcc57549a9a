/-
  Strings between double quotes. A character is spelled in one of three ways: as itself, by a letter
  behind a backslash, or by its code (`spelled_stringChar`). What is written for a text stands in one
  line and is closed by its last quote only (`isQuoted_string`), and the JSON reader gets the text
  back from it, whatever follows (`readString_written`, `readValue_string`).
-/
import Localize.Json.Reader
import Localize.Json.Writer
import Localize.Proofs.Text.Encoding
import Mathlib.Algebra.Group.Nat.Defs
import Mathlib.Tactic.SplitIfs

namespace Localize

/-! ## Numbers in hexadecimal digits -/

namespace Text

theorem hexValue?_hexChar {d : Nat} (h : d < 16) : hexValue? (hexChar d) = some d := by
  have hall : ∀ d < 16, hexValue? (hexChar d) = some d := by decide
  exact hall d h

/-- Digits that are written for a number read as its last ones. -/
theorem hexNumber?_hexPadded (width n : Nat) :
    hexNumber? (hexPadded width n) = some (n % 16 ^ width) := by
  induction width generalizing n with
  | zero => simp [hexPadded, hexNumber?, Nat.mod_one]
  | succ width ih =>
    have hdigit := hexValue?_hexChar (Nat.mod_lt n (by decide : 16 > 0))
    have hfront : (hexPadded width (n / 16)).foldlM
        (fun n c => (hexValue? c).map (16 * n + ·)) 0 = some (n / 16 % 16 ^ width) := ih (n / 16)
    rw [hexPadded, hexNumber?, List.foldlM_append, hfront]
    simp [hdigit, Nat.pow_succ', Nat.mod_mul, Nat.add_comm]

theorem mem_hexPadded {width n : Nat} {c : Char} (h : c ∈ hexPadded width n) :
    ∃ d < 16, c = hexChar d := by
  induction width generalizing n with
  | zero => cases h
  | succ width ih =>
    rw [hexPadded, List.mem_append, List.mem_singleton] at h
    rcases h with h | rfl
    · exact ih h
    · exact ⟨n % 16, Nat.mod_lt n (by decide), rfl⟩

end Text

namespace Json

/-! ## Spellings of a character -/

/-- The letters that spell a character behind a backslash, with the character. -/
def letterEscapes : List (Char × Char) :=
  [('"', '"'), ('\\', '\\'), ('n', '\n'), ('r', '\r'), ('t', '\t'), ('f', Char.ofNat 12),
    ('b', Char.ofNat 8)]

/-- How a character is spelled between double quotes. -/
inductive Spelled (c : Char) : List Char → Prop
  | plain (notQuote : c ≠ '"') (notSlash : c ≠ '\\') (visible : 32 ≤ c.toNat) : Spelled c [c]
  | letter (e : Char) (known : (e, c) ∈ letterEscapes) : Spelled c ['\\', e]
  | code (control : c.toNat < 32) : Spelled c ('\\' :: 'u' :: Text.hexPadded 4 c.toNat)

theorem spelled_stringChar (c : Char) : Spelled c (stringChar c) := by
  have hofNat (n : Nat) (h : c.toNat = n) : c = Char.ofNat n := by rw [← h, Char.ofNat_toNat]
  unfold stringChar
  split_ifs with hquote hslash hline hreturn htab hfeed hback hcontrol
  · exact .letter '"' (by rw [hquote]; decide)
  · exact .letter '\\' (by rw [hslash]; decide)
  · exact .letter 'n' (by rw [hline]; decide)
  · exact .letter 'r' (by rw [hreturn]; decide)
  · exact .letter 't' (by rw [htab]; decide)
  · exact .letter 'f' (by rw [hofNat 12 hfeed]; decide)
  · exact .letter 'b' (by rw [hofNat 8 hback]; decide)
  · exact .code hcontrol
  · exact .plain hquote hslash (Nat.le_of_not_lt hcontrol)

/-- The digits of a code, of which only the last two can be other than zero. -/
theorem hexPadded_four (n : Nat) :
    Text.hexPadded 4 n = [Text.hexChar (n / 16 / 16 / 16 % 16), Text.hexChar (n / 16 / 16 % 16),
      Text.hexChar (n / 16 % 16), Text.hexChar (n % 16)] := rfl

/-! ## The form of a literal -/

/-- Whether every quote between the quotes of a literal, and every backslash, belongs to an escape. -/
def isClosed : List Char → Bool
  | [] => true
  | '\\' :: _ :: rest => isClosed rest
  | c :: rest => c ≠ '"' && c ≠ '\\' && isClosed rest

/-- A literal of double quotes in one line: it is closed by its last quote only, and it has no control
characters. -/
structure IsQuoted (text : List Char) : Prop where
  quotes : ∃ body, text = '"' :: body ++ ['"'] ∧ isClosed body
  visible : ∀ c ∈ text, 32 ≤ c.toNat

/-- An escape by a code is closed in itself. -/
theorem isClosed_code (mark : Char) (width n : Nat) {rest : List Char} (hrest : isClosed rest) :
    isClosed ('\\' :: mark :: Text.hexPadded width n ++ rest) := by
  have hdigits : ∀ digits : List Char, (∀ c ∈ digits, c ≠ '"' ∧ c ≠ '\\') →
      isClosed (digits ++ rest) := by
    intro digits hplain
    induction digits with
    | nil => exact hrest
    | cons c digits ih =>
      obtain ⟨⟨hquote, hslash⟩, hplain⟩ := List.forall_mem_cons.mp hplain
      simp [isClosed, hquote, hslash, ih hplain]
  show isClosed (Text.hexPadded width n ++ rest)
  refine hdigits _ fun c hc => ?_
  have hall : ∀ d < 16, Text.hexChar d ≠ '"' ∧ Text.hexChar d ≠ '\\' := by decide
  obtain ⟨d, hd, rfl⟩ := Text.mem_hexPadded hc
  exact hall d hd

theorem isClosed_spelled {c : Char} {cs : List Char} (h : Spelled c cs) {rest : List Char}
    (hrest : isClosed rest) : isClosed (cs ++ rest) := by
  cases h with
  | plain hquote hslash _ => simp [isClosed, hquote, hslash, hrest]
  | letter e _ => exact hrest
  | code _ => exact isClosed_code 'u' 4 c.toNat hrest

theorem visible_code {mark : Char} (hmark : 32 ≤ mark.toNat) (width n : Nat) :
    ∀ c ∈ '\\' :: mark :: Text.hexPadded width n, 32 ≤ c.toNat := by
  have hall : ∀ d < 16, 32 ≤ (Text.hexChar d).toNat := by decide
  refine List.forall_mem_cons.mpr ⟨by decide, List.forall_mem_cons.mpr ⟨hmark, fun c hc => ?_⟩⟩
  obtain ⟨d, hd, rfl⟩ := Text.mem_hexPadded hc
  exact hall d hd

theorem visible_spelled {c : Char} {cs : List Char} (h : Spelled c cs) : ∀ d ∈ cs, 32 ≤ d.toNat := by
  cases h with
  | plain _ _ hvisible => simpa using hvisible
  | letter e hknown =>
    have hall : ∀ p ∈ letterEscapes, 32 ≤ p.1.toNat := by decide
    intro d hd
    rcases List.mem_cons.mp hd with rfl | hd
    · decide
    · rw [List.mem_singleton.mp hd]
      exact hall _ hknown
  | code _ => exact visible_code (by decide) 4 c.toNat

theorem isClosed_written (cs : List Char) : isClosed (cs.flatMap stringChar) := by
  induction cs with
  | nil => rfl
  | cons c cs ih =>
    rw [List.flatMap_cons]
    exact isClosed_spelled (spelled_stringChar c) ih

/-- No control character is written. -/
theorem visible_written (cs : List Char) : ∀ d ∈ cs.flatMap stringChar, 32 ≤ d.toNat := by
  intro d hd
  obtain ⟨c, -, hd⟩ := List.mem_flatMap.mp hd
  exact visible_spelled (spelled_stringChar c) d hd

theorem not_mem_written {c : Char} (hc : c.toNat < 32) (cs : List Char) : c ∉ cs.flatMap stringChar :=
  fun h => absurd (visible_written cs c h) (Nat.not_le.mpr hc)

/-- What is written for a text is a literal of double quotes. -/
theorem isQuoted_string (text : String) : IsQuoted (string text).toList := by
  rw [string, String.toList_ofList]
  refine ⟨⟨text.toList.flatMap stringChar, rfl, isClosed_written _⟩, ?_⟩
  intro d hd
  rcases List.mem_append.mp hd with hd | hd
  · rcases List.mem_cons.mp hd with rfl | hd
    · decide
    · exact visible_written _ d hd
  · rw [List.mem_singleton.mp hd]
    decide

/-! ## Reading -/

/-- The reader takes one spelled character for what it is. -/
theorem readString_spelled {c : Char} {cs : List Char} (h : Spelled c cs) (start position : Nat)
    (read rest : List Char) (hrest : rest ≠ []) :
    ∃ next, readString start position none read (cs ++ rest) =
      readString start next none (c :: read) rest := by
  cases h with
  | plain hquote hslash hvisible =>
    refine ⟨position + 1, ?_⟩
    rw [List.singleton_append, readString.eq_7 _ _ _ _ _ _ hquote (fun _ _ _ _ _ h _ => hslash h)
      (fun _ h _ => hslash h) (fun h _ => hslash h) (fun _ _ h _ => hslash h),
      if_neg (Nat.not_lt.mpr hvisible)]
    rfl
  | letter e hknown =>
    have hall : ∀ p ∈ letterEscapes, p.1 ≠ 'u' ∧ letterEscape? p.1 = some p.2 := by decide
    obtain ⟨hletter, hescape⟩ := hall _ hknown
    refine ⟨position + 2, ?_⟩
    show readString start position none read ('\\' :: e :: rest) = _
    rw [readString.eq_6 _ _ _ _ _ _ (fun _ _ _ _ _ h _ => hletter h) hletter, hescape]
    rfl
  | code hcontrol =>
    have hhigh : isHighHalf c.toNat = false := by
      unfold isHighHalf
      rw [decide_eq_false_iff_not]
      omega
    have hnumber : Text.hexNumber? (Text.hexPadded 4 c.toNat) = some c.toNat := by
      rw [Text.hexNumber?_hexPadded, Nat.mod_eq_of_lt (by omega)]
    refine ⟨position + 6, ?_⟩
    rw [hexPadded_four] at hnumber ⊢
    simp [readString.eq_3, hrest, hnumber, hhigh, Text.charOf_toNat]

/-- The reader gets back what was written, up to the closing quote. -/
theorem readString_written (cs : List Char) (start position : Nat) (read rest : List Char) :
    ∃ next, readString start position none read (cs.flatMap stringChar ++ '"' :: rest) =
      .ok (read.reverse ++ cs, ⟨next, rest⟩) := by
  induction cs generalizing position read with
  | nil => exact ⟨position + 1, by rw [List.flatMap_nil, List.append_nil]; rfl⟩
  | cons c cs ih =>
    obtain ⟨next, hstep⟩ := readString_spelled (spelled_stringChar c) start position read
      (cs.flatMap stringChar ++ '"' :: rest) (by simp)
    obtain ⟨last, hlast⟩ := ih next (c :: read)
    refine ⟨last, ?_⟩
    rw [List.flatMap_cons, List.append_assoc, hstep, hlast, List.reverse_cons, List.append_assoc]
    rfl

theorem readValue_quote (fuel position : Nat) (rest : List Char) :
    readValue (fuel + 1) ⟨position, '"' :: rest⟩ =
      (readString position (position + 1) none [] rest).map fun (cs, next) =>
        (.text (String.ofList cs), next) := by
  show (readString position (position + 1) none [] rest >>= fun (cs, next) =>
    pure (Value.text (String.ofList cs), next)) = _
  rcases readString position (position + 1) none [] rest with f | r <;> rfl

theorem toList_string (text : String) :
    (string text).toList = '"' :: (text.toList.flatMap stringChar ++ ['"']) := by
  rw [string, String.toList_ofList]
  rfl

/-- A string is read as a value in front of anything. -/
theorem readValue_string (text : String) (fuel position : Nat) (rest : List Char) :
    ∃ next, readValue (fuel + 1) ⟨position, (string text).toList ++ rest⟩ =
      .ok (.text text, ⟨next, rest⟩) := by
  obtain ⟨next, hread⟩ := readString_written text.toList position (position + 1) [] rest
  refine ⟨next, ?_⟩
  rw [toList_string, List.cons_append, List.append_assoc, List.singleton_append, readValue_quote,
    hread]
  simp [Except.map]

end Json

end Localize
