/-
  Identifiers as tokens. A name that the configuration accepts is read as one word, as it is written,
  wherever a character follows that no word goes on with (`readFrom_name`).
-/
import Localize.Config
import Localize.Proofs.Syntax.Literal

namespace Localize.Syntax

open Text

/-! ## Characters of words -/

theorem startsWord_of_identifierStart {c : Char} (h : isIdentifierStart c = true) :
    startsWord c = true := by
  unfold isIdentifierStart at h
  unfold startsWord
  split at h
  · rw [h, Bool.true_or]
  · rename_i hwide
    rw [decide_eq_true (Nat.le_of_not_lt hwide), Bool.or_true]

theorem continuesWord_of_identifierPart {c : Char} (h : isIdentifierPart c = true) :
    continuesWord c = true := by
  unfold isIdentifierPart at h
  unfold continuesWord
  split at h
  · rw [h, Bool.true_or]
  · rename_i hwide
    rw [decide_eq_true (Nat.le_of_not_lt hwide), Bool.or_true]

theorem continuesWord_of_startsWord {c : Char} (h : startsWord c = true) : continuesWord c = true := by
  unfold startsWord at h
  unfold continuesWord Char.isAlphanum
  simp only [Bool.or_eq_true] at h ⊢
  exact h.imp_left (Or.imp_left .inl)

/-- Where a word goes on there is no character that no word goes on with. -/
theorem ne_of_continuesWord {c d : Char} (hc : continuesWord c = true) (hd : continuesWord d = false) :
    c ≠ d := by
  rintro rfl
  rw [hd] at hc
  cases hc

theorem beginsToken_of_startsWord {c : Char} (h : startsWord c = true) : BeginsToken c := by
  have hc := continuesWord_of_startsWord h
  refine ⟨?_, ne_of_continuesWord hc (by decide), ne_of_continuesWord hc (by decide),
    ne_of_continuesWord hc (by decide)⟩
  have hspace : c ≠ ' ' := ne_of_continuesWord hc (by decide)
  have htab : c ≠ '\t' := ne_of_continuesWord hc (by decide)
  have hform : c ≠ '\x0c' := ne_of_continuesWord hc (by decide)
  simp [isInlineBlank, hspace, htab, hform]

theorem isQuote_of_continuesWord {c : Char} (h : continuesWord c = true) : isQuote c = false := by
  have hsingle : c ≠ '\'' := ne_of_continuesWord h (by decide)
  have hdouble : c ≠ '"' := ne_of_continuesWord h (by decide)
  simp [isQuote, hsingle, hdouble]

/-! ## Words -/

section Identifier

variable {word : List Char} (h : isIdentifier word = true)

include h

theorem exists_cons_of_isIdentifier : ∃ c rest, word = c :: rest ∧ isIdentifierStart c = true ∧
    ∀ d ∈ rest, isIdentifierPart d = true := by
  rcases word with _ | ⟨c, rest⟩
  · cases h
  · rw [isIdentifier, Bool.and_eq_true, List.all_eq_true] at h
    exact ⟨c, rest, rfl, h⟩

theorem continuesWord_of_isIdentifier : ∀ c ∈ word, continuesWord c = true := by
  obtain ⟨c, rest, rfl, hstart, hrest⟩ := exists_cons_of_isIdentifier h
  exact List.forall_mem_cons.mpr ⟨continuesWord_of_startsWord (startsWord_of_identifierStart hstart),
    fun d hd => continuesWord_of_identifierPart (hrest d hd)⟩

theorem not_mem_of_isIdentifier {c : Char} (hc : continuesWord c = false) : c ∉ word :=
  fun hmem => ne_of_continuesWord (continuesWord_of_isIdentifier h c hmem) hc rfl

theorem badCharacter?_of_isIdentifier : badCharacter? word = none := by
  obtain ⟨c, rest, rfl, hstart, hrest⟩ := exists_cons_of_isIdentifier h
  rw [badCharacter?, if_pos hstart, List.find?_eq_none]
  intro d hd
  rw [hrest d hd]
  decide

/-- An identifier ends where a character follows that no word goes on with. -/
theorem cut_of_isIdentifier {c : Char} (hc : continuesWord c = false) (tail : List Char) :
    cut continuesWord (word ++ c :: tail) = (word, c :: tail) := by
  have hword := continuesWord_of_isIdentifier h
  rw [cut, List.span_eq_takeWhile_dropWhile, List.takeWhile_append_of_pos hword,
    List.dropWhile_append_of_pos hword, List.takeWhile_cons_of_neg (by simp [hc]),
    List.dropWhile_cons_of_neg (by simp [hc]), List.append_nil]

end Identifier

/-- A parenthesis is in no prefix of a string. -/
theorem isLiteralPrefix_parenthesis (letters : List Char) : isLiteralPrefix (letters ++ ['(']) = false := by
  have hprefixes : ∀ p ∈ literalPrefixes, '(' ∉ p.toList := by decide
  unfold isLiteralPrefix
  rw [Bool.eq_false_iff]
  intro hmem
  refine hprefixes _ (List.contains_iff_mem.mp hmem) ?_
  rw [String.toList_ofList, List.map_append]
  exact List.mem_append_right _ List.mem_cons_self

/-- What begins with a name and a parenthesis is no string. -/
theorem literalPrefix?_name {word : List Char} (h : isIdentifier word = true) (tail : List Char) :
    literalPrefix? (word ++ '(' :: tail) = none := by
  have hquotes := fun c hc => isQuote_of_continuesWord (continuesWord_of_isIdentifier h c hc)
  have hopen : isQuote '(' = false := by decide
  match word, hquotes with
  | [], _ => cases h
  | [a], hquotes =>
    have ha := hquotes a List.mem_cons_self
    have hprefix : isLiteralPrefix [a, '('] = false := isLiteralPrefix_parenthesis [a]
    rcases tail with _ | ⟨r, tail⟩ <;> simp [literalPrefix?, ha, hopen, hprefix]
  | [a, b], hquotes =>
    have ha := hquotes a (by simp)
    have hb := hquotes b (by simp)
    simp [literalPrefix?, ha, hb, hopen]
  | a :: b :: c :: rest, hquotes =>
    have ha := hquotes a (by simp)
    have hb := hquotes b (by simp)
    have hc := hquotes c (by simp)
    simp [literalPrefix?, ha, hb, hc]

/-- Reading adds the name that comes next to the tokens, as it is written. -/
theorem readFrom_name {s : Reading} {word tail : List Char} (h : isIdentifier word = true)
    (hs : s.rest = word ++ '(' :: tail) (fuel : Nat) :
    readFrom (fuel + 1) false s =
      readFrom fuel false (s.push (.word (String.ofList word)) (s.point.after word) ('(' :: tail)) := by
  have hnone : literalPrefix? s.rest = none := hs ▸ literalPrefix?_name h tail
  have hcut : cut continuesWord s.rest = (word, '(' :: tail) := hs ▸ cut_of_isIdentifier h (by decide) tail
  have hword : readWord s =
      .ok (s.push (.word (String.ofList word)) (s.point.after word) ('(' :: tail)) := by
    unfold readWord
    rw [hcut]
    dsimp only
    rw [badCharacter?_of_isIdentifier h, ite_self]
  obtain ⟨c, rest, rfl, hstart, -⟩ := exists_cons_of_isIdentifier h
  have hc := startsWord_of_identifierStart hstart
  rw [readFrom_token hs (beginsToken_of_startsWord hc), readToken, hnone]
  dsimp only
  rw [if_pos hc, hword]
  rfl

end Localize.Syntax
