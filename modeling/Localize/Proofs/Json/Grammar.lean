/-
  The grammar of JSON. `Denotes limit` relates a text to the value that it stands for: the three words and
  the three for numbers that are not finite, numbers, strings with their escapes, lists and maps. `limit` is
  the most digits that an integer may have. The leaves come first, blanks, strings and numbers, each with
  its part of the reader: what the reader takes from the front of a text is what the grammar says
  (`stringBody_of_readString`, `numberRead_readNumber`), and it takes all that the grammar allows
  (`readString_of_spells`, `readNumber_of_number`).
-/
import Localize.Proofs.Json.Values

namespace Localize.Json

open Text (Cursor charOf hexNumber?)

/-- A text splits behind the characters at its front that satisfy a test. -/
theorem exists_split (test : Char → Bool) (cs : List Char) :
    ∃ front rest, cs = front ++ rest ∧ (∀ c ∈ front, test c = true) ∧
      ∀ c ∈ rest.head?, test c = false := by
  induction cs with
  | nil => exact ⟨[], [], rfl, nofun, nofun⟩
  | cons c cs ih =>
    by_cases hc : test c = true
    · obtain ⟨front, rest, rfl, hfront, hrest⟩ := ih
      exact ⟨c :: front, rest, rfl, List.forall_mem_cons.mpr ⟨hc, hfront⟩, hrest⟩
    · exact ⟨[], c :: cs, rfl, nofun, by simpa using hc⟩

/-! ## Blanks -/

def IsBlanks (cs : List Char) : Prop := ∀ c ∈ cs, isBlank c = true

theorem isBlanks_nil : IsBlanks [] := nofun

theorem skipBlanks_append {gap rest : List Char} (hgap : IsBlanks gap)
    (hrest : ∀ c ∈ rest.head?, isBlank c = false) (position : Nat) :
    skipBlanks ⟨position, gap ++ rest⟩ = ⟨position + gap.length, rest⟩ := by
  have hnone : rest.takeWhile isBlank = [] := by
    rcases rest with _ | ⟨c, rest⟩
    · rfl
    · simp [hrest c rfl]
  simp [skipBlanks, Cursor.skipWhile, Cursor.takeWhile, Cursor.skip,
    List.takeWhile_append_of_pos hgap, hnone]

/-- What is stepped over are the blanks at the front. -/
theorem skipBlanks_split (s : Cursor) :
    ∃ gap, IsBlanks gap ∧ s.rest = gap ++ (skipBlanks s).rest := by
  obtain ⟨position, cs⟩ := s
  obtain ⟨gap, rest, rfl, hgap, hrest⟩ := exists_split isBlank cs
  exact ⟨gap, hgap, by rw [skipBlanks_append hgap hrest]⟩

/-! ## Strings -/

/-- A piece of a string: a character, or the code in an escape. -/
inductive Piece where
  | char (c : Char)
  | code (n : Nat)

/-- Pieces spelled between double quotes. A character stands for itself or is given by a letter behind a
backslash, and a code by four digits. -/
inductive Spells : List Char → List Piece → Prop
  | nil : Spells [] []
  | plain {c : Char} {cs : List Char} {pieces : List Piece} (notQuote : c ≠ '"') (notSlash : c ≠ '\\')
      (visible : 32 ≤ c.toNat) (h : Spells cs pieces) : Spells (c :: cs) (.char c :: pieces)
  | letter {e c : Char} {cs : List Char} {pieces : List Piece} (known : letterEscape? e = some c)
      (h : Spells cs pieces) : Spells ('\\' :: e :: cs) (.char c :: pieces)
  | code {a b c d : Char} {n : Nat} {cs : List Char} {pieces : List Piece}
      (known : hexNumber? [a, b, c, d] = some n) (h : Spells cs pieces) :
      Spells ('\\' :: 'u' :: a :: b :: c :: d :: cs) (.code n :: pieces)

namespace Piece

/-- The characters of pieces. The codes of two halves of a character make it where they stand together, and
each other code is for itself. -/
def chars : List Piece → List Char
  | [] => []
  | char c :: rest => c :: chars rest
  | code high :: code low :: rest =>
    if isHighHalf high && isLowHalf low then ofHalves high low :: chars rest
    else charOf high :: chars (code low :: rest)
  | code n :: rest => charOf n :: chars rest

/-- What the reader does with a piece: the half that it leaves behind, and the characters read, reversed. -/
def take (half : Option Nat) (read : List Char) : Piece → Option Nat × List Char
  | char c => (none, c :: withHalf half read)
  | code n =>
    match half with
    | some high =>
      if isLowHalf n then (none, ofHalves high n :: read)
      else if isHighHalf n then (some n, charOf high :: read)
      else (none, charOf n :: charOf high :: read)
    | none => if isHighHalf n then (some n, read) else (none, charOf n :: read)

/-- The characters read and what is to come, with the half between them. -/
def total (half : Option Nat) (read : List Char) (pieces : List Piece) : List Char :=
  read.reverse ++ chars (half.toList.map code ++ pieces)

theorem chars_code_of_not_high {n : Nat} (h : isHighHalf n = false) (pieces : List Piece) :
    chars (code n :: pieces) = charOf n :: chars pieces := by
  rcases pieces with _ | ⟨c | low, pieces⟩
  · rfl
  · rfl
  · simp [chars, h]

/-- A half that is kept is a first one. -/
def Pending (half : Option Nat) : Prop := ∀ n ∈ half, isHighHalf n = true

theorem pending_none : Pending none := nofun

theorem pending_take {half : Option Nat} (h : Pending half) (read : List Char) (p : Piece) :
    Pending (p.take half read).1 := by
  intro n hn
  rcases p with c | m
  · cases hn
  · rcases half with _ | high <;> simp only [take] at hn <;> split at hn
    · cases hn
      assumption
    · cases hn
    · cases hn
    · split at hn
      · cases hn
        assumption
      · cases hn

/-- Taking a piece changes nothing about the characters in all. -/
theorem total_take {half : Option Nat} (h : Pending half) (read : List Char) (p : Piece)
    (pieces : List Piece) :
    total (p.take half read).1 (p.take half read).2 pieces = total half read (p :: pieces) := by
  rcases p with c | n
  · rcases half with _ | high
    · simp [total, take, withHalf, chars]
    · simp [total, take, withHalf, chars]
  · rcases half with _ | high
    · by_cases hn : isHighHalf n = true
      · simp [total, take, hn]
      · rw [Bool.not_eq_true] at hn
        simp [total, take, hn, chars_code_of_not_high hn]
    · have hhigh : isHighHalf high = true := h high rfl
      by_cases hlow : isLowHalf n = true
      · simp [total, take, hlow, hhigh, chars]
      · by_cases hn : isHighHalf n = true
        · simp [total, take, hlow, hn, chars]
        · rw [Bool.not_eq_true] at hn
          simp [total, take, hlow, hn, chars, chars_code_of_not_high hn]

end Piece

/-- The reader takes the spelled pieces up to the quote behind them. -/
theorem readString_of_spells {body : List Char} {pieces : List Piece} (h : Spells body pieces)
    (start position : Nat) {half : Option Nat} (hhalf : Piece.Pending half) (read rest : List Char) :
    ∃ next, readString start position half read (body ++ '"' :: rest) =
      .ok (Piece.total half read pieces, ⟨next, rest⟩) := by
  induction h generalizing position half read with
  | nil =>
    refine ⟨position + 1, ?_⟩
    rcases half with _ | high <;> simp [readString, Piece.total, Piece.chars, withHalf]
  | @plain c cs pieces hquote hslash hvisible _ ih =>
    obtain ⟨next, hnext⟩ := ih (position + 1) (Piece.pending_take hhalf read (.char c)) _
    refine ⟨next, ?_⟩
    rw [List.cons_append, readString.eq_7 _ _ _ _ _ _ hquote (fun _ _ _ _ _ h _ => hslash h)
      (fun _ h _ => hslash h) (fun h _ => hslash h) (fun _ _ h _ => hslash h),
      if_neg (Nat.not_lt.mpr hvisible), ← Piece.total_take hhalf]
    exact hnext
  | @letter e c cs pieces hknown _ ih =>
    have hletter : e ≠ 'u' := by
      rintro rfl
      cases hknown
    obtain ⟨next, hnext⟩ := ih (position + 2) (Piece.pending_take hhalf read (.char c)) _
    refine ⟨next, ?_⟩
    rw [List.cons_append, List.cons_append,
      readString.eq_6 _ _ _ _ _ _ (fun _ _ _ _ _ h _ => hletter h) hletter, hknown,
      ← Piece.total_take hhalf]
    exact hnext
  | @code a b c d n cs pieces hknown _ ih =>
    obtain ⟨next, hnext⟩ := ih (position + 6) (Piece.pending_take hhalf read (.code n)) _
    refine ⟨next, ?_⟩
    have hrest : (cs ++ '"' :: rest).isEmpty = false := by simp
    rw [← Piece.total_take hhalf, ← hnext]
    show readString start position half read ('\\' :: 'u' :: a :: b :: c :: d :: (cs ++ '"' :: rest)) = _
    rw [readString.eq_3, hrest, if_neg (by decide), hknown]
    rcases half with _ | high
    · simp only [Piece.take]
      split <;> rfl
    · simp only [Piece.take]
      split
      · rfl
      · split <;> rfl

/-- A text begins with the rest of a string: pieces up to a quote, which make its characters together with
those read before. -/
def StringBody (half : Option Nat) (read cs rest text : List Char) : Prop :=
  ∃ body pieces, Spells body pieces ∧ cs = body ++ '"' :: rest ∧ text = Piece.total half read pieces

section StringBody

variable {half half' : Option Nat} {read read' cs rest text : List Char}

theorem StringBody.cons (front : List Char) (p : Piece) (hhalf : Piece.Pending half)
    (hspell : ∀ {body pieces}, Spells body pieces → Spells (front ++ body) (p :: pieces))
    (h : StringBody (p.take half read).1 (p.take half read).2 cs rest text) :
    StringBody half read (front ++ cs) rest text := by
  obtain ⟨body, pieces, hbody, rfl, rfl⟩ := h
  exact ⟨front ++ body, p :: pieces, hspell hbody, by rw [List.append_assoc],
    Piece.total_take hhalf read p pieces⟩

theorem StringBody.code {a b c d : Char} {n : Nat} (hhalf : Piece.Pending half)
    (hnumber : (if cs.isEmpty then none else hexNumber? [a, b, c, d]) = some n)
    (htake : (Piece.code n).take half read = (half', read'))
    (h : Piece.Pending half' → StringBody half' read' cs rest text) :
    StringBody half read ('\\' :: 'u' :: a :: b :: c :: d :: cs) rest text := by
  have hknown : hexNumber? [a, b, c, d] = some n := by
    split at hnumber
    · cases hnumber
    · exact hnumber
  have hpending := Piece.pending_take hhalf read (.code n)
  rw [htake] at hpending
  refine StringBody.cons ['\\', 'u', a, b, c, d] (.code n) hhalf (.code hknown) ?_
  rw [htake]
  exact h hpending

end StringBody

/-- What the reader takes are spelled pieces and the quote behind them. -/
theorem stringBody_of_readString {start position : Nat} {half : Option Nat} {read cs text : List Char}
    {next : Cursor} (hhalf : Piece.Pending half)
    (h : readString start position half read cs = .ok (text, next)) :
    StringBody half read cs next.rest text := by
  fun_induction readString start position half read cs with
  | case1 => cases h
  | case2 position half read rest =>
    cases h
    refine ⟨[], [], .nil, rfl, ?_⟩
    rcases half with _ | high <;> simp [Piece.total, Piece.chars, withHalf]
  | case3 => cases h
  | case4 position read a b c d rest n hnumber high hlow ih =>
    exact .code hhalf hnumber (by simp [Piece.take, hlow]) fun hpending => ih hpending h
  | case5 position read a b c d rest n hnumber high hlow hhigh ih =>
    exact .code hhalf hnumber (by simp [Piece.take, hlow, hhigh]) fun hpending => ih hpending h
  | case6 position read a b c d rest n hnumber high hlow hhigh ih =>
    exact .code hhalf hnumber (by simp [Piece.take, hlow, hhigh]) fun hpending => ih hpending h
  | case7 position read a b c d rest n hnumber hhigh ih =>
    exact .code hhalf hnumber (by simp [Piece.take, hhigh]) fun hpending => ih hpending h
  | case8 position read a b c d rest n hnumber hhigh ih =>
    exact .code hhalf hnumber (by simp [Piece.take, hhigh]) fun hpending => ih hpending h
  | case9 => cases h
  | case10 => cases h
  | case11 => cases h
  | case12 position half read e rest _ _ c hknown ih =>
    exact .cons ['\\', e] (.char c) hhalf (.letter hknown) (ih Piece.pending_none h)
  | case13 => cases h
  | case14 position half read c rest hquote _ _ hend hslash hvisible ih =>
    have hplain : c ≠ '\\' := by
      rintro rfl
      rcases rest with _ | ⟨d, rest⟩
      · exact hend rfl rfl
      · exact hslash d rest rfl rfl
    exact .cons [c] (.char c) hhalf (.plain hquote hplain (Nat.le_of_not_lt hvisible))
      (ih Piece.pending_none h)

/-- A string is never at fault for a number. -/
theorem readString_ne_tooManyDigits (start position : Nat) (half : Option Nat) (read cs : List Char)
    (count : Nat) : readString start position half read cs ≠ .error (.tooManyDigits count) := by
  fun_induction readString start position half read cs <;> first | assumption | simp

/-! ## Numbers -/

structure IsDigits (ds : List Char) : Prop where
  nonempty : ds ≠ []
  digits : ∀ c ∈ ds, c.isDigit = true

/-- The digits in front of the point: no zero leads others. -/
structure IsWhole (ds : List Char) : Prop extends IsDigits ds where
  zero : ds.head? = some '0' → ds = ['0']

/-- The sign of a number. -/
def minus (negative : Bool) : List Char := if negative then ['-'] else []

/-- The fraction of a number, if it has one, and its digits. -/
inductive Fraction : List Char → List Char → Prop
  | absent : Fraction [] []
  | point {ds : List Char} (h : IsDigits ds) : Fraction ('.' :: ds) ds

/-- The signs of a power with the factors that they stand for. -/
def powerSigns : List (List Char × Int) := [([], 1), (['+'], 1), (['-'], -1)]

/-- The power of ten of a number, if it gives one. -/
inductive Exponent : List Char → Option Int → Prop
  | absent : Exponent [] none
  | power {mark : Char} {sign ds : List Char} {factor : Int} (hmark : mark = 'e' ∨ mark = 'E')
      (hsign : (sign, factor) ∈ powerSigns) (h : IsDigits ds) :
      Exponent (mark :: (sign ++ ds)) (some (factor * ofDigits ds))

/-- Numbers with what they stand for. A number without a fraction and a power is an integer. -/
inductive Number (limit : Nat) : List Char → Value → Prop
  | integer {ds : List Char} (negative : Bool) (whole : IsWhole ds) (short : ds.length ≤ limit) :
      Number limit (minus negative ++ ds) (.int (if negative then -(ofDigits ds : Int) else ofDigits ds))
  | real {ds fraction fs exponent : List Char} {power : Option Int} (negative : Bool) (whole : IsWhole ds)
      (hfraction : Fraction fraction fs) (hexponent : Exponent exponent power)
      (isReal : fraction ++ exponent ≠ []) :
      Number limit (minus negative ++ (ds ++ (fraction ++ exponent)))
        (.real (Double.ofDecimal negative (ofDigits (ds ++ fs)) (power.getD 0 - fs.length)))

/-- What would go on with an integer that stands in front of it. -/
inductive Continues : List Char → Prop
  | digit {d : Char} (hd : d.isDigit = true) (rest : List Char) : Continues (d :: rest)
  | fraction {d : Char} (hd : d.isDigit = true) (rest : List Char) : Continues ('.' :: d :: rest)
  | power {mark d : Char} {sign : List Char} {factor : Int} (hmark : mark = 'e' ∨ mark = 'E')
      (hsign : (sign, factor) ∈ powerSigns) (hd : d.isDigit = true) (rest : List Char) :
      Continues (mark :: (sign ++ d :: rest))

/-- The digits of the fraction at the front of a text, and the rest. -/
def fractionAt (cs : List Char) : List Char × List Char :=
  match cs with
  | '.' :: rest => let (ds, rest') := digits rest; if ds.isEmpty then ([], cs) else (ds, rest')
  | rest => ([], rest)

/-- The power behind its mark, and the rest. -/
def powerAt (cs : List Char) : Option (Int × List Char) :=
  let (sign, rest) : Int × List Char := match cs with
    | '+' :: rest => (1, rest)
    | '-' :: rest => (-1, rest)
    | rest => (1, rest)
  let (ds, rest) := digits rest
  if ds.isEmpty then none else some (sign * ofDigits ds, rest)

/-- The power at the front of a text, and the rest. -/
def exponentAt (cs : List Char) : Option (Int × List Char) :=
  match cs with
  | 'e' :: rest => powerAt rest
  | 'E' :: rest => powerAt rest
  | _ => none

/-- What a number is read as whose sign and whole digits are known, with the text behind them. -/
def numberFrom (s : Cursor) (negative : Bool) (whole after : List Char) : Except Fault (Value × Cursor) :=
  if whole.isEmpty then .error (.value s.position)
  else
    let (fraction, afterFraction) := fractionAt after
    let exponent := exponentAt afterFraction
    let final := match exponent with
      | some (_, rest) => rest
      | none => afterFraction
    let cursor : Cursor := ⟨s.position + (s.rest.length - final.length), final⟩
    if fraction.isEmpty && exponent.isNone then
      if whole.length > digitLimit then .error (.tooManyDigits whole.length)
      else .ok (.int (if negative then -(ofDigits whole : Int) else ofDigits whole), cursor)
    else
      let power : Int := (exponent.map (·.1)).getD 0 - (fraction.length : Int)
      .ok (.real (Double.ofDecimal negative (ofDigits (whole ++ fraction)) power), cursor)

theorem readNumber_def (s : Cursor) :
    readNumber s =
      let (negative, body) := match s.rest with
        | '-' :: rest => (true, rest)
        | rest => (false, rest)
      let (whole, after) := match body with
        | '0' :: rest => (['0'], rest)
        | rest => digits rest
      numberFrom s negative whole after := rfl

/-- No digit stands at the front of a text. -/
def NoDigit (cs : List Char) : Prop := ∀ c ∈ cs.head?, c.isDigit = false

/-- No fraction stands at the front of a text. -/
def NoFraction (cs : List Char) : Prop := ∀ d tail, d.isDigit = true → cs ≠ '.' :: d :: tail

/-- No power stands at the front of a text. -/
def NoPower (cs : List Char) : Prop :=
  ∀ mark sign factor d tail, mark = 'e' ∨ mark = 'E' → (sign, factor) ∈ powerSigns → d.isDigit = true →
    cs ≠ mark :: (sign ++ d :: tail)

theorem not_continues_iff {cs : List Char} :
    ¬ Continues cs ↔ NoDigit cs ∧ NoFraction cs ∧ NoPower cs := by
  constructor
  · refine fun h => ⟨fun c hc => ?_, ?_, ?_⟩
    · rw [Bool.eq_false_iff]
      intro hdigit
      rcases cs with _ | ⟨d, tail⟩
      · cases hc
      · cases hc
        exact h (.digit hdigit tail)
    · rintro d tail hd rfl
      exact h (.fraction hd tail)
    · rintro mark sign factor d tail hmark hsign hd rfl
      exact h (.power hmark hsign hd tail)
  · rintro ⟨hdigit, hfraction, hpower⟩ (⟨hd, rest⟩ | ⟨hd, rest⟩ | ⟨hmark, hsign, hd, rest⟩)
    · rw [hdigit _ rfl] at hd
      cases hd
    · exact hfraction _ rest hd rfl
    · exact hpower _ _ _ _ rest hmark hsign hd rfl

theorem IsDigits.cases {ds : List Char} (h : IsDigits ds) :
    ∃ d tail, ds = d :: tail ∧ d.isDigit = true := by
  rcases ds with _ | ⟨d, tail⟩
  · exact absurd rfl h.nonempty
  · exact ⟨d, tail, rfl, h.digits d List.mem_cons_self⟩

/-- A text that begins with a digit begins with all digits up to something else. -/
theorem digits_cases (cs : List Char) :
    NoDigit cs ∨ ∃ ds rest, cs = ds ++ rest ∧ IsDigits ds ∧ NoDigit rest := by
  obtain ⟨ds, rest, rfl, hds, hrest⟩ := exists_split Char.isDigit cs
  by_cases hne : ds = []
  · subst hne
    exact .inl hrest
  · exact .inr ⟨ds, rest, rfl, ⟨hne, hds⟩, hrest⟩

theorem digits_of_noDigit {cs : List Char} (h : NoDigit cs) : digits cs = ([], cs) :=
  @digits_append [] cs nofun h

/-! ### Fractions -/

theorem fractionAt_of_noFraction {cs : List Char} (h : NoFraction cs) : fractionAt cs = ([], cs) := by
  unfold fractionAt
  split
  · rename_i tail
    have htail : NoDigit tail := by
      intro d hd
      rw [Bool.eq_false_iff]
      intro hdigit
      obtain ⟨rest, rfl⟩ := List.head?_eq_some_iff.mp hd
      exact h d rest hdigit rfl
    simp [digits_of_noDigit htail]
  · rfl

theorem fractionAt_point {ds rest : List Char} (hds : IsDigits ds) (hrest : NoDigit rest) :
    fractionAt ('.' :: (ds ++ rest)) = (ds, rest) := by
  simp [fractionAt, digits_append hds.digits hrest, hds.nonempty]

theorem fraction_cases (cs : List Char) :
    NoFraction cs ∨ ∃ ds rest, cs = '.' :: (ds ++ rest) ∧ IsDigits ds ∧ NoDigit rest := by
  by_cases h : NoFraction cs
  · exact .inl h
  · right
    obtain ⟨d, tail, hd, rfl⟩ : ∃ d tail, d.isDigit = true ∧ cs = '.' :: d :: tail := by
      simpa [NoFraction] using h
    rcases digits_cases (d :: tail) with hnone | ⟨ds, rest, htail, hds, hrest⟩
    · rw [hnone d rfl] at hd
      cases hd
    · exact ⟨ds, rest, by rw [htail], hds, hrest⟩

/-! ### Powers -/

theorem powerAt_of_digits {sign ds rest : List Char} {factor : Int} (hsign : (sign, factor) ∈ powerSigns)
    (hds : IsDigits ds) (hrest : NoDigit rest) :
    powerAt (sign ++ (ds ++ rest)) = some (factor * ofDigits ds, rest) := by
  have hread := digits_append hds.digits hrest
  obtain ⟨d, tail, rfl, hd⟩ := hds.cases
  have hplus : d ≠ '+' := ne_of_isDigit hd rfl
  have hminus : d ≠ '-' := ne_of_isDigit hd rfl
  rw [List.cons_append] at hread ⊢
  simp only [powerSigns, List.mem_cons, Prod.mk.injEq, List.not_mem_nil, or_false] at hsign
  rcases hsign with ⟨rfl, rfl⟩ | ⟨rfl, rfl⟩ | ⟨rfl, rfl⟩ <;> simp [powerAt, hread, hplus, hminus]

theorem exponentAt_power {mark : Char} {sign ds rest : List Char} {factor : Int}
    (hmark : mark = 'e' ∨ mark = 'E') (hsign : (sign, factor) ∈ powerSigns) (hds : IsDigits ds)
    (hrest : NoDigit rest) :
    exponentAt (mark :: (sign ++ (ds ++ rest))) = some (factor * ofDigits ds, rest) := by
  rcases hmark with rfl | rfl <;> exact powerAt_of_digits hsign hds hrest

theorem powerAt_of_noDigit {cs : List Char}
    (h : ∀ sign factor d tail, (sign, factor) ∈ powerSigns → d.isDigit = true → cs ≠ sign ++ d :: tail) :
    powerAt cs = none := by
  -- Behind a sign, or where there is none, no digit follows.
  have hafter (sign : List Char) (factor : Int) (hsign : (sign, factor) ∈ powerSigns) (tail : List Char)
      (hcs : cs = sign ++ tail) : digits tail = ([], tail) := by
    refine digits_of_noDigit fun d hd => ?_
    rw [Bool.eq_false_iff]
    intro hdigit
    obtain ⟨rest, rfl⟩ := List.head?_eq_some_iff.mp hd
    exact h sign factor d rest hsign hdigit hcs
  unfold powerAt
  split
  rename_i hsplit
  split at hsplit <;> cases hsplit
  · simp [hafter ['+'] 1 (by decide) _ rfl]
  · simp [hafter ['-'] (-1) (by decide) _ rfl]
  · simp [hafter [] 1 (by decide) _ rfl]

theorem exponentAt_of_noPower {cs : List Char} (h : NoPower cs) : exponentAt cs = none := by
  unfold exponentAt
  split
  · exact powerAt_of_noDigit fun sign factor d tail hsign hd heq =>
      h 'e' sign factor d tail (.inl rfl) hsign hd (by rw [heq])
  · exact powerAt_of_noDigit fun sign factor d tail hsign hd heq =>
      h 'E' sign factor d tail (.inr rfl) hsign hd (by rw [heq])
  · rfl

theorem power_cases (cs : List Char) :
    NoPower cs ∨ ∃ mark sign factor ds rest, cs = mark :: (sign ++ (ds ++ rest)) ∧
      (mark = 'e' ∨ mark = 'E') ∧ (sign, factor) ∈ powerSigns ∧ IsDigits ds ∧ NoDigit rest := by
  by_cases h : NoPower cs
  · exact .inl h
  · right
    obtain ⟨mark, sign, factor, d, tail, hmark, hsign, hd, rfl⟩ : ∃ mark sign factor d tail,
        (mark = 'e' ∨ mark = 'E') ∧ (sign, factor) ∈ powerSigns ∧ d.isDigit = true ∧
          cs = mark :: (sign ++ d :: tail) := by
      simpa [NoPower] using h
    rcases digits_cases (d :: tail) with hnone | ⟨ds, rest, htail, hds, hrest⟩
    · rw [hnone d rfl] at hd
      cases hd
    · exact ⟨mark, sign, factor, ds, rest, by rw [htail], hmark, hsign, hds, hrest⟩

/-! ### The reader -/

theorem readNumber_eq {ds after : List Char} (whole : IsWhole ds) (hafter : ds = ['0'] ∨ NoDigit after)
    (negative : Bool) (position : Nat) :
    readNumber ⟨position, minus negative ++ (ds ++ after)⟩ =
      numberFrom ⟨position, minus negative ++ (ds ++ after)⟩ negative ds after := by
  obtain ⟨d, tail, rfl, hd⟩ := whole.cases
  have hsign : d ≠ '-' := ne_of_isDigit hd rfl
  by_cases hzero : d = '0'
  · obtain ⟨rfl, rfl⟩ := List.cons.inj (whole.zero (by rw [hzero]; rfl))
    cases negative <;> rfl
  · have hrest : NoDigit after := hafter.resolve_left fun h => hzero (List.cons.inj h).1
    have hread := digits_append whole.digits hrest
    rw [List.cons_append] at hread ⊢
    rw [readNumber_def]
    cases negative <;> simp [minus, hsign, hzero, hread]

/-- A text begins with the sign and the whole digits of a number, or no number is read from it. -/
theorem whole_cases (cs : List Char) :
    (∃ negative ds after, cs = minus negative ++ (ds ++ after) ∧ IsWhole ds ∧ (ds = ['0'] ∨ NoDigit after)) ∨
      ∀ position, readNumber ⟨position, cs⟩ = .error (.value position) := by
  obtain ⟨negative, body, rfl, hbody⟩ :
      ∃ negative body, cs = minus negative ++ body ∧ (negative = false → body.head? ≠ some '-') := by
    rcases cs with _ | ⟨c, body⟩
    · exact ⟨false, [], rfl, nofun⟩
    · by_cases hc : c = '-'
      · exact ⟨true, body, by rw [hc]; rfl, nofun⟩
      · exact ⟨false, c :: body, rfl, fun _ h => hc (Option.some.inj h)⟩
  rcases digits_cases body with hnone | ⟨ds, after, rfl, hds, hafter⟩
  · right
    intro position
    have hread := digits_of_noDigit hnone
    rw [readNumber_def]
    rcases body with _ | ⟨c, tail⟩
    · cases negative <;> rfl
    · have hzero : c ≠ '0' := by
        rintro rfl
        cases hnone _ rfl
      cases negative with
      | true => simp [minus, hzero, hread, numberFrom]
      | false =>
        have hsign : c ≠ '-' := fun h => hbody rfl (congrArg some h)
        simp [minus, hzero, hsign, hread, numberFrom]
  · left
    by_cases hzero : ds.head? = some '0'
    · obtain ⟨tail, rfl⟩ := List.head?_eq_some_iff.mp hzero
      have hdigit : ∀ c ∈ ['0'], c.isDigit = true := List.forall_mem_singleton.mpr rfl
      exact ⟨negative, ['0'], tail ++ after, rfl, ⟨⟨by simp, hdigit⟩, fun _ => rfl⟩, .inl rfl⟩
    · exact ⟨negative, ds, after, rfl, ⟨hds, fun h => absurd h hzero⟩, .inr hafter⟩

/-- What an integer is read as in front of something that does not go on with it. -/
theorem readNumber_integer {ds after : List Char} (whole : IsWhole ds) (hafter : ds = ['0'] ∨ NoDigit after)
    (hfraction : NoFraction after) (hpower : NoPower after) (negative : Bool) (position : Nat) :
    ∃ next, readNumber ⟨position, minus negative ++ (ds ++ after)⟩ =
      if digitLimit < ds.length then .error (.tooManyDigits ds.length)
      else .ok (.int (if negative then -(ofDigits ds : Int) else ofDigits ds), ⟨next, after⟩) := by
  refine ⟨position + ((minus negative ++ (ds ++ after)).length - after.length), ?_⟩
  rw [readNumber_eq whole hafter]
  simp [numberFrom, whole.nonempty, fractionAt_of_noFraction hfraction, exponentAt_of_noPower hpower]

theorem fractionAt_append {fraction fs after : List Char} (h : Fraction fraction fs)
    (hafter : NoDigit after) (hnone : fraction = [] → NoFraction after) :
    fractionAt (fraction ++ after) = (fs, after) := by
  cases h with
  | absent => exact fractionAt_of_noFraction (hnone rfl)
  | point hds => exact fractionAt_point hds hafter

theorem exponentAt_append {exponent after : List Char} {power : Option Int} (h : Exponent exponent power)
    (hafter : NoDigit after) (hnone : exponent = [] → NoPower after) :
    exponentAt (exponent ++ after) = power.map fun p => (p, after) := by
  cases h with
  | absent => exact exponentAt_of_noPower (hnone rfl)
  | power hmark hsign hds =>
    rw [List.cons_append, List.append_assoc]
    exact exponentAt_power hmark hsign hds hafter

/-- No digit follows where a power stands, and no fraction where it is there. -/
theorem Exponent.front {exponent rest : List Char} {power : Option Int} (h : Exponent exponent power)
    (hrest : NoDigit rest) :
    NoDigit (exponent ++ rest) ∧ (exponent ≠ [] → NoFraction (exponent ++ rest)) := by
  cases h with
  | absent => exact ⟨hrest, fun h => absurd rfl h⟩
  | @power mark sign ds factor hmark _ _ =>
    constructor
    · intro c hc
      cases hc
      rcases hmark with rfl | rfl <;> rfl
    · rintro - d tail - heq
      obtain ⟨rfl, -⟩ := List.cons.inj heq
      rcases hmark with hmark | hmark <;> cases hmark

/-- What another number is read as. -/
theorem readNumber_real {ds fraction fs exponent rest : List Char} {power : Option Int} (whole : IsWhole ds)
    (hfraction : Fraction fraction fs) (hexponent : Exponent exponent power)
    (hreal : fraction ++ exponent ≠ []) (hrest : NoDigit rest) (hpower : exponent = [] → NoPower rest)
    (negative : Bool) (position : Nat) :
    ∃ next, readNumber ⟨position, minus negative ++ (ds ++ (fraction ++ (exponent ++ rest)))⟩ =
      .ok (.real (Double.ofDecimal negative (ofDigits (ds ++ fs)) (power.getD 0 - fs.length)),
        ⟨next, rest⟩) := by
  obtain ⟨hdigit, hpoint⟩ := hexponent.front hrest
  have hafter : NoDigit (fraction ++ (exponent ++ rest)) := by
    cases hfraction with
    | absent => exact hdigit
    | point _ =>
      intro c hc
      cases hc
      rfl
  have hfractionAt := fractionAt_append hfraction hdigit fun h => hpoint (by simpa [h] using hreal)
  have hexponentAt := exponentAt_append hexponent hrest hpower
  refine ⟨position + ((minus negative ++ (ds ++ (fraction ++ (exponent ++ rest)))).length - rest.length), ?_⟩
  rw [readNumber_eq whole (.inr hafter)]
  cases hexponent with
  | absent =>
    have hfs : fs ≠ [] := by
      cases hfraction with
      | absent => exact absurd rfl hreal
      | point hds => exact hds.nonempty
    simp only [numberFrom, hfractionAt, hexponentAt]
    simp [whole.nonempty, hfs]
  | power _ _ _ =>
    simp only [numberFrom, hfractionAt, hexponentAt]
    simp [whole.nonempty]

/-- A number is read with all that belongs to it. -/
theorem readNumber_of_number {body rest : List Char} {v : Value} (h : Number digitLimit body v)
    (hrest : ¬ Continues rest) (position : Nat) :
    ∃ next, readNumber ⟨position, body ++ rest⟩ = .ok (v, ⟨next, rest⟩) := by
  obtain ⟨hdigit, hpoint, hpower⟩ := not_continues_iff.mp hrest
  cases h with
  | @integer ds negative whole short =>
    obtain ⟨next, hread⟩ := readNumber_integer whole (.inr hdigit) hpoint hpower negative position
    rw [if_neg (Nat.not_lt.mpr short), ← List.append_assoc] at hread
    exact ⟨next, hread⟩
  | @real ds fraction fs exponent power negative whole hfraction hexponent hreal =>
    obtain ⟨next, hread⟩ := readNumber_real whole hfraction hexponent hreal hdigit (fun _ => hpower)
      negative position
    refine ⟨next, ?_⟩
    simpa only [List.append_assoc] using hread

/-- An integer of more digits than numbers may have, in front of something that does not go on with it. -/
theorem readNumber_of_long {ds rest : List Char} (whole : IsWhole ds) (long : digitLimit < ds.length)
    (hrest : ¬ Continues rest) (negative : Bool) (position : Nat) :
    readNumber ⟨position, minus negative ++ (ds ++ rest)⟩ = .error (.tooManyDigits ds.length) := by
  obtain ⟨hdigit, hpoint, hpower⟩ := not_continues_iff.mp hrest
  obtain ⟨next, hread⟩ := readNumber_integer whole (.inr hdigit) hpoint hpower negative position
  rw [hread, if_pos long]

/-- What a number is read from, and the one fault of it that is not about its place. -/
inductive NumberRead (cs : List Char) : Except Fault (Value × Cursor) → Prop
  | value {body rest : List Char} {v : Value} (next : Nat) (hcs : cs = body ++ rest)
      (h : Number digitLimit body v) : NumberRead cs (.ok (v, ⟨next, rest⟩))
  | long {ds rest : List Char} (negative : Bool) (hcs : cs = minus negative ++ (ds ++ rest))
      (whole : IsWhole ds) (long : digitLimit < ds.length) (hrest : ¬ Continues rest) :
      NumberRead cs (.error (.tooManyDigits ds.length))
  | none (position : Nat) : NumberRead cs (.error (.value position))

theorem NumberRead.of_real {ds fraction fs exponent rest : List Char} {power : Option Int} (whole : IsWhole ds)
    (hfraction : Fraction fraction fs) (hexponent : Exponent exponent power)
    (hreal : fraction ++ exponent ≠ []) (hrest : NoDigit rest) (hpower : exponent = [] → NoPower rest)
    (negative : Bool) (position : Nat) :
    NumberRead (minus negative ++ (ds ++ (fraction ++ (exponent ++ rest))))
      (readNumber ⟨position, minus negative ++ (ds ++ (fraction ++ (exponent ++ rest)))⟩) := by
  obtain ⟨next, hread⟩ := readNumber_real whole hfraction hexponent hreal hrest hpower negative position
  rw [hread]
  exact .value next (by simp only [List.append_assoc]) (.real negative whole hfraction hexponent hreal)

theorem numberRead_readNumber (cs : List Char) (position : Nat) :
    NumberRead cs (readNumber ⟨position, cs⟩) := by
  rcases whole_cases cs with ⟨negative, ds, after, rfl, whole, hafter⟩ | hnone
  · rcases fraction_cases after with hpoint | ⟨fs, rest, rfl, hfs, hdigit⟩
    · rcases power_cases after with hpower | ⟨mark, sign, factor, es, rest, rfl, hmark, hsign, hes, hrest⟩
      · obtain ⟨next, hread⟩ := readNumber_integer whole hafter hpoint hpower negative position
        rw [hread]
        split
        · rename_i hlong
          have hdigit : NoDigit after := hafter.resolve_left fun h => by
            rw [h] at hlong
            exact absurd hlong (by decide)
          exact .long negative rfl whole hlong (not_continues_iff.mpr ⟨hdigit, hpoint, hpower⟩)
        · rename_i hshort
          exact .value next (List.append_assoc _ _ _).symm
            (.integer negative whole (Nat.le_of_not_lt hshort))
      · simpa using NumberRead.of_real whole .absent (.power hmark hsign hes) (by simp) hrest nofun negative
          position
    · rcases power_cases rest with hpower | ⟨mark, sign, factor, es, rest, rfl, hmark, hsign, hes, hrest⟩
      · simpa using NumberRead.of_real whole (.point hfs) .absent (by simp) hdigit (fun _ => hpower) negative
          position
      · simpa using NumberRead.of_real whole (.point hfs) (.power hmark hsign hes) (by simp) hrest nofun
          negative position
  · rw [hnone]
    exact .none position

/-! ## Values -/

/-- The key of an entry with the colon behind it. -/
inductive Label : List Char → String → Prop
  | mk {body before after : List Char} {pieces : List Piece} (h : Spells body pieces)
      (hbefore : IsBlanks before) (hafter : IsBlanks after) :
      Label ('"' :: (body ++ '"' :: (before ++ ':' :: after))) (String.ofList (Piece.chars pieces))

mutual

/-- Texts of values with what they stand for. An integer has `limit` digits at most, and of the entries of a
map with one key the last one counts. -/
inductive Denotes (limit : Nat) : List Char → Value → Prop
  | word {word : List Char} {v : Value} (h : (word, v) ∈ words) : Denotes limit word v
  | number {cs : List Char} {v : Value} (h : Number limit cs v) : Denotes limit cs v
  | text {body : List Char} {pieces : List Piece} (h : Spells body pieces) :
      Denotes limit ('"' :: (body ++ ['"'])) (.text (String.ofList (Piece.chars pieces)))
  | emptyList {gap : List Char} (hgap : IsBlanks gap) : Denotes limit ('[' :: (gap ++ [']'])) (.list [])
  | list {gap cs : List Char} {items : List Value} (hgap : IsBlanks gap) (h : Items limit cs items) :
      Denotes limit ('[' :: (gap ++ cs)) (.list items)
  | emptyMap {gap : List Char} (hgap : IsBlanks gap) :
      Denotes limit ('\x7b' :: (gap ++ ['\x7d'])) (.map [])
  | map {gap cs : List Char} {entries : List (String × Value)} (hgap : IsBlanks gap)
      (h : Entries limit cs entries) :
      Denotes limit ('\x7b' :: (gap ++ cs)) (.map (entries.foldl (fun read e => setEntry e.1 e.2 read) []))

/-- The items of a list with the bracket that closes it. -/
inductive Items (limit : Nat) : List Char → List Value → Prop
  | last {body back : List Char} {v : Value} (h : Denotes limit body v) (hback : IsBlanks back) :
      Items limit (body ++ (back ++ [']'])) [v]
  | cons {body back gap cs : List Char} {v : Value} {items : List Value} (h : Denotes limit body v)
      (hback : IsBlanks back) (hgap : IsBlanks gap) (hrest : Items limit cs items) :
      Items limit (body ++ (back ++ ',' :: (gap ++ cs))) (v :: items)

/-- The entries of a map with the brace that closes it. -/
inductive Entries (limit : Nat) : List Char → List (String × Value) → Prop
  | last {label body back : List Char} {key : String} {v : Value} (hlabel : Label label key)
      (h : Denotes limit body v) (hback : IsBlanks back) :
      Entries limit (label ++ (body ++ (back ++ ['\x7d']))) [(key, v)]
  | cons {label body back gap cs : List Char} {key : String} {v : Value} {entries : List (String × Value)}
      (hlabel : Label label key) (h : Denotes limit body v) (hback : IsBlanks back) (hgap : IsBlanks gap)
      (hrest : Entries limit cs entries) :
      Entries limit (label ++ (body ++ (back ++ ',' :: (gap ++ cs)))) ((key, v) :: entries)

end

/-- JSON texts with what they stand for: a value between blanks. -/
def IsText (limit : Nat) (cs : List Char) (v : Value) : Prop :=
  ∃ front body back, IsBlanks front ∧ Denotes limit body v ∧ IsBlanks back ∧ cs = front ++ (body ++ back)

mutual

/-- Texts in which a value begins that has an integer of too many digits, with as much in front of it as
values take. -/
inductive Overlong (count : Nat) : List Char → Prop
  | number {ds rest : List Char} (negative : Bool) (whole : IsWhole ds) (hcount : ds.length = count)
      (long : digitLimit < count) (hrest : ¬ Continues rest) :
      Overlong count (minus negative ++ (ds ++ rest))
  | list {gap cs : List Char} (hgap : IsBlanks gap) (h : OverlongItems count cs) :
      Overlong count ('[' :: (gap ++ cs))
  | map {gap cs : List Char} (hgap : IsBlanks gap) (h : OverlongEntries count cs) :
      Overlong count ('\x7b' :: (gap ++ cs))

/-- Texts of items of a list, up to such an integer. -/
inductive OverlongItems (count : Nat) : List Char → Prop
  | here {cs : List Char} (h : Overlong count cs) : OverlongItems count cs
  | later {body back gap cs : List Char} {v : Value} (h : Denotes digitLimit body v)
      (hback : IsBlanks back) (hgap : IsBlanks gap) (hrest : OverlongItems count cs) :
      OverlongItems count (body ++ (back ++ ',' :: (gap ++ cs)))

/-- Texts of entries of a map, up to such an integer. -/
inductive OverlongEntries (count : Nat) : List Char → Prop
  | here {label cs : List Char} {key : String} (hlabel : Label label key) (h : Overlong count cs) :
      OverlongEntries count (label ++ cs)
  | later {label body back gap cs : List Char} {key : String} {v : Value} (hlabel : Label label key)
      (h : Denotes digitLimit body v) (hback : IsBlanks back) (hgap : IsBlanks gap)
      (hrest : OverlongEntries count cs) :
      OverlongEntries count (label ++ (body ++ (back ++ ',' :: (gap ++ cs))))

end

/-- Texts that are read up to an integer of too many digits. -/
def IsOverlong (count : Nat) (cs : List Char) : Prop :=
  ∃ front rest, IsBlanks front ∧ Overlong count rest ∧ cs = front ++ rest

end Localize.Json
