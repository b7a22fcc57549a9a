/-
  What keeps a text from being a document. Whatever is read at a cursor goes on from there or fails, and
  then it fails at a place unless a number of too many digits is in the way, which has more digits than
  numbers may have and has them from the text, or values inside of others are, for which the text has to open
  more brackets than there is room for (`settles_readStatements`). So the faults of a text other than those
  at a place are those of texts with so many digits or brackets (`within_of_read`).
-/
import Localize.Toml.Reader
import Mathlib.Data.List.Basic

namespace Localize.Toml

open Localize.Text (Cursor)

/-! ## Faults that a text can cause -/

/-- How many brackets and braces a text opens. -/
def openings (cs : List Char) : Nat := cs.countP fun c => c = '[' || c = '\x7b'

/-- How many digits a text has. -/
def digits (cs : List Char) : Nat := cs.countP Char.isDigit

/-- A fault that a text can cause where there is some room for values inside of others: it has a place, or the
text has the digits of a number that is too long, or opens too many brackets for the room. -/
def Fault.Within (room : Nat) (cs : List Char) : Fault → Prop
  | .at .. => True
  | .tooManyDigits n => digitLimit < n ∧ n ≤ digits cs
  | .tooDeep => room < inlineRoom * openings cs

/-- Something is read that has a property, or a fault comes up that the text can cause. -/
def Settles (room : Nat) (cs : List Char) (P : α → Prop) : Except Fault α → Prop
  | .ok a => P a
  | .error f => f.Within room cs

/-- A cursor that is reached from another one by leaving characters out. -/
def Ahead (s next : Cursor) : Prop := next.rest.Sublist s.rest

section Settles

variable {α β : Type} {room : Nat} {cs cs' : List Char} {P : α → Prop} {Q : β → Prop} {s next : Cursor}

theorem openings_mono (h : cs'.Sublist cs) : openings cs' ≤ openings cs := h.countP_le

theorem Fault.Within.mono {f : Fault} (h : f.Within room cs') (hcs : cs'.Sublist cs) :
    f.Within room cs := by
  cases f with
  | «at» => trivial
  | tooManyDigits n => exact ⟨h.1, Nat.le_trans h.2 hcs.countP_le⟩
  | tooDeep => exact Nat.lt_of_lt_of_le h (Nat.mul_le_mul_left _ (openings_mono hcs))

theorem settles_failAt {cause : Cause} : Settles room cs P (failAt s cause) := trivial

theorem Settles.mono {P' : α → Prop} {r : Except Fault α} (h : Settles room cs' P r)
    (hcs : cs'.Sublist cs) (hP : ∀ a, P a → P' a) : Settles room cs P' r := by
  cases r with
  | error f => exact Fault.Within.mono h hcs
  | ok a => exact hP a h

theorem Settles.bind {r : Except Fault α} {k : α → Except Fault β} (h : Settles room cs P r)
    (hk : ∀ a, P a → Settles room cs Q (k a)) : Settles room cs Q (r >>= k) := by
  cases r with
  | error f => exact h
  | ok a => exact hk a h

theorem Ahead.refl (s : Cursor) : Ahead s s := List.Sublist.refl _

theorem Ahead.trans {last : Cursor} (h : Ahead s next) (h' : Ahead next last) : Ahead s last :=
  List.Sublist.trans h' h

theorem ahead_skip (s : Cursor) (n : Nat) : Ahead s (s.skip n) := List.drop_sublist n s.rest

theorem ahead_skipWhile (s : Cursor) (test : Char → Bool) : Ahead s (s.skipWhile test) := ahead_skip s _

theorem ahead_skipBlanks (s : Cursor) : Ahead s (skipBlanks s) := ahead_skipWhile s _

/-- What settles from a cursor on settles from one in front of it. -/
theorem Settles.from {r : Except Fault α} (h : Settles room next.rest P r) (hs : Ahead s next) :
    Settles room s.rest P r := h.mono hs fun _ ha => ha

end Settles

/-- Reading that goes on from where it begins, or fails for what is there, where there is some room. -/
def ForwardIn (room : Nat) (read : Reads α) : Prop :=
  ∀ s, Settles room s.rest (fun r => Ahead s r.2) (read s)

/-- Reading that goes on from where it begins, or fails for what is there. -/
def Forward (read : Reads α) : Prop := ∀ room, ForwardIn room read

section Forward

variable {α β : Type}

/-- What is read further on is ahead of where the reading began. -/
theorem Settles.ahead {room : Nat} {s next : Cursor} {r : Except Fault (α × Cursor)}
    (h : Settles room next.rest (fun r => Ahead next r.2) r) (hs : Ahead s next) :
    Settles room s.rest (fun r => Ahead s r.2) r := h.mono hs fun _ ha => hs.trans ha

theorem Forward.at {read : Reads α} (h : Forward read) (room : Nat) {s next : Cursor}
    (hs : Ahead s next) : Settles room s.rest (fun r => Ahead s r.2) (read next) :=
  (h room next).ahead hs

end Forward

/-! ## Blanks and comments -/

theorem settles_skipComment (room : Nat) (s : Cursor) :
    Settles room s.rest (Ahead s) (skipComment s) := by
  unfold skipComment
  split
  · dsimp only
    split
    · exact (ahead_skip s 1).trans (ahead_skip _ _)
    · exact settles_failAt
  · exact .refl s

theorem settles_skipFiller (room rounds : Nat) (s : Cursor) :
    Settles room s.rest (Ahead s) (skipFiller rounds s) := by
  induction rounds generalizing s with
  | zero => exact .refl s
  | succ rounds ih =>
    have hblanks := ahead_skipWhile s isBlankOrNewline
    refine Settles.bind ((settles_skipComment room _).mono hblanks fun _ h => hblanks.trans h)
      fun next hnext => ?_
    split
    · exact .refl s
    · exact (ih next).mono hnext fun _ h => hnext.trans h

theorem settles_filler (room : Nat) (s : Cursor) : Settles room s.rest (Ahead s) (filler s) :=
  settles_skipFiller room _ s

/-! ## Strings -/

theorem ahead_findFrom {delimiter cs text : List Char} {s found : Cursor} (hs : s.rest = cs)
    (h : findFrom delimiter s cs = (text, some found)) : Ahead s found := by
  induction cs generalizing s text with
  | nil => cases h
  | cons c rest ih =>
    rw [findFrom] at h
    split at h
    · cases h
      exact .refl found
    · rcases hrest : findFrom delimiter ⟨s.position + 1, rest⟩ rest with ⟨before, found'⟩
      rw [hrest] at h
      cases h
      refine Ahead.trans ?_ (ih rfl hrest)
      unfold Ahead
      rw [hs]
      exact List.sublist_cons_self c rest

theorem forward_literalText (delimiter : List Char) (illegal : Char → Bool) :
    Forward (literalText delimiter illegal) := by
  intro room s
  unfold literalText
  split
  · exact settles_failAt
  · rename_i text found hfind
    dsimp only
    split
    · exact (ahead_findFrom rfl hfind).trans (ahead_skip _ _)
    · exact settles_failAt

theorem forward_hexEscape (width : Nat) : Forward (hexEscape width) := by
  intro room s
  unfold hexEscape
  dsimp only
  split
  · split
    · exact settles_failAt
    · split
      · exact ahead_skip s width
      · exact settles_failAt
  · exact settles_failAt

theorem settles_lineContinuation (room : Nat) (s : Cursor) (c : Char) :
    Settles room s.rest (fun r => Ahead s r.2) (lineContinuation s c) := by
  have hnext := ahead_skip s 2
  unfold lineContinuation
  dsimp only
  split
  · exact hnext.trans (ahead_skipWhile _ _)
  · have hblanks := hnext.trans (ahead_skipBlanks (s.skip 2))
    split
    · exact hblanks
    · exact hblanks.trans (ahead_skipWhile _ _)
    · exact settles_failAt

theorem forward_escape (multiline : Bool) : Forward (escape multiline) := by
  intro room s
  have hnext : Ahead s ⟨s.position + 2, s.rest.drop 2⟩ := List.drop_sublist 2 s.rest
  unfold escape
  dsimp only
  split
  · split
    · exact settles_lineContinuation room s _
    · split
      · exact (forward_hexEscape 4).at room hnext
      · split
        · exact (forward_hexEscape 8).at room hnext
        · split
          · exact hnext
          · exact settles_failAt
  · exact settles_failAt

theorem forward_basicTextFrom (multiline : Bool) (rounds : Nat) (read : List Char) :
    Forward (basicTextFrom multiline rounds read) := by
  intro room s
  induction rounds generalizing read s with
  | zero => exact settles_failAt
  | succ rounds ih =>
    rw [basicTextFrom]
    split
    · exact settles_failAt
    · split
      · split
        · exact ahead_skip s 1
        · split
          · exact ahead_skip s 3
          · exact (ih _ _).ahead (ahead_skip s 1)
      · split
        · exact (forward_escape multiline room s).bind fun r hr => (ih _ r.2).ahead hr
        · have hrest := fun c => (ih (c :: read) (s.skip 1)).ahead (ahead_skip s 1)
          split
          · split
            · exact settles_failAt
            · exact hrest _
          · split
            · exact settles_failAt
            · exact hrest _

theorem forward_basicText (multiline : Bool) : Forward (basicText multiline) :=
  fun room s => forward_basicTextFrom multiline _ [] room s

theorem forward_linesText (quote : Char) : Forward (linesText quote) := by
  intro room s
  unfold linesText
  dsimp only
  have hstart : Ahead s (if s.head? = some '\n' then s.skip 1 else s) := by
    split
    · exact ahead_skip s 1
    · exact .refl s
  have hend : ∀ r : String × Cursor, Ahead s r.2 →
      Settles room s.rest (fun r : String × Cursor => Ahead s r.2)
        (if r.2.startsWith [quote, quote] then
          pure (r.1 ++ String.ofList [quote, quote], r.2.skip 2)
        else if r.2.head? = some quote then pure (r.1 ++ quote.toString, r.2.skip 1)
        else pure (r.1, r.2)) := by
    intro r hr
    split
    · exact hr.trans (ahead_skip _ _)
    · split
      · exact hr.trans (ahead_skip _ _)
      · exact hr
  split
  · exact ((forward_basicText true).at room hstart).bind hend
  · exact ((forward_literalText _ _).at room hstart).bind hend

theorem forward_stringValue (quote : Char) : Forward (stringValue quote) := by
  intro room s
  unfold stringValue
  split
  · exact (forward_linesText quote).at room (ahead_skip s 3)
  · split
    · exact (forward_basicText false).at room (ahead_skip s 1)
    · exact (forward_literalText _ _).at room (ahead_skip s 1)

/-! ## Keys -/

theorem forward_keyPart : Forward keyPart := by
  intro room s
  unfold keyPart
  split
  · exact (forward_literalText _ _).at room (ahead_skip s 1)
  · exact (forward_basicText false).at room (ahead_skip s 1)
  · split
    · exact ahead_skipWhile s isBareKey
    · exact settles_failAt
  · exact settles_failAt

theorem forward_keyFrom (rounds : Nat) (read : List String) : Forward (keyFrom rounds read) := by
  intro room s
  induction rounds generalizing read s with
  | zero => exact .refl s
  | succ rounds ih =>
    rw [keyFrom]
    split
    · have hpart := (ahead_skip s 1).trans (ahead_skipBlanks (s.skip 1))
      exact (forward_keyPart.at room hpart).bind fun r hr =>
        (ih _ _).ahead (hr.trans (ahead_skipBlanks r.2))
    · exact .refl s

theorem forward_key : Forward key := by
  intro room s
  exact (forward_keyPart room s).bind fun r hr =>
    (forward_keyFrom _ _).at room (hr.trans (ahead_skipBlanks r.2))

/-! ## Numbers, dates and times -/

/-- The digits at the front of a text are digits of the text. -/
theorem length_digitRun_le (cs : List Char) :
    ((cs.take (digitRun Char.isDigit cs)).filter (· ≠ '_')).length ≤ digits cs := by
  fun_induction digitRun Char.isDigit cs with
  | case1 => exact Nat.zero_le _
  | case2 d rest hd ih =>
    have hdigits : digits ('_' :: d :: rest) = digits rest + 1 := by simp [digits, hd]
    have hfilter := List.length_filter_le (· ≠ '_') [d]
    rw [hdigits, List.take_succ_cons, List.take_succ_cons, List.filter_cons_of_neg (by decide),
      ← List.singleton_append, List.filter_append, List.length_append]
    simp only [List.length_singleton] at hfilter
    omega
  | case3 => exact Nat.zero_le _
  | case4 c rest _ hc ih =>
    have hdigits : digits (c :: rest) = digits rest + 1 := by simp [digits, hc]
    have hfilter := List.length_filter_le (· ≠ '_') [c]
    rw [hdigits, List.take_succ_cons, ← List.singleton_append, List.filter_append, List.length_append]
    simp only [List.length_singleton] at hfilter
    omega
  | case5 => exact Nat.zero_le _

theorem length_digitsAt_le (cs : List Char) :
    ((digitsAt Char.isDigit cs).filter (· ≠ '_')).length ≤ digits cs := by
  unfold digitsAt
  split
  · exact length_digitRun_le cs
  · exact Nat.zero_le _

/-- A number of too many digits has them from the text. -/
theorem settles_decimal {room : Nat} {s : Cursor} {r : Except Fault (Value × Cursor)}
    (h : decimal? s = some r) : Settles room s.rest (fun r => Ahead s r.2) r := by
  unfold decimal? at h
  split at h
  rename_i sign negative signs hsign
  extract_lets body whole afterWhole fraction afterFraction count n places at h
  have hbody : Ahead s body := ahead_skip s signs
  have hcount : count > digitLimit → count ≤ digits body.rest := by
    intro hlong
    dsimp only [count, whole] at hlong ⊢
    split
    · rw [if_pos ‹_›] at hlong
      exact absurd hlong (by decide)
    · exact length_digitsAt_le body.rest
  have hfraction : Ahead s afterFraction := by
    dsimp only [afterFraction]
    split
    · exact hbody.trans (ahead_skip _ _)
    · exact hbody.trans ((ahead_skip _ _).trans (ahead_skip _ _))
  split at h
  · cases h
  · rcases exponent afterFraction.rest with ⟨below, power, width⟩
    dsimp only at h
    split at h
    · split at h
      · rename_i hlong
        cases h
        exact ⟨hlong, Nat.le_trans (hcount hlong) hbody.countP_le⟩
      · cases h
        exact hfraction.trans (ahead_skip _ _)
    · cases h
      exact hfraction.trans (ahead_skip _ _)

theorem ahead_radixInteger {s : Cursor} {r : Value × Cursor} (h : radixInteger? s = some r) :
    Ahead s r.2 := by
  unfold radixInteger? at h
  split at h
  · extract_lets radix ds at h
    split at h
    · cases h
    · cases h
      exact ahead_skip s _
  · cases h

theorem settles_dateTime {room : Nat} {s : Cursor} {r : Except Fault (Value × Cursor)}
    (h : dateTime? s = some r) : Settles room s.rest (fun r => Ahead s r.2) r := by
  unfold dateTime? at h
  rcases hday : date? s.rest with _ | day
  · rw [hday] at h
    cases h
  · rw [hday] at h
    dsimp only [bind, Option.bind] at h
    split at h
    · cases h
      exact settles_failAt
    · split at h
      · cases h
        exact ahead_skip s _
      · cases h
        exact ahead_skip s _

theorem forward_scalar : Forward scalar := by
  intro room s
  unfold scalar
  split
  · rename_i h
    exact settles_dateTime h
  · split
    · exact ahead_skip s _
    · split
      · rename_i h
        exact ahead_radixInteger h
      · split
        · rename_i h
          exact settles_decimal h
        · split
          · exact ahead_skip s _
          · exact settles_failAt

/-! ## Values -/

theorem settles_add {room : Nat} {cs : List Char} (t : Inline) (path : Path) (value : Value) (s : Cursor) :
    Settles room cs (fun _ => True) (t.add path value s) := by
  unfold Inline.add
  dsimp only
  split
  · exact settles_failAt
  · split
    · exact settles_failAt
    · split
      · exact settles_failAt
      · trivial

theorem openings_bracket {c : Char} {tail : List Char} (hc : c = '[' ∨ c = '\x7b') :
    openings (c :: tail) = openings tail + 1 := by
  refine List.countP_cons_of_pos ?_
  rcases hc with rfl | rfl
  · rfl
  · rfl

/-- What is too deep behind a bracket for the room that it leaves is so for the room with it. -/
theorem Settles.behind {α : Type} {room room' : Nat} {c : Char} {tail cs : List Char} {P : α → Prop}
    {r : Except Fault α} (h : Settles room' cs P r) (hcs : cs.Sublist tail)
    (hc : c = '[' ∨ c = '\x7b') (hroom : room ≤ room' + inlineRoom) : Settles room (c :: tail) P r := by
  cases r with
  | ok a => exact h
  | error f =>
    cases f with
    | «at» => trivial
    | tooManyDigits n => exact ⟨h.1, Nat.le_trans h.2 (hcs.cons c).countP_le⟩
    | tooDeep =>
      have hle := Nat.mul_le_mul_left inlineRoom (openings_mono hcs)
      have hdeep : room' < inlineRoom * openings cs := h
      show room < inlineRoom * openings (c :: tail)
      rw [openings_bracket hc, Nat.mul_add]
      omega

/-- A bracket that there is no room for is one that the text opens. -/
theorem within_bracket {room : Nat} {c : Char} {tail : List Char} (hc : c = '[' ∨ c = '\x7b')
    (hroom : room < inlineRoom) : Fault.Within room (c :: tail) .tooDeep := by
  show room < inlineRoom * openings (c :: tail)
  rw [openings_bracket hc, Nat.mul_add]
  omega

theorem rest_of_head? {s : Cursor} {c : Char} (h : s.head? = some c) : s.rest = c :: (s.skip 1).rest := by
  obtain ⟨position, cs⟩ := s
  cases cs with
  | nil => cases h
  | cons c' tail =>
    cases h
    rfl

section Values

variable {fuel : Nat}

theorem forward_readValue_succ (hitems : ∀ room read, ForwardIn room (readItems fuel room read))
    (hpairs : ∀ room t, ForwardIn room (readPairs fuel room t)) (room : Nat) :
    ForwardIn room (readValue (fuel + 1) room) := by
  intro s
  rw [readValue]
  split
  · exact (forward_stringValue _ room s).bind fun r hr => hr
  · exact (forward_stringValue _ room s).bind fun r hr => hr
  · rename_i hhead
    have hrest := rest_of_head? hhead
    split
    · rename_i hroom
      rw [hrest]
      exact within_bracket (.inl rfl) (Nat.lt_trans hroom (by decide))
    · rename_i hroom
      have hskip := ahead_skip s 1
      refine Settles.bind ((settles_filler room (s.skip 1)).mono hskip fun _ h => h) fun next hnext => ?_
      split
      · exact hskip.trans (hnext.trans (ahead_skip next 1))
      · refine Settles.mono (P := fun r => Ahead next r.2) ?_ (.refl _)
          fun _ h => hskip.trans (hnext.trans h)
        rw [hrest]
        refine (hitems (room - arrayRoom) [] next).behind hnext (.inl rfl) ?_
        unfold arrayRoom inlineRoom at *
        omega
  · rename_i hhead
    have hrest := rest_of_head? hhead
    split
    · rename_i hroom
      rw [hrest]
      exact within_bracket (.inr rfl) hroom
    · rename_i hroom
      have hskip := ahead_skip s 1
      have hnext := ahead_skipBlanks (s.skip 1)
      dsimp only
      split
      · exact hskip.trans (hnext.trans (ahead_skip _ 1))
      · refine Settles.mono (P := fun r => Ahead (skipBlanks (s.skip 1)) r.2) ?_ (.refl _)
          fun _ h => hskip.trans (hnext.trans h)
        rw [hrest]
        refine (hpairs (room - inlineRoom) {} _).behind hnext (.inr rfl) ?_
        omega
  · split
    · exact ahead_skip s 4
    · split
      · exact ahead_skip s 5
      · exact forward_scalar room s

theorem forward_readItems_succ (hvalue : ∀ room, ForwardIn room (readValue fuel room))
    (hitems : ∀ room read, ForwardIn room (readItems fuel room read)) (room : Nat) (read : List Value) :
    ForwardIn room (readItems (fuel + 1) room read) := by
  intro s
  rw [readItems]
  refine (hvalue room s).bind fun r hr => ?_
  dsimp only
  refine Settles.bind ((settles_filler room r.2).mono hr fun _ h => hr.trans h) fun next hnext => ?_
  split
  · exact hnext.trans (ahead_skip next 1)
  · have hskip := hnext.trans (ahead_skip next 1)
    refine Settles.bind ((settles_filler room (next.skip 1)).mono hskip fun _ h => hskip.trans h)
      fun last hlast => ?_
    split
    · exact hlast.trans (ahead_skip last 1)
    · exact (hitems room _ last).ahead hlast
  · exact settles_failAt

theorem forward_readPair_succ (hvalue : ∀ room, ForwardIn room (readValue fuel room)) (room : Nat) :
    ForwardIn room (readPair (fuel + 1) room) := by
  intro s
  rw [readPair]
  refine (forward_key room s).bind fun r hr => ?_
  dsimp only
  split
  · exact settles_failAt
  · have hnext := hr.trans ((ahead_skip r.2 1).trans (ahead_skipBlanks _))
    exact ((hvalue room _).ahead hnext).bind fun _ h => h

theorem forward_readPairs_succ (hpair : ∀ room, ForwardIn room (readPair fuel room))
    (hpairs : ∀ room t, ForwardIn room (readPairs fuel room t)) (room : Nat) (t : Inline) :
    ForwardIn room (readPairs (fuel + 1) room t) := by
  intro s
  rw [readPairs]
  refine (hpair room s).bind fun r hr => ?_
  dsimp only
  refine (settles_add t r.1.1 r.1.2 r.2).bind fun t' _ => ?_
  have hblanks := hr.trans (ahead_skipBlanks r.2)
  split
  · exact hblanks.trans (ahead_skip _ 1)
  · exact (hpairs room t' _).ahead (hblanks.trans ((ahead_skip _ 1).trans (ahead_skipBlanks _)))
  · exact settles_failAt

/-- Values, items and pairs are read forward. -/
theorem forward_values (fuel : Nat) :
    (∀ room, ForwardIn room (readValue fuel room)) ∧
    (∀ room read, ForwardIn room (readItems fuel room read)) ∧
    (∀ room, ForwardIn room (readPair fuel room)) ∧
    (∀ room t, ForwardIn room (readPairs fuel room t)) := by
  induction fuel with
  | zero =>
    refine ⟨fun _ _ => ?_, fun _ _ _ => ?_, fun _ _ => ?_, fun _ _ _ => ?_⟩
    · rw [readValue]
      exact settles_failAt
    · rw [readItems]
      exact settles_failAt
    · rw [readPair]
      exact settles_failAt
    · rw [readPairs]
      exact settles_failAt
  | succ fuel ih =>
    obtain ⟨hvalue, hitems, hpair, hpairs⟩ := ih
    exact ⟨forward_readValue_succ hitems hpairs, forward_readItems_succ hvalue hitems,
      forward_readPair_succ hvalue, forward_readPairs_succ hpair hpairs⟩

end Values

/-! ## Statements -/

section Statements

variable {room : Nat} {cs : List Char}

theorem settles_passThrough (s : Cursor) (paths : List Path) (d : Document) :
    Settles room cs (fun _ => True) (passThrough s paths d) := by
  induction paths generalizing d with
  | nil => trivial
  | cons path rest ih =>
    rw [passThrough]
    split
    · exact settles_failAt
    · exact ih _

theorem settles_documentAdd (d : Document) (header path : Path) (value : Value) (s : Cursor) :
    Settles room cs (fun _ => True) (d.add header path value s) := by
  unfold Document.add
  refine (settles_passThrough s _ d).bind fun d' _ => ?_
  split
  · exact settles_failAt
  · dsimp only
    split
    · exact settles_failAt
    · trivial

theorem settles_declare (d : Document) (path : Path) (s : Cursor) :
    Settles room cs (fun _ => True) (d.declare path s) := by
  unfold Document.declare
  split
  · exact settles_failAt
  · split
    · exact settles_failAt
    · trivial

theorem settles_append (d : Document) (path : Path) (s : Cursor) :
    Settles room cs (fun _ => True) (d.append path s) := by
  unfold Document.append
  split
  · exact settles_failAt
  · dsimp only
    split
    · exact settles_failAt
    · trivial

theorem settles_readHeader (d : Document) (s : Cursor) :
    Settles room s.rest (fun r => Ahead s r.2.2) (readHeader d s) := by
  unfold readHeader
  dsimp only
  split
  · have hkey := (ahead_skip s 2).trans (ahead_skipBlanks _)
    refine (forward_key.at room hkey).bind fun r hr => ?_
    refine (settles_append _ r.1 r.2).bind fun d' _ => ?_
    split
    · exact hr.trans (ahead_skip _ 2)
    · exact settles_failAt
  · have hkey := (ahead_skip s 1).trans (ahead_skipBlanks _)
    refine (forward_key.at room hkey).bind fun r hr => ?_
    refine (settles_declare _ r.1 r.2).bind fun d' _ => ?_
    split
    · exact hr.trans (ahead_skip _ 1)
    · exact settles_failAt

/-- Statements are read, or a fault comes up that the text can cause. -/
theorem settles_readStatements (fuel : Nat) (d : Document) (header : Path) (s : Cursor) :
    Settles nestingRoom s.rest (fun _ => True) (readStatements fuel d header s) := by
  induction fuel generalizing d header s with
  | zero => trivial
  | succ fuel ih =>
    rw [readStatements]
    refine Settles.from ?_ (ahead_skipBlanks s)
    generalize skipBlanks s = s
    have hnext : ∀ (d : Document) (header : Path) (next : Cursor), Ahead s next →
        Settles nestingRoom s.rest (fun _ => True) (readStatements fuel d header (next.skip 1)) :=
      fun d header next h => (ih d header _).from (h.trans (ahead_skip next 1))
    split
    · trivial
    · exact hnext d header s (.refl s)
    · rename_i c _ _
      extract_lets finish
      have hfinish : ∀ r : Document × Path × Cursor, Ahead s r.2.2 →
          Settles nestingRoom s.rest (fun _ => True) (finish r) := by
        intro r hr
        refine Settles.bind ((settles_skipComment _ r.2.2).mono hr fun _ h => hr.trans h)
          fun next hafter => ?_
        split
        · trivial
        · exact hnext r.1 r.2.1 next hafter
        · exact settles_failAt
      split
      · refine ((forward_values _).2.2.1 _ s).bind fun r hr => ?_
        exact (settles_documentAdd d header r.1.1 r.1.2 r.2).bind fun d' _ =>
          hfinish (d', header, skipBlanks r.2) (hr.trans (ahead_skipBlanks r.2))
      · split
        · exact (settles_readHeader d s).bind fun r hr =>
            hfinish (r.1, r.2.1, skipBlanks r.2.2) (hr.trans (ahead_skipBlanks r.2.2))
        · split
          · exact hfinish (d, header, s) (.refl s)
          · exact Settles.bind (P := fun _ => False) settles_failAt fun _ hnever => hnever.elim

end Statements

theorem sublist_unifyPairs (cs : List Char) : (unifyPairs cs).Sublist cs := by
  fun_induction unifyPairs cs with
  | case1 => exact .slnil
  | case2 rest ih => exact (ih.cons_cons '\n').cons '\r'
  | case3 c rest _ ih => exact ih.cons_cons c

/-- A text that is no document has a fault at a place, or the digits of a number that is too long, or opens
more brackets than there is room for. -/
theorem within_of_read {text : List Char} {f : Fault} (h : read text = .error f) :
    f.Within nestingRoom text := by
  have hread : Settles nestingRoom (unifyPairs text) (fun _ => True) (read text) :=
    (settles_readStatements _ {} [] (.start (unifyPairs text))).bind fun _ _ => trivial
  rw [h] at hread
  exact Fault.Within.mono hread (sublist_unifyPairs text)

end Localize.Toml
