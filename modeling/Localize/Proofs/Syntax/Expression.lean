/-
  Sources of one expression. Behind an operand no rule goes on where the source, the line or a pair of
  parentheses ends, so that the rules of every strength read just the operand (`bitOr_of_primary` up to
  `expression_of_primary`). So a source that is one string literal is read as a constant
  (`parseExpression_literal`).
-/
import Localize.Proofs.Syntax.Literal
import Localize.Syntax.Module

namespace Localize.Syntax

open Json (isClosed)

namespace Parse

/-- What is read first, and what is read behind it. -/
theorem bind_ok {α β : Type} {read : Parse α} {tokens rest : List Token} {a : α}
    (h : read tokens = .ok (a, rest)) (next : α → Parse β) : (read >>= next) tokens = next a rest := by
  simp only [bind, StateT.bind, h, Except.bind]

theorem lexeme_of {l : Lexeme} {tokens : List Token} (h : (tokens.headD noToken).lexeme = l) :
    lexeme tokens = .ok (l, tokens) := by rw [lexeme, h]

theorem sees_of_ne {l : Lexeme} {tokens : List Token} (h : (tokens.headD noToken).lexeme ≠ l) :
    sees l tokens = .ok (false, tokens) := by
  show Except.ok ((tokens.headD noToken).lexeme == l, tokens) = _
  rw [beq_false_of_ne h]

theorem accepts_of_ne {l : Lexeme} {tokens : List Token} (h : (tokens.headD noToken).lexeme ≠ l) :
    accepts l tokens = .ok (false, tokens) := by
  rw [accepts, bind_ok (sees_of_ne h)]
  rfl

theorem lexeme_cons (l : Lexeme) (start stop : Point) (rest : List Token) :
    lexeme (⟨l, start, stop⟩ :: rest) = .ok (l, ⟨l, start, stop⟩ :: rest) := rfl

theorem sees_cons (l : Lexeme) (start stop : Point) (rest : List Token) :
    sees l (⟨l, start, stop⟩ :: rest) = .ok (true, ⟨l, start, stop⟩ :: rest) := by
  show Except.ok (l == l, _) = _
  rw [beq_self_eq_true]

theorem accepts_cons (l : Lexeme) (start stop : Point) (rest : List Token) :
    accepts l (⟨l, start, stop⟩ :: rest) = .ok (true, rest) := by
  rw [accepts, bind_ok (sees_cons l start stop rest)]
  rfl

theorem expect_cons (l : Lexeme) (start stop : Point) (rest : List Token) :
    expect l (⟨l, start, stop⟩ :: rest) = .ok ((), rest) := by
  rw [expect, bind_ok (accepts_cons l start stop rest)]
  rfl

end Parse

/-- A word that is no keyword is another one than every keyword. -/
theorem ne_of_keyword {w k : String} (hw : isKeyword w = false) (hk : isKeyword k = true) : w ≠ k := by
  rintro rfl
  rw [hw] at hk
  cases hk

namespace Expression

open Parse

/-! ## Ends of operands -/

/-- What stands behind an operand where no operator goes on. -/
def Ends (l : Lexeme) : Prop := l = .finish ∨ l = .newline ∨ l = .symbol ")"

section Ends

variable {tokens rest : List Token} {node : Node} {operand : Parse Node}
  (hrest : Ends (rest.headD noToken).lexeme)

include hrest

theorem acceptsWord_ends (w : String) : acceptsWord w rest = .ok (false, rest) :=
  accepts_of_ne (by rcases hrest with h | h | h <;> rw [h] <;> nofun)

theorem acceptsSymbol_ends {s : String} (hs : s ≠ ")") : acceptsSymbol s rest = .ok (false, rest) :=
  accepts_of_ne (by
    rcases hrest with h | h | h <;> rw [h]
    · nofun
    · nofun
    · exact fun heq => hs (Lexeme.symbol.inj heq).symm)

/-- A chain of operators that no operator follows is its first operand. -/
theorem chain_ends (h : operand tokens = .ok (node, rest)) (rounds : Nat) (symbols : List String)
    (hsymbols : symbols.contains ")" = false) :
    chain rounds symbols operand tokens = .ok (node, rest) := by
  rw [chain, bind_ok h]
  cases rounds with
  | zero => rfl
  | succ rounds =>
    have hnone : operators symbols (rest.headD noToken).lexeme = none := by
      rcases hrest with h | h | h <;> rw [h]
      · rfl
      · rfl
      · exact if_neg (by rw [hsymbols]; exact Bool.false_ne_true)
    rw [chainFrom, bind_ok (lexeme_of rfl), hnone]
    rfl

theorem suffixesFrom_ends (r : Rules) (start : Point) (rounds : Nat) :
    suffixesFrom r start rounds node rest = .ok (node, rest) := by
  cases rounds with
  | zero => rfl
  | succ rounds =>
    rcases hrest with h | h | h <;>
    · rw [suffixesFrom, bind_ok (lexeme_of h)]
      rfl

theorem joinedFrom_ends (w : String) (rounds : Nat) (read : List Node) :
    joinedFrom w operand rounds read rest = .ok (read.reverse, rest) := by
  cases rounds with
  | zero => rfl
  | succ rounds =>
    rw [joinedFrom, bind_ok (acceptsWord_ends hrest w)]
    rfl

theorem wordChain_ends (h : operand tokens = .ok (node, rest)) (rounds : Nat) (w : String) :
    wordChain rounds w operand tokens = .ok (node, rest) := by
  rw [wordChain, bind_ok h, bind_ok (joinedFrom_ends hrest w rounds [node])]
  rfl

theorem comparisonsFrom_ends (rounds : Nat) :
    comparisonsFrom operand rounds [] [] rest = .ok (([], []), rest) := by
  cases rounds with
  | zero => rfl
  | succ rounds =>
    have hnone : comparison? rest = .ok (none, rest) := by
      rcases hrest with h | h | h <;>
      · rw [comparison?, bind_ok (lexeme_of h)]
        rfl
    rw [comparisonsFrom, bind_ok hnone]
    rfl

end Ends

/-! ## Operands that stand alone -/

/-- What an operand without an operator in front begins with. -/
def Begins (l : Lexeme) : Prop :=
  (∃ text, l = .quotation text) ∨ (∃ w, l = .word w ∧ isKeyword w = false) ∨ l = .symbol "("

section Operand

variable {r : Rules} {tokens rest : List Token} {node : Node}

theorem ne_word_of_begins {l : Lexeme} (h : Begins l) {w : String} (hw : isKeyword w = true) :
    l ≠ .word w := by
  rcases h with ⟨text, rfl⟩ | ⟨w', rfl, hw'⟩ | rfl
  · nofun
  · exact fun heq => ne_of_keyword hw' hw (Lexeme.word.inj heq)
  · nofun

/-- An atom behind which nothing is applied to it. -/
theorem primary_of_atom (hrest : Ends (rest.headD noToken).lexeme)
    (hatom : atom r tokens = .ok (node, rest)) : primary r tokens = .ok (node, rest) := by
  have hcurrent : current tokens = .ok (tokens.headD noToken, tokens) := rfl
  rw [primary, bind_ok hcurrent, bind_ok hatom]
  exact suffixesFrom_ends hrest r _ r.rounds

variable (hbegins : Begins (tokens.headD noToken).lexeme) (hrest : Ends (rest.headD noToken).lexeme)
  (hprimary : primary r tokens = .ok (node, rest))

include hbegins hrest hprimary

theorem bitOr_of_primary : bitOr r tokens = .ok (node, rest) := by
  have hawaited : awaited r tokens = .ok (node, rest) := by
    rw [awaited, acceptsWord, bind_ok (accepts_of_ne (ne_word_of_begins hbegins (by decide)))]
    exact hprimary
  have hpower : power r tokens = .ok (node, rest) := by
    rw [power, bind_ok hawaited, bind_ok (acceptsSymbol_ends hrest (by decide))]
    rfl
  have hfactor : factor r tokens = .ok (node, rest) := by
    rcases hbegins with ⟨text, h⟩ | ⟨w, h, -⟩ | h <;>
    · rw [factor, bind_ok (lexeme_of h)]
      exact hpower
  have hterm := chain_ends hrest hfactor r.rounds ["*", "/", "//", "%", "@"] rfl
  have harithmetic := chain_ends hrest hterm r.rounds ["+", "-"] rfl
  have hshift := chain_ends hrest harithmetic r.rounds ["<<", ">>"] rfl
  have hbitAnd := chain_ends hrest hshift r.rounds ["&"] rfl
  have hbitXor := chain_ends hrest hbitAnd r.rounds ["^"] rfl
  exact chain_ends hrest hbitXor r.rounds ["|"] rfl

theorem disjunction_of_primary : disjunction r tokens = .ok (node, rest) := by
  have hcomparison : comparison r tokens = .ok (node, rest) := by
    rw [comparison, bind_ok (bitOr_of_primary hbegins hrest hprimary),
      bind_ok (comparisonsFrom_ends hrest r.rounds)]
    rfl
  have hinversion : inversion r tokens = .ok (node, rest) := by
    rw [inversion, acceptsWord, bind_ok (accepts_of_ne (ne_word_of_begins hbegins (by decide)))]
    exact hcomparison
  have hconjunction := wordChain_ends hrest hinversion r.rounds "and"
  exact wordChain_ends hrest hconjunction r.rounds "or"

/-- An operand that stands alone is read as what it is. -/
theorem expression_of_primary : expression r tokens = .ok (node, rest) := by
  rw [expression, seesWord, bind_ok (sees_of_ne (ne_word_of_begins hbegins (by decide)))]
  show (disjunction r >>= _) tokens = _
  rw [bind_ok (disjunction_of_primary hbegins hrest hprimary), bind_ok (acceptsWord_ends hrest _)]
  rfl

end Operand

/-! ## Constants -/

/-- The tokens of a literal and what follows it. -/
def quoted (text : List Char) (start stop : Point) (rest : List Token) : List Token :=
  ⟨.quotation text, start, stop⟩ :: rest

/-- Literals end where no token follows them. -/
theorem quotationsFrom_ends {rest : List Token} (hrest : Ends (rest.headD noToken).lexeme)
    (rounds : Nat) (read : List Quotation) :
    quotationsFrom rounds read rest = .ok (read.reverse, rest) := by
  cases rounds with
  | zero => rfl
  | succ rounds =>
    have hcurrent : current rest = .ok (rest.headD noToken, rest) := rfl
    rw [quotationsFrom, bind_ok hcurrent]
    rcases hhead : rest.headD noToken with ⟨l, start, stop⟩
    rw [hhead] at hrest
    rcases hrest with rfl | rfl | rfl <;> rfl

/-- A literal without a prefix is a constant, of what its escapes denote. -/
theorem atom_literal {body cs : List Char} (hclosed : isClosed body) (hcs : unescape body = some cs)
    {r : Rules} (hrounds : 0 < r.rounds) (start stop : Point) {rest : List Token}
    (hrest : Ends (rest.headD noToken).lexeme) :
    atom r (quoted ('"' :: (body ++ ['"'])) start stop rest) =
      .ok (.text (String.ofList cs), rest) := by
  obtain ⟨rounds, hsucc⟩ : ∃ rounds, r.rounds = rounds + 1 :=
    Nat.exists_eq_succ_of_ne_zero (Nat.ne_of_gt hrounds)
  have hquotations : quotationsFrom r.rounds [] (quoted ('"' :: (body ++ ['"'])) start stop rest) =
      .ok ([⟨false, false, false, body, start.after ['"']⟩], rest) := by
    rw [hsucc, ← quotation_of hclosed start]
    exact quotationsFrom_ends hrest rounds [_]
  have hadd : addQuotation r {} ⟨false, false, false, body, start.after ['"']⟩ rest =
      .ok (Joined.add {} cs, rest) := by
    have hchars : pieceChars false body rest = .ok (cs, rest) := by
      simp only [pieceChars, hcs]
      rfl
    show (pieceChars false body >>= fun cs => pure (Joined.add {} cs)) rest = _
    rw [bind_ok hchars]
    rfl
  show strings r (quoted ('"' :: (body ++ ['"'])) start stop rest) = _
  rw [strings, bind_ok hquotations]
  show ((addQuotation r {} _ >>= pure) >>= _) rest = _
  have hjoined : (addQuotation r {} ⟨false, false, false, body, start.after ['"']⟩ >>= pure) rest =
      .ok (Joined.add {} cs, rest) := by
    rw [bind_ok hadd]
    rfl
  rw [bind_ok hjoined]
  simp only [Joined.add, List.append_nil, List.reverse_reverse]
  rfl

/-- A literal that stands alone is read as a constant, of what its escapes denote. -/
theorem expression_literal {body cs : List Char} (hclosed : isClosed body)
    (hcs : unescape body = some cs) {r : Rules} (hrounds : 0 < r.rounds) (start stop : Point)
    {rest : List Token} (hrest : Ends (rest.headD noToken).lexeme) :
    expression r (quoted ('"' :: (body ++ ['"'])) start stop rest) =
      .ok (.text (String.ofList cs), rest) :=
  expression_of_primary (.inl ⟨_, rfl⟩) hrest
    (primary_of_atom hrest (atom_literal hclosed hcs hrounds start stop hrest))

end Expression

open Expression Parse

theorem rules_rounds (rounds levels : Nat) : (rules rounds levels).rounds = rounds := by
  induction levels with
  | zero => rfl
  | succ levels ih => exact ih

theorem unifyNewlines_of_not_mem {text : List Char} (h : '\r' ∉ text) : unifyNewlines text = text := by
  fun_induction unifyNewlines text with
  | case1 => rfl
  | case2 rest ih => exact absurd List.mem_cons_self h
  | case3 c rest _ ih =>
    rw [List.mem_cons, not_or] at h
    rw [ih h.2, if_neg (Ne.symm h.1)]

theorem skipNewlines_finish {rest : List Token} (hrest : (rest.headD noToken).lexeme = .finish)
    (rounds : Nat) : skipNewlines rounds rest = .ok ((), rest) := by
  cases rounds with
  | zero => rfl
  | succ rounds =>
    rw [skipNewlines, bind_ok (accepts_of_ne (by rw [hrest]; nofun))]
    rfl

/-- What is read is the tree, where it is not too deep. -/
theorem treeOf_ok {lexed : Lexed} {construct : Mistake.Construct} {read : Rules → Parse Node}
    {node : Node}
    (h : ∃ rest, read (rules (lexed.tokens.length + 1) depthLimit) lexed.tokens = .ok (node, rest))
    (hdepth : node.exceeds depthLimit = false) : treeOf lexed construct read = .ok node := by
  obtain ⟨rest, h⟩ := h
  unfold treeOf
  simp only [h, hdepth]
  rfl

/-- A source that is one literal is read as a constant, of what its escapes denote. -/
theorem parseExpression_literal {body cs : List Char} (hclosed : isClosed body)
    (hline : '\n' ∉ body) (hreturn : '\r' ∉ body) (hcs : unescape body = some cs) :
    parseExpression ('"' :: (body ++ ['"'])) = .ok (.text (String.ofList cs)) := by
  have hunified : unifyNewlines ('"' :: (body ++ ['"'])) = '"' :: (body ++ ['"']) :=
    unifyNewlines_of_not_mem (by simp [hreturn])
  obtain ⟨stop, htokens⟩ := lexAt_literal hclosed hline ⟨1, 0⟩
  rw [parseExpression, hunified]
  refine treeOf_ok ⟨[], ?_⟩ rfl
  rw [htokens]
  generalize hrules : rules 3 depthLimit = r
  have hread : r.expression (quoted ('"' :: (body ++ ['"'])) ⟨1, 0⟩ stop [⟨.finish, stop, stop⟩]) =
      .ok (.text (String.ofList cs), [⟨.finish, stop, stop⟩]) := by
    rw [← hrules]
    exact expression_literal (r := rules 3 (depthLimit - 1)) hclosed hcs
      (by rw [rules_rounds]; decide) _ _ (.inl rfl)
  show (r.expression >>= _) (quoted _ _ _ _) = _
  rw [bind_ok hread]
  have hcomma : seesSymbol "," [⟨.finish, stop, stop⟩] = .ok (false, [⟨.finish, stop, stop⟩]) :=
    sees_of_ne nofun
  rw [bind_ok hcomma, if_neg Bool.false_ne_true, pure_bind]
  show (skipNewlines r.rounds >>= _) _ = _
  rw [bind_ok (skipNewlines_finish rfl r.rounds)]
  rfl

end Localize.Syntax
