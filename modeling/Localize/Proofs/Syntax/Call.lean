/-
  Modules of one call of a name with one string literal. Their tokens are those of the parts
  (`lexAt_call`), and they are read as a call of the composed form of the name (`parseModule_call`), also
  where the name is one that can begin a statement of its own.
-/
import Localize.Proofs.Syntax.Expression
import Localize.Proofs.Syntax.Identifier

namespace Localize.Syntax

open Json (isClosed)
open Text (isIdentifier isIdentifierStart)

/-! ## Tokens -/

/-- A call of a name with a literal, in front of other characters. -/
def callText (word body rest : List Char) : List Char := word ++ '(' :: '"' :: (body ++ '"' :: ')' :: rest)

theorem callText_append (word body rest : List Char) :
    callText word body rest = callText word body [] ++ rest := by simp [callText]

/-- The tokens of a call that is a line. -/
def callTokens (word body : List Char) (p : Point) : List Token :=
  let opening := p.after word
  let inner := opening.after ['(']
  let behind := inner.after ('"' :: (body ++ ['"']))
  let stop := behind.after [')']
  [⟨.word (String.ofList word), p, opening⟩, ⟨.symbol "(", opening, inner⟩,
    ⟨.quotation ('"' :: (body ++ ['"'])), inner, behind⟩, ⟨.symbol ")", behind, stop⟩,
    ⟨.newline, stop, stop.after ['\n']⟩, ⟨.finish, stop, stop⟩]

/-- A line that a word begins is not indented. -/
theorem readFrom_lineStart {c : Char} (hc : startsWord c = true) (tail : List Char) (p : Point)
    (fuel : Nat) :
    readFrom (fuel + 1) true ⟨c :: tail, p, p, [(0, 0)], [], [], []⟩ =
      readFrom fuel false ⟨c :: tail, p, p, [(0, 0)], [], [], []⟩ := by
  have hne := fun d (hd : continuesWord d = false) =>
    ne_of_continuesWord (continuesWord_of_startsWord hc) hd
  have hspace := hne ' ' (by decide)
  have htab := hne '\t' (by decide)
  have hform := hne '\x0c' (by decide)
  have hslash := hne '\\' (by decide)
  have hcomment := hne '#' (by decide)
  have hfeed := hne '\n' (by decide)
  have hmeasure : measure 0 0 0 p (c :: tail) = .ok ⟨0, 0, 0, p, c :: tail⟩ := by
    simp [measure, hspace, htab, hform, hslash]
  rw [readFrom, hmeasure]
  dsimp only
  rw [if_neg (by simpa using hcomment)]
  split
  · rename_i heq
    exact absurd (List.cons.inj heq).1 hfeed
  · rename_i heq
    cases heq
  · rfl

theorem readFrom_opening (tail : List Char) (p q : Point) (tokens : List Token) (fuel : Nat) :
    readFrom (fuel + 1) false ⟨'(' :: '"' :: tail, p, q, [(0, 0)], [], [], tokens⟩ =
      readFrom fuel false ⟨'"' :: tail, p.after ['('], q, [(0, 0)], [('(', p)], [],
        ⟨.symbol "(", p, p.after ['(']⟩ :: tokens⟩ := by
  have hnone : literalPrefix? ('(' :: '"' :: tail) = none := by
    rcases tail with _ | ⟨r, tail⟩
    · rfl
    · show (if isQuote r && false then _ else none) = _
      rw [Bool.and_false]
      rfl
  rw [readFrom_token rfl ⟨rfl, by decide, by decide, by decide⟩, readToken]
  dsimp only
  rw [hnone]
  rfl

theorem readFrom_closing (p q b : Point) (tokens : List Token) (fuel : Nat) :
    readFrom (fuel + 1) false ⟨[')', '\n'], p, q, [(0, 0)], [('(', b)], [], tokens⟩ =
      readFrom fuel false ⟨['\n'], p.after [')'], q, [(0, 0)], [], [],
        ⟨.symbol ")", p, p.after [')']⟩ :: tokens⟩ := by
  rw [readFrom_token rfl ⟨rfl, by decide, by decide, by decide⟩]
  rfl

theorem lexAt_call {word body : List Char} (hword : isIdentifier word = true) (hclosed : isClosed body)
    (hline : '\n' ∉ body) (p : Point) :
    (lexAt true p (callText word body ['\n'])).tokens = callTokens word body p := by
  obtain ⟨c, rest, hcons, hstart, -⟩ := exists_cons_of_isIdentifier hword
  obtain ⟨fuel, hfuel⟩ : ∃ fuel, 2 * (callText word body ['\n']).length + 2 = fuel + 7 :=
    ⟨2 * (callText word body ['\n']).length - 5, by rw [hcons, callText]; simp; omega⟩
  have hline' : readFrom (fuel + 7) true ⟨callText word body ['\n'], p, p, [(0, 0)], [], [], []⟩ =
      readFrom (fuel + 6) false ⟨callText word body ['\n'], p, p, [(0, 0)], [], [], []⟩ := by
    rw [hcons]
    exact readFrom_lineStart (startsWord_of_identifierStart hstart) _ p (fuel + 6)
  have hscan := fun q => scanLiteral_closed hclosed hline q [')', '\n'] nofun
  rw [lexAt, hfuel, hline', readFrom_name hword rfl, Reading.push, readFrom_opening,
    readFrom_literal rfl (hscan _), Reading.push, readFrom_closing]
  rfl

/-! ## Expressions -/

namespace Parse

theorem bind_error {α β : Type} {read : Parse α} {tokens : List Token} {f : Failure}
    (h : read tokens = .error f) (next : α → Parse β) : (read >>= next) tokens = .error f := by
  simp only [bind, StateT.bind, h, Except.bind]

theorem expect_of_ne {l : Lexeme} {tokens : List Token} (h : (tokens.headD noToken).lexeme ≠ l) :
    ∃ f, expect l tokens = .error f := by
  rw [expect, bind_ok (accepts_of_ne h)]
  exact ⟨_, rfl⟩

theorem orElse_of_error {α : Type} {first second : Parse α} {tokens : List Token} {f : Failure}
    (h : first tokens = .error f) : orElse first second tokens = second tokens := by
  rw [orElse, h]

theorem map_ok {α β : Type} {read : Parse α} {tokens rest : List Token} {a : α}
    (h : read tokens = .ok (a, rest)) (f : α → β) : (f <$> read) tokens = .ok (f a, rest) := by
  simp only [Functor.map, StateT.map, h, bind, Except.bind, pure, Except.pure]

theorem map_error {α β : Type} {read : Parse α} {tokens : List Token} {e : Failure}
    (h : read tokens = .error e) (f : α → β) : (f <$> read) tokens = .error e := by
  simp only [Functor.map, StateT.map, h, bind, Except.bind]

end Parse

namespace Expression

open Parse

/-- A name is read in its composed form. -/
theorem atom_name {w : String} (hw : isKeyword w = false) (r : Rules) (start stop : Point)
    (rest : List Token) : atom r (⟨.word w, start, stop⟩ :: rest) = .ok (.name (composed w), rest) := by
  have hconstant : ["None", "True", "False"].contains w = false := by
    have hnone : w ≠ "None" := ne_of_keyword hw (by decide)
    have htrue : w ≠ "True" := ne_of_keyword hw (by decide)
    have hfalse : w ≠ "False" := ne_of_keyword hw (by decide)
    simp [hnone, htrue, hfalse]
  have hidentifier : identifier (⟨.word w, start, stop⟩ :: rest) = .ok (composed w, rest) := by
    rw [identifier, bind_ok (lexeme_cons _ _ _ _)]
    dsimp only
    rw [hw, if_neg Bool.false_ne_true]
    rfl
  rw [atom, bind_ok (lexeme_cons _ _ _ _)]
  dsimp only
  rw [hconstant, if_neg Bool.false_ne_true, bind_ok hidentifier]
  rfl

/-- The tokens of a literal and of the parenthesis that closes behind it. -/
def enclosed (text : List Char) (start behind stop : Point) (rest : List Token) : List Token :=
  quoted text start behind (⟨.symbol ")", behind, stop⟩ :: rest)

section Enclosed

variable {r : Rules} {text : List Char} {start behind stop : Point} {node : Node} {rest : List Token}

theorem seesSymbol_enclosed (s : String) :
    seesSymbol s (enclosed text start behind stop rest) =
      .ok (false, enclosed text start behind stop rest) := sees_of_ne nofun

theorem acceptsSymbol_enclosed (s : String) :
    acceptsSymbol s (enclosed text start behind stop rest) =
      .ok (false, enclosed text start behind stop rest) := accepts_of_ne nofun

theorem seesLoop_closing :
    seesLoop (⟨.symbol ")", behind, stop⟩ :: rest) =
      .ok (false, ⟨.symbol ")", behind, stop⟩ :: rest) := rfl

variable (hread : r.expression (enclosed text start behind stop rest) =
  .ok (node, ⟨.symbol ")", behind, stop⟩ :: rest))

include hread

theorem named_enclosed :
    named r (enclosed text start behind stop rest) = .ok (node, ⟨.symbol ")", behind, stop⟩ :: rest) :=
  hread

theorem argumentsFrom_enclosed (generator : Bool) (rounds : Nat) :
    argumentsFrom r generator (rounds + 1) {} (enclosed text start behind stop rest) =
      .ok ({ positional := [node] }, ⟨.symbol ")", behind, stop⟩ :: rest) := by
  have hidentifier : seesIdentifier (enclosed text start behind stop rest) =
      .ok (false, enclosed text start behind stop rest) := rfl
  have hbehind : lexemeBehind (enclosed text start behind stop rest) =
      .ok (.symbol ")", enclosed text start behind stop rest) := rfl
  have hcomma : acceptsSymbol "," (⟨.symbol ")", behind, stop⟩ :: rest) =
      .ok (false, ⟨.symbol ")", behind, stop⟩ :: rest) := rfl
  rw [argumentsFrom, bind_ok (seesSymbol_enclosed _)]
  dsimp only
  rw [if_neg Bool.false_ne_true, bind_ok (acceptsSymbol_enclosed _), if_neg Bool.false_ne_true,
    bind_ok (seesSymbol_enclosed _), if_neg Bool.false_ne_true, bind_ok hidentifier, bind_ok hbehind,
    Bool.false_and, if_neg Bool.false_ne_true, Bool.false_or, if_neg Bool.false_ne_true,
    bind_ok (named_enclosed hread), bind_ok seesLoop_closing, if_neg Bool.false_ne_true, bind_ok hcomma,
    if_neg Bool.false_ne_true, seesSymbol, bind_ok (sees_cons _ _ _ _), if_pos rfl]
  rfl

/-- One argument between parentheses. -/
theorem arguments_enclosed (hrounds : 0 < r.rounds) (generator : Bool) (opening inner : Point) :
    arguments r generator (⟨.symbol "(", opening, inner⟩ :: enclosed text start behind stop rest) =
      .ok (([node], [], stop), rest) := by
  obtain ⟨rounds, hsucc⟩ : ∃ rounds, r.rounds = rounds + 1 :=
    Nat.exists_eq_succ_of_ne_zero (Nat.ne_of_gt hrounds)
  have hcurrent : current (⟨.symbol ")", behind, stop⟩ :: rest) =
      .ok (⟨.symbol ")", behind, stop⟩, ⟨.symbol ")", behind, stop⟩ :: rest) := rfl
  have hfrom := argumentsFrom_enclosed hread generator rounds
  rw [← hsucc] at hfrom
  rw [arguments, symbol, bind_ok (expect_cons _ _ _ _), bind_ok hfrom, bind_ok hcurrent, symbol,
    bind_ok (expect_cons _ _ _ _)]
  rfl

/-- One expression between parentheses is read as it is. -/
theorem atom_parenthesized (opening inner : Point) :
    atom r (⟨.symbol "(", opening, inner⟩ :: enclosed text start behind stop rest) =
      .ok (node, rest) := by
  have hyield : seesWord "yield" (enclosed text start behind stop rest) =
      .ok (false, enclosed text start behind stop rest) := sees_of_ne nofun
  have helement : element r (enclosed text start behind stop rest) =
      .ok (node, ⟨.symbol ")", behind, stop⟩ :: rest) := by
    rw [element, starOr, bind_ok (acceptsSymbol_enclosed _)]
    exact named_enclosed hread
  have hcomma : seesSymbol "," (⟨.symbol ")", behind, stop⟩ :: rest) =
      .ok (false, ⟨.symbol ")", behind, stop⟩ :: rest) := rfl
  show parenthesized r (enclosed text start behind stop rest) = _
  rw [parenthesized, bind_ok (acceptsSymbol_enclosed _), if_neg Bool.false_ne_true, bind_ok hyield,
    if_neg Bool.false_ne_true, bind_ok (seesSymbol_enclosed _), bind_ok helement, bind_ok hcomma,
    if_neg Bool.false_ne_true, if_neg Bool.false_ne_true, bind_ok seesLoop_closing,
    if_neg Bool.false_ne_true, symbol, bind_ok (expect_cons _ _ _ _)]
  rfl

theorem expression_parenthesized (hrest : Ends (rest.headD noToken).lexeme) (opening inner : Point) :
    expression r (⟨.symbol "(", opening, inner⟩ :: enclosed text start behind stop rest) =
      .ok (node, rest) :=
  expression_of_primary (.inr (.inr rfl)) hrest
    (primary_of_atom hrest (atom_parenthesized hread opening inner))

/-- A name in front of parentheses is a call of its composed form. -/
theorem expression_call {w : String} (hw : isKeyword w = false) (hrounds : 0 < r.rounds)
    (hrest : Ends (rest.headD noToken).lexeme) (p q opening inner : Point) :
    expression r (⟨.word w, p, q⟩ :: ⟨.symbol "(", opening, inner⟩ ::
        enclosed text start behind stop rest) =
      .ok (.call (.name (composed w)) [node] [] ⟨p, stop⟩, rest) := by
  refine expression_of_primary (.inr (.inl ⟨w, rfl, hw⟩)) hrest ?_
  obtain ⟨rounds, hsucc⟩ : ∃ rounds, r.rounds = rounds + 1 :=
    Nat.exists_eq_succ_of_ne_zero (Nat.ne_of_gt hrounds)
  have hatom := atom_name hw r p q (⟨.symbol "(", opening, inner⟩ :: enclosed text start behind stop rest)
  have hcurrent : current (⟨.word w, p, q⟩ :: ⟨.symbol "(", opening, inner⟩ ::
      enclosed text start behind stop rest) = .ok (⟨.word w, p, q⟩, _) := rfl
  rw [primary, bind_ok hcurrent, bind_ok hatom, hsucc, suffixesFrom, bind_ok (lexeme_cons _ _ _ _)]
  show (arguments r true >>= _) _ = _
  rw [bind_ok (arguments_enclosed hread hrounds true opening inner)]
  exact suffixesFrom_ends hrest r p rounds

end Enclosed

end Expression

namespace Statement

open Parse Expression

/-! ## Statements -/

section Line

variable {r : Rules} {w : String} {p q n n' : Point} {tail rest : List Token} {node : Node}

theorem seesSymbol_newline (s : String) (n n' : Point) (rest : List Token) :
    seesSymbol s (⟨.newline, n, n'⟩ :: rest) = .ok (false, ⟨.newline, n, n'⟩ :: rest) := sees_of_ne nofun

/-- An expression that is a line is a statement of its own. -/
theorem expressionStmt_call (hw : isKeyword w = false) (hrounds : 0 < r.rounds)
    (hread : r.expression (⟨.word w, p, q⟩ :: tail) = .ok (node, ⟨.newline, n, n'⟩ :: rest)) :
    expressionStmt r (⟨.word w, p, q⟩ :: tail) =
      .ok (.form .exprStmt [node], ⟨.newline, n, n'⟩ :: rest) := by
  obtain ⟨rounds, hsucc⟩ : ∃ rounds, r.rounds = rounds + 1 :=
    Nat.exists_eq_succ_of_ne_zero (Nat.ne_of_gt hrounds)
  have hsees := fun s => seesSymbol_newline s n n' rest
  have hright : rightSide r (⟨.word w, p, q⟩ :: tail) = .ok (node, ⟨.newline, n, n'⟩ :: rest) := by
    have hyield : seesWord "yield" (⟨.word w, p, q⟩ :: tail) = .ok (false, ⟨.word w, p, q⟩ :: tail) :=
      sees_of_ne fun heq => ne_of_keyword hw (by decide) (Lexeme.word.inj heq)
    have hstar : acceptsSymbol "*" (⟨.word w, p, q⟩ :: tail) = .ok (false, ⟨.word w, p, q⟩ :: tail) :=
      accepts_of_ne nofun
    have hitem : starOr r.expression r.bitOr (⟨.word w, p, q⟩ :: tail) =
        .ok (node, ⟨.newline, n, n'⟩ :: rest) := by
      rw [starOr, bind_ok hstar]
      exact hread
    rw [rightSide, bind_ok hyield, if_neg Bool.false_ne_true, expressions, bind_ok hitem,
      bind_ok (hsees _)]
    rfl
  have hidentifier : seesIdentifier (⟨.word w, p, q⟩ :: tail) =
      .ok (!isKeyword w, ⟨.word w, p, q⟩ :: tail) := rfl
  have hbehind : lexemeBehind (⟨.word w, p, q⟩ :: tail) =
      .ok ((tail.headD noToken).lexeme, ⟨.word w, p, q⟩ :: tail) := rfl
  rw [expressionStmt, bind_ok hidentifier, bind_ok hbehind, bind_ok hright,
    bind_ok (lexeme_cons _ _ _ _)]
  dsimp only
  rw [hsucc, assignedFrom, bind_ok (hsees _)]
  rfl

theorem simple_call (hw : isKeyword w = false) :
    simple r (⟨.word w, p, q⟩ :: tail) = expressionStmt r (⟨.word w, p, q⟩ :: tail) := by
  rw [simple, bind_ok (lexeme_cons _ _ _ _)]
  refine congrFun ?_ _
  split
  all_goals
    first
    | exact absurd (Lexeme.word.inj ‹_›) (ne_of_keyword hw (by decide))
    | rfl

theorem lineFrom_call (hw : isKeyword w = false) (hrounds : 0 < r.rounds)
    (hread : r.expression (⟨.word w, p, q⟩ :: tail) = .ok (node, ⟨.newline, n, n'⟩ :: rest)) :
    lineFrom r r.rounds [] (⟨.word w, p, q⟩ :: tail) = .ok ([.form .exprStmt [node]], rest) := by
  obtain ⟨rounds, hsucc⟩ : ∃ rounds, r.rounds = rounds + 1 :=
    Nat.exists_eq_succ_of_ne_zero (Nat.ne_of_gt hrounds)
  have hsimple := (simple_call hw).trans (expressionStmt_call hw hrounds hread)
  rw [hsucc, lineFrom, bind_ok hsimple, bind_ok (accepts_cons _ _ _ _)]
  rfl

/-- A line that goes on with parentheses behind `match` has no subject of a match statement, as no
colon ends it. -/
theorem matchSubject_call {inner : Node} (hread : r.expression (⟨.symbol "(", p, q⟩ :: tail) =
    .ok (inner, ⟨.newline, n, n'⟩ :: rest)) (a b : Point) :
    ∃ f, matchSubject r (⟨.word "match", a, b⟩ :: ⟨.symbol "(", p, q⟩ :: tail) = .error f := by
  have hstarred : seesSymbol "*" (⟨.symbol "(", p, q⟩ :: tail) =
      .ok (false, ⟨.symbol "(", p, q⟩ :: tail) := rfl
  have helement : element r (⟨.symbol "(", p, q⟩ :: tail) = .ok (inner, ⟨.newline, n, n'⟩ :: rest) := hread
  have hcolon : (((⟨.newline, n, n'⟩ :: rest : List Token)).headD noToken).lexeme ≠ .symbol ":" := nofun
  obtain ⟨f, hf⟩ := expect_of_ne hcolon
  refine ⟨f, ?_⟩
  rw [matchSubject, word, bind_ok (expect_cons _ _ _ _), bind_ok hstarred, bind_ok helement,
    bind_ok (seesSymbol_newline _ _ _ _), if_neg Bool.false_ne_true, if_neg Bool.false_ne_true, pure_bind]
  exact bind_error hf _

/-- A line that a call makes up is a statement, whatever its name is. -/
theorem statement_call {inner : Node} (hw : isKeyword w = false) (hrounds : 0 < r.rounds) {a b : Point}
    (hread : r.expression (⟨.word w, a, b⟩ :: ⟨.symbol "(", p, q⟩ :: tail) =
      .ok (node, ⟨.newline, n, n'⟩ :: rest))
    (hinner : r.expression (⟨.symbol "(", p, q⟩ :: tail) = .ok (inner, ⟨.newline, n, n'⟩ :: rest))
    (block : Statements) :
    statement r block (⟨.word w, a, b⟩ :: ⟨.symbol "(", p, q⟩ :: tail) =
      .ok ([.form .exprStmt [node]], rest) := by
  have hline := lineFrom_call hw hrounds hread
  by_cases hmatch : w = "match"
  · obtain ⟨f, hf⟩ := matchSubject_call hinner a b
    subst hmatch
    show matchOrSimple r block _ = _
    rw [matchOrSimple, bind_ok ((orElse_of_error (map_error hf _)).trans (map_ok hline Sum.inr))]
    rfl
  · rw [← hline, statement, bind_ok (lexeme_cons _ _ _ _)]
    refine congrFun ?_ _
    split
    all_goals
      first
      | exact absurd (Lexeme.word.inj ‹_›) (ne_of_keyword hw (by decide))
      | exact absurd (Lexeme.word.inj ‹_›) hmatch
      | exact nomatch ‹Lexeme.word w = .symbol "@"›
      | rfl

end Line

end Statement

open Expression Parse

/-! ## Modules -/

/-- The tree of a module that is a call of a name with one constant. -/
def callTree (name value : String) (span : Span) : Node :=
  .form .module [.form .exprStmt [.call (.name name) [.text value] [] span]]

/-- The tokens of a call that is a line are read as a module of this call. -/
theorem module_callTokens {word body cs : List Char} (hkeyword : isKeyword (String.ofList word) = false)
    (hclosed : isClosed body) (hcs : unescape body = some cs) {rounds : Nat} (hrounds : 0 < rounds)
    (levels blocks : Nat) (p : Point) :
    Statement.module (rules rounds (levels + 2)) (blocks + 1) (callTokens word body p) =
      .ok (callTree (composed (String.ofList word)) (String.ofList cs)
        ⟨p, p.after (callText word body [])⟩, []) := by
  obtain ⟨fuel, rfl⟩ : ∃ fuel, rounds = fuel + 1 := Nat.exists_eq_succ_of_ne_zero (Nat.ne_of_gt hrounds)
  have hpositive : ∀ n, 0 < (rules (fuel + 1) n).rounds := fun n => by rw [rules_rounds]; exact hrounds
  let text := '"' :: (body ++ ['"'])
  let opening := p.after word
  let inner := opening.after ['(']
  let behind := inner.after text
  let stop := behind.after [')']
  let rest : List Token := [⟨.newline, stop, stop.after ['\n']⟩, ⟨.finish, stop, stop⟩]
  have hstop : stop = p.after (callText word body []) := by
    simp only [stop, behind, inner, opening, text, ← Point.after_append, callText, List.append_assoc,
      List.cons_append, List.nil_append]
  have hliteral : (rules (fuel + 1) (levels + 1)).expression (enclosed text inner behind stop rest) =
      .ok (.text (String.ofList cs), ⟨.symbol ")", behind, stop⟩ :: rest) :=
    expression_literal hclosed hcs (hpositive levels) inner behind (.inr (.inr rfl))
  have hnewline : Ends (rest.headD noToken).lexeme := .inr (.inl rfl)
  have hcall := expression_call hliteral hkeyword (hpositive _) hnewline p opening opening inner
  have hinner := expression_parenthesized hliteral hnewline opening inner
  have hstatement := Statement.statement_call (r := rules (fuel + 1) (levels + 2)) hkeyword
    (hpositive _) hcall hinner (Statement.statements (rules (fuel + 1) (levels + 2)) blocks)
  have hbody : Statement.statements (rules (fuel + 1) (levels + 2)) (blocks + 1) (callTokens word body p) =
      .ok ([.form .exprStmt [.call (.name (composed (String.ofList word)))
        [.text (String.ofList cs)] [] ⟨p, stop⟩]], [⟨.finish, stop, stop⟩]) := by
    rw [Statement.statements, rules_rounds, Statement.statementsFrom]
    exact (bind_ok hstatement _).trans rfl
  have hfinish : sees .finish (callTokens word body p) = .ok (false, callTokens word body p) :=
    sees_of_ne nofun
  rw [Statement.module, bind_ok hfinish, if_neg Bool.false_ne_true, bind_ok hbody,
    bind_ok (expect_cons _ _ _ _), hstop]
  rfl

/-- Behind a call the text of a module ends with its line. -/
theorem moduleText_call {word body ending : List Char} (hreturn : '\r' ∉ callText word body ending)
    (hending : ending = [] ∨ ending = ['\n']) :
    moduleText (callText word body ending) = callText word body ['\n'] := by
  have hpair : endsWithPair (callText word body ending) = false := by
    unfold endsWithPair
    rw [decide_eq_false_iff_not]
    intro hpair
    refine hreturn (List.mem_reverse.mp (List.mem_of_mem_take (i := 2) ?_))
    rw [hpair]
    simp
  unfold moduleText
  rw [unifyNewlines_of_not_mem hreturn, hpair]
  dsimp only
  rcases hending with rfl | rfl
  · have hlast : (callText word body []).getLast? = some ')' := by
      have hsplit : callText word body [] = (word ++ '(' :: '"' :: (body ++ ['"'])) ++ [')'] := by
        simp [callText]
      rw [hsplit, List.getLast?_concat]
    rw [hlast, callText_append _ _ ['\n']]
    rfl
  · rw [callText_append _ _ ['\n'], List.getLast?_concat]
    rfl

/-- A module that is a call of a name with one string literal is read as this call, of the composed form
of the name. -/
theorem parseModule_call {word body cs : List Char} (hword : isIdentifier word = true)
    (hkeyword : isKeyword (String.ofList word) = false) (hclosed : isClosed body) (hline : '\n' ∉ body)
    (hreturn : '\r' ∉ body) (hcs : unescape body = some cs) {ending : List Char}
    (hending : ending = [] ∨ ending = ['\n']) :
    parseModule (callText word body ending) =
      .ok (callTree (composed (String.ofList word)) (String.ofList cs)
        ⟨⟨1, 0⟩, (⟨1, 0⟩ : Point).after (callText word body [])⟩) := by
  have hwordReturn : '\r' ∉ word := not_mem_of_isIdentifier hword (by decide)
  have htext : '\r' ∉ callText word body ending := by
    rcases hending with rfl | rfl <;> simp [callText, hwordReturn, hreturn]
  have htokens := lexAt_call hword hclosed hline ⟨1, 0⟩
  rw [parseModule, lexModule, moduleText_call htext hending]
  refine treeOf_ok ⟨[], ?_⟩ rfl
  rw [htokens]
  exact module_callTokens hkeyword hclosed hcs (Nat.succ_pos _) (depthLimit - 2) (indentLimit + 1) ⟨1, 0⟩

end Localize.Syntax
