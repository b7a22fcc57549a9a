/-
  Phrases over tokens and how they are followed: ordered choice, repetition and looking ahead, with
  a record of how far the tokens were looked at. A phrase may end in a mistake, which stops the
  search. Mistakes that are only suspected are left alone unless the search is a suspicious one.
-/
import Localize.Syntax.Token
import Std.Data.HashMap

namespace Localize.Syntax.Mistake

/-- What makes a mistake of a phrase, when it is a question of one of its parts. -/
inductive Suspicion where
  /-- An operand between brackets with another one behind it, and no word of an old statement. -/
  | sideBySide
  /-- A word that was a statement once. -/
  | oldStatement
  /-- Something that is assigned to and is no target. -/
  | badTarget
  /-- Something that a loop assigns to and is no target; in a comparison the left operand counts. -/
  | badLoopTarget
  /-- Something that is deleted and cannot be. -/
  | badDeletion
  /-- More than one argument by position. -/
  | severalArguments

/-- A phrase over tokens, where `κ` names the constructs of a grammar. -/
inductive Phrase (κ : Type) where
  /-- One token of a kind. -/
  | one (holds : Lexeme → Bool)
  /-- A number that has a value. -/
  | number
  /-- Adjacent string literals that have a value together. -/
  | quotations
  | part (construct : κ)
  | row (phrases : List (Phrase κ))
  /-- The first of some phrases that can be followed. -/
  | choice (phrases : List (Phrase κ))
  /-- A phrase as often as it can be followed. -/
  | many (phrase : Phrase κ)
  | ahead (phrase : Phrase κ)
  | notAhead (phrase : Phrase κ)
  /-- Two phrases in a row; behind the first one no other choice is left. -/
  | decided (front back : Phrase κ)
  /-- A symbol that has to be next. -/
  | needed (text : String)
  /-- A mistake that only a suspicious search looks for. -/
  | suspected (phrase : Phrase κ)
  /-- A phrase in which no mistake is suspected. -/
  | trusted (phrase : Phrase κ)
  /-- A mistake. -/
  | mistake
  /-- No block behind a construct, whose keyword is where the construct begins. -/
  | missingBlock (construct : String)
  /-- Two phrases in a row, which are a mistake if the first one gives reason to suspect it. -/
  | judged (subject rest : Phrase κ) (suspicion : Suspicion)

namespace Phrase

variable {κ : Type}

/-- A given token. -/
def token (l : Lexeme) : Phrase κ := one (· == l)

/-- A given word. -/
def word (text : String) : Phrase κ := token (.word text)

/-- A given symbol. -/
def symbol (text : String) : Phrase κ := token (.symbol text)

/-- One of some symbols. -/
def oneOf (texts : List String) : Phrase κ :=
  one fun l => match l with
    | .symbol s => texts.contains s
    | _ => false

/-- A phrase, or nothing. -/
def optional (p : Phrase κ) : Phrase κ := choice [p, row []]

/-- A phrase once or more often. -/
def several (p : Phrase κ) : Phrase κ := row [p, many p]

/-- A phrase once or more often, with a symbol in between. -/
def joined (separator : String) (p : Phrase κ) : Phrase κ :=
  row [p, many (row [symbol separator, p])]

/-- Phrases separated by commas. -/
def listed (p : Phrase κ) : Phrase κ := joined "," p

/-- Phrases separated by commas, which may end in a comma. -/
def trailed (p : Phrase κ) : Phrase κ := row [listed p, optional (symbol ",")]

end Phrase

/-- How following a phrase ended: behind its last token, not at all, not at all with no other choice
left, or with the blame found. -/
inductive Outcome where
  | followed (next : Nat)
  | failed
  | settled
  | stopped
deriving Repr

/-- Why a search stopped. -/
inductive Stop where
  /-- No token could be read. -/
  | broken
  | mistake
  /-- No block came behind a construct on a line. -/
  | missingBlock (construct : String) (line : Nat)
  /-- A fault of the tokens inside a string literal, whose column is counted from a place. -/
  | inside (origin : Point) (fault : Fault)
deriving Repr

/-- What a search has found out: the ends of constructs, how far it looked, and why it stopped. -/
structure Search where
  known : Std.HashMap Nat (Option Nat) := {}
  reached : Nat := 0
  stop : Option Stop := none

/-- What a search goes by. A construct that is `shared` is taken to end where it was once found to
end, whether mistakes were suspected then or not. -/
structure Setting (κ : Type) where
  tokens : Array Token
  grammar : κ → Phrase κ
  index : κ → Nat
  shared : κ → Bool
  isNumber : String → Bool
  quotationsStop : List Token → Option Stop
  suspects : Suspicion → List Token → Bool

namespace Search

/-- Ends a search. -/
def stopWith (why : Stop) : StateM Search Outcome := do
  modify ({ · with stop := some why })
  return .stopped

/-- Follows phrases one behind the other. -/
def inRow {κ : Type} (step : Phrase κ → Nat → StateM Search Outcome) :
    List (Phrase κ) → Nat → StateM Search Outcome
  | [], i => return .followed i
  | p :: ps, i => do
    match ← step p i with
    | .followed j => inRow step ps j
    | outcome => return outcome

/-- Follows the first phrase that can be followed. -/
def inChoice {κ : Type} (step : Phrase κ → Nat → StateM Search Outcome) :
    List (Phrase κ) → Nat → StateM Search Outcome
  | [], _ => return .failed
  | p :: ps, i => do
    match ← step p i with
    | .failed => inChoice step ps i
    | .settled => return .failed
    | outcome => return outcome

/-- Follows a phrase as often as it can be followed, at most a number of rounds. -/
def inRounds (step : Nat → StateM Search Outcome) : Nat → Nat → StateM Search Outcome
  | 0, i => return .followed i
  | rounds + 1, i => do
    match ← step i with
    | .followed j => inRounds step rounds j
    | .stopped => return .stopped
    | _ => return .followed i

end Search

namespace Setting

open Search

variable {κ : Type} (s : Setting κ)

/-- What the token at a place is; behind the last one the text has ended. -/
def lexeme (i : Nat) : Lexeme := (s.tokens[i]?.map (·.lexeme)).getD .finish

/-- The tokens between two places. -/
def between (i j : Nat) : List Token := (s.tokens.extract i j).toList

/-- The place behind the string literals from a place on, of which there is at most a number. -/
def behindQuotations : Nat → Nat → Nat
  | 0, i => i
  | rounds + 1, i => if s.lexeme i matches .quotation _ then behindQuotations rounds (i + 1) else i

/-- How many brackets are open behind a number of tokens. -/
def openBrackets (count : Nat) : Nat :=
  (s.tokens.toList.take count).foldl (fun depth t => match t.lexeme with
    | .symbol text =>
      if ["(", "[", "\x7b"].contains text then depth + 1
      else if [")", "]", "\x7d"].contains text then depth - 1
      else depth
    | _ => depth) 0

/-- Looks at the token at a place. -/
def look (i : Nat) : StateM Search Lexeme := do
  modify fun search => { search with reached := max search.reached i }
  return s.lexeme i

/-- Follows a phrase from a place on. The fuel bounds how deep phrases lie in one another; `start` is
where the construct begins that the phrase belongs to. -/
def follow : Nat → Bool → Nat → Phrase κ → Nat → StateM Search Outcome
  | 0, _, _, _, _ => return .failed
  | fuel + 1, suspicious, start, phrase, i =>
    let step := follow fuel suspicious start
    match phrase with
    | .one holds => do
      let l ← s.look i
      if l = .broken then stopWith .broken
      else if holds l then return .followed (i + 1)
      else return .failed
    | .number => do
      match ← s.look i with
      | .broken => stopWith .broken
      | .number text => if s.isNumber text then return .followed (i + 1) else stopWith .mistake
      | _ => return .failed
    | .quotations => do
      let j := s.behindQuotations s.tokens.size i
      if (← s.look j) = .broken then stopWith .broken
      else if j = i then return .failed
      else
        match s.quotationsStop (s.between i j) with
        | some why => stopWith why
        | none => return .followed j
    | .part construct => do
      let key := (i * 1024 + s.index construct) * 2 + (suspicious && !s.shared construct).toNat
      match (← get).known[key]? with
      | some known => return known.elim .failed .followed
      | none => do
        match ← follow fuel suspicious i (s.grammar construct) i with
        | .stopped => return .stopped
        | outcome =>
          let known := match outcome with
            | .followed j => some j
            | _ => none
          modify fun search => { search with known := search.known.insert key known }
          return known.elim .failed .followed
    | .row phrases => inRow step phrases i
    | .choice phrases => inChoice step phrases i
    | .many phrase => inRounds (step phrase) s.tokens.size i
    | .ahead phrase => do
      match ← step phrase i with
      | .followed _ => return .followed i
      | outcome => return outcome
    | .notAhead phrase => do
      match ← step phrase i with
      | .followed _ => return .failed
      | .stopped => return .stopped
      | _ => return .followed i
    | .decided front back => do
      match ← step front i with
      | .followed j =>
        match ← step back j with
        | .failed => return .settled
        | outcome => return outcome
      | outcome => return outcome
    | .needed text => do
      let l ← s.look i
      if l = .broken then stopWith .broken
      else if l = .symbol text then return .followed (i + 1)
      else stopWith .mistake
    | .suspected phrase => if suspicious then step phrase i else return .failed
    | .trusted phrase => follow fuel false start phrase i
    | .mistake => stopWith .mistake
    | .missingBlock construct =>
      let keyword := if s.lexeme start = .word "async" then start + 1 else start
      stopWith (.missingBlock construct ((s.tokens[keyword]?.map (·.start.line)).getD 1))
    | .judged subject rest suspicion => do
      match ← step subject i with
      | .followed j =>
        match ← step rest j with
        | .followed k =>
          let inside : Bool := match suspicion with
            | .sideBySide => s.openBrackets k > 0
            | _ => true
          if inside && s.suspects suspicion (s.between i j) then stopWith .mistake
          else return .settled
        | outcome => return outcome
      | outcome => return outcome

end Setting

end Localize.Syntax.Mistake
