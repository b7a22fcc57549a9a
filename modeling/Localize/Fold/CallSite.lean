/-
  Call sites: calls of the localization function by its bare name, with one or two constant
  strings. An argument is a constant string if it is a string, a formatted string without
  replacement fields, or a sum of such.
-/
import Localize.Syntax.Module

namespace Localize

open Syntax

namespace Syntax.Node

/-- The text of the parts of a formatted string, if all of them are constant. -/
def joinedText : List Node → Option String
  | [] => some ""
  | .text s :: rest => (joinedText rest).map (s ++ ·)
  | _ :: _ => none

/-- The text of an operand of a sum, if it is constant. -/
def operandText : Node → Option String
  | .text s => some s
  | .joined parts => joinedText parts
  | _ => none

/-- The number of sums and operands that an expression is made of. -/
def summands : Node → Nat
  | .sum left right => left.summands + right.summands + 1
  | _ => 1

/-- Takes pending expressions apart from the left; `texts` holds the texts of the operands so far,
reversed. Each round takes one expression from the front. -/
def evaluateFrom : Nat → List Node → List String → Option String
  | _, [], texts => some (String.join texts.reverse)
  | 0, _ :: _, _ => none
  | rounds + 1, node :: pending, texts =>
    match node with
    | .sum left right => evaluateFrom rounds (left :: right :: pending) texts
    | operand =>
      match operand.operandText with
      | some s => evaluateFrom rounds pending (s :: texts)
      | none => none

/-- The text of a constant string, however deep its sums are nested. -/
def constantText (node : Node) : Option String := evaluateFrom node.summands [node] []

/-- The key and the default text that a call is given. A single argument is both; of two the key is
the last one. -/
def keyAndText : Node → Option (String × String)
  | .call _ [single] _ _ => do
    let key ← single.constantText
    return (key, key)
  | .call _ [default, key] _ _ => do
    let key ← key.constantText
    return (key, ← default.constantText)
  | _ => none

/-- Whether an argument has a star. -/
def isStarred : Node → Bool
  | .starred _ => true
  | _ => false

/-- Whether a node is a call of a bare name. -/
def callsName (name : String) : Node → Bool
  | .call (.name id) _ _ _ => id = name
  | _ => false

/-- Whether a call has one or two arguments, none of them named or starred. -/
def hasPlainArguments : Node → Bool
  | .call _ arguments keywords _ =>
    keywords.isEmpty && !arguments.any isStarred && (arguments.length = 1 || arguments.length = 2)
  | _ => false

/-- Whether a node is a call of the localization function in a shape that can be folded. -/
def isLocalizationCall (name : String) (node : Node) : Bool :=
  node.callsName name && node.hasPlainArguments

end Syntax.Node

/-- The range of a span. -/
def LineIndex.rangeOfSpan (index : LineIndex) (span : Span) : Except PositionError TextRange :=
  index.range span.start.line span.start.byte (some span.stop.line) (some span.stop.byte)

/-- The location of a span. -/
def LineIndex.locationOfSpan (index : LineIndex) (span : Span) : Except PositionError Location :=
  index.location span.start.line span.start.byte (some span.stop.line) (some span.stop.byte)

/-- A call that can be folded. -/
structure CallSite where
  key : String
  /-- The text that stands in where no source has the key. -/
  text : String
  range : TextRange
  location : Location
deriving DecidableEq, Repr

namespace CallSite

/-- The call site of a node, if it is one. -/
def of? (name : String) (index : LineIndex) (node : Node) : Except PositionError (Option CallSite) :=
  match node with
  | .call _ _ _ span =>
    if node.isLocalizationCall name then
      match node.keyAndText with
      | some (key, text) => do
        let range ← index.rangeOfSpan span
        return some ⟨key, text, range, ← index.locationOfSpan span⟩
      | none => .ok none
    else .ok none
  | _ => .ok none

end CallSite

end Localize
