/-
  Substitutions: ranges of a text with the literals that take their places. A literal is a quoted
  string that reads the same in source code and in JSON. Rendering puts all literals in place at
  once; the ranges are those of the text before any of it.
-/
import Localize.Fold.CallSite
import Localize.Fold.Resolution
import Localize.Json.Reader
import Localize.Json.Writer
import Localize.Sort

namespace Localize

/-- What takes the place of a range: a constant, or something that only others can render. -/
inductive Kind where
  | constant
  | other (name : String)
deriving DecidableEq, Repr

/-- The word for a kind. -/
def Kind.text : Kind → String
  | constant => "constant"
  | other name => name

/-- Encodes a value as a literal: a text as it is, everything else as its JSON text, if it has one. -/
def encode : Value → Except Json.WriteFault String
  | .text s => .ok (Json.string s)
  | value => (Json.dump value).map Json.string

/-- The literal that a value has if it can be encoded. -/
def literal : Value → String
  | .text s => Json.string s
  | value => Json.string (Json.write value)

theorem encode_eq (value : Value) :
    encode value =
      if Json.isWritten value then .ok (literal value) else .error .tooManyDigits := by
  have hdump : (Json.dump value).map Json.string =
      if Json.isWritten value then .ok (Json.string (Json.write value)) else .error .tooManyDigits := by
    unfold Json.dump
    split <;> rfl
  cases value with
  | text s => rfl
  | _ => exact hdump

/-- A range with the literal that takes its place, and the call that it comes from. -/
structure Substitution where
  encoded : String
  range : TextRange
  location : Location
  kind : Kind := .constant
  key : String := ""
  outcome : Outcome := .primary
deriving DecidableEq, Repr

namespace Substitution

/-- The text that the literal denotes. -/
def value (s : Substitution) : Except Json.Fault Value := Json.read s.encoded

/-- Puts a literal in the place of a call. -/
def inPlaceOf (site : CallSite) (outcome : Outcome) (encoded : String) : Substitution where
  encoded := encoded
  range := site.range
  location := site.location
  key := site.key
  outcome := outcome

/-- The literal that a value has, in the place of a call. -/
def of (value : Value) (site : CallSite) (outcome : Outcome) : Substitution :=
  .inPlaceOf site outcome (literal value)

/-- Encodes a value in the place of a call. -/
def fill (value : Value) (site : CallSite) (outcome : Outcome) : Except Json.WriteFault Substitution :=
  (encode value).map (.inPlaceOf site outcome)

theorem fill_eq (value : Value) (site : CallSite) (outcome : Outcome) :
    fill value site outcome =
      if Json.isWritten value then .ok (of value site outcome) else .error .tooManyDigits := by
  unfold fill
  rw [encode_eq]
  split <;> rfl

/-- Sorts by the starts of the ranges; equal starts keep their order. -/
def sortByStart (ss : List Substitution) : List Substitution :=
  sortBy (fun s t => s.range.start ≤ t.range.start) ss

/-- Why substitutions are not rendered. -/
inductive Fault where
  | kind (name : String)
  /-- A range that ends behind the text. -/
  | pastEnd (range : TextRange) (length : Nat)
  | overlap (first second : Location)
deriving DecidableEq, Repr

namespace Fault

/-- The wording of a fault. -/
def message : Fault → String
  | kind name => s!"ConstTemplate cannot render {name} instructions"
  | pastEnd range length =>
    s!"Instruction range {range.start}-{range.stop} exceeds source length {length}"
  | overlap first second => s!"Overlapping substitutions at {first.text} and {second.text}"

end Fault

/-- Checks sorted substitutions one after the other, each against the one before it. -/
def check (length : Nat) : Option Substitution → List Substitution → Except Fault Unit
  | _, [] => .ok ()
  | previous, s :: rest =>
    match s.kind with
    | .other name => .error (.kind name)
    | .constant =>
      if s.range.stop > length then .error (.pastEnd s.range length)
      else
        match previous with
        | some p =>
          if p.range.overlaps s.range then .error (.overlap p.location s.location)
          else check length (some s) rest
        | none => check length (some s) rest

/-- The characters from one offset up to another. -/
def slice (text : List Char) (start stop : Nat) : List Char := (text.drop start).take (stop - start)

/-- The text from `cursor` on with the literals in place. -/
def splice (text : List Char) (cursor : Nat) : List Substitution → List Char
  | [] => text.drop cursor
  | s :: rest => slice text cursor s.range.start ++ s.encoded.toList ++ splice text s.range.stop rest

/-- The text with all literals in place. -/
def render (text : List Char) (ss : List Substitution) : Except Fault (List Char) := do
  let sorted := sortByStart ss
  check text.length none sorted
  return splice text 0 sorted

end Substitution

end Localize
