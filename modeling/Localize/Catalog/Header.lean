/-
  Headers of message catalogs: fields of a name and a value, one a line; a line that begins with a
  blank goes on with the value. A header says of a catalog what its encoding and its number of plurals
  are. That number, the dates and the language have to be well formed.
-/
import Localize.Catalog.Date
import Localize.Catalog.Language
import Localize.Catalog.Parameter
import Localize.Position.Lines
import Localize.Text.Part

namespace Localize.Catalog

open Localize.Text

/-- The name and the value of a field. -/
abbrev Field := String × String

/-! ## Fields -/

/-- A character of the name of a field. -/
def isFieldChar (c : Char) : Bool := 33 ≤ c.toNat && c.toNat ≤ 126 && c != ':'

/-- A blank that goes on with a value. -/
def isFieldBlank (c : Char) : Bool := c = ' ' || c = '\t'

/-- Whether a line gives a field the form of an envelope. -/
def isEnvelope (line : List Char) : Bool := "From ".toList.isPrefixOf line

/-- Whether a line belongs to the fields, which end with the first one that does not. -/
def isFieldLine (line : List Char) : Bool :=
  (line.head?.map isFieldBlank).getD false || isEnvelope line ||
    (line.dropWhile isFieldChar).head? = some ':'

/-- A field without the end of its last line. -/
def closeField (field : List Char × List Char) : Field :=
  let isEnd (c : Char) : Bool := c = '\r' || c = '\n'
  (String.ofList field.1, String.ofList (field.2.reverse.dropWhile isEnd).reverse)

/-- The fields of lines, of which one may have begun before. -/
def fieldsFrom (begun : Option (List Char × List Char)) : List (List Char) → List Field
  | [] => (begun.map closeField).toList
  | line :: rest =>
    if (line.head?.map isFieldBlank).getD false then
      fieldsFrom (begun.map fun (name, value) => (name, value ++ line)) rest
    else
      let (name, value) := splitFirst (· = ':') line
      let next := if isEnvelope line || name.isEmpty then none
        else some (name, (value.getD []).dropWhile isFieldBlank)
      (begun.map closeField).toList ++ fieldsFrom next rest

/-- The fields of a header. -/
def fieldsOf (header : String) : List Field :=
  fieldsFrom none ((splitLines header.toList).takeWhile isFieldLine)

/-! ## What a header says -/

/-- What a header says of its catalog. -/
structure Profile where
  /-- The encoding. -/
  charset : String := "utf-8"
  /-- The number of plurals, as soon as it is settled. -/
  plurals : Option Int := none
  /-- The number of plurals that the language has. -/
  languagePlurals : Nat := 2
deriving DecidableEq, Repr

/-- Why a header is refused. -/
inductive HeaderFault where
  | parameter (f : ParameterFault)
  /-- The encoding is a value with an encoding of its own. -/
  | encodedCharset
  /-- The number of plurals is a value with an encoding of its own. -/
  | encodedPlurals
  | plurals (f : IntegerFault)
  | date (f : DateFault)
  | locale (f : LocaleFault)
deriving DecidableEq, Repr

/-- The wording of a fault. -/
def HeaderFault.message : HeaderFault → String
  | parameter f => f.message
  | encodedCharset => "'tuple' object has no attribute 'lower'"
  | encodedPlurals =>
    "int() argument must be a string, a bytes-like object or a real number, not 'tuple'"
  | plurals f => f.message
  | date f => f.message
  | locale f => f.message

/-- Whether a fault is one of the value of a field, and not of its form. -/
def HeaderFault.isOfValue : HeaderFault → Bool
  | parameter (.mixed _) | encodedCharset | encodedPlurals | date .lines => false
  | _ => true

/-- A parameter of a field. -/
def fieldParameter (name value : String) : Except HeaderFault (Option ParameterValue) :=
  (parameter? name value).mapError HeaderFault.parameter

/-- Takes what a field says. -/
def Profile.apply (p : Profile) (field : Field) : Except HeaderFault Profile := do
  let (name, value) := field
  match lowerCase name with
  | "language" =>
    if value = "" then return { p with languagePlurals := 2 }
    else
      let locale ← (Locale.ofName (value.toList.map fun c => if c = '-' then '_' else c)).mapError
        HeaderFault.locale
      return { p with languagePlurals := locale.plurals }
  | "content-type" =>
    match ← fieldParameter "charset" value with
    | none => return p
    | some .encoded => throw .encodedCharset
    | some (.text charset) => return { p with charset := lowerCase charset }
  | "plural-forms" =>
    match ← fieldParameter "nplurals" (" ;" ++ value) with
    | none => return { p with plurals := some 2 }
    | some .encoded => throw .encodedPlurals
    | some (.text count) =>
      return { p with plurals := some (← (readInteger count).mapError HeaderFault.plurals) }
  | "pot-creation-date" => (checkDate value).mapError HeaderFault.date; return p
  | "po-revision-date" =>
    if isPartOf "YEAR".toList value.toList then return p
    else (checkDate value).mapError HeaderFault.date; return p
  | _ => return p

/-- Takes what fields say, up to the first one with a fault. -/
def Profile.applyAll (p : Profile) : List Field → Profile × Option HeaderFault
  | [] => (p, none)
  | field :: rest =>
    match p.apply field with
    | .ok p => p.applyAll rest
    | .error f => (p, some f)

/-- The number of plurals of a catalog, which is settled once it is asked for. -/
def Profile.pluralCount (p : Profile) : Int := p.plurals.getD p.languagePlurals

end Localize.Catalog
