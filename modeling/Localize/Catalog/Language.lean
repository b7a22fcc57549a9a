/-
  Languages of catalogs: names of locales in their parts, and the number of plurals that a language
  has.
-/
import Localize.Text.Case
import Localize.Text.Letter
import Localize.Text.Quoted
import Localize.Text.Split

namespace Localize.Catalog

open Localize.Text

/-- A language with the territory in which it is spoken, if that is said. -/
structure Locale where
  language : String
  territory : Option String
deriving DecidableEq, Repr

/-- Why the name of a locale is refused. -/
inductive LocaleFault where
  | language (name : String)
  | rest (name : String)
deriving DecidableEq, Repr

/-- The wording of a fault. -/
def LocaleFault.message : LocaleFault → String
  | language name => "expected only letters, got " ++ quoted name
  | rest name => quoted name ++ " is not a valid locale identifier"

/-! ## Names -/

/-- Takes the first part away if it satisfies a test. -/
def takeIf (test : List Char → Bool) : List (List Char) → Option (List Char) × List (List Char)
  | [] => (none, [])
  | part :: rest => if test part then (some part, rest) else (none, part :: rest)

/-- A script: four letters. -/
def isScript (part : List Char) : Bool := part.length = 4 && part.all isLetter

/-- A territory: two letters, or three digits. -/
def isTerritory (part : List Char) : Bool :=
  part.length = 2 && part.all isLetter || part.length = 3 && part.all isDigitSign

/-- A variant: four characters of which the first one is a digit, or more behind a letter. -/
def isVariant (part : List Char) : Bool :=
  let beginsWith (test : Char → Bool) : Bool := (part.head?.map test).getD false
  part.length = 4 && beginsWith isDigitSign || part.length ≥ 5 && beginsWith isLetter

/-- The locale with a name: a language, a script, a territory and a variant, of which all but the
language can be left out. An encoding or a modifier behind them does not count. -/
def Locale.ofName (name : List Char) : Except LocaleFault Locale :=
  let name := (name.takeWhile (· ≠ '@')).takeWhile (· ≠ '.')
  match splitAt (· = '_') name with
  | [] => .error (.language "")
  | language :: parts =>
    let language := lowerFrom [] language
    if language.isEmpty || !language.all isLetter then .error (.language (String.ofList language))
    else
      let (_, parts) := takeIf isScript parts
      let (territory, parts) := takeIf isTerritory parts
      -- If there is a variant, the last part is taken for it.
      let parts := if (parts.head?.map isVariant).getD false then parts.dropLast else parts
      if parts.isEmpty then
        .ok ⟨String.ofList language, territory.map fun t => String.ofList (t.map Char.toUpper)⟩
      else .error (.rest (String.ofList name))

/-! ## Plurals -/

/-- Languages of which the number of plurals is not two, each with that number, its other codes, and
the territories that it is known in. -/
def pluralLanguages : List (String × Nat × List String × List String) :=
  [("ar", 6, ["ara", "arb"],
    ["001", "AE", "BH", "DJ", "DZ", "EG", "EH", "ER", "IL", "IQ", "JO", "KM", "KW", "LB", "LY", "MA",
     "MR", "OM", "PS", "QA", "SA", "SD", "SO", "SS", "SY", "TD", "TN", "YE"]),
   ("be", 3, ["bel"], ["BY"]),
   ("bo", 1, ["bod", "tib"], ["CN", "IN"]),
   ("br", 6, ["bre"], ["FR"]),
   ("bs", 3, ["bos"], ["BA"]),
   ("cs", 3, ["ces", "cze"], ["CZ"]),
   ("cv", 1, ["chv"], ["RU"]),
   ("cy", 5, ["cym", "wel"], ["GB"]),
   ("dz", 1, ["dzo"], ["BT"]),
   ("fa", 1, ["fas", "per", "pes"], ["AF", "IR"]),
   ("ga", 5, ["gle"], ["GB", "IE"]),
   ("hr", 3, ["hrv", "scr"], ["BA", "HR"]),
   ("hu", 1, ["hun"], ["HU"]),
   ("hy", 1, ["hye", "arm"], ["AM"]),
   ("ja", 1, ["jpn"], ["JP"]),
   ("ka", 1, ["kat", "geo"], ["GE"]),
   ("km", 1, ["khm"], ["KH"]),
   ("ko", 1, ["kor"], ["CN", "KP", "KR"]),
   ("lo", 1, ["lao"], ["LA"]),
   ("lt", 3, ["lit"], ["LT"]),
   ("lv", 3, ["lav", "lvs"], ["LV"]),
   ("mt", 4, ["mlt"], ["MT"]),
   ("pl", 3, ["pol"], ["PL"]),
   ("ro", 3, ["ron", "rum", "mo", "mol"], ["MD", "RO"]),
   ("ru", 3, ["rus"], ["BY", "KG", "KZ", "MD", "RU", "UA"]),
   ("sk", 3, ["slk", "slo"], ["SK"]),
   ("sl", 4, ["slv"], ["SI"]),
   ("sr", 3, ["srp", "scc", "sh"], ["BA", "ME", "RS", "XK"]),
   ("th", 1, ["tha"], ["TH"]),
   ("tr", 1, ["tur"], ["CY", "TR"]),
   ("uk", 3, ["ukr"], ["UA"]),
   ("vi", 1, ["vie"], ["VN"]),
   ("zh", 1, ["zho", "chi", "cmn"], ["CN", "HK", "MO", "MY", "SG", "TW"])]

/-- The number of plurals of a locale. A territory in which a language is not known leaves it at two. -/
def Locale.plurals (l : Locale) : Nat :=
  match pluralLanguages.find? fun (code, _, others, _) => code = l.language || others.contains l.language with
  | some (_, count, _, territories) =>
    if (l.territory.map territories.contains).getD true then count else 2
  | none => 2

end Localize.Catalog
