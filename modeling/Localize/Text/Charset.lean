/-
  Names of encodings. Case does not matter in a name, nor what stands between its letters and digits.
-/
import Localize.Text.Encoding

namespace Localize.Text

/-- Writes a name with one underscore between runs of letters, digits and dots of ASCII; `gap` says
whether something else came before, and `begun` whether anything has been written. -/
def charsetFrom (gap begun : Bool) : List Char → List Char
  | [] => []
  | c :: rest =>
    if c.isAlphanum || c = '.' then
      (if gap && begun then ['_', c] else [c]) ++ charsetFrom false true rest
    else charsetFrom true begun rest

/-- The normal form of the name of an encoding. -/
def charset (name : List Char) : String :=
  String.ofList (charsetFrom false false (name.map Char.toLower))

/-- Other names of encodings, in normal form. -/
def charsetAliases : List (String × Encoding) :=
  (["cp65001", "u8", "utf", "utf8", "utf8_ucs2", "utf8_ucs4"].map (·, .utf8)) ++
  (["8859", "cp819", "csisolatin1", "ibm819", "iso8859", "iso8859_1", "iso_8859_1",
    "iso_8859_1_1987", "iso_ir_100", "l1", "latin", "latin1"].map (·, .latin1)) ++
  (["646", "ansi_x3.4_1968", "ansi_x3.4_1986", "ansi_x3_4_1968", "cp367", "csascii", "ibm367",
    "iso646_us", "iso_646.irv_1991", "iso_ir_6", "us", "us_ascii"].map (·, .ascii))

/-- The proper names of encodings, in normal form. -/
def charsetNames : List (String × Encoding) :=
  [("utf_8", .utf8), ("utf_8_sig", .utf8Mark), ("latin_1", .latin1), ("ascii", .ascii)]

/-- The encoding with a name. Among the other names a dot counts as an underscore. -/
def Encoding.named? (name : String) : Option Encoding :=
  let normal := charset name.toList
  let undotted := String.ofList (normal.toList.map fun c => if c = '.' then '_' else c)
  (charsetAliases.lookup normal).or ((charsetAliases.lookup undotted).or (charsetNames.lookup normal))

end Localize.Text
