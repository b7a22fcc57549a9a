/-
  Portable catalogs: lines of text with keywords and quoted strings, comments, and flags. Lines that
  have no meaning are skipped. A message ends where the next one begins, or a comment; one without a
  localized text has an empty one. Lines are decoded one by one, in the encoding that the header
  has named by then. Of a message with a plural the localized texts have numbers, which may count from
  the end.
-/
import Localize.Catalog.Draft

namespace Localize.Catalog

open Localize.Text

/-! ## Strings -/

/-- The text of a string inside its quotes. Only backslashes in front of a backslash, a quote, or one
of three letters mean something. -/
def unescaped : List Char → List Char
  | [] => []
  | [c] => [c]
  | c :: d :: rest =>
    if c ≠ '\\' then c :: unescaped (d :: rest)
    else match d with
      | 'n' => '\n' :: unescaped rest
      | 't' => '\t' :: unescaped rest
      | 'r' => '\r' :: unescaped rest
      | '\\' => '\\' :: unescaped rest
      | '"' => '"' :: unescaped rest
      | _ => c :: unescaped (d :: rest)

/-- Strings that follow one another, each with its quotes. -/
abbrev Pieces := List (List Char)

/-- The text of strings. The first and the last character of each are taken for its quotes. -/
def textOf (pieces : Pieces) : String :=
  String.ofList (pieces.flatMap fun piece => unescaped (piece.drop 1).dropLast)

/-! ## Lines -/

/-- What a string that stands alone on a line goes on with. -/
inductive Part where
  | id
  | text
  | context
deriving DecidableEq, Repr

/-- What has been read of a catalog. -/
structure Reading where
  draft : Draft := {}
  /-- The singular and the plural of the message at hand, and its localized texts with their numbers,
  last ones first. -/
  ids : List Pieces := []
  texts : List (Int × Pieces) := []
  context : Option Pieces := none
  fuzzy : Bool := false
  /-- Whether the message is out of use. -/
  obsolete : Bool := false
  part : Option Part := none
deriving DecidableEq, Repr

namespace Reading

/-- The message at hand, if there is one. -/
def message? (r : Reading) : Option Message :=
  match r.ids.reverse with
  | [] => none
  | first :: others => some {
      id := textOf first
      plural := !others.isEmpty
      text := textOf ((r.texts.reverse.head?.map (·.2)).getD [])
      context := r.context.map textOf
      fuzzy := r.fuzzy }

/-- Whether there is a place for the text with a number among as many as there are plurals. Numbers
beyond the last one are left out. -/
def hasPlace (count : Int) (number : Int) : Bool := 0 ≤ number || count ≤ number || -number ≤ count

/-- Ends the message at hand, if there is one. With a fault it stays at hand. -/
def finish (r : Reading) : Reading × Option CatalogFault :=
  match r.message? with
  | none => (r, none)
  | some m =>
    let draft := if m.plural then r.draft.settlePlurals else r.draft
    if m.plural && r.texts.any (!hasPlace draft.profile.pluralCount ·.1) then
      ({ r with draft }, some .pluralIndex)
    else if r.obsolete then ({ draft }, none)
    else match draft.add m with
      | (draft, none) => ({ draft }, none)
      | (draft, some fault) => ({ r with draft }, some (.header fault))

/-- Ends the message at hand, if there is one, unless it has a fault. -/
def finished (r : Reading) : Except CatalogFault Reading :=
  match r.finish with
  | (r, none) => .ok r
  | (_, some fault) => .error fault

/-- Adds a string to what it goes on with. -/
def goOn (r : Reading) (piece : List Char) : Reading :=
  match r.part with
  | some .id => match r.ids with
    | [] => r
    | last :: others => { r with ids := (last ++ [piece]) :: others }
  | some .text => match r.texts with
    | [] => r
    | (number, last) :: others => { r with texts := (number, last ++ [piece]) :: others }
  | some .context => { r with context := r.context.map (· ++ [piece]) }
  | none => r

/-- The number of a localized text, as it stands behind the keyword in brackets. -/
def numberOf (brackets : List Char) : Except CatalogFault Int :=
  match brackets with
  | [] => .ok 0
  | _ :: number => (readInteger (String.ofList number.dropLast)).mapError .integer

/-- Reads a keyword and what follows it. -/
def keyword (r : Reading) (obsolete : Bool) (line : List Char) : Except CatalogFault Reading := do
  let (word, rest) := splitFirst (· = ' ') line
  let piece := trimSpace (rest.getD [])
  let name := String.ofList (word.takeWhile (· ≠ '['))
  let brackets := word.dropWhile (· ≠ '[')
  let r ← if brackets.isEmpty && (name = "msgid" || name = "msgctxt") then r.finished else pure r
  let r := { r with obsolete }
  if brackets.isEmpty && (name = "msgid" || name = "msgid_plural") then
    return { r with ids := [piece] :: r.ids, part := some .id }
  else if brackets.isEmpty && name = "msgctxt" then
    return { r with context := some [piece], part := r.part.or (some .context) }
  else if name = "msgstr" then
    return { r with texts := (← numberOf brackets, [piece]) :: r.texts, part := some .text }
  else return r

/-- Reads a line of a message. -/
def messageLine (r : Reading) (obsolete : Bool) (line : List Char) : Except CatalogFault Reading :=
  match line with
  | [] => .ok r
  | '"' :: _ => .ok (r.goOn (trimSpace line))
  | _ => r.keyword obsolete line

/-- Reads a comment. If it ends a header with a value that is wrong, it is skipped. -/
def comment (r : Reading) (line : List Char) : Except CatalogFault Reading :=
  match r.finish with
  | (r, some (.header f)) => if f.isOfValue then .ok r else .error (.header f)
  | (_, some fault) => .error fault
  | (r, none) =>
    match line with
    | '#' :: ',' :: flags =>
      let flags := (splitAt (· = ',') flags).map trimSpace
      .ok { r with fuzzy := r.fuzzy || flags.contains "fuzzy".toList }
    | _ => .ok r

/-- Reads a line. -/
def line (r : Reading) (line : List Char) : Except CatalogFault Reading :=
  match line with
  | '#' :: '~' :: rest => r.messageLine true (rest.dropWhile isSpace)
  | '#' :: _ => r.comment line
  | _ => r.messageLine false line

/-- Reads the bytes of a line, which count without the blanks around them. If any are left they have to
stand for characters. -/
def bytesLine (r : Reading) (bytes : Bytes) : Except CatalogFault Reading := do
  let bytes := trim (fun b => b = 32 || 9 ≤ b.toNat && b.toNat ≤ 13) bytes
  if bytes.isEmpty then return r
  else match ← r.draft.decode bytes with
    | [] => throw .emptyLine
    | line => r.line line

end Reading

/-- The messages of a portable catalog. -/
def readPortable (bytes : Bytes) : Except CatalogFault (List Message) := do
  let r ← (splitAt (· = 10) bytes).foldlM Reading.bytesLine {}
  return (← r.finished).draft.messages

end Localize.Catalog
