/-
  Catalogs while they are read: the messages so far, and what the header says for all that follows.
-/
import Localize.Catalog.Header
import Localize.Catalog.Message
import Localize.Text.Charset

namespace Localize.Catalog

open Localize.Text

/-- Why a catalog is not read. -/
inductive CatalogFault where
  /-- The first bytes are not those of a compiled catalog. -/
  | badMagic
  /-- A message lies outside of the file. -/
  | corrupt
  /-- Bytes are missing from a table of the file. -/
  | tooShort (count : Nat)
  /-- A message has more than one context. -/
  | contexts
  | decode (f : DecodeFault)
  | unknownEncoding (name : String)
  /-- The name of an encoding has a null character. -/
  | nullInEncoding
  /-- A line of bytes has no characters. -/
  | emptyLine
  | integer (f : IntegerFault)
  /-- A localized text has a number below those of the plurals. -/
  | pluralIndex
  | header (f : HeaderFault)
  /-- Anything else that a reader may report. -/
  | other (message : String)
deriving DecidableEq, Repr

/-- The wording of a fault. -/
def CatalogFault.message : CatalogFault → String
  | badMagic => "Bad magic number"
  | corrupt => "File is corrupt"
  | tooShort count => s!"unpack requires a buffer of {count} bytes"
  | contexts => "too many values to unpack (expected 2)"
  | decode f => f.message
  | unknownEncoding name => "unknown encoding: " ++ name
  | nullInEncoding => "embedded null character"
  | emptyLine => "string index out of range"
  | pluralIndex => "list assignment index out of range"
  | integer f => f.message
  | header f => f.message
  | other message => message

/-- A catalog while it is read: what the header says, and the messages so far. -/
structure Draft where
  profile : Profile := {}
  messages : List Message := []
deriving DecidableEq, Repr

namespace Draft

/-- The text of bytes in the encoding of a catalog. No bytes need no encoding. -/
def decode (d : Draft) (bytes : Bytes) : Except CatalogFault (List Char) :=
  let name := d.profile.charset
  if bytes.isEmpty then .ok []
  else if name.toList.contains '\x00' then .error .nullInEncoding
  else match Encoding.named? name with
  | none => .error (.unknownEncoding name)
  | some encoding => (encoding.decode bytes).mapError .decode

/-- Adds a message. A first one without an id is the header, of which the fields up to the first one with
a fault count. -/
def add (d : Draft) (m : Message) : Draft × Option HeaderFault :=
  if m.id = "" && !m.plural && !d.messages.any (·.key = m.key) then
    let (profile, fault) := d.profile.applyAll (fieldsOf m.text)
    ({ d with profile }, fault)
  else ({ d with messages := addMessage d.messages m }, none)

/-- Settles the number of plurals. -/
def settlePlurals (d : Draft) : Draft :=
  { d with profile := { d.profile with plurals := some d.profile.pluralCount } }

end Draft

end Localize.Catalog
