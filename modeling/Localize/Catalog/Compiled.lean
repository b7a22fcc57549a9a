/-
  Compiled catalogs: a word that tells the order of bytes, three more words of which two lead to
  tables, and in each table a length and a place for every message and every localized text. The message
  without an id is the header.
-/
import Localize.Catalog.Draft

namespace Localize.Catalog

open Localize.Text

/-- The order of the bytes in a word. -/
inductive ByteOrder where
  | little
  | big
deriving DecidableEq, Repr

/-- The number that bytes denote, the last one first. -/
def littleNumber : Bytes → Nat
  | [] => 0
  | b :: rest => b.toNat + 256 * littleNumber rest

/-- The number that bytes denote. -/
def ByteOrder.number : ByteOrder → Bytes → Nat
  | little, bytes => littleNumber bytes
  | big, bytes => littleNumber bytes.reverse

/-- The bytes between two places, as far as there are any. -/
def slice (bytes : Bytes) (start stop : Nat) : Bytes := (bytes.take stop).drop start

/-- Words from a place on, of four bytes each. -/
def words (order : ByteOrder) (bytes : Bytes) (start count : Nat) : Except CatalogFault (List Nat) :=
  if (slice bytes start (start + 4 * count)).length = 4 * count then
    .ok ((List.range count).map fun n =>
      order.number (slice bytes (start + 4 * n) (start + 4 * n + 4)))
  else .error (.tooShort (4 * count))

/-- The word that a catalog begins with. -/
def magic : Nat := 0x950412de

/-- The order of the bytes in a catalog. -/
def byteOrder (bytes : Bytes) : Except CatalogFault ByteOrder :=
  if bytes.length < 4 then .error (.tooShort 4)
  else if littleNumber (bytes.take 4) = magic then .ok .little
  else if littleNumber (bytes.take 4).reverse = magic then .ok .big
  else .error .badMagic

/-- The bytes that an entry of a table leads to. The last byte of a file ends a text and belongs to
none. -/
def entryBytes (order : ByteOrder) (bytes : Bytes) (table index : Nat) :
    Except CatalogFault (Nat × Nat) := do
  match ← words order bytes (table + 8 * index) 2 with
  | [count, place] => return (place, place + count)
  | _ => throw .corrupt

/-- The bytes of the lines of a header without blanks around them. -/
def headerLines (bytes : Bytes) : List Bytes :=
  ((splitAt (fun b => b = 10 || b = 13) bytes).map
    (trim fun b => b = 32 || 9 ≤ b.toNat && b.toNat ≤ 13)).filter (!·.isEmpty)

/-- A byte in lower case. -/
def lowerByte (b : UInt8) : UInt8 := if 65 ≤ b && b ≤ 90 then b + 32 else b

/-- The fields of header lines, added to others. A line without a colon goes on with the last field. -/
def headerFields (fields : List (Bytes × Bytes)) (lastName : Option Bytes) :
    List Bytes → List (Bytes × Bytes)
  | [] => fields
  | line :: rest =>
    let blank (b : UInt8) : Bool := b = 32 || 9 ≤ b.toNat && b.toNat ≤ 13
    match splitFirst (· = 58) line, lastName with
    | (name, some value), _ =>
      let name := (trim blank name).map lowerByte
      headerFields (setEntry name (trim blank value) fields) (some name) rest
    | (_, none), some name =>
      headerFields (setEntry name (((valueAt? name fields).getD []) ++ 10 :: line) fields) lastName rest
    | (_, none), none => headerFields fields none rest

/-- A message of a compiled catalog, in the encoding that the header has named by then. A context
stands in front of the text, a plural behind it. -/
def compiledMessage (d : Draft) (id text : Bytes) : Except CatalogFault Message := do
  let (context, id) ← match splitAt (· = 4) id with
    | [id] => pure (none, id)
    | [context, id] => pure (some (String.ofList (context.map fun b => Char.ofNat b.toNat)), id)
    | _ => throw .contexts
  match splitAt (· = 0) id with
  | [id] =>
    return { id := String.ofList (← d.decode id), text := String.ofList (← d.decode text), context }
  | ids =>
    let ids ← ids.mapM d.decode
    let _ ← (splitAt (· = 0) text).mapM d.decode
    return { id := String.ofList (ids.headD []), plural := true, context }

/-- Reads the messages of a compiled catalog from one on. -/
def compiledFrom (order : ByteOrder) (bytes : Bytes) (ids texts : Nat) (d : Draft)
    (fields : List (Bytes × Bytes)) (index : Nat) :
    Nat → Except CatalogFault (Draft × List (Bytes × Bytes))
  | 0 => .ok (d, fields)
  | count + 1 => do
    let (idStart, idStop) ← entryBytes order bytes ids index
    let (textStart, textStop) ← entryBytes order bytes texts index
    if bytes.length ≤ idStop || bytes.length ≤ textStop then throw .corrupt
    let id := slice bytes idStart idStop
    let text := slice bytes textStart textStop
    let fields := if idStart = idStop then headerFields fields none (headerLines text) else fields
    match d.add (← compiledMessage d id text) with
    | (d, none) => compiledFrom order bytes ids texts d fields (index + 1) count
    | (_, some fault) => throw (.header fault)

/-- Checks the fields of a header that are given as bytes. -/
def checkFields (d : Draft) : List (Bytes × Bytes) → Except CatalogFault Draft
  | [] => .ok d
  | (name, value) :: rest => do
    let field := (String.ofList (← d.decode name), String.ofList (← d.decode value))
    let profile ← (d.profile.apply field).mapError CatalogFault.header
    checkFields { d with profile } rest

/-- The messages of a compiled catalog. -/
def readCompiled (bytes : Bytes) : Except CatalogFault (List Message) := do
  let order ← byteOrder bytes
  match ← words order bytes 4 4 with
  | [_, count, ids, texts] =>
    let (d, fields) ← compiledFrom order bytes ids texts {} [] 0 count
    return (← checkFields d fields).messages
  | _ => throw .corrupt

end Localize.Catalog
