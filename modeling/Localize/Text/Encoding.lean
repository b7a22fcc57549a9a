/-
  Encodings of text as bytes: UTF-8 with or without a mark in front, Latin-1 and ASCII. Decoding
  says at which bytes it fails and why; encoding writes what an encoding lacks as an escape.
-/
import Localize.Text.Quoted

namespace Localize.Text

/-- The contents of a file. -/
abbrev Bytes := List UInt8

/-- Why bytes are no text in an encoding: the name of the decoder, the first byte that is wrong,
its position, how many bytes are wrong, and what is wrong with them. -/
structure DecodeFault where
  decoder : String
  byte : UInt8
  position : Nat
  count : Nat
  reason : String
deriving DecidableEq, Repr

/-- The wording of a fault. -/
def DecodeFault.message (f : DecodeFault) : String :=
  if f.count = 1 then
    s!"'{f.decoder}' codec can't decode byte 0x" ++ String.ofList (hexPadded 2 f.byte.toNat) ++
      s!" in position {f.position}: {f.reason}"
  else
    s!"'{f.decoder}' codec can't decode bytes in position {f.position}-{f.position + f.count - 1}: {f.reason}"

/-! ## UTF-8 -/

/-- A byte that goes on a sequence. -/
def isContinuation (b : UInt8) : Bool := b.toNat / 64 = 2

/-- The bits that a continuation carries. -/
def payload (b : UInt8) : Nat := b.toNat % 64

/-- The length of the sequence that a byte begins, if it begins one. -/
def sequenceLength? (b : UInt8) : Option Nat :=
  let n := b.toNat
  if n < 0x80 then some 1
  else if 0xc2 ≤ n && n < 0xe0 then some 2
  else if 0xe0 ≤ n && n < 0xf0 then some 3
  else if 0xf0 ≤ n && n < 0xf5 then some 4
  else none

/-- Whether a second byte can follow a first one. The bounds rule out longer forms than needed,
surrogates, and what lies beyond the last code point. -/
def canFollow (first second : UInt8) : Bool :=
  let n := second.toNat
  isContinuation second &&
    (first.toNat != 0xe0 || 0xa0 ≤ n) && (first.toNat != 0xed || n < 0xa0) &&
    (first.toNat != 0xf0 || 0x90 ≤ n) && (first.toNat != 0xf4 || n < 0x90)

/-- The number of bytes behind the first one that go on its sequence as they should. -/
def goodFollowers (first : UInt8) : Bytes → Nat
  | [] => 0
  | second :: rest =>
    if canFollow first second then 1 + (rest.takeWhile isContinuation).length else 0

/-- The code point of a whole sequence. -/
def codePointOf : Bytes → Nat
  | [a] => a.toNat
  | [a, b] => a.toNat % 32 * 64 + payload b
  | [a, b, c] => (a.toNat % 16 * 64 + payload b) * 64 + payload c
  | [a, b, c, d] => ((a.toNat % 8 * 64 + payload b) * 64 + payload c) * 64 + payload d
  | _ => 0

/-- The text of the bytes from a position on; the characters read so far come reversed. -/
def decodeUtf8From (position : Nat) (read : List Char) :
    Bytes → Except DecodeFault (List Char)
  | [] => .ok read.reverse
  | a :: rest =>
    match sequenceLength? a with
    | none => .error ⟨"utf-8", a, position, 1, "invalid start byte"⟩
    | some 1 => decodeUtf8From (position + 1) (Char.ofNat a.toNat :: read) rest
    | some n =>
      let good := min (goodFollowers a (rest.take (n - 1))) (n - 1)
      if good < min (n - 1) rest.length then
        .error ⟨"utf-8", a, position, good + 1, "invalid continuation byte"⟩
      else
        match n, rest with
        | 2, b :: rest => decodeUtf8From (position + 2) (charOf (codePointOf [a, b]) :: read) rest
        | 3, b :: c :: rest =>
          decodeUtf8From (position + 3) (charOf (codePointOf [a, b, c]) :: read) rest
        | 4, b :: c :: d :: rest =>
          decodeUtf8From (position + 4) (charOf (codePointOf [a, b, c, d]) :: read) rest
        | _, _ => .error ⟨"utf-8", a, position, rest.length + 1, "unexpected end of data"⟩

/-- The text of bytes in UTF-8. -/
def decodeUtf8 (bytes : Bytes) : Except DecodeFault (List Char) := decodeUtf8From 0 [] bytes

/-- The bytes of a character in UTF-8. -/
def utf8Char (c : Char) : Bytes :=
  let n := c.toNat
  let tail (k : Nat) : UInt8 := UInt8.ofNat (0x80 + n >>> (6 * k) % 64)
  if n < 0x80 then [UInt8.ofNat n]
  else if n < 0x800 then [UInt8.ofNat (0xc0 + n / 64), tail 0]
  else if n < 0x10000 then [UInt8.ofNat (0xe0 + (n >>> 12)), tail 1, tail 0]
  else [UInt8.ofNat (0xf0 + (n >>> 18)), tail 2, tail 1, tail 0]

/-- The bytes of a text in UTF-8. -/
def encodeUtf8 (cs : List Char) : Bytes := cs.flatMap utf8Char

/-! ## All encodings -/

/-- The encodings of source files. -/
inductive Encoding where
  | utf8
  /-- UTF-8 with a mark in front. -/
  | utf8Mark
  | latin1
  | ascii
deriving DecidableEq, Repr

/-- The bytes of the mark. -/
def utf8MarkBytes : Bytes := [0xef, 0xbb, 0xbf]

/-- The text of bytes below 128. -/
def decodeAsciiFrom (position : Nat) (read : List Char) : Bytes → Except DecodeFault (List Char)
  | [] => .ok read.reverse
  | a :: rest =>
    if a.toNat < 128 then decodeAsciiFrom (position + 1) (Char.ofNat a.toNat :: read) rest
    else .error ⟨"ascii", a, position, 1, "ordinal not in range(128)"⟩

/-- The bytes without the mark, if they begin with it. -/
def withoutMark (bytes : Bytes) : Bytes := if utf8MarkBytes.isPrefixOf bytes then bytes.drop 3 else bytes

namespace Encoding

/-- The text of bytes. -/
def decode : Encoding → Bytes → Except DecodeFault (List Char)
  | utf8, bytes => decodeUtf8 bytes
  | utf8Mark, bytes => decodeUtf8 (withoutMark bytes)
  | latin1, bytes => .ok (bytes.map fun b => Char.ofNat b.toNat)
  | ascii, bytes => decodeAsciiFrom 0 [] bytes

/-- The bytes of a character, if it is below a limit, or else those of its escape. -/
def limitedChar (limit : Nat) (c : Char) : Bytes :=
  if c.toNat < limit then [UInt8.ofNat c.toNat]
  else (codePointEscape c).map fun d => UInt8.ofNat d.toNat

/-- The bytes of a text. -/
def encode : Encoding → List Char → Bytes
  | utf8, cs => encodeUtf8 cs
  | utf8Mark, cs => utf8MarkBytes ++ encodeUtf8 cs
  | latin1, cs => cs.flatMap (limitedChar 256)
  | ascii, cs => cs.flatMap (limitedChar 128)

end Encoding

end Localize.Text
