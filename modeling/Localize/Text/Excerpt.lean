/-
  Lines of files as they are shown with a fault: whatever a file holds is read as UTF-8, with a mark
  in place of what is none. Of a very long line only the last piece is shown.
-/
import Localize.Text.Encoding

namespace Localize.Text

/-- The character in place of bytes that are no text. -/
def replacementMark : Char := '\ufffd'

/-- The text of bytes in UTF-8, with a mark for every run of bytes that is none; at most a number of
runs. -/
def decodeLeniently : Nat → Bytes → List Char
  | 0, _ => []
  | rounds + 1, bytes =>
    match decodeUtf8 bytes with
    | .ok cs => cs
    | .error fault =>
      let good := match decodeUtf8 (bytes.take fault.position) with
        | .ok cs => cs
        | .error _ => []
      good ++ replacementMark :: decodeLeniently rounds (bytes.drop (fault.position + fault.count))

/-- Cuts bytes behind each end of a line, of which a line feed is left; `line` holds the bytes of the
current line, reversed. -/
def byteLinesFrom (line : Bytes) : Bytes → List Bytes
  | [] => if line.isEmpty then [] else [line.reverse]
  | 13 :: 10 :: rest => (10 :: line).reverse :: byteLinesFrom [] rest
  | b :: rest =>
    if b = 13 || b = 10 then (10 :: line).reverse :: byteLinesFrom [] rest
    else byteLinesFrom (b :: line) rest

/-- How many bytes of a line are shown at most. -/
def pieceSize : Nat := 999

/-- The last piece of a line. A line that ends the file with a full piece has none. -/
def lastPiece (line : Bytes) : Option Bytes :=
  if line.getLast? != some 10 && line.length % pieceSize = 0 then none
  else some (line.drop ((line.length - 1) / pieceSize * pieceSize))

/-- What is shown of a line of a file, counted from one. -/
def shownLine (file : Bytes) (line : Nat) : Option (List Char) := do
  let bytes ← (byteLinesFrom [] file)[line - 1]?
  let piece ← lastPiece bytes
  return decodeLeniently (piece.length + 1) piece

end Localize.Text
