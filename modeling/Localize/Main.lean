/-
  The program. It reads the listing of a tree from standard input, runs the command line on it, reports
  on standard error, and prints the listing of the files that the run has written.
-/
import Localize.CommandLine.Run
import Localize.File.Listing
import Localize.Json.Reader
import Localize.Json.Writer

namespace Localize

open Localize.Text

/-- Why an input is no listing. -/
inductive ListingFault where
  | encoding (f : DecodeFault)
  | json (message : String)
  | noMap (typeName : String)
deriving DecidableEq, Repr

/-- The wording of a fault. -/
def ListingFault.message : ListingFault → String
  | encoding f => f.message
  | json message => message
  | noMap typeName => "a listing is a map, got " ++ typeName

/-- The tree that an input lists, with the root as its working directory. -/
def readTree (input : Bytes) : Except ListingFault Tree := do
  let cs ← (decodeUtf8 input).mapError ListingFault.encoding
  let text := String.ofList cs
  match ← (Json.read text).mapError fun f => ListingFault.json (f.message text) with
  | .map listing => return .ofListing [] listing
  | other => throw (.noMap other.typeName)

/-- All that is left to read from a stream. -/
partial def readAll (stream : IO.FS.Stream) (read : ByteArray) : IO ByteArray := do
  let chunk ← stream.read 65536
  if chunk.isEmpty then return read else readAll stream (read ++ chunk)

end Localize

/-- Runs the command line with the given arguments. -/
def main (arguments : List String) : IO UInt32 := do
  let input ← Localize.readAll (← IO.getStdin) .empty
  match Localize.readTree input.toList with
  | .error f =>
    IO.eprintln f.message
    return 2
  | .ok tree =>
    let run := Localize.CommandLine.run tree arguments
    IO.eprint run.text
    IO.println (Localize.Json.write (.map (tree.changes run.tree)))
    match run.exit with
    | .ok code => return UInt32.ofNat code
    | .error f =>
      IO.eprintln f.message
      return 1
