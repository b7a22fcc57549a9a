/-
  Parts of texts: whether a text has a part, what stands in front of the first one, and the text with
  another one in place of each, from the front on.
-/

namespace Localize.Text

/-- Whether a text is part of another one. -/
def isPartOf (part : List Char) : List Char → Bool
  | [] => part.isEmpty
  | c :: rest => part.isPrefixOf (c :: rest) || isPartOf part rest

/-- The text with another one in place of each part `part`, which must not be empty; `skip` counts the
characters that belong to a part already replaced. -/
def replaceFrom (part new : List Char) (skip : Nat) : List Char → List Char
  | [] => []
  | c :: rest =>
    match skip with
    | n + 1 => replaceFrom part new n rest
    | 0 =>
      if part.isPrefixOf (c :: rest) then new ++ replaceFrom part new (part.length - 1) rest
      else c :: replaceFrom part new 0 rest

/-- The text with another one in place of each part `part`, which must not be empty. -/
def replaceAll (part new cs : List Char) : List Char := replaceFrom part new 0 cs

/-- What stands in front of the first part `part`. -/
def before (part : List Char) : List Char → List Char
  | [] => []
  | c :: rest => if part.isPrefixOf (c :: rest) then [] else c :: before part rest

end Localize.Text
