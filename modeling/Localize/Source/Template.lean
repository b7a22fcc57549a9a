/-
  Templates of paths: a placeholder in a template stands for a locale. What a template gives has to
  stay below a root, name by name; the root is what the template says in front of the first placeholder
  unless it is given.
-/
import Localize.Source.Load
import Localize.Text.Part

namespace Localize

open Localize.Text

/-- What stands for a locale in the path of a source. -/
def placeholder : String := "\x7blocale\x7d"

/-- Why a template gives no source for a locale. -/
inductive TemplateFault where
  /-- The template has no placeholder. -/
  | noPlaceholder (template : String)
  | emptyLocale
  /-- The locale leads back. -/
  | backward (locale : String)
  /-- The locale has a separator. -/
  | separator (locale : String)
  /-- The path does not lie below the root. -/
  | outside (locale : String)
  /-- A path has a null character. -/
  | nullCharacter
  | load (f : LoadFault)

/-- The wording of a fault. -/
def TemplateFault.message : TemplateFault → String
  | noPlaceholder template =>
    "path_template must contain '" ++ placeholder ++ s!"' placeholder, got: '{template}'"
  | emptyLocale => "Locale code cannot be empty"
  | backward locale => s!"Path traversal sequences not allowed in locale: '{locale}'"
  | separator locale => s!"Path separators not allowed in locale: '{locale}'"
  | outside locale =>
    s!"Path traversal detected: resolved path escapes root directory. locale='{locale}'"
  | nullCharacter => FileFault.nullCharacter.message
  | load f => f.message

/-- A template with its root. -/
structure Template where
  text : String
  root : Trail
deriving DecidableEq, Repr

namespace Template

/-- Whether a text has the placeholder. -/
def hasPlaceholder (text : String) : Bool := isPartOf placeholder.toList text.toList

/-- The part of a template in front of the last slash before the first placeholder. -/
def staticPart (text : String) : String :=
  let front := before placeholder.toList text.toList
  String.ofList ((front.reverse.dropWhile (· ≠ '/')).drop 1).reverse

/-- The trail of a path that has no null character. -/
def trail (home : Trail) (text : String) : Except TemplateFault Trail :=
  if text.toList.contains '\x00' then .error .nullCharacter else .ok ((Path.ofText text).resolve home)

/-- The template of a text, with a root if one is given. -/
def of (home : Trail) (text : String) (root : Option String) : Except TemplateFault Template := do
  if !hasPlaceholder text then throw (.noPlaceholder text)
  return ⟨text, ← trail home (root.getD (staticPart text))⟩

/-- The path that a template gives for a locale. -/
def describe (t : Template) (locale : String) : String :=
  String.ofList (replaceAll placeholder.toList locale.toList t.text.toList)

/-- Checks a locale. -/
def checkLocale (locale : String) : Except TemplateFault Unit :=
  let cs := locale.toList
  if cs.isEmpty then .error .emptyLocale
  else if isPartOf "..".toList cs then .error (.backward locale)
  else if cs.contains '/' || cs.contains '\\' then .error (.separator locale)
  else .ok ()

/-- The trail that a template gives for a locale, if it lies below the root. -/
def resolve (t : Template) (home : Trail) (locale : String) : Except TemplateFault Trail := do
  checkLocale locale
  let trail ← trail home (t.describe locale)
  if t.root.isPrefixOf trail then return trail else throw (.outside locale)

/-- Loads the source for a locale. -/
def load (t : Template) (catalogs : Bool) (tree : Tree) (locale : String)
    (readers : Catalog.Readers := .atHand) : Except TemplateFault Source.Loaded := do
  let trail ← t.resolve tree.home locale
  (Source.load catalogs tree (.ofTrail trail) readers).mapError .load

end Template

end Localize
