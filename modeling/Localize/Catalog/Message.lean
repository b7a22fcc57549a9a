/-
  Message catalogs: the messages of a file in the order in which their keys first appear. A message
  that comes again adds to the first one; the message without an id is the header. A catalog localizes
  what is singular, has no context, is certain, and has a text.
-/
import Localize.Source.Basic

namespace Localize.Catalog

/-- A message of a catalog. -/
structure Message where
  /-- The text to localize, in the singular. -/
  id : String
  /-- Whether there is a plural as well. -/
  plural : Bool := false
  /-- The localized text, which is not used where there is a plural. -/
  text : String := ""
  context : Option String := none
  /-- Whether the localized text still has to be checked. -/
  fuzzy : Bool := false
deriving DecidableEq, Repr

namespace Message

/-- What tells messages apart. -/
abbrev Key := String × Option String

/-- The key of a message. -/
def key (m : Message) : Key := (m.id, m.context)

/-- Whether a message localizes its id wherever the id occurs. -/
def localizes (m : Message) : Bool :=
  m.id ≠ "" && !m.plural && m.context = none && !m.fuzzy && m.text ≠ ""

/-- The first of two messages with one key, with what the second one adds. -/
def merge (first second : Message) : Message :=
  { first with plural := first.plural || second.plural, fuzzy := first.fuzzy || second.fuzzy }

end Message

/-- Adds a message to others. -/
def addMessage (messages : List Message) (m : Message) : List Message :=
  match messages with
  | [] => [m]
  | first :: rest =>
    if first.key = m.key then first.merge m :: rest else first :: addMessage rest m

/-- The localized texts of messages by their ids. -/
def texts (messages : List Message) : List (String × String) :=
  messages.foldl (fun table m => if m.localizes then setEntry m.id m.text table else table) []

/-- The source that looks up whole texts in a catalog. -/
def source (name : String) (messages : List Message) : Source :=
  .ofTable name ((texts messages).map fun (id, text) => (id, .text text))

end Localize.Catalog
