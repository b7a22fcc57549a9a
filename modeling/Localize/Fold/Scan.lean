/-
  The scan of a module's tree. It visits nodes in reading order, puts a literal in the place of
  each call site and does not look inside of it. A node beyond the limit on nesting is not visited;
  the calls of the localization function in it are only noted.
-/
import Localize.Fold.Guard
import Localize.Fold.Substitution

namespace Localize

open Syntax

/-- The number of nodes on the longest path down a tree. -/
def Syntax.Node.height : Node → Nat
  | .name _ => 1
  | .text _ => 1
  | .joined parts => heights parts + 1
  | .sum left right => max left.height right.height + 1
  | .starred inner => inner.height + 1
  | .call callee arguments keywords _ =>
    max callee.height (max (heights arguments) (heights keywords)) + 1
  | .form _ children => heights children + 1
where
  heights : List Node → Nat
    | [] => 0
    | n :: rest => max n.height (heights rest)

/-- The nodes of trees level by level, as many levels as given. -/
def breadthFirst : Nat → List Node → List Node
  | 0, _ => []
  | levels + 1, nodes => nodes ++ breadthFirst levels (nodes.flatMap Node.children)

/-- The spans of the calls of a name in a tree, level by level. -/
def callsWithin (name : String) (node : Node) : List Span :=
  (breadthFirst node.height [node]).filterMap fun n =>
    match n with
    | .call (.name id) _ _ span => if id = name then some span else none
    | _ => none

/-- Why a scan stops. -/
inductive ScanFault where
  | fold (f : FoldFault)
  | nesting (f : NestingFault)
  /-- The value of a key cannot be encoded. -/
  | write (f : Json.WriteFault)
deriving Repr

/-- The state of a scan. The substitutions and the spans of the calls beyond the limit come
reversed. -/
structure Scan where
  guard : Guard
  journal : Journal
  substitutions : List Substitution := []
  skipped : List Span := []
deriving Repr

/-- Scanning keeps what was written before a fault. -/
abbrev Scanning := ExceptT ScanFault (StateM Scan)

namespace Scan

/-- Resolves a key. -/
def resolve (config : Config) (m : Miss) : Scanning Resolution := fun scan =>
  match (Resolution.of config m).run scan.journal with
  | (.ok resolution, journal) => (.ok resolution, { scan with journal })
  | (.error f, journal) => (.error (.fold f), { scan with journal })

/-- Resolves the key of a call site and puts the literal of the value in its place. -/
def fill (config : Config) (site : CallSite) : Scanning Unit := do
  let resolution ← resolve config ⟨site.key, site.text, some site.location⟩
  match Substitution.fill resolution.value site resolution.outcome with
  | .error f => throw (.write f)
  | .ok s => modify fun scan => { scan with substitutions := s :: scan.substitutions }

/-- Puts a literal in the place of a call site, if a node is one, and tells whether it is. -/
def foldCall (config : Config) (index : LineIndex) (node : Node) : Scanning Bool := do
  match CallSite.of? config.functionName index node with
  | .error e => throw (.fold (.position e))
  | .ok none => return false
  | .ok (some site) => do
    fill config site
    return true

/-- Visits a node by `body` inside of a level of its own, which is left also after a fault. Beyond
the limit only the calls in it are noted. -/
def guarded (name : String) (node : Node) (body : Scanning Unit) : Scanning Unit := fun scan =>
  if scan.guard.isExceeded then
    (.ok (), { scan with skipped := (callsWithin name node).reverse ++ scan.skipped })
  else
    match scan.guard.enter with
    | .error f => (.error (.nesting f), scan)
    | .ok guard =>
      let (result, scan) := body.run { scan with guard }
      (result, { scan with guard := scan.guard.leave })

mutual

/-- Visits a node and what is below it. -/
def visit (config : Config) (index : LineIndex) (node : Node) : Scanning Unit :=
  guarded config.functionName node do
    match node with
    | .name _ => return ()
    | .text _ => return ()
    | .joined parts => visitAll config index parts
    | .sum left right => do
      visit config index left
      visit config index right
    | .starred inner => visit config index inner
    | .call callee arguments keywords span => do
      if ← foldCall config index (.call callee arguments keywords span) then return ()
      else
        visit config index callee
        visitAll config index arguments
        visitAll config index keywords
    | .form _ children => visitAll config index children

/-- Visits nodes one after the other. -/
def visitAll (config : Config) (index : LineIndex) : List Node → Scanning Unit
  | [] => return ()
  | node :: rest => do
    visit config index node
    visitAll config index rest

end

/-- The scan of a tree by a guard, with a window to write to. -/
def ofTree (config : Config) (index : LineIndex) (guard : Guard) (window : Window) (tree : Node) :
    Except ScanFault Unit × Scan :=
  (visit config index tree).run { guard, journal := { window } }

end Scan

end Localize
