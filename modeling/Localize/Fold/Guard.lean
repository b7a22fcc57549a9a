/-
  Limits on nesting. A guard counts the levels that a traversal has entered and refuses to enter
  more than its limit, which is itself limited by the frames that a level takes.
-/

namespace Localize

/-- The most frames that may be in use at once. -/
def frameLimit : Int := 1000

/-- The depth that is asked for, or the greatest one that fits when each level takes some frames
and some are kept free. There is none if a level takes no frames. -/
def clampDepth (depth framesPerLevel reserved : Int) : Option Int :=
  if framesPerLevel = 0 then none
  else some (min depth (max ((frameLimit - reserved).fdiv framesPerLevel) 1))

/-- Frames that are kept free where nothing is said about it. -/
def reservedFrames : Int := 100

/-- The deepest nesting that is visited. -/
def nestingLimit : Int := 150

/-- Frames that a level of a traversal takes. -/
def traversalFrames : Int := 4

/-- The levels that a traversal has entered, and how many it may enter. -/
structure Guard where
  limit : Int
  depth : Int := 0
deriving DecidableEq, Repr

/-- An attempt to enter a level beyond the limit. -/
structure NestingFault where
  limit : Int
deriving DecidableEq, Repr

/-- The wording of an attempt beyond the limit. -/
def NestingFault.message (f : NestingFault) : String := s!"Syntax tree nesting exceeds {f.limit} levels"

namespace Guard

/-- A guard at the outermost level. -/
def of? (limit framesPerLevel : Int) : Option Guard :=
  (clampDepth limit framesPerLevel reservedFrames).map fun limit => { limit }

/-- Whether no further level can be entered. -/
def isExceeded (g : Guard) : Bool := g.limit ≤ g.depth

/-- Enters a level. -/
def enter (g : Guard) : Except NestingFault Guard :=
  if g.isExceeded then .error ⟨g.limit⟩ else .ok { g with depth := g.depth + 1 }

/-- Leaves a level. -/
def leave (g : Guard) : Guard := { g with depth := g.depth - 1 }

/-- The guard of the traversal of a module. -/
def traversal : Guard := { limit := min nestingLimit ((frameLimit - reservedFrames).fdiv traversalFrames) }

end Guard

end Localize
