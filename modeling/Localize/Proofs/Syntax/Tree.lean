/-
  Equality of syntax trees can be decided, so that what is said of the tree of a text can be tried on
  two of them.
-/
import Localize.Syntax.Node

namespace Localize.Syntax.Node

mutual

/-- Whether two trees are the same. -/
def same : Node → Node → Bool
  | name id, name id' => id = id'
  | text value, text value' => value = value'
  | joined parts, joined parts' => sameAll parts parts'
  | sum left right, sum left' right' => same left left' && same right right'
  | starred inner, starred inner' => same inner inner'
  | call callee arguments keywords span, call callee' arguments' keywords' span' =>
    same callee callee' && sameAll arguments arguments' && sameAll keywords keywords' && span = span'
  | form kind children, form kind' children' => kind = kind' && sameAll children children'
  | _, _ => false

def sameAll : List Node → List Node → Bool
  | [], [] => true
  | n :: rest, n' :: rest' => same n n' && sameAll rest rest'
  | _, _ => false

end

mutual

theorem same_iff (a b : Node) : a.same b = true ↔ a = b := by
  cases a with
  | name id => cases b <;> simp [same]
  | text value => cases b <;> simp [same]
  | joined parts =>
    cases b with
    | joined parts' => simp [same, sameAll_iff parts parts']
    | _ => simp [same]
  | sum left right =>
    cases b with
    | sum left' right' => simp [same, same_iff left left', same_iff right right']
    | _ => simp [same]
  | starred inner =>
    cases b with
    | starred inner' => simp [same, same_iff inner inner']
    | _ => simp [same]
  | call callee arguments keywords span =>
    cases b with
    | call callee' arguments' keywords' span' =>
      simp [same, same_iff callee callee', sameAll_iff arguments arguments',
        sameAll_iff keywords keywords', and_assoc]
    | _ => simp [same]
  | form kind children =>
    cases b with
    | form kind' children' => simp [same, sameAll_iff children children']
    | _ => simp [same]

theorem sameAll_iff (as bs : List Node) : sameAll as bs = true ↔ as = bs := by
  cases as with
  | nil => cases bs <;> simp [sameAll]
  | cons a as =>
    cases bs with
    | nil => simp [sameAll]
    | cons b bs => simp [sameAll, same_iff a b, sameAll_iff as bs]

end

instance : DecidableEq Node := fun a b => decidable_of_iff _ (same_iff a b)

end Localize.Syntax.Node
