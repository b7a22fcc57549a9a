/-
  The shortest decimal that reads back as a given number, and its usual text: positional from
  `1e-4` up to `1e16`, with an exponent of two digits at least outside of that.
-/
import Localize.Number.Double

namespace Localize.Double

/-- The floor of `m * 2 ^ q / 10 ^ k`, and whether the quotient is exact. -/
def gridFloor (m : Nat) (q k : Int) : Nat × Nat × Nat :=
  let num := (if q < 0 then m else m <<< q.natAbs) * (if k < 0 then powerOfTen k.natAbs else 1)
  let den := (if q < 0 then 1 <<< q.natAbs else 1) * (if k < 0 then 1 else powerOfTen k.natAbs)
  (num / den, num % den, den)

/-- The decimal exponent `e` of a positive number, with `10 ^ e ≤ x < 10 ^ (e + 1)`; the estimate
from the binary size is at most one too small. -/
def decimalExponent (m : Nat) (q : Int) : Int :=
  let bits := (m.log2 : Int) + q
  let guess := bits * 30103 / 100000 - 1
  let fits (e : Int) : Bool := (gridFloor m q e).1 ≥ 1
  if fits (guess + 2) then guess + 2 else if fits (guess + 1) then guess + 1 else guess

/-- The digits of the shortest decimal that reads back as `x`, with the exponent of the last
digit: the two neighbours of `x` among the decimals of each precision are tried in turn, the nearer
one first. -/
def shortest (x : Double) : Nat × Int :=
  let (m, q) := x.parts
  let e := decimalExponent m q
  let readsBack (d : Nat) (k : Int) : Bool := ofDecimal x.isNegative d k = x
  let candidate (precision : Nat) : Option (Nat × Int) :=
    let k := e - (precision - 1 : Nat)
    let (below, rest, den) := gridFloor m q k
    if rest = 0 then some (below, k)
    else
      let upFirst := 2 * rest > den || (2 * rest = den && below % 2 = 1)
      let (first, second) := if upFirst then (below + 1, below) else (below, below + 1)
      if readsBack first k then some (first, k)
      else if readsBack second k then some (second, k)
      else none
  ((List.range 17).findSome? fun i => candidate (i + 1)).getD (m, 0)

/-- Drops the zeros at the end of a decimal. -/
def trimmed (fuel : Nat) (d : Nat) (k : Int) : Nat × Int :=
  match fuel with
  | 0 => (d, k)
  | fuel + 1 => if d ≠ 0 ∧ d % 10 = 0 then trimmed fuel (d / 10) (k + 1) else (d, k)

/-- Text of a positive decimal `d * 10 ^ k`. -/
def decimalText (d : Nat) (k : Int) : List Char :=
  let (d, k) := trimmed 40 d k
  let ds := Nat.toDigits 10 d
  let point : Int := ds.length + k
  if -4 < point ∧ point ≤ 16 then
    if point ≤ 0 then '0' :: '.' :: List.replicate point.natAbs '0' ++ ds
    else if point ≥ ds.length then
      ds ++ List.replicate (point.natAbs - ds.length) '0' ++ ['.', '0']
    else ds.take point.natAbs ++ '.' :: ds.drop point.natAbs
  else
    let e := point - 1
    let es := Nat.toDigits 10 e.natAbs
    let sign := if e < 0 then '-' else '+'
    let mantissa := match ds with
      | [] => []
      | [c] => [c]
      | c :: rest => c :: '.' :: rest
    mantissa ++ 'e' :: sign :: (if es.length < 2 then '0' :: es else es)

/-- Text of a number, with the given words for what is not finite. -/
def textWith (nan inf : String) (x : Double) : String :=
  if x.isNaN then nan
  else
    let sign := if x.isNegative then "-" else ""
    if x.isInfinite then sign ++ inf
    else if x.parts.1 = 0 then sign ++ "0.0"
    else
      let (d, k) := x.shortest
      sign ++ String.ofList (decimalText d k)

end Localize.Double
