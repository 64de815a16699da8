/-
Roster.Decimal.Shortest — the shortest decimal that reads back as a
given double.

A finite double is `m · 2^q`.  The reals that round to it form an
interval whose ends are the midpoints to its neighbours; the ends belong
to it exactly when `m` is even.  The shortest decimal is the one on the
coarsest grid `10^e` that meets the interval, and of two such points the
one nearer to the double, a tie going to the even digit.
-/
import Roster.Decimal.Digits

namespace Roster.Decimal

/-- A nonnegative decimal `coefficient · 10^exponent`. -/
structure Scaled where
  coefficient : Nat
  exponent : Int
  deriving DecidableEq, Repr

/-- A nonnegative rational number. -/
structure Ratio where
  num : Nat
  den : Nat

/-- `n · 2^q` as a ratio. -/
def Ratio.ofBinary (n : Nat) (q : Int) : Ratio :=
  if 0 ≤ q then ⟨n * Nat.pow 2 q.toNat, 1⟩ else ⟨n, Nat.pow 2 (-q).toNat⟩

/-- The ratio measured in units of `10^e`. -/
def Ratio.inUnits (r : Ratio) (e : Int) : Ratio :=
  if 0 ≤ e then ⟨r.num, r.den * Nat.pow 10 e.toNat⟩
  else ⟨r.num * Nat.pow 10 (-e).toNat, r.den⟩

/-- The interval of reals that round to a double, with the double itself. -/
structure Rounding where
  low : Ratio
  value : Ratio
  high : Ratio
  /-- Whether the ends round to the double too. -/
  closed : Bool

/-- The interval of `m · 2^q`.  Below a power of two the neighbour is only
half as far away. -/
def Rounding.ofBinary (m : Nat) (q : Int) : Rounding :=
  let low := if m = Nat.pow 2 52 ∧ -1074 < q then 4 * m - 1 else 4 * m - 2
  { low := .ofBinary low (q - 2)
    value := .ofBinary (4 * m) (q - 2)
    high := .ofBinary (4 * m + 2) (q - 2)
    closed := m % 2 = 0 }

/-- Whether the grid point `k · 10^e` rounds to the double. -/
def Rounding.holds (r : Rounding) (k : Nat) (e : Int) : Bool :=
  let low := r.low.inUnits e
  let high := r.high.inUnits e
  if r.closed then low.num ≤ k * low.den && k * high.den ≤ high.num
  else low.num < k * low.den && k * high.den < high.num

/-- The point of the grid `10^e` that rounds to the double and is nearest to
it, if there is one. -/
def Rounding.nearest? (r : Rounding) (e : Int) : Option Nat :=
  let v := r.value.inUnits e
  let below := v.num / v.den
  match r.holds below e && 0 < below, r.holds (below + 1) e with
  | true, true =>
    let rest := 2 * (v.num - below * v.den)
    if rest < v.den ∨ (rest = v.den ∧ below % 2 = 0) then some below else some (below + 1)
  | true, false => some below
  | false, true => some (below + 1)
  | false, false => none

/-- The first grid below `10^e` that meets the interval, looking at `fuel`
grids. -/
def Rounding.coarsest (r : Rounding) : Nat → Int → Scaled
  | 0, e => ⟨0, e⟩
  | fuel + 1, e =>
    match r.nearest? e with
    | some k => ⟨k, e⟩
    | none => r.coarsest fuel (e - 1)

/-- The shortest decimal for the magnitude of a nonzero finite double.  No
double reaches `10^310`, and every one has a point on the grid `10^-343`. -/
def shortest (bits : UInt64) : Scaled :=
  let fraction := (bits &&& 0xFFFFFFFFFFFFF).toNat
  let biased := ((bits >>> 52) &&& 0x7FF).toNat
  let rounding :=
    if biased = 0 then Rounding.ofBinary fraction (-1074)
    else Rounding.ofBinary (fraction + Nat.pow 2 52) ((biased : Int) - 1075)
  rounding.coarsest 660 310

/-- A decimal as JSON prints a double: positional from `10^-5` up to
`10^16` with at least one digit behind the point, and otherwise one digit
before the point and a power of ten with its sign. -/
def Scaled.render (s : Scaled) : List Char :=
  let ds := digits s.coefficient
  let point := (ds.length : Int) + s.exponent
  if 0 ≤ s.exponent ∧ point ≤ 16 then ds ++ List.replicate s.exponent.toNat '0' ++ ['.', '0']
  else if 0 < point ∧ point ≤ 16 then ds.take point.toNat ++ '.' :: ds.drop point.toNat
  else if -5 < point ∧ point ≤ 0 then '0' :: '.' :: List.replicate (-point).toNat '0' ++ ds
  else
    let mantissa :=
      match ds with
      | [d] => [d]
      | d :: rest => d :: '.' :: rest
      | [] => []
    let sign := if 0 < point then ['+'] else []
    mantissa ++ 'e' :: (sign ++ ofInt (point - 1))

/-- A finite double as JSON prints it. -/
def renderDouble (bits : UInt64) : List Char :=
  let magnitude := bits &&& 0x7FFFFFFFFFFFFFFF
  let text := if magnitude = 0 then ['0', '.', '0'] else (shortest magnitude).render
  if bits = magnitude then text else '-' :: text

end Roster.Decimal
