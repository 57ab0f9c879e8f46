import SqlScope.Number.Binary64

/-!
# Shortest decimal digits of a binary64

Every finite binary64 is the nearest binary64 of all the reals in an interval
around it: half-way to each neighbour, the ends included when the mantissa is
even (ties go to the even mantissa). The shortest text of a number is the decimal
with the fewest significant digits in that interval; among those with that many
digits the one nearest the number wins, an exact tie going to the larger. Reading
the text back gives the number again.

The search tries 1, 2, … 17 significant digits. On the grid of decimals with `p`
digits only the two grid points around the number can be nearest, and if any
grid point lies in the interval so does one of these two, so two tests per grid
settle it. Everything is exact `Nat` arithmetic.

Two texts are built from the digits: the positional form (never an exponent;
`1e20` is `100000000000000000000`, `-0.0` is `-0`), used for SQL literals, and
the JSON form, which keeps a `.0` on whole numbers and switches to an exponent
outside sixteen digits.
-/

namespace SqlScope.Number

/-- A decimal number `digits · 10^exp`. -/
structure Decimal where
  digits : Nat
  exp : Int
  deriving Repr, BEq, Inhabited

/-- Compares `c · 10^j` with `x · 2^f`. -/
def compareScaled (c : Nat) (j : Int) (x : Nat) (f : Int) : Ordering :=
  compare (c * Nat.pow 10 j.toNat * Nat.pow 2 (-f).toNat) (x * Nat.pow 2 f.toNat * Nat.pow 10 (-j).toNat)

/-- The exponent `E` with `10^E ≤ x · 2^f < 10^(E+1)`, for `x > 0`. -/
def decimalExponent (x : Nat) (f : Int) : Int :=
  let n := x * Nat.pow 2 f.toNat
  let d := Nat.pow 2 (-f).toNat
  if d ≤ n then (Binary64.digitCount (n / d) : Int) - 1
  else
    let k0 := Binary64.digitCount (d / n) - 1
    if d ≤ n * Nat.pow 10 k0 then -(k0 : Int) else -((k0 : Int) + 1)

/-- The interval of reals that round to a positive binary64 `m · 2^e`, in units of
`2^(e-2)`: its two ends and whether they belong to it. -/
structure RoundingInterval where
  low : Nat
  high : Nat
  closed : Bool

/-- The rounding interval of a positive canonical binary64 `m · 2^e`. The gap
below is half as wide at the bottom of a binade, where the exponent steps down. -/
def roundingInterval (m : Nat) (e : Int) : RoundingInterval :=
  let lowGap := if m == Nat.pow 2 52 && Binary64.minExp < e then 1 else 2
  ⟨4 * m - lowGap, 4 * m + 2, m % 2 == 0⟩

/-- Whether `c · 10^j` lies in the interval `iv` (in units of `2^f`). -/
def RoundingInterval.contains (iv : RoundingInterval) (f : Int) (c : Nat) (j : Int) : Bool :=
  let aboveLow := match compareScaled c j iv.low f with
    | .gt => true | .eq => iv.closed | .lt => false
  let belowHigh := match compareScaled c j iv.high f with
    | .lt => true | .eq => iv.closed | .gt => false
  aboveLow && belowHigh

/-- The decimal with `p` significant digits nearest to `m · 2^e` that lies in its
rounding interval, if one does. -/
def gridHit (m : Nat) (e : Int) (p : Nat) : Option Decimal :=
  let f := e - 2
  let v := 4 * m
  let iv := roundingInterval m e
  let j := decimalExponent v f - p + 1
  let c := v * Nat.pow 2 f.toNat * Nat.pow 10 (-j).toNat / (Nat.pow 2 (-f).toNat * Nat.pow 10 j.toNat)
  let downIn := iv.contains f c j
  let upIn := iv.contains f (c + 1) j
  if downIn && upIn then
    -- the nearer of the two; an exact tie goes up
    match compareScaled (2 * c + 1) j (2 * v) f with
    | .gt => some ⟨c, j⟩
    | _ => some ⟨c + 1, j⟩
  else if downIn then some ⟨c, j⟩
  else if upIn then some ⟨c + 1, j⟩
  else none

/-- Removes trailing zeros from the digits, raising the exponent. -/
def Decimal.trim (d : Decimal) : Decimal :=
  let rec go : Nat → Nat → Int → Decimal
    | 0, c, j => ⟨c, j⟩
    | k + 1, c, j => if c != 0 && c % 10 == 0 then go k (c / 10) (j + 1) else ⟨c, j⟩
  go (Binary64.digitCount d.digits) d.digits d.exp

/-- The shortest decimal that reads back as the positive binary64 `m · 2^e`. -/
def shortestDecimal (m : Nat) (e : Int) : Decimal :=
  let hit := (List.range 17).findSome? (fun i => gridHit m e (i + 1))
  (hit.getD ⟨m, e⟩).trim

/-- The digits of a decimal as text, and the exponent of its last digit. -/
def Decimal.digitText (d : Decimal) : String := toString d.digits

/-- `n` zeros. -/
def zeros (n : Nat) : String := String.ofList (List.replicate n '0')

/-- A decimal in positional notation, with no exponent and no trailing `.0`. -/
def Decimal.positional (d : Decimal) : String :=
  let s := d.digitText
  if 0 ≤ d.exp then s ++ zeros d.exp.toNat
  else
    let point : Int := s.length + d.exp
    if 0 < point then
      String.ofList (s.toList.take point.toNat) ++ "." ++ String.ofList (s.toList.drop point.toNat)
    else "0." ++ zeros (-point).toNat ++ s

/-- A decimal as a JSON number: positional with a `.0` kept on whole numbers while
the point stands within sixteen digits of the front, `0.000ddd` down to five
zeros, and `d.ddde±x` outside that. -/
def Decimal.json (d : Decimal) : String :=
  let s := d.digitText
  let len : Int := s.length
  let kk := len + d.exp
  if 0 ≤ d.exp && kk ≤ 16 then s ++ zeros d.exp.toNat ++ ".0"
  else if 0 < kk && kk ≤ 16 then
    String.ofList (s.toList.take kk.toNat) ++ "." ++ String.ofList (s.toList.drop kk.toNat)
  else if -5 < kk && kk ≤ 0 then "0." ++ zeros (-kk).toNat ++ s
  else
    let mant := if len == 1 then s else String.ofList (s.toList.take 1) ++ "." ++ String.ofList (s.toList.drop 1)
    mant ++ "e" ++ toString (kk - 1)

namespace Binary64

/-- The shortest decimal of a finite number's magnitude; zero for other numbers. -/
def magnitude : Binary64 → Decimal
  | .finite _ m e => if m = 0 then ⟨0, 0⟩ else shortestDecimal m e
  | _ => ⟨0, 0⟩

/-- Whether the sign bit is set. -/
def isNegative : Binary64 → Bool
  | .finite s .. => s
  | .infinite s => s
  | .nan => false

/-- The text of a number in positional notation: the shortest digits that read back,
never an exponent, a `-` on negative numbers and on negative zero, and `inf`,
`-inf` and `NaN` for the others. -/
def positional : Binary64 → String
  | .nan => "NaN"
  | .infinite s => if s then "-inf" else "inf"
  | x@(.finite s ..) => (if s then "-" else "") ++ x.magnitude.positional

/-- The text of a finite number as a JSON number. -/
def json (x : Binary64) : String :=
  (if x.isNegative then "-" else "") ++ x.magnitude.json

end Binary64

end SqlScope.Number
