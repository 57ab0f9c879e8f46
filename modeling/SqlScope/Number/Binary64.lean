/-!
# Binary64 numbers

Double-precision floating-point numbers by their value: a sign, a mantissa and
a power of two, or an infinity, or not-a-number. Numbers arrive as decimal text
(in a rules file, in a request), so the main operation here is rounding an exact
decimal to the nearest binary64, ties to an even mantissa, the way every
correctly rounding reader does.

A finite number `finite neg m e` stands for `(-1)^neg · m · 2^e`. The numbers
built here are canonical: `m < 2^53` and `-1074 ≤ e ≤ 971`, and either
`2^52 ≤ m` (a normal number) or `e = -1074` (a subnormal number or zero).
-/

namespace SqlScope.Number

/-- A double-precision floating-point number. -/
inductive Binary64 where
  | finite (neg : Bool) (mant : Nat) (exp : Int)
  | infinite (neg : Bool)
  | nan
  deriving Repr, BEq, Inhabited

namespace Binary64

/-- The least exponent of a canonical finite number. -/
def minExp : Int := -1074

/-- The greatest exponent of a canonical finite number. -/
def maxExp : Int := 971

/-- Whether the number is neither infinite nor not-a-number. -/
def isFinite : Binary64 → Bool
  | .finite .. => true
  | _ => false

/-- `n / d` rounded to the nearest natural number, a tie going to the even one. -/
def roundHalfEven (n d : Nat) : Nat :=
  let q := n / d
  let r := n % d
  if 2 * r < d then q
  else if d < 2 * r then q + 1
  else if q % 2 == 0 then q else q + 1

/-- Whether `n / d ≥ 2^k`. -/
def ratioAtLeastPow2 (n d : Nat) (k : Int) : Bool :=
  d * Nat.pow 2 k.toNat ≤ n * Nat.pow 2 (-k).toNat

/-- The binary64 nearest to `n / d`, with the given sign; ties go to the even
mantissa, and a value beyond the largest finite number becomes an infinity. -/
def ofRatio (neg : Bool) (n d : Nat) : Binary64 :=
  if n = 0 then .finite neg 0 minExp
  else
    -- `k0 - 1 ≤ ⌊log₂ (n / d)⌋ ≤ k0`
    let k0 : Int := (Nat.log2 n : Int) - Nat.log2 d
    let k := if ratioAtLeastPow2 n d k0 then k0 else k0 - 1
    let e := max (k - 52) minExp
    let m := roundHalfEven (n * Nat.pow 2 (-e).toNat) (d * Nat.pow 2 e.toNat)
    let (m, e) := if m = Nat.pow 2 53 then (Nat.pow 2 52, e + 1) else (m, e)
    if maxExp < e then .infinite neg else .finite neg m e

/-- The number of decimal digits of a positive number. -/
def digitCount (n : Nat) : Nat := (Nat.toDigits 10 n).length

/-- The binary64 nearest to `digits · 10^exp`, with the given sign. Values so large
or so small that rounding cannot depend on their digits are settled from the
digit count, so that no huge power of ten is formed. -/
def ofDecimal (neg : Bool) (digits : Nat) (exp : Int) : Binary64 :=
  if digits = 0 then .finite neg 0 minExp
  else
    let lead : Int := digitCount digits + exp
    if 310 < lead then .infinite neg
    else if lead < -325 then .finite neg 0 minExp
    else ofRatio neg (digits * Nat.pow 10 exp.toNat) (Nat.pow 10 (-exp).toNat)

/-- The number with the opposite sign. -/
def neg : Binary64 → Binary64
  | .finite s m e => .finite (!s) m e
  | .infinite s => .infinite (!s)
  | .nan => .nan

/-- The number `n` as a binary64, rounded if it has more than 53 significant bits. -/
def ofInt (n : Int) : Binary64 := ofDecimal (n < 0) n.natAbs 0

/-- The binary64 nearest to `10^k`, as a literal `1e<k>` denotes it. -/
def pow10 (k : Nat) : Binary64 := ofDecimal false 1 k

/-- Whether the number is a zero of either sign. -/
def isZero : Binary64 → Bool
  | .finite _ m _ => m == 0
  | _ => false

/-- The product, rounded to the nearest binary64 as floating-point hardware
rounds it: exact for finite factors, then one rounding; an infinity times a zero
is not-a-number. -/
def mul : Binary64 → Binary64 → Binary64
  | .finite s m e, .finite s' m' e' =>
    let x := e + e'
    ofRatio (s != s') (m * m' * Nat.pow 2 x.toNat) (Nat.pow 2 (-x).toNat)
  | .infinite s, .finite s' m' _ => if m' == 0 then .nan else .infinite (s != s')
  | .finite s m _, .infinite s' => if m == 0 then .nan else .infinite (s != s')
  | .infinite s, .infinite s' => .infinite (s != s')
  | _, _ => .nan

/-- The quotient, rounded to the nearest binary64 as floating-point hardware
rounds it: a nonzero number over zero is an infinity, zero over zero and an
infinity over an infinity are not-a-number. -/
def div : Binary64 → Binary64 → Binary64
  | .finite s m e, .finite s' m' e' =>
    if m' == 0 then (if m == 0 then .nan else .infinite (s != s'))
    else
      let x := e - e'
      ofRatio (s != s') (m * Nat.pow 2 x.toNat) (m' * Nat.pow 2 (-x).toNat)
  | .finite s _ _, .infinite s' => .finite (s != s') 0 minExp
  | .infinite s, .finite s' _ _ => .infinite (s != s')
  | _, _ => .nan

end Binary64

/-- The parts of a decimal numeral: the digits before and after the point and the
exponent. -/
structure Numeral where
  whole : List Char
  frac : List Char
  exp : Int
  deriving Repr, BEq

/-- The value of a list of decimal digits. -/
def digitsValue (ds : List Char) : Nat :=
  ds.foldl (fun acc c => acc * 10 + (c.toNat - '0'.toNat)) 0

/-- Reads `digits [. digits] [e [sign] digits]` with at least one digit before the
exponent, as decimal floating-point text is written. -/
def Numeral.read (cs : List Char) : Option Numeral :=
  let whole := cs.takeWhile Char.isDigit
  let rest := cs.dropWhile Char.isDigit
  let (frac, rest) := match rest with
    | '.' :: r => (r.takeWhile Char.isDigit, r.dropWhile Char.isDigit)
    | r => ([], r)
  if whole.isEmpty && frac.isEmpty then none
  else if rest.isEmpty then some ⟨whole, frac, 0⟩
  else match rest with
    | e :: r =>
      if e != 'e' && e != 'E' then none
      else
        let (negExp, r) := match r with
          | '-' :: r' => (true, r')
          | '+' :: r' => (false, r')
          | r' => (false, r')
        if r.isEmpty || !r.all Char.isDigit then none
        else
          let v : Int := digitsValue r
          some ⟨whole, frac, if negExp then -v else v⟩
    | [] => none

/-- The binary64 nearest to a numeral. -/
def Numeral.toBinary64 (neg : Bool) (n : Numeral) : Binary64 :=
  Binary64.ofDecimal neg (digitsValue (n.whole ++ n.frac)) (n.exp - n.frac.length)

/-- Reads floating-point text: an optional sign, then a decimal numeral (`1`,
`1.`, `.5`, `1e-3`), or `inf`, `infinity` or `nan` in any case. -/
def readBinary64 (s : String) : Option Binary64 :=
  let cs := s.toList
  let (neg, body) := match cs with
    | '-' :: r => (true, r)
    | '+' :: r => (false, r)
    | r => (false, r)
  let word := String.ofList (body.map Char.toLower)
  if word == "inf" || word == "infinity" then some (.infinite neg)
  else if word == "nan" then some .nan
  else (Numeral.read body).map (Numeral.toBinary64 neg)

end SqlScope.Number
