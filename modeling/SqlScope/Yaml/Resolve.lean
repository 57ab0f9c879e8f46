import SqlScope.Number.Binary64
import SqlScope.Yaml.Scanner

/-!
# What a YAML scalar means

A plain scalar with no tag is read by the YAML 1.2 core schema: the empty text,
`~` and `null` are null, `true` and `false` (in three spellings each) are
booleans, then integers (decimal, or `0x`, `0o`, `0b` with the digits of their
radix; a leading zero before more digits makes a string), then finite floats,
`.inf` and `.nan`, and everything else is a string. Quoted and block scalars are
strings. A core-schema tag (`!!bool`, `!!int`, `!!float`, `!!null`) demands its
type; a local tag on a plain scalar reads it as if untagged; other tags give a
string.

Integers are classified by the fixed-width types that can hold them, because a
reader answers differently for each: up to 64 bits unsigned, negative down to
64 bits signed, then the same for 128 bits.
-/

namespace SqlScope.Yaml

open SqlScope.Number

/-- What a scalar holds once its type is known. -/
inductive Scalar where
  | unit
  | bool (b : Bool)
  /-- A non-negative integer that fits in 64 bits. -/
  | nat (n : Nat)
  /-- A negative integer that fits in 64 bits. -/
  | int (n : Int)
  /-- A non-negative integer that needs more than 64 bits but at most 128. -/
  | wideNat (n : Nat)
  /-- A negative integer that needs more than 64 bits but at most 128. -/
  | wideInt (n : Int)
  | float (x : Binary64)
  | str (s : String)
  deriving Repr, BEq, Inhabited

/-- The value of a digit in a radix up to 36. -/
def digitOf (radix : Nat) (c : Char) : Option Nat :=
  let d :=
    if '0' ≤ c ∧ c ≤ '9' then some (c.toNat - 48)
    else if 'a' ≤ c ∧ c ≤ 'z' then some (c.toNat - 87)
    else if 'A' ≤ c ∧ c ≤ 'Z' then some (c.toNat - 55)
    else none
  d.filter (· < radix)

/-- The number a nonempty run of digits stands for. -/
def readDigits (radix : Nat) : List Char → Option Nat
  | [] => none
  | cs => cs.foldlM (fun acc c => (digitOf radix c).map (acc * radix + ·)) 0

/-- Reads an integer as a fixed-width integer type reads text in a radix: an
optional sign (a minus only for a signed type), at least one digit, and a value
in `lo..hi`. -/
def readFixed (signed : Bool) (lo hi : Int) (radix : Nat) (cs : List Char) : Option Int :=
  let value : Option Int := match cs with
    | ['+'] | ['-'] => none
    | '+' :: ds => (readDigits radix ds).map Int.ofNat
    | '-' :: ds => if signed then (readDigits radix ds).map (fun n => -(n : Int)) else none
    | ds => (readDigits radix ds).map Int.ofNat
  value.filter (fun n => decide (lo ≤ n ∧ n ≤ hi))

def startsWithSign : List Char → Bool
  | '+' :: _ | '-' :: _ => true
  | _ => false

/-- A leading zero followed only by digits, after an optional sign: YAML 1.2 reads
such text as a string. -/
def digitsButNotNumber (cs : List Char) : Bool :=
  let cs := match cs with
    | '-' :: r | '+' :: r => r
    | _ => cs
  match cs with
  | '0' :: rest => !rest.isEmpty && rest.all Char.isDigit
  | _ => false

/-- The radix a `0x`, `0o` or `0b` prefix names, and the digits after it. -/
def radixPrefix : List Char → Option (Nat × List Char)
  | '0' :: 'x' :: rest => some (16, rest)
  | '0' :: 'o' :: rest => some (8, rest)
  | '0' :: 'b' :: rest => some (2, rest)
  | _ => none

/-- A non-negative integer of at most `hi`, with an optional plus sign. -/
def readUnsigned (hi : Nat) (scalar : List Char) : Option Nat := do
  let unpositive ← match scalar with
    | '+' :: r => if startsWithSign r then none else some r
    | _ => some scalar
  match radixPrefix unpositive with
  | some (radix, rest) =>
    if startsWithSign rest then none
    else (readFixed false 0 hi radix rest).map Int.toNat
  | none =>
    if startsWithSign unpositive || digitsButNotNumber scalar then none
    else (readFixed false 0 hi 10 unpositive).map Int.toNat

/-- An integer in `lo..hi` written with a minus sign (or, failing that, any
decimal integer in range). -/
def readNegative (lo hi : Int) (scalar : List Char) : Option Int :=
  match scalar with
  | '-' :: rest =>
    match radixPrefix rest with
    | some (radix, digits) => readFixed true lo hi radix ('-' :: digits)
    | none => if digitsButNotNumber scalar then none else readFixed true lo hi 10 scalar
  | _ => if digitsButNotNumber scalar then none else readFixed true lo hi 10 scalar

/-- An integer, in the narrowest of the four classes that holds it. -/
def readInteger (text : String) : Option Scalar :=
  let cs := text.toList
  match readUnsigned (Nat.pow 2 64 - 1) cs with
  | some n => some (.nat n)
  | none =>
    match readNegative (-(Int.pow 2 63)) (Int.pow 2 63 - 1) cs with
    | some n => some (.int n)
    | none =>
      match readUnsigned (Nat.pow 2 128 - 1) cs with
      | some n => some (.wideNat n)
      | none => (readNegative (-(Int.pow 2 127)) (Int.pow 2 127 - 1) cs).map .wideInt

/-- A float: `.inf`, `-.inf` and `.nan` in their three spellings, or decimal text
with a finite value. -/
def readFloat (text : String) : Option Binary64 :=
  let cs := text.toList
  let unpositive := match cs with
    | '+' :: r => if startsWithSign r then none else some r
    | _ => some cs
  match unpositive with
  | none => none
  | some u =>
    let us := String.ofList u
    if us == ".inf" || us == ".Inf" || us == ".INF" then some (.infinite false)
    else if text == "-.inf" || text == "-.Inf" || text == "-.INF" then some (.infinite true)
    else if text == ".nan" || text == ".NaN" || text == ".NAN" then some .nan
    else (readBinary64 us).filter Binary64.isFinite

def readBool (text : String) : Option Bool :=
  if text == "true" || text == "True" || text == "TRUE" then some true
  else if text == "false" || text == "False" || text == "FALSE" then some false
  else none

def isNullText (text : String) : Bool :=
  text == "~" || text == "null" || text == "Null" || text == "NULL"

/-- The meaning of an untagged plain scalar. -/
def resolvePlain (text : String) : Scalar :=
  if text.isEmpty || isNullText text then .unit
  else match readBool text with
    | some b => .bool b
    | none =>
      match readInteger text with
      | some s => s
      | none =>
        if digitsButNotNumber text.toList then .str text
        else match readFloat text with
          | some x => .float x
          | none => .str text

def boolTag : String := "tag:yaml.org,2002:bool"
def intTag : String := "tag:yaml.org,2002:int"
def floatTag : String := "tag:yaml.org,2002:float"
def nullTag : String := "tag:yaml.org,2002:null"

/-- What a scalar with a core-schema tag is when its text does not fit the tag:
the text, and what the tag asks for. -/
structure TagMismatch where
  text : String
  expected : String
  deriving Repr, BEq, Inhabited

/-- The meaning of a scalar of the given style and tag. When `tagged` is set, the
tag has already been used up to choose an enum variant, and the scalar is read as
if untagged. -/
def resolveScalar (text : String) (style : ScalarStyle) (tag : Option String)
    (tagged : Bool) : Except TagMismatch Scalar :=
  let untagged : Scalar := if style == .plain then resolvePlain text else .str text
  match tag, tagged with
  | some t, false =>
    if t == boolTag then
      match readBool text with
      | some b => .ok (.bool b)
      | none => .error ⟨text, "a boolean"⟩
    else if t == intTag then
      match readInteger text with
      | some s => .ok s
      | none => .error ⟨text, "an integer"⟩
    else if t == floatTag then
      match readFloat text with
      | some x => .ok (.float x)
      | none => .error ⟨text, "a float"⟩
    else if t == nullTag then
      if isNullText text then .ok .unit else .error ⟨text, "null"⟩
    else if t.startsWith "!" && style == .plain then .ok (resolvePlain text)
    else .ok (.str text)
  | _, _ => .ok untagged

end SqlScope.Yaml
