import SqlScope.Number.Shortest

/-!
# JSON values and their text

JSON values with numbers kept as they were read (an unsigned or signed integer, or
a binary64), and two ways of writing them: compact, with no space at all, and
pretty, with two spaces of indentation per level, `": "` after keys and one entry
per line. Strings escape the quote, the backslash and control characters; every
other character is written as it is. Objects keep their entries in the order given.
-/

namespace SqlScope

open SqlScope.Number

/-- A JSON number: an integer, or a finite binary64. -/
inductive JsonNumber where
  | nat (n : Nat)
  | int (n : Int)
  | float (x : Binary64)
  deriving Repr, BEq, Inhabited

/-- A JSON value. -/
inductive Json where
  | null
  | bool (b : Bool)
  | number (n : JsonNumber)
  | string (s : String)
  | array (items : List Json)
  | object (entries : List (String × Json))
  deriving Repr, BEq, Inhabited

/-- The text of a number: integers in decimal, other numbers by their shortest
digits, with `.0` on whole numbers and an exponent beyond sixteen digits. -/
def JsonNumber.text : JsonNumber → String
  | .nat n => toString n
  | .int n => toString n
  | .float x => x.json

namespace Json

/-- The four hexadecimal digits of a code unit. -/
def hex4 (n : Nat) : String :=
  let ds := Nat.toDigits 16 n
  String.ofList (List.replicate (4 - ds.length) '0' ++ ds)

/-- A character as it stands inside a JSON string. -/
def escapeChar (c : Char) : String :=
  match c with
  | '"' => "\\\""
  | '\\' => "\\\\"
  | '\n' => "\\n"
  | '\r' => "\\r"
  | '\t' => "\\t"
  | c =>
    if c.toNat == 8 then "\\b"
    else if c.toNat == 12 then "\\f"
    else if c.toNat < 0x20 then "\\u" ++ hex4 c.toNat
    else c.toString

/-- A string as a JSON string literal. -/
def quote (s : String) : String := "\"" ++ String.join (s.toList.map escapeChar) ++ "\""

mutual

/-- The compact text of a value. -/
def compact : Json → String
  | .null => "null"
  | .bool b => if b then "true" else "false"
  | .number n => n.text
  | .string s => quote s
  | .array items => "[" ++ compactItems items ++ "]"
  | .object entries => "\x7b" ++ compactEntries entries ++ "\x7d"

/-- Array items, comma separated. -/
def compactItems : List Json → String
  | [] => ""
  | [v] => compact v
  | v :: rest => compact v ++ "," ++ compactItems rest

/-- Object entries, comma separated. -/
def compactEntries : List (String × Json) → String
  | [] => ""
  | [(k, v)] => quote k ++ ":" ++ compact v
  | (k, v) :: rest => quote k ++ ":" ++ compact v ++ "," ++ compactEntries rest

end

/-- `n` levels of two-space indentation. -/
def indentText (n : Nat) : String := String.ofList (List.replicate (2 * n) ' ')

mutual

/-- The pretty text of a value at nesting level `level`. Empty arrays and objects
stay on one line. -/
def prettyAt (level : Nat) : Json → String
  | .array [] => "[]"
  | .object [] => "\x7b\x7d"
  | .array items => "[\n" ++ prettyItems (level + 1) items ++ "\n" ++ indentText level ++ "]"
  | .object entries =>
    "\x7b\n" ++ prettyEntries (level + 1) entries ++ "\n" ++ indentText level ++ "\x7d"
  | .null => "null"
  | .bool b => if b then "true" else "false"
  | .number n => n.text
  | .string s => quote s

/-- Array items at level `level`, one a line. -/
def prettyItems (level : Nat) : List Json → String
  | [] => ""
  | [v] => indentText level ++ prettyAt level v
  | v :: rest => indentText level ++ prettyAt level v ++ ",\n" ++ prettyItems level rest

/-- Object entries at level `level`, one a line. -/
def prettyEntries (level : Nat) : List (String × Json) → String
  | [] => ""
  | [(k, v)] => indentText level ++ quote k ++ ": " ++ prettyAt level v
  | (k, v) :: rest =>
    indentText level ++ quote k ++ ": " ++ prettyAt level v ++ ",\n" ++ prettyEntries level rest

end

def pretty (v : Json) : String := prettyAt 0 v

/-- The entries of an object in the order of their keys. -/
def sortKeys (entries : List (String × Json)) : List (String × Json) :=
  entries.mergeSort (fun a b => decide (a.1 ≤ b.1))

end Json

end SqlScope
