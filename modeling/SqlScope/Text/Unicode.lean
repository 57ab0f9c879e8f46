import SqlScope.Text.UnicodeData

/-!
# Unicode text operations

Whitespace, letters and digits in the Unicode sense, the full lowercase mapping of a
string (with the word-final form of the capital sigma), and trimming of Unicode
whitespace. ASCII characters take a direct path, so facts about ASCII text do not
depend on the tables.
-/

namespace SqlScope.Text

/-- Unicode white space: the ASCII controls tab to carriage return, space, next
line, no-break space and the spaces of the general punctuation block. -/
def isWhitespace (c : Char) : Bool :=
  let n := c.toNat
  (0x9 ≤ n && n ≤ 0xD) || n == 0x20 || n == 0x85 || n == 0xA0 || n == 0x1680 ||
    (0x2000 ≤ n && n ≤ 0x200A) || n == 0x2028 || n == 0x2029 || n == 0x202F ||
    n == 0x205F || n == 0x3000

/-- Letters of any script. -/
def isAlphabetic (c : Char) : Bool :=
  if c.toNat < 0x80 then c.isAlpha else inRanges c.toNat alphabeticRanges

/-- Digits and numerals of any script. -/
def isNumeric (c : Char) : Bool :=
  if c.toNat < 0x80 then c.isDigit else inRanges c.toNat numericRanges

def isCased (c : Char) : Bool := inRanges c.toNat casedRanges

def isCaseIgnorable (c : Char) : Bool := inRanges c.toNat caseIgnorableRanges

/-- The lowercase of a code point under one run of the table, if the run covers it. -/
def CaseRun.apply (r : CaseRun) (cp : Nat) : Option Nat :=
  if r.lo ≤ cp ∧ cp ≤ r.hi ∧ (cp - r.lo) % r.step = 0 then some (r.target + (cp - r.lo)) else none

def lowerCodePoint (cp : Nat) : List CaseRun → Nat
  | [] => cp
  | r :: rest => match r.apply cp with
    | some l => l
    | none => if cp < r.lo then cp else lowerCodePoint cp rest

/-- The full lowercase of one character outside the sigma rule: capital dotted I
becomes `i` followed by a combining dot, every other character maps to at most one
character. -/
def lowerChar (c : Char) : List Char :=
  if c.toNat < 0x80 then [c.toLower]
  else if c.toNat == 0x130 then ['i', Char.ofNat 0x307]
  else [Char.ofNat (lowerCodePoint c.toNat lowercaseRuns)]

/-- Whether the first character that is not case-ignorable exists and has case. -/
def startsCased : List Char → Bool
  | [] => false
  | c :: rest => if isCaseIgnorable c then startsCased rest else isCased c

/-- Lowercase of `rest`, where `before` holds the characters before it, nearest first.
A capital sigma becomes the final sigma when a cased letter precedes it and none
follows it (each looked for past case-ignorable characters). -/
def lowerChars : List Char → List Char → List Char
  | _, [] => []
  | before, c :: rest =>
    (if c.toNat == 0x3A3 then
      [if startsCased before && !startsCased rest then Char.ofNat 0x3C2 else Char.ofNat 0x3C3]
     else lowerChar c) ++ lowerChars (c :: before) rest

/-- The full Unicode lowercase of a string. -/
def lowercase (s : String) : String := String.ofList (lowerChars [] s.toList)

/-- Whether the character extends the grapheme before it, as a combining mark does. -/
def isGraphemeExtend (c : Char) : Bool := inRanges c.toNat graphemeExtendRanges

/-- Whether the character shows as itself when text is quoted in a message: the
ASCII graphic characters and space, and every other assigned character that is
not a separator, a control, a format character or for private use. -/
def isPrintable (c : Char) : Bool :=
  if c.toNat < 0x20 then false
  else if c.toNat < 0x7F then true
  else !inRanges c.toNat invisibleRanges

/-- The escape of a character by its code point: `\u` and the code point in
lowercase hex between braces. -/
def unicodeEscape (c : Char) : String :=
  "\\u" ++ "\x7b" ++ String.ofList (Nat.toDigits 16 c.toNat) ++ "\x7d"

/-- A character as it stands inside double quotes in a message: quotes,
backslashes and the common controls get a backslash, combining marks and
characters that do not print are written by code point, the rest stand as they
are. A combining mark is escaped so that it cannot merge with the character
before it, which may be the opening quote. -/
def debugChar (c : Char) : String :=
  match c with
  | '"' => "\\\""
  | '\\' => "\\\\"
  | '\n' => "\\n"
  | '\r' => "\\r"
  | '\t' => "\\t"
  | c =>
    if c.toNat == 0 then "\\0"
    else if isGraphemeExtend c || !isPrintable c then unicodeEscape c
    else c.toString

/-- Text in double quotes, escaped for a message as `debugChar` escapes each of its
characters. -/
def debugQuoted (s : String) : String := "\"" ++ String.join (s.toList.map debugChar) ++ "\""

/-- The string without leading and trailing Unicode whitespace. -/
def trim (s : String) : String :=
  String.ofList ((s.toList.dropWhile isWhitespace).reverse.dropWhile isWhitespace).reverse

/-- ASCII letters in lower case, every other character unchanged. -/
def asciiLowercase (s : String) : String := s.map Char.toLower

/-- ASCII letters in upper case, every other character unchanged. -/
def asciiUppercase (s : String) : String := s.map Char.toUpper

end SqlScope.Text
