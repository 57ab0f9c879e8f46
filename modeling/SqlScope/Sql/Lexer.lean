import SqlScope.Sql.Token
import SqlScope.Sql.Dialect

/-!
# Splitting SQL text into tokens

`tokenize` reads SQL text from left to right and cuts off one token at a time,
always the longest that fits at that point: a quoted string or identifier up to
its closing quote, a number with its fraction and exponent, a word up to the first
character that cannot continue an identifier, an operator of up to four
characters. Spaces and comments become `Token.space`. Each step reports how many
characters its token takes, at least one, so the loop ends and the position of the
next token is found without measuring the rest of the input.

An error names what went wrong and where: most at the start of the token, the
errors about a comment or dollar-quoted string left open at the end of the input.
-/

namespace SqlScope.Sql

open SqlScope.Text

/-- A lexical error: its message, and where to report it, as a number of characters
after the start of the token, or `none` for the end of the input. -/
structure LexError where
  message : String
  offset : Option Nat

/-- The character a backslash escape stands for inside a string. -/
def unescapeChar (c : Char) : Char :=
  match c with
  | '0' => Char.ofNat 0
  | 'a' => Char.ofNat 7
  | 'b' => Char.ofNat 8
  | 'f' => Char.ofNat 12
  | 'n' => '\n'
  | 'r' => '\r'
  | 't' => '\t'
  | 'Z' => Char.ofNat 26
  | c => c

/-- The body of a quoted string after its opening quote `q`, and how many characters
it takes up to and including the closing quote; `none` when the string is not
closed. A doubled quote stands for one quote; with `backslash`, a backslash escapes
the next character (kept as written before `%` and `_` when `keepWild`). -/
def scanQuoted (q : Char) (backslash keepWild : Bool) : List Char → Option (List Char × Nat)
  | [] => none
  | [c] => if c == q then some ([], 1) else none
  | c :: d :: rest =>
    if c == q then
      if d == q then (scanQuoted q backslash keepWild rest).map fun (s, n) => (q :: s, n + 2)
      else some ([], 1)
    else if c == '\\' && backslash then
      let out := if keepWild && (d == '%' || d == '_') then ['\\', d] else [unescapeChar d]
      (scanQuoted q backslash keepWild rest).map fun (s, n) => (out ++ s, n + 2)
    else (scanQuoted q backslash keepWild (d :: rest)).map fun (s, n) => (c :: s, n + 1)

/-- The body of a quoted identifier after its opening quote, up to the closing quote
`close`, and how many characters it takes with the closing quote; a doubled closing
quote stands for one. `none` when it is not closed. -/
def scanDelimited (close : Char) : List Char → Option (List Char × Nat)
  | [] => none
  | [c] => if c == close then some ([], 1) else none
  | c :: d :: rest =>
    if c == close then
      if d == close then (scanDelimited close rest).map fun (s, n) => (close :: s, n + 2)
      else some ([], 1)
    else (scanDelimited close (d :: rest)).map fun (s, n) => (c :: s, n + 1)

def isHexDigit (c : Char) : Bool :=
  c.isDigit || ('a' ≤ c && c ≤ 'f') || ('A' ≤ c && c ≤ 'F')

def isOctalDigit (c : Char) : Bool := '0' ≤ c && c ≤ '7'

/-- The value of a hexadecimal (or decimal, or octal) digit. -/
def digitValue (c : Char) : Nat :=
  if c.isDigit then c.toNat - '0'.toNat
  else if 'a' ≤ c && c ≤ 'f' then c.toNat - 'a'.toNat + 10
  else c.toNat - 'A'.toNat + 10

/-- The number written by `digits` in base `radix`. -/
def digitsValue (radix : Nat) (digits : List Char) : Nat :=
  digits.foldl (fun acc c => acc * radix + digitValue c) 0

/-- The character of a byte written in base `radix`: only its low eight bits
count, and only an ASCII value is a character. -/
def byteChar (radix : Nat) (digits : List Char) : Option Char :=
  let n := digitsValue radix digits % 256
  if n ≤ 127 then some (Char.ofNat n) else none

/-- The character with a hexadecimal code point, which may have a leading `+`;
`none` for other text and for a value that is not a Unicode scalar value. -/
def codePointChar (digits : List Char) : Option Char :=
  let ds := match digits with
    | '+' :: r => r
    | _ => digits
  if ds.isEmpty || !ds.all isHexDigit then none
  else
    let n := digitsValue 16 ds
    if n < 0xD800 || (0xDFFF < n && n ≤ 0x10FFFF) then some (Char.ofNat n) else none

/-- What the escape of `e` stands for in an `E'...'` string, with how many of the
characters `r` after it belong to the escape: `\b \f \n \r \t`, a code point
`\uXXXX` or `\UXXXXXXXX`, an ASCII byte as `\x` with one or two hex digits or as
one to three octal digits; any other character stands for itself. `none` when the
escape names no character. -/
def escapeAt (e : Char) (r : List Char) : Option (Char × Nat) :=
  match e with
  | 'b' => some (Char.ofNat 8, 0)
  | 'f' => some (Char.ofNat 12, 0)
  | 'n' => some ('\n', 0)
  | 'r' => some ('\r', 0)
  | 't' => some ('\t', 0)
  | 'u' => if r.length < 4 then none else (codePointChar (r.take 4)).map (·, 4)
  | 'U' => if r.length < 8 then none else (codePointChar (r.take 8)).map (·, 8)
  | 'x' =>
    let ds := (r.takeWhile isHexDigit).take 2
    if ds.isEmpty then some ('x', 0) else (byteChar 16 ds).map (·, ds.length)
  | c =>
    if isOctalDigit c then
      let ds := (r.takeWhile isOctalDigit).take 2
      (byteChar 8 (c :: ds)).map (·, ds.length)
    else some (c, 0)

/-- The body of a `E'...'` string, decoded, and how many characters it takes up to and
including its closing quote: a doubled quote stands for one, and a backslash starts
an escape (`escapeAt`), whose characters are all there. `none` when the string is
not closed or an escape names no character. -/
def scanEscaped (cs : List Char) : Option (List Char × Nat) :=
  match cs with
  | [] => none
  | c :: rest =>
    if c == '\'' then
      match rest with
      | '\'' :: r => (scanEscaped r).map fun (s, n) => ('\'' :: s, n + 2)
      | _ => some ([], 1)
    else if c == '\\' then
      match rest with
      | [] => none
      | e :: r =>
        match escapeAt e r with
        | some (ch, k) => (scanEscaped (r.drop k)).map fun (s, n) => (ch :: s, n + k + 2)
        | none => none
    else (scanEscaped rest).map fun (s, n) => (c :: s, n + 1)
termination_by cs.length
decreasing_by
  all_goals simp only [List.length_cons, List.length_drop]
  all_goals omega

/-- The value of `count` hexadecimal digits at the head of `cs`, with the text after
them; `used` is how far into the token `cs` starts. A missing or bad digit gives the
message and the offset to report it at. -/
def hexCodePoint : Nat → Nat → Nat → List Char → Except (String × Nat) (Nat × List Char)
  | 0, _, acc, cs => .ok (acc, cs)
  | _ + 1, used, _, [] =>
    .error ("Unexpected EOF while parsing hex digit in escaped unicode string.", used)
  | k + 1, used, acc, c :: r =>
    if isHexDigit c then hexCodePoint k (used + 1) (acc * 16 + digitValue c) r
    else .error ("Invalid hex digit in escaped unicode string: " ++ c.toString, used + 1)

/-- Whether a number is a Unicode scalar value. -/
def isScalarValue (n : Nat) : Bool := n < 0xD800 || (0xDFFF < n && n ≤ 0x10FFFF)

/-- The body of a `U&'...'` string after its opening quote, decoded, and how many
characters it takes up to and including its closing quote: a doubled quote stands
for one, `\\` for a backslash, `\XXXX` and `\+XXXXXX` for the character with that
hexadecimal code point. `pos` is how far into the token `cs` starts, for the offset
of an error; `fuel` bounds the steps. -/
def scanUnicode : Nat → Nat → List Char → Except (String × Option Nat) (List Char × Nat)
  | 0, _, _ => .error ("Unterminated unicode encoded string literal", none)
  | _ + 1, _, [] => .error ("Unterminated unicode encoded string literal", none)
  | fuel + 1, pos, c :: rest =>
    let escape (count start lead : Nat) (r : List Char) :
        Except (String × Option Nat) (List Char × Nat) :=
      match hexCodePoint count start 0 r with
      | .error (m, off) => .error (m, some off)
      | .ok (n, r') =>
        if isScalarValue n then
          (scanUnicode fuel (start + count) r').map fun (s, k) =>
            (Char.ofNat n :: s, k + count + lead)
        else .error ("Invalid unicode character: " ++ String.ofList (Nat.toDigits 16 n),
          some (start + count))
    if c == '\'' then
      match rest with
      | '\'' :: r => (scanUnicode fuel (pos + 2) r).map fun (s, k) => ('\'' :: s, k + 2)
      | _ => .ok ([], 1)
    else if c == '\\' then
      match rest with
      | [] => .error ("Unterminated unicode encoded string literal", none)
      | '\\' :: r => (scanUnicode fuel (pos + 2) r).map fun (s, k) => ('\\' :: s, k + 2)
      | '+' :: r => escape 6 (pos + 2) 2 r
      | r => escape 4 (pos + 1) 1 r
    else (scanUnicode fuel (pos + 1) rest).map fun (s, k) => (c :: s, k + 1)

/-- How many characters the rest of a line comment takes, `n` of them already
counted: everything up to and including the line break, which is a line feed, or
also a carriage return when `returnEnds`. -/
def lineCommentLength (returnEnds : Bool) (n : Nat) : List Char → Nat
  | [] => n
  | c :: rest =>
    if c == '\n' || (returnEnds && c == '\r') then n + 1
    else lineCommentLength returnEnds (n + 1) rest

/-- How many characters the rest of a block comment whose opening `/*` is already read
takes, at nesting `depth`, `n` of them already counted; `none` when the input ends
first. -/
def blockCommentLength (nests : Bool) : Nat → Nat → List Char → Option Nat
  | _, _, [] => none
  | _, _, [_] => none
  | depth, n, c :: d :: rest =>
    if c == '*' && d == '/' then
      if depth ≤ 1 then some (n + 2) else blockCommentLength nests (depth - 1) (n + 2) rest
    else if c == '/' && d == '*' && nests then blockCommentLength nests (depth + 1) (n + 2) rest
    else blockCommentLength nests depth (n + 1) (d :: rest)

/-- The body of a `$$...$$` string after its opening `$$`, how many characters it
takes with the closing `$$`, and whether it was closed. -/
def scanDollarPlain : Option Char → List Char → List Char × Nat × Bool
  | _, [] => ([], 0, false)
  | prev, c :: rest =>
    if prev == some '$' then
      if c == '$' then ([], 1, true)
      else let (s, n, t) := scanDollarPlain (some c) rest; ('$' :: c :: s, n + 1, t)
    else if c != '$' then let (s, n, t) := scanDollarPlain (some c) rest; (c :: s, n + 1, t)
    else let (s, n, t) := scanDollarPlain (some c) rest; (s, n + 1, t)

/-- The body of a `$tag$...$tag$` string up to the first closing delimiter `delim`,
and how many characters it takes with the delimiter; `body` holds the characters
passed so far, last first, and `n` counts them. -/
def scanDollarTagged (delim : List Char) (body : List Char) (n : Nat) :
    List Char → Option (List Char × Nat)
  | [] => none
  | cs@(c :: rest) =>
    if delim.isPrefixOf cs then some (body.reverse, n + delim.length)
    else scanDollarTagged delim (c :: body) (n + 1) rest

/-- An operator token, which takes as many characters as its text has. -/
def symTok (s : String) : Except LexError (Token × Nat) :=
  .ok (.sym s, s.length)

/-- An operator whose text `pfx` has been read, followed by `rest`. Where users may
define operators, the operator characters right after it join it into one operator
of their own; otherwise the token is `default`, and without a default `pfx` alone is
no operator at all. -/
def operatorTok (d : Dialect) (pfx : String) (default : Option String) (rest : List Char) :
    Except LexError (Token × Nat) :=
  let more := rest.takeWhile d.isCustomOperatorPart
  if !more.isEmpty then .ok (.customOp (pfx ++ String.ofList more), pfx.length + more.length)
  else match default with
    | some s => .ok (.sym s, pfx.length)
    | none => .error ⟨"Expected a valid binary operator after '" ++ pfx ++ "'", some pfx.length⟩

/-- An operator that is its own text and may be extended by operator characters. -/
def extendable (d : Dialect) (op : String) (rest : List Char) : Except LexError (Token × Nat) :=
  operatorTok d op (some op) rest

/-- A comment that takes the first `n` characters of `cs`. -/
def commentTok (cs : List Char) (n : Nat) : Except LexError (Token × Nat) :=
  .ok (.space (String.ofList (cs.take n)), n)

/-- A word that starts with the characters `first`, continued by identifier characters. -/
def wordTok (d : Dialect) (first : List Char) (rest : List Char) : Except LexError (Token × Nat) :=
  let more := rest.takeWhile d.isIdentPart
  .ok (.word (String.ofList (first ++ more)) none, first.length + more.length)

/-- The digits at the head of a text and the rest of it: characters that are
`digit`, and where `separators` allows, underscores each followed by a hex digit.
`acc` holds the digits taken so far, last first. -/
def spanDigits (digit : Char → Bool) (separators : Bool) (acc : List Char) :
    List Char → List Char × List Char
  | [] => (acc.reverse, [])
  | c :: rest =>
    if digit c || (separators && c == '_' && (rest.head?.map isHexDigit).getD false) then
      spanDigits digit separators (c :: acc) rest
    else (acc.reverse, c :: rest)

/-- A number, starting at a digit or a period. -/
def numberTok (d : Dialect) (prevWord prevPeriod : Bool) (cs : List Char) :
    Except LexError (Token × Nat) :=
  match cs with
  | '.' :: '_' :: _ =>
    if prevWord then .ok (.sym ".", 1)
    else .error ⟨"Unexpected character '_'", some 0⟩
  | _ =>
    let sep := d.hasDigitSeparators
    let (ds, r1) := spanDigits Char.isDigit sep [] cs
    match ds, r1 with
    | ['0'], 'x' :: r2 =>
      let hs := (spanDigits isHexDigit sep [] r2).1
      .ok (.hex (String.ofList hs), hs.length + 2)
    | _, _ =>
      let (s1, r2) := match r1 with
        | '.' :: r => (ds ++ ['.'], r)
        | _ => (ds, r1)
      if s1 == ['.'] && d.numericPrefixIdents && prevWord then .ok (.sym ".", 1) else
      let (fs, r3) := spanDigits Char.isDigit sep [] r2
      let s2 := s1 ++ fs
      if s2 == ['.'] then .ok (.sym ".", 1) else
      let (expPart, r4) : List Char × List Char := match r3 with
        | e :: r =>
          if e == 'e' || e == 'E' then
            let (sign, r') := match r with
              | c :: r'' => if c == '+' || c == '-' then ([c], r'') else ([], r)
              | [] => ([], r)
            match r' with
            | c :: _ =>
              if c.isDigit then
                let (es, r'') := r'.span Char.isDigit
                (e :: sign ++ es, r'')
              else ([], r3)
            | [] => ([], r3)
          else ([], r3)
        | [] => ([], r3)
      let s3 := s2 ++ expPart
      let identTail := if d.numericPrefixIdents && expPart.isEmpty then r4.takeWhile d.isIdentPart else []
      if !identTail.isEmpty then
        .ok (.word (String.ofList (s3 ++ identTail)) none, s3.length + identTail.length)
      else if d.numericPrefixIdents && !expPart.isEmpty && prevPeriod then
        .ok (.word (String.ofList s3) none, s3.length)
      else match r4 with
        | 'L' :: _ => .ok (.number (String.ofList s3) true, s3.length + 1)
        | _ => .ok (.number (String.ofList s3) false, s3.length)

/-- The token at the head of a non-empty input, and how many characters it takes.
`prev` is the token before it, spaces included. -/
def lexOne (d : Dialect) (prev : Option Token) (cs : List Char) : Except LexError (Token × Nat) :=
  let prevWord := match prev with | some (.word _ _) => true | _ => false
  let prevPeriod := prev == some (.sym ".")
  let quoted (mk : String → Token) (skip : Nat) (backslash : Bool) : Except LexError (Token × Nat) :=
    match scanQuoted '\'' backslash (backslash && d.keepsWildcardEscapes) (cs.drop (skip + 1)) with
    | some (s, n) => .ok (mk (String.ofList s), skip + 1 + n)
    | none => .error ⟨"Unterminated string literal", some skip⟩
  match cs with
  | [] => .ok (.eof, 0)
  | c :: rest =>
    if c == ' ' || c == '\t' || c == '\n' then .ok (.space c.toString, 1)
    else if c == '\r' then
      match rest with
      | '\n' :: _ => .ok (.space "\n", 2)
      | _ => .ok (.space "\n", 1)
    else if (c == 'B' || c == 'b') && d.hasByteStrings then
      match rest with
      | '\'' :: _ => quoted .byteString 1 false
      | _ => wordTok d [c] rest
    else if c == 'N' || c == 'n' then
      match rest with
      | '\'' :: _ => quoted .national 1 d.backslashEscapes
      | _ => wordTok d [c] rest
    else if (c == 'E' || c == 'e') && d.hasEscapeStrings then
      match rest with
      | '\'' :: r =>
        match scanEscaped r with
        | some (s, n) => .ok (.escaped (String.ofList s), n + 2)
        | none => .error ⟨"Unterminated encoded string literal", some 0⟩
      | _ => wordTok d [c] rest
    else if c == 'X' || c == 'x' then
      match rest with
      | '\'' :: _ => quoted .hex 1 true
      | _ => wordTok d [c] rest
    else if (c == 'U' || c == 'u') && d.hasUnicodeStrings && rest.head? == some '&' then
      match rest with
      | '&' :: '\'' :: r =>
        match scanUnicode (r.length + 1) 3 r with
        | .ok (s, n) => .ok (.unicode (String.ofList s), n + 3)
        | .error (m, off) => .error ⟨m, off⟩
      | _ => wordTok d [c] rest
    else if c == '\'' then quoted .singleQuoted 0 d.backslashEscapes
    else if c == '"' && !d.isDelimitedStart c && !d.isIdentStart c then
      match scanQuoted '"' d.backslashEscapes (d.backslashEscapes && d.keepsWildcardEscapes) rest with
      | some (s, n) => .ok (.doubleQuoted (String.ofList s), n + 1)
      | none => .error ⟨"Unterminated string literal", some 0⟩
    else if d.isDelimitedStart c then
      let close := closingQuote c
      match scanDelimited close rest with
      | some (s, n) => .ok (.word (String.ofList s) (some c), n + 1)
      | none => .error ⟨"Expected close delimiter '" ++ close.toString ++ "' before EOF.", some 0⟩
    else if c.isDigit || c == '.' then numberTok d prevWord prevPeriod cs
    else if c == '(' || c == ')' || c == ',' || c == ';' || c == '\\' || c == '[' || c == ']' ||
        c == '{' || c == '}' || c == '+' || c == '*' then
      symTok c.toString
    else if c == '-' then
      match rest with
      | '-' :: r =>
        if !d.commentNeedsSpace || r.head? == some ' ' then
          commentTok cs (lineCommentLength d.returnEndsComment 2 r)
        else extendable d "-" rest
      | '>' :: '>' :: r => extendable d "->>" r
      | '>' :: r => extendable d "->" r
      | _ => extendable d "-" rest
    else if c == '/' then
      match rest with
      | '*' :: r =>
        match blockCommentLength d.nestsComments 1 2 r with
        | some n => commentTok cs n
        | none => .error ⟨"Unexpected EOF while in a multi-line comment", none⟩
      | '/' :: _ => if d == .generic then symTok "//" else symTok "/"
      | _ => symTok "/"
    else if c == '%' then
      match rest with
      | s :: _ => if isWhitespace s then symTok "%" else extendable d "%" rest
      | [] => symTok "%"
    else if c == '|' then
      match rest with
      | '/' :: r => extendable d "|/" r
      | '|' :: '/' :: r => extendable d "||/" r
      | '|' :: r => extendable d "||" r
      | '&' :: r =>
        if d.hasGeometry then
          match r with
          | '>' :: r' => extendable d "|&>" r'
          | _ => operatorTok d "|&" none r
        else extendable d "|" rest
      | '>' :: r =>
        if d.hasGeometry then
          match r with
          | '>' :: r' => extendable d "|>>" r'
          | _ => operatorTok d "|>" none r
        else extendable d "|" rest
      | _ => extendable d "|" rest
    else if c == '=' then
      match rest with
      | '>' :: _ => symTok "=>"
      | '=' :: _ => symTok "=="
      | _ => symTok "="
    else if c == '!' then
      match rest with
      | '=' :: _ => symTok "!="
      | '!' :: _ => symTok "!!"
      | '~' :: '*' :: _ => symTok "!~*"
      | '~' :: '~' :: '*' :: _ => symTok "!~~*"
      | '~' :: '~' :: _ => symTok "!~~"
      | '~' :: _ => symTok "!~"
      | _ => symTok "!"
    else if c == '<' then
      match rest with
      | '=' :: '>' :: r => extendable d "<=>" r
      | '=' :: r => extendable d "<=" r
      | '>' :: r => extendable d "<>" r
      | '<' :: '|' :: r => if d.hasGeometry then extendable d "<<|" r else extendable d "<<" ('|' :: r)
      | '<' :: r => extendable d "<<" r
      | '-' :: r =>
        if d.hasGeometry then
          match r with
          | '>' :: r' => extendable d "<->" r'
          | _ => operatorTok d "<-" none r
        else extendable d "<" rest
      | '^' :: r => if d.hasGeometry then extendable d "<^" r else extendable d "<" rest
      | '@' :: r => extendable d "<@" r
      | _ => extendable d "<" rest
    else if c == '>' then
      match rest with
      | '=' :: r => extendable d ">=" r
      | '>' :: r => extendable d ">>" r
      | '^' :: r => if d.hasGeometry then extendable d ">^" r else extendable d ">" rest
      | _ => extendable d ">" rest
    else if c == ':' then
      match rest with
      | ':' :: _ => symTok "::"
      | '=' :: _ => symTok ":="
      | _ => symTok ":"
    else if c == '&' then
      match rest with
      | '>' :: r => if d.hasGeometry then extendable d "&>" r else extendable d "&" rest
      | '<' :: '|' :: r => if d.hasGeometry then extendable d "&<|" r else extendable d "&" rest
      | '<' :: r => if d.hasGeometry then extendable d "&<" r else extendable d "&" rest
      | '&' :: r => extendable d "&&" r
      | _ => extendable d "&" rest
    else if c == '^' then
      match rest with
      | '@' :: _ => symTok "^@"
      | _ => symTok "^"
    else if c == '#' && d.hashComments then commentTok cs (lineCommentLength false 1 rest)
    else if c == '~' then
      match rest with
      | '*' :: r => extendable d "~*" r
      | '=' :: r => if d.hasGeometry then extendable d "~=" r else extendable d "~" rest
      | '~' :: '*' :: r => extendable d "~~*" r
      | '~' :: r => extendable d "~~" r
      | _ => extendable d "~" rest
    else if c == '#' then
      match rest with
      | '-' :: r => extendable d "#-" r
      | '>' :: '>' :: r => extendable d "#>>" r
      | '>' :: r => extendable d "#>" r
      | ' ' :: _ => symTok "#"
      | s :: r =>
        if s == '#' && d.hasGeometry then extendable d "##" r
        else if d.isIdentStart '#' then wordTok d [c, s] r
        else extendable d "#" rest
      | [] => symTok "#"
    else if c == '@' then
      match rest with
      | '@' :: r =>
        if d.hasGeometry then symTok "@@" else
        match r with
        | ' ' :: _ => symTok "@@"
        | t :: r' => if d.isIdentStart '@' then wordTok d ['@', '@', t] r' else symTok "@@"
        | [] => symTok "@@"
      | '-' :: r =>
        if d.hasGeometry then
          match r with
          | '@' :: _ => symTok "@-@"
          | _ => operatorTok d "@-" none r
        else if d.isIdentStart '@' then wordTok d [c, '-'] r
        else symTok "@"
      | '>' :: _ => symTok "@>"
      | '?' :: _ => symTok "@?"
      | ' ' :: _ => symTok "@"
      | '\'' :: _ => symTok "@"
      | '"' :: _ => symTok "@"
      | '`' :: _ => symTok "@"
      | s :: r => if d.isIdentStart '@' then wordTok d [c, s] r else symTok "@"
      | [] => symTok "@"
    else if c == '?' then
      if d == .postgres then
        match rest with
        | '|' :: '|' :: _ => symTok "?||"
        | '|' :: _ => symTok "?|"
        | '&' :: _ => symTok "?&"
        | '-' :: '|' :: _ => symTok "?-|"
        | '-' :: _ => symTok "?-"
        | '#' :: _ => symTok "?#"
        | _ => symTok "?"
      else
        let ds := rest.takeWhile isNumeric
        .ok (.placeholder ("?" ++ String.ofList ds), ds.length + 1)
    else if d.isIdentStart c then wordTok d [c] rest
    else if c == '$' && d.dollarPlaceholders then
      let name := rest.takeWhile fun ch => isAlphabetic ch || isNumeric ch || ch == '_' || ch == '$'
      .ok (.placeholder ("$" ++ String.ofList name), name.length + 1)
    else if c == '$' then
      match rest with
      | '$' :: r =>
        let (s, n, closed) := scanDollarPlain none r
        if !closed then .error ⟨"Unterminated dollar-quoted string", none⟩
        else .ok (.dollarQuoted none (String.ofList s), n + 2)
      | _ =>
        let (tag, r) := rest.span fun ch => isAlphabetic ch || isNumeric ch || ch == '_'
        match r with
        | '$' :: r' =>
          match scanDollarTagged (['$'] ++ tag ++ ['$']) [] 0 r' with
          | some (s, n) =>
            .ok (.dollarQuoted (if tag.isEmpty then none else some (String.ofList tag)) (String.ofList s),
              tag.length + 2 + n)
          | none => .error ⟨"Unterminated dollar-quoted, expected $", none⟩
        | _ => .ok (.placeholder ("$" ++ String.ofList tag), tag.length + 1)
    else if isWhitespace c then .ok (.space " ", 1)
    else .ok (.char c, 1)

/-- Line and column after reading the characters `cs` from `(line, col)`. -/
def advance : Nat → Nat → List Char → Nat × Nat
  | line, col, [] => (line, col)
  | line, col, c :: rest => if c == '\n' then advance (line + 1) 1 rest else advance line (col + 1) rest

/-- A tokenizer error message with its position. -/
def lexErrorText (message : String) (line col : Nat) : String :=
  message ++ " at Line: " ++ toString line ++ ", Column: " ++ toString col

/-- The tokens of `cs`, spaces and comments included, each with its position;
`fuel` bounds the number of tokens. -/
def lexFrom (d : Dialect) : Nat → Option Token → Nat → Nat → List Char → Except String (List Located)
  | 0, _, _, _, _ => .ok []
  | _ + 1, _, _, _, [] => .ok []
  | fuel + 1, prev, line, col, cs@(_ :: _) =>
    match lexOne d prev cs with
    | .error e =>
      let (l, c) := match e.offset with
        | some k => advance line col (cs.take k)
        | none => advance line col cs
      .error (lexErrorText e.message l c)
    | .ok (tok, k) =>
      let (line', col') := advance line col (cs.take k)
      (lexFrom d fuel (some tok) line' col' (cs.drop k)).map ({ token := tok, line, col } :: ·)

/-- Whether a token is spaces or a comment. -/
def Token.isSpace : Token → Bool
  | .space _ => true
  | _ => false

/-- The tokens other than spaces and comments, each with the first spaces or comment
before it; the end of the input comes last as an `eof` token with no position,
carrying the spaces or comment that end the text. `pending` holds the first
spaces or comment since the last token kept, and `acc` the tokens kept, last
first. -/
def attachGapsFrom (pending : Option Gap) (acc : List Located) : List Located → List Located
  | [] => ({ token := .eof, line := 0, col := 0, gap := pending } :: acc).reverse
  | t :: rest =>
    if t.token.isSpace then
      attachGapsFrom (pending.orElse fun _ => some ⟨t.token.text, t.line, t.col⟩) acc rest
    else attachGapsFrom none ({ t with gap := pending } :: acc) rest

def attachGaps (ts : List Located) : List Located := attachGapsFrom none [] ts

/-- The tokens of a SQL text without spaces and comments, or the tokenizer's error
message. -/
def tokenize (d : Dialect) (sql : String) : Except String (List Located) :=
  let cs := sql.toList
  (lexFrom d (cs.length + 1) none 1 1 cs).map attachGaps

end SqlScope.Sql
