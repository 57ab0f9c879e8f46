import SqlScope.Sql.Syntax
import SqlScope.Text.Unicode

/-!
# SQL tokens

The lexical units of SQL text. Words carry the quote they were written with; a word
without quotes is a keyword when its upper case is one, which is decided where the
grammar asks for a keyword. Operators and punctuation are kept as their text.
Every token remembers the line and column where it starts, so that errors can
point at it.
-/

namespace SqlScope.Sql

inductive Token where
  /-- The end of the input. -/
  | eof
  /-- A name or keyword, with the quote character it was written with. -/
  | word (value : String) (quote : Option Char)
  | number (text : String) (long : Bool)
  | singleQuoted (s : String)
  | doubleQuoted (s : String)
  | national (s : String)
  | escaped (s : String)
  | hex (s : String)
  | byteString (s : String)
  | unicode (s : String)
  | dollarQuoted (tag : Option String) (s : String)
  | placeholder (s : String)
  /-- Punctuation and operators, by their text. -/
  | sym (text : String)
  /-- An operator of the user's own definition, a run of operator characters that
  spells none of the built-in ones. -/
  | customOp (text : String)
  /-- A character that starts no other token. -/
  | char (c : Char)
  /-- Spaces or a comment, which the grammar skips, with the text it shows for
  them: a comment as written, a line break as `\n`, any other space as itself or,
  beyond ASCII, as a plain space. -/
  | space (text : String)
  deriving Repr, BEq, Inhabited

/-- The spaces or comment right before a token, with where they start. -/
structure Gap where
  text : String
  line : Nat
  col : Nat
  deriving Repr, Inhabited

/-- A token with the line and column (both counted from 1) where it starts, and the
first spaces or comment between it and the token before it, if any. -/
structure Located where
  token : Token
  line : Nat
  col : Nat
  gap : Option Gap := none
  deriving Repr, Inhabited

/-- The closing quote that matches an opening quote. -/
def closingQuote (q : Char) : Char := if q == '[' then ']' else q

/-- The text of a token as error messages show it. -/
def Token.text : Token → String
  | .eof => "EOF"
  | .word v none => v
  | .word v (some q) => q.toString ++ v ++ (closingQuote q).toString
  | .number t long => t ++ (if long then "L" else "")
  | .singleQuoted s => "'" ++ s ++ "'"
  | .doubleQuoted s => "\"" ++ s ++ "\""
  | .national s => "N'" ++ s ++ "'"
  | .escaped s => "E'" ++ s ++ "'"
  | .hex s => "X'" ++ s ++ "'"
  | .byteString s => "B'" ++ s ++ "'"
  | .unicode s => "U&'" ++ s ++ "'"
  | .dollarQuoted none s => "$$" ++ s ++ "$$"
  | .dollarQuoted (some t) s => "$" ++ t ++ "$" ++ s ++ "$" ++ t ++ "$"
  | .placeholder s => s
  | .sym t => t
  | .customOp t => t
  | .char c => c.toString
  | .space t => t

/-- The upper case of one character as far as it can make an ASCII keyword:
ASCII letters, and the few other letters whose upper case is ASCII. -/
def keywordChars (c : Char) : List Char :=
  if c.toNat < 0x80 then [c.toUpper]
  else match c.toNat with
    | 0x131 => ['I']
    | 0x17F => ['S']
    | 0xDF => ['S', 'S']
    | 0xFB00 => ['F', 'F']
    | 0xFB01 => ['F', 'I']
    | 0xFB02 => ['F', 'L']
    | 0xFB03 => ['F', 'F', 'I']
    | 0xFB04 => ['F', 'F', 'L']
    | 0xFB05 => ['S', 'T']
    | 0xFB06 => ['S', 'T']
    | _ => [c]

/-- The upper case of a word, compared with keyword spellings. -/
def keywordText (s : String) : String := String.ofList (s.toList.flatMap keywordChars)

/-- The keyword an unquoted word spells, in upper case; quoted words spell none. -/
def Token.keyword : Token → Option String
  | .word v none => some (keywordText v)
  | _ => none

/-- Whether the token is the unquoted keyword `kw` (given in upper case). -/
def Token.isKeyword (t : Token) (kw : String) : Bool := t.keyword == some kw

/-- The identifier a word token stands for. -/
def Token.ident? : Token → Option Ident
  | .word v q => some ⟨v, q⟩
  | _ => none

/-- The name of a symbol's kind of token, as a parser error that shows the raw
token prints it. -/
def symbolKindName : String → String
  | "[" => "LBracket" | "]" => "RBracket" | "(" => "LParen" | ")" => "RParen"
  | "!" => "ExclamationMark" | "!!" => "DoubleExclamationMark"
  | "<<" => "ShiftLeft" | ">>" => "ShiftRight" | "&&" => "Overlap" | "^@" => "CaretAt"
  | "#" => "Sharp" | "//" => "DuckIntDiv" | "&" => "Ampersand" | "|" => "Pipe" | "^" => "Caret"
  | "::" => "DoubleColon" | ":" => "Colon" | ":=" => "Assignment" | "." => "Period"
  | "," => "Comma" | ";" => "SemiColon" | "=" => "Eq" | "==" => "DoubleEq" | "<=>" => "Spaceship"
  | "+" => "Plus" | "-" => "Minus" | "*" => "Mul" | "/" => "Div" | "%" => "Mod"
  | "||" => "StringConcat" | "~" => "Tilde" | "@" => "AtSign" | "?" => "Question"
  | "->" => "Arrow" | "->>" => "LongArrow" | "#>" => "HashArrow" | "#>>" => "HashLongArrow"
  | "@>" => "AtArrow" | "<@" => "ArrowAt" | "#-" => "HashMinus" | "@?" => "AtQuestion"
  | "@@" => "AtAt" | "?&" => "QuestionAnd" | "?|" => "QuestionPipe"
  | "<" => "Lt" | ">" => "Gt" | "<=" => "LtEq" | ">=" => "GtEq" | "<>" | "!=" => "Neq"
  | "=>" => "RArrow" | "\x7b" => "LBrace" | "\x7d" => "RBrace" | "\\" => "Backslash"
  | "|/" => "PGSquareRoot" | "||/" => "PGCubeRoot" | "~*" => "TildeAsterisk"
  | "!~" => "ExclamationMarkTilde" | "!~*" => "ExclamationMarkTildeAsterisk"
  | "~~" => "DoubleTilde" | "~~*" => "DoubleTildeAsterisk"
  | "!~~" => "ExclamationMarkDoubleTilde" | "!~~*" => "ExclamationMarkDoubleTildeAsterisk"
  | "##" => "DoubleSharp" | "<->" => "TwoWayArrow" | "&<" => "AmpersandLeftAngleBracket"
  | "&>" => "AmpersandRightAngleBracket" | "&<|" => "AmpersandLeftAngleBracketVerticalBar"
  | "|&>" => "VerticalBarAmpersandRightAngleBracket" | "<<|" => "ShiftLeftVerticalBar"
  | "|>>" => "VerticalBarShiftRight" | "<^" => "LeftAngleBracketCaret"
  | ">^" => "RightAngleBracketCaret" | "?#" => "QuestionMarkSharp" | "?-" => "QuestionMarkDash"
  | "?-|" => "QuestionMarkDashVerticalBar" | "?||" => "QuestionMarkDoubleVerticalBar"
  | "~=" => "TildeEqual" | "@-@" => "AtDashAt"
  | s => s

end SqlScope.Sql
