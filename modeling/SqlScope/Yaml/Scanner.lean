import SqlScope.Yaml.Mark

/-!
# YAML tokens

The scanner cuts YAML text into tokens: indicators (`-`, `?`, `:`, `,`, brackets
and braces), scalars in their five styles, anchors, aliases, tags, directives and
document markers. Block structure is turned into explicit tokens from the
indentation: a block sequence or mapping starts where a line is indented further
than the enclosing block and ends where a later line is indented less.

A mapping key need not be marked with `?`: a scalar, flow collection, anchor or
tag followed by `:` on the same line, within 1024 characters, is a key. Since the
`:` comes after the key, the scanner keeps a *possible simple key* for each level
of flow nesting and holds back tokens while one is pending; when the `:` comes,
a `KEY` token (and, in block context, a `BLOCK-MAPPING-START` token) is inserted
before the key's first token.

Tokens are produced on demand, one step of scanning at a time, so a syntax error
late in the text is found only when the tokens before it have been used up.
-/

namespace SqlScope.Yaml

/-- How a scalar is written. -/
inductive ScalarStyle where
  | plain | singleQuoted | doubleQuoted | literal | folded
  deriving Repr, BEq, DecidableEq, Inhabited

/-- The kinds of token. -/
inductive TokenKind where
  | streamStart | streamEnd
  | versionDirective (major minor : Nat)
  | tagDirective (handle pfx : String)
  | documentStart | documentEnd
  | blockSequenceStart | blockMappingStart | blockEnd
  | flowSequenceStart | flowSequenceEnd | flowMappingStart | flowMappingEnd
  | blockEntry | flowEntry | key | value
  | aliasRef (name : String)
  | anchor (name : String)
  | tag (handle suffix : String)
  | scalar (text : String) (style : ScalarStyle)
  deriving Repr, BEq, Inhabited

/-- A token and the span of text it was read from. -/
structure Token where
  kind : TokenKind
  start : Mark
  stop : Mark
  deriving Repr, Inhabited

/-! ## Character classes -/

/-- The character that stands for the end of the text. -/
def endChar : Char := Char.ofNat 0

def isBreak (c : Char) : Bool :=
  c == '\r' || c == '\n' || c.toNat == 0x85 || c.toNat == 0x2028 || c.toNat == 0x2029

def isBlank (c : Char) : Bool := c == ' ' || c == '\t'

def isEnd (c : Char) : Bool := c.toNat == 0

def isBreakOrEnd (c : Char) : Bool := isBreak c || isEnd c

def isBlankOrEnd (c : Char) : Bool := isBlank c || isBreak c || isEnd c

/-- ASCII letters and digits, `_` and `-`: the characters of anchors, directive
names and tag handles. -/
def isWordChar (c : Char) : Bool := c.isAlphanum || c == '_' || c == '-'

/-- The value of a hexadecimal digit. -/
def hexValue? (c : Char) : Option Nat :=
  if c.isDigit then some (c.toNat - '0'.toNat)
  else if 'a' ≤ c && c ≤ 'f' then some (c.toNat - 'a'.toNat + 10)
  else if 'A' ≤ c && c ≤ 'F' then some (c.toNat - 'A'.toNat + 10)
  else none

/-- Whether a character may appear in YAML text at all. -/
def isPrintable (c : Char) : Bool :=
  let v := c.toNat
  v == 0x09 || v == 0x0A || v == 0x0D || (0x20 ≤ v && v ≤ 0x7E) || v == 0x85 ||
    (0xA0 ≤ v && v ≤ 0xD7FF) || (0xE000 ≤ v && v ≤ 0xFFFD) || (0x10000 ≤ v && v ≤ 0x10FFFF)

/-- A possible simple key: where it starts, the number of its first token, and
whether a `:` must follow (a key at the indentation of a block mapping). -/
structure SimpleKey where
  possible : Bool := false
  required : Bool := false
  tokenNumber : Nat := 0
  mark : Mark := default
  deriving Repr, Inhabited

/-- The scanner's state. -/
structure Scanner where
  input : Array Char
  mark : Mark := ⟨0, 0, 0⟩
  started : Bool := false
  flowLevel : Nat := 0
  /-- Tokens scanned and not yet taken, first to be taken first. -/
  queue : List Token := []
  /-- How many tokens have been taken. -/
  taken : Nat := 0
  /-- Whether the first queued token may be taken without scanning further. -/
  ready : Bool := false
  indent : Int := -1
  indents : List Int := []
  simpleKeyAllowed : Bool := false
  /-- One possible simple key per flow level, the innermost first. -/
  simpleKeys : List SimpleKey := []
  deriving Inhabited

/-- Scanning: reads and updates the scanner, may fail with a syntax error. -/
abbrev ScanM := StateT Scanner (Except SyntaxError)

namespace Scanner

/-- A scanner at the start of a text. -/
def ofString (text : String) : Scanner := { input := text.toList.toArray }

/-- The character `k` places ahead; the end of the text reads as `endChar`. -/
def charAt (s : Scanner) (k : Nat) : Char := s.input.getD (s.mark.index + k) endChar

end Scanner

/-! ## Moving through the text -/

def peekAt (k : Nat) : ScanM Char := return (← get).charAt k

def peekChar : ScanM Char := peekAt 0

def currentMark : ScanM Mark := return (← get).mark

/-- Steps over a character that is not a line break. -/
def skipChar : ScanM Unit :=
  modify fun s => { s with mark := ⟨s.mark.index + 1, s.mark.line, s.mark.column + 1⟩ }

/-- Steps over a line break; `\r\n` counts as one. -/
def skipBreak : ScanM Unit := do
  let c0 ← peekAt 0
  let c1 ← peekAt 1
  if c0 == '\r' && c1 == '\n' then
    modify fun s => { s with mark := ⟨s.mark.index + 2, s.mark.line + 1, 0⟩ }
  else if isBreak c0 then
    modify fun s => { s with mark := ⟨s.mark.index + 1, s.mark.line + 1, 0⟩ }

/-- Reads a character that is not a line break. -/
def readChar : ScanM Char := do
  let c ← peekChar
  skipChar
  return c

/-- Reads a line break as the break it stands for in a scalar: `\r\n`, `\r`, `\n`
and next-line are all `\n`; line and paragraph separators are kept. -/
def readBreak : ScanM String := do
  let c0 ← peekAt 0
  let c1 ← peekAt 1
  if c0 == '\r' && c1 == '\n' then
    skipBreak
    return "\n"
  else if c0 == '\r' || c0 == '\n' || c0.toNat == 0x85 then
    skipBreak
    return "\n"
  else if isBreak c0 then
    skipBreak
    return c0.toString
  else return ""

/-- Fails with a problem at the current position. -/
def scanError (context : Option String) (contextMark : Mark) (problem : String) : ScanM α := do
  let m ← currentMark
  throw { problem, problemMark := m, context, contextMark }

/-- The number of characters left, which bounds every scanning loop. -/
def remaining : ScanM Nat := do
  let s ← get
  return s.input.size - s.mark.index + 1

/-- Reads characters while `p` holds of them. -/
def readWhile (p : Char → Bool) : ScanM String := do
  let rec go : Nat → String → ScanM String
    | 0, acc => pure acc
    | n + 1, acc => do
      let c ← peekChar
      if p c && !isEnd c then
        skipChar
        go n (acc.push c)
      else pure acc
  go (← remaining) ""

/-- Skips characters while `p` holds of them. -/
def skipWhile (p : Char → Bool) : ScanM Unit := do
  let _ ← readWhile p

/-! ## The token queue -/

def enqueue (t : Token) : ScanM Unit := modify fun s => { s with queue := s.queue ++ [t] }

/-- Inserts a token `pos` places after the first queued one. -/
def insertToken (pos : Nat) (t : Token) : ScanM Unit :=
  modify fun s => { s with queue := s.queue.take pos ++ [t] ++ s.queue.drop pos }

/-- The number that the next queued token will have. -/
def nextTokenNumber : ScanM Nat := do
  let s ← get
  return s.taken + s.queue.length

/-! ## Simple keys and indentation -/

/-- The error for a simple key that needed a `:` and did not get one. -/
def missingColon (k : SimpleKey) : ScanM α :=
  scanError (some "while scanning a simple key") k.mark "could not find expected ':'"

/-- Drops possible simple keys that can no longer be keys: a key must fit on one
line and in 1024 characters. -/
def staleSimpleKeys : ScanM Unit := do
  let s ← get
  let stale (k : SimpleKey) : Bool :=
    k.possible && (k.mark.line < s.mark.line || k.mark.index + 1024 < s.mark.index)
  -- the common case, no stale key, leaves the list as it is
  if !s.simpleKeys.any stale then return
  let keys ← s.simpleKeys.mapM fun k => do
    if stale k then
      if k.required then missingColon k
      pure { k with possible := false }
    else pure k
  modify fun s => { s with simpleKeys := keys }

/-- The possible simple key of the current flow level. -/
def topSimpleKey : ScanM SimpleKey := do
  match (← get).simpleKeys with
  | k :: _ => pure k
  | [] => pure {}

def setTopSimpleKey (k : SimpleKey) : ScanM Unit :=
  modify fun s => { s with simpleKeys := match s.simpleKeys with
    | _ :: rest => k :: rest
    | [] => [k] }

/-- Gives up the possible simple key of the current level. -/
def removeSimpleKey : ScanM Unit := do
  let k ← topSimpleKey
  if k.possible && k.required then missingColon k
  setTopSimpleKey { k with possible := false }

/-- Records that a simple key may start here. -/
def saveSimpleKey : ScanM Unit := do
  let s ← get
  let required := s.flowLevel == 0 && s.indent == (s.mark.column : Int)
  if s.simpleKeyAllowed then
    let k : SimpleKey := { possible := true, required, tokenNumber := ← nextTokenNumber, mark := s.mark }
    removeSimpleKey
    setTopSimpleKey k

def increaseFlowLevel : ScanM Unit :=
  modify fun s => { s with simpleKeys := default :: s.simpleKeys, flowLevel := s.flowLevel + 1 }

def decreaseFlowLevel : ScanM Unit :=
  modify fun s =>
    if s.flowLevel == 0 then s
    else { s with flowLevel := s.flowLevel - 1, simpleKeys := s.simpleKeys.drop 1 }

/-- Opens a block collection at `column` if it is indented further than the
current block; its start token goes at the end of the queue, or before the token
numbered `number`. -/
def rollIndent (column : Int) (number : Option Nat) (kind : TokenKind) (m : Mark) : ScanM Unit := do
  let s ← get
  if s.flowLevel != 0 then return
  if s.indent < column then
    set { s with indents := s.indent :: s.indents, indent := column }
    let t : Token := ⟨kind, m, m⟩
    match number with
    | none => enqueue t
    | some n => insertToken (n - s.taken) t

/-- Closes the block collections indented further than `column`. -/
def unrollIndent (column : Int) : ScanM Unit := do
  if (← get).flowLevel != 0 then return
  let rec go : List Int → ScanM Unit
    | [] => pure ()
    | _ :: rest => do
      let s ← get
      if s.indent > column then
        match s.indents with
        | i :: is => set { s with indent := i, indents := is }
        | [] => set { s with indent := -1 }
        enqueue ⟨.blockEnd, s.mark, s.mark⟩
        go rest
  go (← get).indents

/-! ## Scanning tokens -/

/-- Skips blanks, comments and line breaks before the next token. A tab may
separate tokens only where it cannot be taken for indentation. -/
def scanToNextToken : ScanM Unit := do
  let rec go : Nat → ScanM Unit
    | 0 => pure ()
    | n + 1 => do
      let s ← get
      if s.mark.column == 0 && (← peekChar).toNat == 0xFEFF then skipChar
      skipWhile fun c => c == ' ' || ((s.flowLevel != 0 || !s.simpleKeyAllowed) && c == '\t')
      if (← peekChar) == '#' then skipWhile fun c => !isBreakOrEnd c
      if isBreak (← peekChar) then
        skipBreak
        if (← get).flowLevel == 0 then modify fun s => { s with simpleKeyAllowed := true }
        go n
  go (← remaining)

/-- A directive name or tag handle body: word characters. -/
def scanDirectiveName (start : Mark) : ScanM String := do
  let name ← readWhile isWordChar
  if name.isEmpty then
    scanError (some "while scanning a directive") start "could not find expected directive name"
  if !isBlankOrEnd (← peekChar) then
    scanError (some "while scanning a directive") start "found unexpected non-alphabetical character"
  return name

/-- One number of a `%YAML` directive. -/
def scanVersionNumber (start : Mark) : ScanM Nat := do
  let digits ← readWhile Char.isDigit
  if digits.length > 9 then
    scanError (some "while scanning a %YAML directive") start "found extremely long version number"
  if digits.isEmpty then
    scanError (some "while scanning a %YAML directive") start "did not find expected version number"
  return digits.foldl (fun acc c => acc * 10 + (c.toNat - '0'.toNat)) 0

/-- A tag handle: `!`, `!!` or `!word!`. In a directive the closing `!` is required. -/
def scanTagHandle (directive : Bool) (start : Mark) : ScanM String := do
  let ctx := if directive then "while scanning a tag directive" else "while scanning a tag"
  if (← peekChar) != '!' then scanError (some ctx) start "did not find expected '!'"
  skipChar
  let word ← readWhile isWordChar
  let handle := "!" ++ word
  if (← peekChar) == '!' then
    skipChar
    return handle ++ "!"
  if directive && handle != "!" then scanError (some ctx) start "did not find expected '!'"
  return handle

/-- Whether a character may appear in a tag or URI; `,`, `[` and `]` only in a
full URI. -/
def isUriChar (uriChar : Bool) (c : Char) : Bool :=
  isWordChar c || ";/?:@&=+$.%!~*'()".toList.contains c || (uriChar && ",[]".toList.contains c)

/-- Decodes `%XX` escapes of a URI into the character their UTF-8 bytes encode. -/
def scanUriEscapes (directive : Bool) (start : Mark) : ScanM Char := do
  let ctx := if directive then "while parsing a %TAG directive" else "while parsing a tag"
  let octet : ScanM Nat := do
    let c0 ← peekAt 0
    let c1 ← peekAt 1
    let c2 ← peekAt 2
    match c0 == '%', hexValue? c1, hexValue? c2 with
    | true, some h, some l =>
      skipChar; skipChar; skipChar
      pure (h * 16 + l)
    | _, _, _ => scanError (some ctx) start "did not find URI escaped octet"
  let first ← octet
  let width :=
    if first &&& 0x80 == 0 then 1 else if first &&& 0xE0 == 0xC0 then 2
    else if first &&& 0xF0 == 0xE0 then 3 else if first &&& 0xF8 == 0xF0 then 4 else 0
  if width == 0 then scanError (some ctx) start "found an incorrect leading UTF-8 octet"
  let init := if width == 1 then first else if width == 2 then first &&& 0x1F
    else if width == 3 then first &&& 0x0F else first &&& 0x07
  let rec more : Nat → Nat → ScanM Nat
    | 0, v => pure v
    | k + 1, v => do
      let o ← octet
      if o &&& 0xC0 != 0x80 then scanError (some ctx) start "found an incorrect trailing UTF-8 octet"
      more k (v * 64 + (o &&& 0x3F))
  return Char.ofNat (← more (width - 1) init)

/-- The URI part of a tag or `%TAG` prefix, after the given head (a handle that
turned out to be part of the tag). -/
def scanTagUri (uriChar directive : Bool) (head : String) (start : Mark) : ScanM String := do
  let ctx := if directive then "while parsing a %TAG directive" else "while parsing a tag"
  let rec go : Nat → String → Nat → ScanM (String × Nat)
    | 0, acc, len => pure (acc, len)
    | n + 1, acc, len => do
      let c ← peekChar
      if isUriChar uriChar c then
        if c == '%' then go n (acc.push (← scanUriEscapes directive start)) (len + 1)
        else
          skipChar
          go n (acc.push c) (len + 1)
      else pure (acc, len)
  let (uri, len) ← go (← remaining) (String.ofList (head.toList.drop 1)) head.length
  if len == 0 then scanError (some ctx) start "did not find expected tag URI"
  return uri

/-- A `%YAML` or `%TAG` directive, with the rest of its line. -/
def scanDirective : ScanM Token := do
  let start ← currentMark
  skipChar
  let name ← scanDirectiveName start
  let kind ← match name with
    | "YAML" => do
      skipWhile isBlank
      let major ← scanVersionNumber start
      if (← peekChar) != '.' then
        scanError (some "while scanning a %YAML directive") start
          "did not find expected digit or '.' character"
      skipChar
      let minor ← scanVersionNumber start
      pure (TokenKind.versionDirective major minor)
    | "TAG" => do
      skipWhile isBlank
      let handle ← scanTagHandle true start
      if !isBlank (← peekChar) then
        scanError (some "while scanning a %TAG directive") start "did not find expected whitespace"
      skipWhile isBlank
      let pfx ← scanTagUri true true "" start
      if !isBlankOrEnd (← peekChar) then
        scanError (some "while scanning a %TAG directive") start
          "did not find expected whitespace or line break"
      pure (TokenKind.tagDirective handle pfx)
    | _ => scanError (some "while scanning a directive") start "found unknown directive name"
  let stop ← currentMark
  skipWhile isBlank
  if (← peekChar) == '#' then skipWhile fun c => !isBreakOrEnd c
  if !isBreakOrEnd (← peekChar) then
    scanError (some "while scanning a directive") start "did not find expected comment or line break"
  if isBreak (← peekChar) then skipBreak
  return ⟨kind, start, stop⟩

/-- An anchor `&name` or an alias `*name`. -/
def scanAnchor (isAlias : Bool) : ScanM Token := do
  let start ← currentMark
  skipChar
  let name ← readWhile isWordChar
  let c ← peekChar
  if name.isEmpty || !(isBlankOrEnd c || "?:,]\x7d%@`".toList.contains c) then
    scanError (some (if isAlias then "while scanning an alias" else "while scanning an anchor")) start
      "did not find expected alphabetic or numeric character"
  let stop ← currentMark
  return ⟨if isAlias then .aliasRef name else .anchor name, start, stop⟩

/-- A tag: `!<uri>`, `!handle!suffix`, `!suffix` or `!`. -/
def scanTag : ScanM Token := do
  let start ← currentMark
  let (handle, suffix) ← do
    if (← peekAt 1) == '<' then
      skipChar; skipChar
      let suffix ← scanTagUri true false "" start
      if (← peekChar) != '>' then
        scanError (some "while scanning a tag") start "did not find the expected '>'"
      skipChar
      pure ("", suffix)
    else
      let handle ← scanTagHandle false start
      if handle.length > 1 && handle.endsWith "!" then
        pure (handle, ← scanTagUri false false "" start)
      else
        let suffix ← scanTagUri false false handle start
        if suffix.isEmpty then pure ("", "!") else pure ("!", suffix)
  let c ← peekChar
  if !isBlankOrEnd c then
    if (← get).flowLevel == 0 || c != ',' then
      scanError (some "while scanning a tag") start "did not find expected whitespace or line break"
  let stop ← currentMark
  return ⟨.tag handle suffix, start, stop⟩

/-- Skips the indentation and empty lines before the content of a block scalar,
collecting the line breaks; fixes the indentation from the first non-empty line
when the header did not give it. -/
def blockScalarBreaks (indent : Nat) (blockIndent : Int) (start : Mark) :
    ScanM (Nat × String × Mark) := do
  let rec go : Nat → Nat → String → Mark → ScanM (Nat × String × Mark)
    | 0, maxIndent, breaks, stop => pure (maxIndent, breaks, stop)
    | n + 1, maxIndent, breaks, stop => do
      let rec spaces : Nat → ScanM Unit
        | 0 => pure ()
        | k + 1 => do
          let s ← get
          if (indent == 0 || s.mark.column < indent) && (← peekChar) == ' ' then
            skipChar
            spaces k
      spaces (← remaining)
      let col := (← get).mark.column
      let maxIndent := max maxIndent col
      if (indent == 0 || col < indent) && (← peekChar) == '\t' then
        scanError (some "while scanning a block scalar") start
          "found a tab character where an indentation space is expected"
      if !isBreak (← peekChar) then pure (maxIndent, breaks, stop)
      else
        let b ← readBreak
        go n maxIndent (breaks ++ b) (← currentMark)
  let (maxIndent, breaks, stop) ← go (← remaining) 0 "" (← currentMark)
  let indent :=
    if indent != 0 then indent
    else max (max maxIndent (blockIndent + 1).toNat) 1
  return (indent, breaks, stop)

/-- A literal (`|`) or folded (`>`) block scalar. -/
def scanBlockScalar (literal : Bool) : ScanM Token := do
  let start ← currentMark
  skipChar
  let ctx := some "while scanning a block scalar"
  -- the header: chomping and indentation indicators, in either order
  let chompOf (c : Char) : Int := if c == '+' then 1 else -1
  let (chomping, increment) ← do
    let c ← peekChar
    if c == '+' || c == '-' then
      skipChar
      let d ← peekChar
      if d.isDigit then
        if d == '0' then scanError ctx start "found an indentation indicator equal to 0"
        skipChar
        pure (chompOf c, d.toNat - '0'.toNat)
      else pure (chompOf c, 0)
    else if c.isDigit then
      if c == '0' then scanError ctx start "found an indentation indicator equal to 0"
      skipChar
      let d ← peekChar
      if d == '+' || d == '-' then
        skipChar
        pure (chompOf d, c.toNat - '0'.toNat)
      else pure ((0 : Int), c.toNat - '0'.toNat)
    else pure ((0 : Int), 0)
  skipWhile isBlank
  if (← peekChar) == '#' then skipWhile fun c => !isBreakOrEnd c
  if !isBreakOrEnd (← peekChar) then
    scanError ctx start "did not find expected comment or line break"
  if isBreak (← peekChar) then skipBreak
  let stop ← currentMark
  let blockIndent := (← get).indent
  let indent0 : Nat :=
    if increment != 0 then (if blockIndent ≥ 0 then (blockIndent + increment).toNat else increment)
    else 0
  let (indent, trailing, stop') ← blockScalarBreaks indent0 blockIndent start
  let _ := stop
  -- the content, line by line
  let rec lines : Nat → String → String → String → Bool → Mark → ScanM (String × String × String × Mark)
    | 0, text, leading, trailing, _, stop => pure (text, leading, trailing, stop)
    | n + 1, text, leading, trailing, leadingBlank, stop => do
      let s ← get
      if s.mark.column != indent || isEnd (← peekChar) then pure (text, leading, trailing, stop)
      else
        let trailingBlank := isBlank (← peekChar)
        let text :=
          if !literal && leading.startsWith "\n" && !leadingBlank && !trailingBlank then
            if trailing.isEmpty then text.push ' ' else text
          else text ++ leading
        let text := text ++ trailing
        let leadingBlank := isBlank (← peekChar)
        let line ← readWhile fun c => !isBreakOrEnd c
        let leading ← readBreak
        let (_, trailing, stop) ← blockScalarBreaks indent blockIndent start
        lines n (text ++ line) leading trailing leadingBlank stop
  let (text, leading, trailing, stop'') ← lines (← remaining) "" "" trailing false stop'
  let text := if chomping != -1 then text ++ leading else text
  let text := if chomping == 1 then text ++ trailing else text
  return ⟨.scalar text (if literal then .literal else .folded), start, stop''⟩

/-- Whether the text at the current position is a document marker `---` or `...`
at the start of a line. -/
def atDocumentMarker : ScanM Bool := do
  let s ← get
  let c0 := s.charAt 0
  return s.mark.column == 0 && (c0 == '-' || c0 == '.') && s.charAt 1 == c0 && s.charAt 2 == c0 &&
    isBlankOrEnd (s.charAt 3)

/-- The character a double-quoted escape `\c` stands for, or the number of hex
digits that follow it. -/
def escapeOf (c : Char) : Option (Sum Char Nat) :=
  match c with
  | '0' => some (.inl (Char.ofNat 0))
  | 'a' => some (.inl (Char.ofNat 7))
  | 'b' => some (.inl (Char.ofNat 8))
  | 't' | '\t' => some (.inl '\t')
  | 'n' => some (.inl '\n')
  | 'v' => some (.inl (Char.ofNat 11))
  | 'f' => some (.inl (Char.ofNat 12))
  | 'r' => some (.inl '\r')
  | 'e' => some (.inl (Char.ofNat 27))
  | ' ' => some (.inl ' ')
  | '"' => some (.inl '"')
  | '/' => some (.inl '/')
  | '\\' => some (.inl '\\')
  | 'N' => some (.inl (Char.ofNat 0x85))
  | '_' => some (.inl (Char.ofNat 0xA0))
  | 'L' => some (.inl (Char.ofNat 0x2028))
  | 'P' => some (.inl (Char.ofNat 0x2029))
  | 'x' => some (.inr 2)
  | 'u' => some (.inr 4)
  | 'U' => some (.inr 8)
  | _ => none

/-- Joins the line breaks inside a flow or plain scalar: a single break becomes a
space, and further breaks are kept. -/
def foldBreaks (leading trailing : String) : String :=
  if leading.startsWith "\n" then (if trailing.isEmpty then " " else trailing)
  else leading ++ trailing

/-- A single- or double-quoted scalar. -/
def scanFlowScalar (single : Bool) : ScanM Token := do
  let start ← currentMark
  skipChar
  let quote := if single then '\'' else '"'
  -- the characters up to a blank, a line break or the closing quote
  let rec word : Nat → String → ScanM (String × Bool)
    | 0, acc => pure (acc, false)
    | n + 1, acc => do
      let c ← peekAt 0
      let d ← peekAt 1
      if isBlankOrEnd c then pure (acc, false)
      else if single && c == '\'' && d == '\'' then
        skipChar; skipChar
        word n (acc.push '\'')
      else if c == quote then pure (acc, false)
      else if !single && c == '\\' && isBreak d then
        skipChar
        skipBreak
        pure (acc, true)
      else if !single && c == '\\' then
        match escapeOf d with
        | none => scanError (some "while parsing a quoted scalar") start "found unknown escape character"
        | some (.inl e) =>
          skipChar; skipChar
          word n (acc.push e)
        | some (.inr len) =>
          skipChar; skipChar
          let s ← get
          let digits := (List.range len).map (fun k => hexValue? (s.charAt k))
          if digits.any Option.isNone then
            scanError (some "while parsing a quoted scalar") start "did not find expected hexdecimal number"
          let v := digits.foldl (fun acc d => acc * 16 + d.getD 0) 0
          if (0xD800 ≤ v && v ≤ 0xDFFF) || v > 0x10FFFF then
            scanError (some "while parsing a quoted scalar") start "found invalid Unicode character escape code"
          for _ in List.range len do skipChar
          word n (acc.push (Char.ofNat v))
      else
        skipChar
        word n (acc.push c)
  -- blanks and line breaks between words
  let rec blanks : Nat → String → String → String → Bool → ScanM (String × String × String × Bool)
    | 0, ws, lb, tb, lead => pure (ws, lb, tb, lead)
    | n + 1, ws, lb, tb, lead => do
      let c ← peekChar
      if isBlank c then
        skipChar
        blanks n (if lead then ws else ws.push c) lb tb lead
      else if isBreak c then
        if !lead then
          let b ← readBreak
          blanks n "" b tb true
        else
          let b ← readBreak
          blanks n ws lb (tb ++ b) lead
      else pure (ws, lb, tb, lead)
  let rec go : Nat → String → ScanM String
    | 0, acc => pure acc
    | n + 1, acc => do
      if ← atDocumentMarker then
        scanError (some "while scanning a quoted scalar") start "found unexpected document indicator"
      if isEnd (← peekChar) then
        scanError (some "while scanning a quoted scalar") start "found unexpected end of stream"
      let (w, escapedBreak) ← word (← remaining) ""
      let acc := acc ++ w
      if (← peekChar) == quote then pure acc
      else
        let (ws, lb, tb, lead) ← blanks (← remaining) "" "" "" escapedBreak
        let acc := if lead then acc ++ foldBreaks lb tb else acc ++ ws
        go n acc
  let text ← go (← remaining) ""
  skipChar
  let stop ← currentMark
  return ⟨.scalar text (if single then .singleQuoted else .doubleQuoted), start, stop⟩

/-- A plain scalar. It ends before `: ` and ` #`, at a flow indicator inside a
flow collection, at a document marker, and at a line indented no further than the
enclosing block. -/
def scanPlainScalar : ScanM Token := do
  let start ← currentMark
  let indent := (← get).indent + 1
  let flow := (← get).flowLevel != 0
  let rec word : Nat → String → String → String → String → Bool → Mark →
      ScanM (String × String × String × String × Bool × Mark)
    | 0, acc, ws, lb, tb, lead, stop => pure (acc, ws, lb, tb, lead, stop)
    | n + 1, acc, ws, lb, tb, lead, stop => do
      let c ← peekAt 0
      let d ← peekAt 1
      if isBlankOrEnd c then pure (acc, ws, lb, tb, lead, stop)
      else if flow && c == ':' && ",?[]\x7b\x7d".toList.contains d then pure (acc, ws, lb, tb, lead, stop)
      else if (c == ':' && isBlankOrEnd d) || (flow && ",[]\x7b\x7d".toList.contains c) then
        pure (acc, ws, lb, tb, lead, stop)
      else
        let acc := if lead then acc ++ foldBreaks lb tb else acc ++ ws
        skipChar
        word n (acc.push c) "" "" "" false (← currentMark)
  let rec blanks : Nat → String → String → String → Bool → ScanM (String × String × String × Bool)
    | 0, ws, lb, tb, lead => pure (ws, lb, tb, lead)
    | n + 1, ws, lb, tb, lead => do
      let c ← peekChar
      if isBlank c then
        if lead && ((← get).mark.column : Int) < indent && c == '\t' then
          scanError (some "while scanning a plain scalar") start "found a tab character that violates indentation"
        skipChar
        blanks n (if lead then ws else ws.push c) lb tb lead
      else if isBreak c then
        if !lead then
          let b ← readBreak
          blanks n "" b tb true
        else
          let b ← readBreak
          blanks n ws lb (tb ++ b) lead
      else pure (ws, lb, tb, lead)
  let rec go : Nat → String → String → String → String → Bool → Mark →
      ScanM (String × Bool × Mark)
    | 0, acc, _, _, _, lead, stop => pure (acc, lead, stop)
    | n + 1, acc, ws, lb, tb, lead, stop => do
      if ← atDocumentMarker then pure (acc, lead, stop)
      else if (← peekChar) == '#' then pure (acc, lead, stop)
      else
        let (acc, ws, lb, tb, lead, stop) ← word (← remaining) acc ws lb tb lead stop
        let c ← peekChar
        if !(isBlank c || isBreak c) then pure (acc, lead, stop)
        else
          let (ws, lb, tb, lead) ← blanks (← remaining) ws lb tb lead
          if !flow && ((← get).mark.column : Int) < indent then pure (acc, lead, stop)
          else go n acc ws lb tb lead stop
  let (text, lead, stop) ← go (← remaining) "" "" "" "" false start
  if lead then modify fun s => { s with simpleKeyAllowed := true }
  return ⟨.scalar text .plain, start, stop⟩

/-! ## Fetching tokens -/

def fetchStreamStart : ScanM Unit := do
  let m ← currentMark
  modify fun s =>
    { s with indent := -1, simpleKeyAllowed := true, started := true, simpleKeys := [default] }
  enqueue ⟨.streamStart, m, m⟩

def fetchStreamEnd : ScanM Unit := do
  modify fun s =>
    if s.mark.column != 0 then { s with mark := ⟨s.mark.index, s.mark.line + 1, 0⟩ } else s
  unrollIndent (-1)
  removeSimpleKey
  modify fun s => { s with simpleKeyAllowed := false }
  let m ← currentMark
  enqueue ⟨.streamEnd, m, m⟩

def fetchDirective : ScanM Unit := do
  unrollIndent (-1)
  removeSimpleKey
  modify fun s => { s with simpleKeyAllowed := false }
  enqueue (← scanDirective)

def fetchDocumentIndicator (kind : TokenKind) : ScanM Unit := do
  unrollIndent (-1)
  removeSimpleKey
  modify fun s => { s with simpleKeyAllowed := false }
  let start ← currentMark
  skipChar; skipChar; skipChar
  enqueue ⟨kind, start, ← currentMark⟩

def fetchFlowCollectionStart (kind : TokenKind) : ScanM Unit := do
  saveSimpleKey
  increaseFlowLevel
  modify fun s => { s with simpleKeyAllowed := true }
  let start ← currentMark
  skipChar
  enqueue ⟨kind, start, ← currentMark⟩

def fetchFlowCollectionEnd (kind : TokenKind) : ScanM Unit := do
  removeSimpleKey
  decreaseFlowLevel
  modify fun s => { s with simpleKeyAllowed := false }
  let start ← currentMark
  skipChar
  enqueue ⟨kind, start, ← currentMark⟩

def fetchFlowEntry : ScanM Unit := do
  removeSimpleKey
  modify fun s => { s with simpleKeyAllowed := true }
  let start ← currentMark
  skipChar
  enqueue ⟨.flowEntry, start, ← currentMark⟩

def fetchBlockEntry : ScanM Unit := do
  let s ← get
  if s.flowLevel == 0 then
    if !s.simpleKeyAllowed then
      scanError none s.mark "block sequence entries are not allowed in this context"
    rollIndent s.mark.column none .blockSequenceStart s.mark
  removeSimpleKey
  modify fun s => { s with simpleKeyAllowed := true }
  let start ← currentMark
  skipChar
  enqueue ⟨.blockEntry, start, ← currentMark⟩

def fetchKey : ScanM Unit := do
  let s ← get
  if s.flowLevel == 0 then
    if !s.simpleKeyAllowed then
      scanError none s.mark "mapping keys are not allowed in this context"
    rollIndent s.mark.column none .blockMappingStart s.mark
  removeSimpleKey
  modify fun s => { s with simpleKeyAllowed := s.flowLevel == 0 }
  let start ← currentMark
  skipChar
  enqueue ⟨.key, start, ← currentMark⟩

def fetchValue : ScanM Unit := do
  let k ← topSimpleKey
  if k.possible then
    insertToken (k.tokenNumber - (← get).taken) ⟨.key, k.mark, k.mark⟩
    rollIndent k.mark.column (some k.tokenNumber) .blockMappingStart k.mark
    setTopSimpleKey { k with possible := false }
    modify fun s => { s with simpleKeyAllowed := false }
  else
    let s ← get
    if s.flowLevel == 0 then
      if !s.simpleKeyAllowed then
        scanError none s.mark "mapping values are not allowed in this context"
      rollIndent s.mark.column none .blockMappingStart s.mark
    modify fun s => { s with simpleKeyAllowed := s.flowLevel == 0 }
  let start ← currentMark
  skipChar
  enqueue ⟨.value, start, ← currentMark⟩

/-- Whether a character may start a plain scalar, given the one after it. -/
def startsPlain (flow : Bool) (c d : Char) : Bool :=
  !(isBlankOrEnd c || "-?:,[]\x7b\x7d#&*!|>'\"%@`".toList.contains c) ||
    (c == '-' && !isBlank d) || (!flow && (c == '?' || c == ':') && !isBlankOrEnd d)

/-- Scans the next token, or the block ends that come before it. -/
def fetchNextToken : ScanM Unit := do
  if !(← get).started then
    fetchStreamStart
    return
  scanToNextToken
  staleSimpleKeys
  unrollIndent (← get).mark.column
  let s ← get
  let c := s.charAt 0
  let d := s.charAt 1
  let flow := s.flowLevel != 0
  if isEnd c then fetchStreamEnd
  else if s.mark.column == 0 && c == '%' then fetchDirective
  else if (← atDocumentMarker) && c == '-' then fetchDocumentIndicator .documentStart
  else if (← atDocumentMarker) && c == '.' then fetchDocumentIndicator .documentEnd
  else if c == '[' then fetchFlowCollectionStart .flowSequenceStart
  else if c == '{' then fetchFlowCollectionStart .flowMappingStart
  else if c == ']' then fetchFlowCollectionEnd .flowSequenceEnd
  else if c == '}' then fetchFlowCollectionEnd .flowMappingEnd
  else if c == ',' then fetchFlowEntry
  else if c == '-' && isBlankOrEnd d then fetchBlockEntry
  else if c == '?' && (flow || isBlankOrEnd d) then fetchKey
  else if c == ':' && (flow || isBlankOrEnd d) then fetchValue
  else if c == '*' then
    saveSimpleKey
    modify fun s => { s with simpleKeyAllowed := false }
    enqueue (← scanAnchor true)
  else if c == '&' then
    saveSimpleKey
    modify fun s => { s with simpleKeyAllowed := false }
    enqueue (← scanAnchor false)
  else if c == '!' then
    saveSimpleKey
    modify fun s => { s with simpleKeyAllowed := false }
    enqueue (← scanTag)
  else if (c == '|' || c == '>') && !flow then
    removeSimpleKey
    modify fun s => { s with simpleKeyAllowed := true }
    enqueue (← scanBlockScalar (c == '|'))
  else if c == '\'' || c == '"' then
    saveSimpleKey
    modify fun s => { s with simpleKeyAllowed := false }
    enqueue (← scanFlowScalar (c == '\''))
  else if startsPlain flow c d then
    saveSimpleKey
    modify fun s => { s with simpleKeyAllowed := false }
    enqueue (← scanPlainScalar)
  else
    scanError (some "while scanning for the next token") s.mark "found character that cannot start any token"

/-- Scans until the first queued token can be taken: the queue is not empty and
no possible simple key would put a `KEY` token before it. -/
def fetchMoreTokens : ScanM Unit := do
  let rec go : Nat → ScanM Unit
    | 0 => pure ()
    | n + 1 => do
      let need ← do
        let s ← get
        if s.queue.isEmpty then pure true
        else
          staleSimpleKeys
          let s ← get
          pure (s.simpleKeys.any fun k => k.possible && k.tokenNumber == s.taken)
      if need then
        fetchNextToken
        go n
  go (2 * (← remaining) + 2 * (← get).indents.length + 8)
  modify fun s => { s with ready := true }

/-- The next token, scanning as far as needed. -/
def peekToken : ScanM Token := do
  if !(← get).ready then fetchMoreTokens
  match (← get).queue with
  | t :: _ => pure t
  | [] => pure ⟨.streamEnd, (← currentMark), (← currentMark)⟩

/-- Takes the next token. -/
def takeToken : ScanM Unit :=
  modify fun s => { s with queue := s.queue.drop 1, taken := s.taken + 1, ready := false }

/-- The first character that may not appear in YAML text, with its byte offset. -/
def firstUnprintable (cs : List Char) : Option (Char × Nat) :=
  let rec go : List Char → Nat → Option (Char × Nat)
    | [], _ => none
    | c :: rest, off => if isPrintable c then go rest (off + c.utf8Size) else some (c, off)
  go cs 0

end SqlScope.Yaml
