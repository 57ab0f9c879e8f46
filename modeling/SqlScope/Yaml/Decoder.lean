import SqlScope.Yaml.Document
import SqlScope.Yaml.Resolve
import SqlScope.Json
import SqlScope.Text.Unicode

/-!
# Reading typed values from a YAML document

A reader walks the events of a loaded document with a cursor. Each read asks for
one node in a given shape (a string, a sequence, a mapping, or any node) and
fails with a message naming what it found and what it expected, for instance
`invalid type: integer ``5``, expected a string`.

Every failure that does not yet say where it happened is given the path of the
node being read (`rules[0].table`) and the position where that node starts, the
first time it passes through a read: the innermost read that sees a failure
places it. Aliases are followed by reading the node they repeat in place, under
the path of the alias.

Two limits keep reading finite on any document: collections nest at most 128
deep, and aliases are followed at most a hundred times per event of the
document.
-/

namespace SqlScope.Yaml

open SqlScope.Number

/-- Where a node stands in the document. -/
inductive Path where
  | root
  | seq (parent : Path) (index : Nat)
  | map (parent : Path) (key : String)
  | aliasRef (parent : Path)
  /-- The value of an entry whose key is not a scalar. -/
  | unknown (parent : Path)
  deriving Repr, BEq, Inhabited

/-- `.` for the root, else the keys and indices from the root: `rules[0].kind`. -/
def Path.text : Path → String
  | .root => "."
  | .seq p i => p.text ++ "[" ++ toString i ++ "]"
  | .map p k => (match p with | .root => "" | _ => p.text ++ ".") ++ k
  | .aliasRef p => p.text
  | .unknown p => (match p with | .root => "" | _ => p.text ++ ".") ++ "?"

/-- What a reader found where it expected something else. -/
inductive Unexpected where
  | bool (b : Bool)
  | unsigned (n : Nat)
  | signed (n : Int)
  | float (x : Binary64)
  | str (s : String)
  | unit
  | option
  | seq
  | map
  | enum
  | other (text : String)
  deriving Repr, BEq, Inhabited

/-- A float in a message: its shortest digits, with `.0` added to whole numbers. -/
def floatText (x : Binary64) : String :=
  let t := x.positional
  if x.isFinite && !t.contains '.' then t ++ ".0" else t

def Unexpected.text : Unexpected → String
  | .bool b => "boolean `" ++ (if b then "true" else "false") ++ "`"
  | .unsigned n => "integer `" ++ toString n ++ "`"
  | .signed n => "integer `" ++ toString n ++ "`"
  | .float x => "floating point `" ++ floatText x ++ "`"
  | .str s => "string " ++ Text.debugQuoted s
  | .unit => "unit value"
  | .option => "Option value"
  | .seq => "sequence"
  | .map => "map"
  | .enum => "enum"
  | .other t => t

def invalidType (u : Unexpected) (expected : String) : String :=
  "invalid type: " ++ u.text ++ ", expected " ++ expected

def invalidValue (u : Unexpected) (expected : String) : String :=
  "invalid value: " ++ u.text ++ ", expected " ++ expected

def invalidLength (n : Nat) (expected : String) : String :=
  "invalid length " ++ toString n ++ ", expected " ++ expected

def backticked (s : String) : String := "`" ++ s ++ "`"

/-- A list of accepted names: `a`, `a` or `b`, or one of `a`, `b`, `c`. -/
def oneOf : List String → String
  | [a] => backticked a
  | [a, b] => backticked a ++ " or " ++ backticked b
  | names => "one of " ++ ", ".intercalate (names.map backticked)

def unknownVariant (v : String) (names : List String) : String :=
  if names.isEmpty then "unknown variant " ++ backticked v ++ ", there are no variants"
  else "unknown variant " ++ backticked v ++ ", expected " ++ oneOf names

def unknownField (f : String) (names : List String) : String :=
  if names.isEmpty then "unknown field " ++ backticked f ++ ", there are no fields"
  else "unknown field " ++ backticked f ++ ", expected " ++ oneOf names

def missingField (f : String) : String := "missing field " ++ backticked f

def duplicateField (f : String) : String := "duplicate field " ++ backticked f

/-- What a scalar is, as it is named in a message. -/
def Scalar.unexpected : Scalar → Unexpected
  | .unit => .unit
  | .bool b => .bool b
  | .nat n => .unsigned n
  | .int n => .signed n
  | .wideNat n => .other ("integer `" ++ toString n ++ "` as u128")
  | .wideInt n => .other ("integer `" ++ toString n ++ "` as i128")
  | .float x => .float x
  | .str s => .str s

/-- Why reading a document failed. -/
inductive DecodeError where
  | malformed (e : SyntaxError)
  | unknownAnchor (m : Mark)
  /-- A failure with a message, and where it happened once that is known. -/
  | message (text : String) (position : Option (Mark × Path))
  | endOfStream
  | moreThanOneDocument
  | recursionLimit (m : Mark)
  | repetitionLimit
  deriving Repr, BEq, Inhabited

namespace DecodeError

def custom (text : String) : DecodeError := .message text none

/-- ` at line L column C`, or nothing at the very start of the text. -/
def markSuffix (m : Mark) : String := if m.isPastStart then " at " ++ m.text else ""

def text : DecodeError → String
  | .malformed e => e.message
  | .unknownAnchor m => "unknown anchor" ++ markSuffix m
  | .message t none => t
  | .message t (some (m, p)) =>
    (if p.text != "." then p.text ++ ": " else "") ++ t ++ markSuffix m
  | .endOfStream => "EOF while parsing a value"
  | .moreThanOneDocument => "deserializing from YAML containing more than one document is not supported"
  | .recursionLimit m => "recursion limit exceeded" ++ markSuffix m
  | .repetitionLimit => "repetition limit exceeded"

/-- Places a failure that has no position yet. -/
def fix (e : DecodeError) (m : Mark) (p : Path) : DecodeError :=
  match e with
  | .message t none => .message t (some (m, p))
  | e => e

end DecodeError

def LoadError.toDecodeError : LoadError → DecodeError
  | .malformed e => .malformed e
  | .unknownAnchor m => .unknownAnchor m

def TagMismatch.toDecodeError (t : TagMismatch) : DecodeError :=
  .custom (invalidValue (.str t.text) t.expected)

/-- What a reader sees: the events, the error that cut them short, the path of the
node being read and how much deeper collections may nest. -/
structure Cursor where
  items : Array (Item × Mark)
  failure : Option LoadError
  path : Path
  depth : Nat

/-- How far reading has gone, and how many aliases it has followed. -/
structure Progress where
  pos : Nat
  jumps : Nat

abbrev Decode := ReaderT Cursor (StateT Progress (Except DecodeError))

/-- The next event, not consumed. Past the last event, the error that ended the
document, or the end of the stream. -/
def peekItem : Decode (Item × Mark) := do
  let c ← read
  let s ← get
  match c.items[s.pos]? with
  | some im => pure im
  | none =>
    match c.failure with
    | some e => throw e.toDecodeError
    | none => throw .endOfStream

def nextItem : Decode (Item × Mark) := do
  let im ← peekItem
  modify fun s => { s with pos := s.pos + 1 }
  pure im

/-- Runs `k`, placing its failures at `m` and the current path. -/
def fixAt (m : Mark) (k : Decode α) : Decode α := do
  let c ← read
  tryCatch k fun e => throw (e.fix m c.path)

def inPath (f : Path → Path) (k : Decode α) : Decode α :=
  withReader (fun c => { c with path := f c.path }) k

/-- The path of the value of an entry with the given scalar key. -/
def entryPath (key : Option String) (p : Path) : Path :=
  match key with
  | some k => .map p k
  | none => .unknown p

/-- Runs `k` one collection deeper, failing at `m` past the nesting limit. -/
def descend (m : Mark) (k : Decode α) : Decode α := do
  let c ← read
  match c.depth with
  | 0 => throw (.recursionLimit m)
  | d + 1 => withReader (fun c => { c with depth := d }) k

/-- Runs `k` at the event `target`, under an alias path, and comes back. -/
def jumpTo (target : Nat) (k : Decode α) : Decode α := do
  let c ← read
  let s ← get
  if s.jumps + 1 > c.items.size * 100 then throw .repetitionLimit
  set { s with pos := target, jumps := s.jumps + 1 }
  let r ← inPath .aliasRef k
  modify fun s' => { s' with pos := s.pos }
  pure r

/-- Reads the first event of the next node and runs `k` on it; for an alias, on the
first event of the node it repeats. -/
def withNode (k : Item → Mark → Decode α) : Decode α := do
  let (it, m) ← nextItem
  match it with
  | .aliasRef t => fixAt m (jumpTo t do
      let (it', m') ← nextItem
      k it' m')
  | _ => k it m

/-- The failure for an event that is not of the expected shape. -/
def mismatch (it : Item) (expected : String) : DecodeError :=
  match it with
  | .scalar text style tag =>
    match resolveScalar text style tag false with
    | .ok s => .custom (invalidType s.unexpected expected)
    | .error t => t.toDecodeError
  | .sequenceStart _ => .custom (invalidType .seq expected)
  | .mappingStart _ => .custom (invalidType .map expected)
  | _ => .endOfStream

/-- Whether a tag names an enum variant: a local tag, starting with `!`. -/
def isVariantTag : Option String → Bool
  | some t => t.startsWith "!"
  | none => false

/-- The variant a local tag names. -/
def variantOfTag (t : String) : String :=
  match t.toList with
  | '!' :: rest@(_ :: _) => String.ofList rest
  | _ => t

/-- Reads the elements of a sequence whose start `m` has been read: `elem` runs
on each, with its index and under its path; then the end is read. -/
def sequenceBody (m : Mark) (init : σ) (elem : Nat → σ → Decode σ) : Decode σ := do
  let c ← read
  let r ← descend m (loop c.items.size 0 init)
  let _ ← nextItem
  pure r
where
  loop : Nat → Nat → σ → Decode σ
    | 0, _, s => pure s
    | fuel + 1, i, s => do
      let (it, _) ← peekItem
      match it with
      | .sequenceEnd | .void => pure s
      | _ =>
        let s ← inPath (.seq · i) (elem i s)
        loop fuel (i + 1) s

/-- Reads the entries of a mapping whose start `m` has been read: `entry` runs on
each with the text of its key when the key is a scalar, and reads the key and the
value; then the end is read. -/
def mappingBody (m : Mark) (init : σ) (entry : Option String → σ → Decode σ) : Decode σ := do
  let c ← read
  let r ← descend m (loop c.items.size init)
  let _ ← nextItem
  pure r
where
  loop : Nat → σ → Decode σ
    | 0, s => pure s
    | fuel + 1, s => do
      let (it, _) ← peekItem
      match it with
      | .mappingEnd | .void => pure s
      | .scalar text _ _ =>
        let s ← entry (some text) s
        loop fuel s
      | _ =>
        let s ← entry none s
        loop fuel s

/-- Reads a scalar's text and gives it to `visit`; a failure of `visit` is placed
at the scalar. -/
def readTextAs (expected : String) (visit : String → Except String α) : Decode α :=
  withNode fun it m => fixAt m <|
    match it with
    | .scalar text _ _ =>
      match visit text with
      | .ok a => pure a
      | .error e => throw (.custom e)
    | it => throw (mismatch it expected)

/-- Reads a scalar's text, whatever its type. -/
def readText (expected : String) : Decode String := readTextAs expected .ok

/-- Reads a sequence; an empty plain scalar or an empty document is an empty
sequence. -/
def readSequence (expected : String) (init : σ) (elem : Nat → σ → Decode σ) : Decode σ :=
  withNode fun it m => fixAt m <|
    match it with
    | .sequenceStart _ => sequenceBody m init elem
    | .void => pure init
    | .scalar text .plain _ => if text.isEmpty then pure init else throw (mismatch it expected)
    | it => throw (mismatch it expected)

/-- Reads a mapping; an empty plain scalar or an empty document is an empty
mapping. -/
def readMapping (expected : String) (init : σ) (entry : Option String → σ → Decode σ) :
    Decode σ :=
  withNode fun it m => fixAt m <|
    match it with
    | .mappingStart _ => mappingBody m init entry
    | .void => pure init
    | .scalar text .plain _ => if text.isEmpty then pure init else throw (mismatch it expected)
    | it => throw (mismatch it expected)

/-- Reads the value of a mapping entry under its path. -/
def readValue (key : Option String) (k : Decode α) : Decode α := inPath (entryPath key) k

/-- A node read without a target type. -/
inductive Node where
  | unit
  | bool (b : Bool)
  | nat (n : Nat)
  | int (n : Int)
  | float (x : Binary64)
  | str (s : String)
  | seq (items : List Node)
  | map (entries : List (Node × Node))
  deriving Repr, BEq, Inhabited

/-- The node a scalar gives; integers beyond 64 bits have none. -/
def Scalar.toNode (expected : String) : Scalar → Except DecodeError Node
  | .unit => .ok .unit
  | .bool b => .ok (.bool b)
  | .nat n => .ok (.nat n)
  | .int n => .ok (.int n)
  | .float x => .ok (.float x)
  | .str s => .ok (.str s)
  | s => .error (.custom (invalidType s.unexpected expected))

def enumInputMessage : String := "untagged and internally tagged enums do not support enum input"

/-- Lifts a result into a read. -/
def liftResult (e : Except DecodeError α) : Decode α :=
  match e with
  | .ok a => pure a
  | .error err => throw err

mutual

/-- Reads any node. A node with a local tag is refused, as it asks for an enum
variant. -/
def readNode : Nat → Decode Node
  | 0 => throw .repetitionLimit
  | fuel + 1 => withNode (nodeFrom fuel)

/-- The node whose first event `it`, at `m`, has just been read. -/
def nodeFrom : Nat → Item → Mark → Decode Node
  | 0, _, _ => throw .repetitionLimit
  | fuel + 1, it, m => fixAt m <|
    match it with
    | .scalar text style tag =>
      if isVariantTag tag then throw (.custom enumInputMessage)
      else match resolveScalar text style tag false with
        | .error t => throw t.toDecodeError
        | .ok s => liftResult (s.toNode "any value")
    | .sequenceStart tag =>
      if isVariantTag tag then throw (.custom enumInputMessage)
      else do
        let items ← sequenceBody m [] fun _ acc => do
          let v ← readNode fuel
          pure (v :: acc)
        pure (.seq items.reverse)
    | .mappingStart tag =>
      if isVariantTag tag then throw (.custom enumInputMessage)
      else do
        let entries ← mappingBody m [] fun key acc => do
          let k ← readNode fuel
          let v ← readValue key (readNode fuel)
          pure ((k, v) :: acc)
        pure (.map entries.reverse)
    | .void => pure .unit
    | _ => throw .endOfStream

end

/-- Sets a key of an object, keeping the place of a key already there. -/
def setKey (entries : List (String × Json)) (k : String) (v : Json) : List (String × Json) :=
  if entries.any (·.1 == k) then entries.map fun (k', v') => if k' == k then (k, v) else (k', v')
  else entries ++ [(k, v)]

/-- The JSON value a scalar gives: non-finite floats are `null`, and integers
beyond 64 bits are out of range. -/
def Scalar.toJson : Scalar → Except DecodeError Json
  | .unit => .ok .null
  | .bool b => .ok (.bool b)
  | .nat n => .ok (.number (.nat n))
  | .int n => .ok (.number (.int n))
  | .float x => .ok (if x.isFinite then .number (.float x) else .null)
  | .str s => .ok (.string s)
  | _ => .error (.custom "JSON number out of range")

def jsonExpected : String := "any valid JSON value"

/-- Reads any node as a JSON value. Mapping keys are read as text; objects have
their keys in order, the last of equal keys winning. -/
def readJson : Nat → Decode Json
  | 0 => throw .repetitionLimit
  | fuel + 1 => withNode fun it m => fixAt m <|
    match it with
    | .scalar text style tag =>
      if isVariantTag tag then throw (.custom (invalidType .enum jsonExpected))
      else match resolveScalar text style tag false with
        | .error t => throw t.toDecodeError
        | .ok s => liftResult s.toJson
    | .sequenceStart tag =>
      if isVariantTag tag then throw (.custom (invalidType .enum jsonExpected))
      else do
        let items ← sequenceBody m [] fun _ acc => do
          let v ← readJson fuel
          pure (v :: acc)
        pure (.array items.reverse)
    | .mappingStart tag =>
      if isVariantTag tag then throw (.custom (invalidType .enum jsonExpected))
      else do
        let entries ← mappingBody m [] fun key acc => do
          let k ← readText (if acc.isEmpty then "a string key" else "a string")
          let v ← readValue key (readJson fuel)
          pure (setKey acc k v)
        pure (.object (Json.sortKeys entries))
    | .void => pure .null
    | _ => throw .endOfStream

/-- Enough fuel for any read of a document with this many events. -/
def Cursor.fuel (c : Cursor) : Nat := c.items.size + 512

/-- Reads the first document of a text with `d`. The document must be the only one,
and a syntax error anywhere in it fails the read even when `d` did not get that
far. -/
def decodeText (text : String) (d : Decode α) : Except DecodeError α := do
  let (doc, more) := readFirstDocument text
  let c : Cursor := { items := doc.items, failure := doc.error, path := .root, depth := 128 }
  let (a, _) ← (d.run c).run { pos := 0, jumps := 0 }
  match doc.error with
  | some e => throw e.toDecodeError
  | none => if more then throw .moreThanOneDocument else pure a

/-- Reads a text as one JSON value. -/
def readJsonText (text : String) : Except DecodeError Json :=
  decodeText text do
    let c ← read
    readJson c.fuel

end SqlScope.Yaml
