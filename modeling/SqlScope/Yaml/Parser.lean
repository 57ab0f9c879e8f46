import SqlScope.Yaml.Scanner

/-!
# YAML events

The parser turns tokens into a stream of events: the start and end of the stream
and of each document, scalars, aliases, and the start and end of each sequence
and mapping. It is a state machine with a stack of states to return to, one
state per place in the grammar (the first entry of a block sequence, the value of
a flow mapping entry, and so on). A missing node where one is allowed (an empty
value, a key with no value) becomes an empty plain scalar.

Tags are resolved here: a handle is replaced by the prefix that the document's
`%TAG` directives, or the defaults `!` and `!!` (for `tag:yaml.org,2002:`), give it.
-/

namespace SqlScope.Yaml

/-- The kinds of event. -/
inductive EventKind where
  | streamStart
  | streamEnd
  | documentStart (implicit : Bool)
  | documentEnd (implicit : Bool)
  | aliasRef (name : String)
  | scalar (anchor tag : Option String) (text : String) (style : ScalarStyle)
  | sequenceStart (anchor tag : Option String)
  | sequenceEnd
  | mappingStart (anchor tag : Option String)
  | mappingEnd
  deriving Repr, BEq, Inhabited

/-- An event and where it starts. -/
structure Event where
  kind : EventKind
  start : Mark
  deriving Repr, Inhabited

/-- The places in the grammar the parser can be at. -/
inductive ParseState where
  | streamStart | implicitDocumentStart | documentStart | documentContent | documentEnd
  | blockNode | blockNodeOrIndentlessSequence | flowNode
  | blockSequenceFirstEntry | blockSequenceEntry | indentlessSequenceEntry
  | blockMappingFirstKey | blockMappingKey | blockMappingValue
  | flowSequenceFirstEntry | flowSequenceEntry
  | flowSequenceEntryMappingKey | flowSequenceEntryMappingValue | flowSequenceEntryMappingEnd
  | flowMappingFirstKey | flowMappingKey | flowMappingValue | flowMappingEmptyValue
  | finished
  deriving Repr, BEq, Inhabited

/-- The parser's state: the scanner, where in the grammar it is, the states to
return to, the start marks of the open collections, and the tag handles. -/
structure EventParser where
  scanner : Scanner
  state : ParseState := .streamStart
  states : List ParseState := []
  marks : List Mark := []
  tagHandles : List (String × String) := []
  deriving Inhabited

abbrev ParseM := StateT EventParser (Except SyntaxError)

namespace EventParser

def ofString (text : String) : EventParser := { scanner := Scanner.ofString text }

end EventParser

/-- Runs a scanning step inside the parser. -/
def liftScan (m : ScanM α) : ParseM α := do
  let p ← get
  match m.run p.scanner with
  | .ok (a, s) =>
    set { p with scanner := s }
    pure a
  | .error e => throw e

def peekTok : ParseM Token := liftScan peekToken

def skipTok : ParseM Unit := liftScan takeToken

def setState (st : ParseState) : ParseM Unit := modify fun p => { p with state := st }

def pushState (st : ParseState) : ParseM Unit := modify fun p => { p with states := st :: p.states }

/-- Returns to the state on top of the stack. -/
def popState : ParseM Unit :=
  modify fun p => match p.states with
    | s :: rest => { p with state := s, states := rest }
    | [] => { p with state := .finished }

def pushMark (m : Mark) : ParseM Unit := modify fun p => { p with marks := m :: p.marks }

def popMark : ParseM Mark := do
  let p ← get
  match p.marks with
  | m :: rest =>
    set { p with marks := rest }
    pure m
  | [] => pure default

/-- A parser error without context. -/
def parseError (problem : String) (m : Mark) : ParseM α :=
  throw { problem, problemMark := m }

/-- A parser error with the construct being read and where it started. -/
def parseErrorIn (context : String) (contextMark : Mark) (problem : String) (m : Mark) : ParseM α :=
  throw { problem, problemMark := m, context := some context, contextMark }

/-- An empty plain scalar at a mark. -/
def emptyScalar (m : Mark) : Event := ⟨.scalar none none "" .plain, m⟩

/-- The tag handles every document has. -/
def defaultTagHandles : List (String × String) := [("!", "!"), ("!!", "tag:yaml.org,2002:")]

/-- Reads the directives before a document, and sets its tag handles. -/
def processDirectives : ParseM Unit := do
  let rec go : Nat → Bool → List (String × String) → ParseM (List (String × String))
    | 0, _, hs => pure hs
    | n + 1, seenVersion, hs => do
      let t ← peekTok
      match t.kind with
      | .versionDirective major minor =>
        if seenVersion then parseError "found duplicate %YAML directive" t.start
        if major != 1 || (minor != 1 && minor != 2) then
          parseError "found incompatible YAML document" t.start
        skipTok
        go n true hs
      | .tagDirective handle pfx =>
        if hs.any (·.1 == handle) then parseError "found duplicate %TAG directive" t.start
        skipTok
        go n seenVersion (hs ++ [(handle, pfx)])
      | _ => pure hs
  let hs ← go ((← get).scanner.input.size + 2) false []
  let hs := hs ++ defaultTagHandles.filter (fun d => !hs.any (·.1 == d.1))
  modify fun p => { p with tagHandles := hs }

def parseStreamStart : ParseM Event := do
  let t ← peekTok
  match t.kind with
  | .streamStart =>
    setState .implicitDocumentStart
    skipTok
    pure ⟨.streamStart, t.start⟩
  | _ => parseError "did not find expected <stream-start>" t.start

/-- The start of a document, or the end of the stream. -/
def parseDocumentStart (implicit : Bool) : ParseM Event := do
  let rec skipEnds : Nat → ParseM Token
    | 0 => peekTok
    | n + 1 => do
      let t ← peekTok
      if t.kind == .documentEnd then
        skipTok
        skipEnds n
      else pure t
  let t ← if implicit then peekTok else skipEnds ((← get).scanner.input.size + 2)
  let isDirectiveOrStart := match t.kind with
    | .versionDirective .. | .tagDirective .. | .documentStart | .streamEnd => true
    | _ => false
  if implicit && !isDirectiveOrStart then
    processDirectives
    pushState .documentEnd
    setState .blockNode
    pure ⟨.documentStart true, t.start⟩
  else if t.kind != .streamEnd then
    let start := t.start
    processDirectives
    let t ← peekTok
    if t.kind != .documentStart then parseError "did not find expected <document start>" t.start
    pushState .documentEnd
    setState .documentContent
    skipTok
    pure ⟨.documentStart false, start⟩
  else
    setState .finished
    skipTok
    pure ⟨.streamEnd, t.start⟩

def parseDocumentEnd : ParseM Event := do
  let t ← peekTok
  let implicit := t.kind != .documentEnd
  if !implicit then skipTok
  modify fun p => { p with tagHandles := [] }
  setState .documentStart
  pure ⟨.documentEnd implicit, t.start⟩

/-- A node: an alias, or a scalar or collection with its anchor and tag. -/
def parseNode (block indentlessSequence : Bool) : ParseM Event := do
  let t ← peekTok
  match t.kind with
  | .aliasRef name =>
    popState
    skipTok
    pure ⟨.aliasRef name, t.start⟩
  | _ =>
    -- the properties: an anchor and a tag, in either order
    let (anchor, tagParts, tagMark, start, t) ← do
      match t.kind with
      | .anchor a =>
        skipTok
        let t2 ← peekTok
        match t2.kind with
        | .tag h s =>
          skipTok
          pure (some a, some (h, s), t2.start, t.start, ← peekTok)
        | _ => pure (some a, none, t.start, t.start, t2)
      | .tag h s =>
        skipTok
        let t2 ← peekTok
        match t2.kind with
        | .anchor a =>
          skipTok
          pure (some a, some (h, s), t.start, t.start, ← peekTok)
        | _ => pure (none, some (h, s), t.start, t.start, t2)
      | _ => pure (none, none, t.start, t.start, t)
    let tag ← match tagParts with
      | none => pure none
      | some ("", suffix) => pure (some suffix)
      | some (handle, suffix) =>
        match (← get).tagHandles.find? (·.1 == handle) with
        | some (_, pfx) => pure (some (pfx ++ suffix))
        | none => parseErrorIn "while parsing a node" start "found undefined tag handle" tagMark
    match t.kind with
    | .blockEntry =>
      if indentlessSequence then
        setState .indentlessSequenceEntry
        pure ⟨.sequenceStart anchor tag, start⟩
      else if anchor.isSome || tag.isSome then
        popState
        pure ⟨.scalar anchor tag "" .plain, start⟩
      else
        parseErrorIn (if block then "while parsing a block node" else "while parsing a flow node")
          start "did not find expected node content" t.start
    | .scalar text style =>
      popState
      skipTok
      pure ⟨.scalar anchor tag text style, start⟩
    | .flowSequenceStart =>
      setState .flowSequenceFirstEntry
      pure ⟨.sequenceStart anchor tag, start⟩
    | .flowMappingStart =>
      setState .flowMappingFirstKey
      pure ⟨.mappingStart anchor tag, start⟩
    | .blockSequenceStart =>
      if block then
        setState .blockSequenceFirstEntry
        pure ⟨.sequenceStart anchor tag, start⟩
      else if anchor.isSome || tag.isSome then
        popState
        pure ⟨.scalar anchor tag "" .plain, start⟩
      else
        parseErrorIn "while parsing a flow node" start "did not find expected node content" t.start
    | .blockMappingStart =>
      if block then
        setState .blockMappingFirstKey
        pure ⟨.mappingStart anchor tag, start⟩
      else if anchor.isSome || tag.isSome then
        popState
        pure ⟨.scalar anchor tag "" .plain, start⟩
      else
        parseErrorIn "while parsing a flow node" start "did not find expected node content" t.start
    | _ =>
      if anchor.isSome || tag.isSome then
        popState
        pure ⟨.scalar anchor tag "" .plain, start⟩
      else
        parseErrorIn (if block then "while parsing a block node" else "while parsing a flow node")
          start "did not find expected node content" t.start

def parseDocumentContent : ParseM Event := do
  let t ← peekTok
  match t.kind with
  | .versionDirective .. | .tagDirective .. | .documentStart | .documentEnd | .streamEnd =>
    popState
    pure (emptyScalar t.start)
  | _ => parseNode true false

def parseBlockSequenceEntry (first : Bool) : ParseM Event := do
  if first then
    pushMark (← peekTok).start
    skipTok
  let t ← peekTok
  match t.kind with
  | .blockEntry =>
    let m := t.stop
    skipTok
    let t ← peekTok
    match t.kind with
    | .blockEntry | .blockEnd =>
      setState .blockSequenceEntry
      pure (emptyScalar m)
    | _ =>
      pushState .blockSequenceEntry
      parseNode true false
  | .blockEnd =>
    popState
    let _ ← popMark
    skipTok
    pure ⟨.sequenceEnd, t.start⟩
  | _ =>
    parseErrorIn "while parsing a block collection" (← popMark) "did not find expected '-' indicator" t.start

def parseIndentlessSequenceEntry : ParseM Event := do
  let t ← peekTok
  match t.kind with
  | .blockEntry =>
    let m := t.stop
    skipTok
    let t ← peekTok
    match t.kind with
    | .blockEntry | .key | .value | .blockEnd =>
      setState .indentlessSequenceEntry
      pure (emptyScalar m)
    | _ =>
      pushState .indentlessSequenceEntry
      parseNode true false
  | _ =>
    popState
    pure ⟨.sequenceEnd, t.start⟩

def parseBlockMappingKey (first : Bool) : ParseM Event := do
  if first then
    pushMark (← peekTok).start
    skipTok
  let t ← peekTok
  match t.kind with
  | .key =>
    let m := t.stop
    skipTok
    let t ← peekTok
    match t.kind with
    | .key | .value | .blockEnd =>
      setState .blockMappingValue
      pure (emptyScalar m)
    | _ =>
      pushState .blockMappingValue
      parseNode true true
  | .blockEnd =>
    popState
    let _ ← popMark
    skipTok
    pure ⟨.mappingEnd, t.start⟩
  | _ =>
    parseErrorIn "while parsing a block mapping" (← popMark) "did not find expected key" t.start

def parseBlockMappingValue : ParseM Event := do
  let t ← peekTok
  match t.kind with
  | .value =>
    let m := t.stop
    skipTok
    let t ← peekTok
    match t.kind with
    | .key | .value | .blockEnd =>
      setState .blockMappingKey
      pure (emptyScalar m)
    | _ =>
      pushState .blockMappingKey
      parseNode true true
  | _ =>
    setState .blockMappingKey
    pure (emptyScalar t.start)

def parseFlowSequenceEntry (first : Bool) : ParseM Event := do
  if first then
    pushMark (← peekTok).start
    skipTok
  let t ← peekTok
  let endSequence (t : Token) : ParseM Event := do
    popState
    let _ ← popMark
    skipTok
    pure ⟨.sequenceEnd, t.start⟩
  if t.kind == .flowSequenceEnd then endSequence t
  else
    let t ← if first then pure t
      else if t.kind == .flowEntry then do
        skipTok
        peekTok
      else parseErrorIn "while parsing a flow sequence" (← popMark) "did not find expected ',' or ']'" t.start
    match t.kind with
    | .key =>
      setState .flowSequenceEntryMappingKey
      skipTok
      pure ⟨.mappingStart none none, t.start⟩
    | .flowSequenceEnd => endSequence t
    | _ =>
      pushState .flowSequenceEntry
      parseNode false false

def parseFlowSequenceEntryMappingKey : ParseM Event := do
  let t ← peekTok
  match t.kind with
  | .value | .flowEntry | .flowSequenceEnd =>
    setState .flowSequenceEntryMappingValue
    pure (emptyScalar t.start)
  | _ =>
    pushState .flowSequenceEntryMappingValue
    parseNode false false

def parseFlowSequenceEntryMappingValue : ParseM Event := do
  let t ← peekTok
  if t.kind == .value then
    skipTok
    let t ← peekTok
    match t.kind with
    | .flowEntry | .flowSequenceEnd =>
      setState .flowSequenceEntryMappingEnd
      pure (emptyScalar t.start)
    | _ =>
      pushState .flowSequenceEntryMappingEnd
      parseNode false false
  else
    setState .flowSequenceEntryMappingEnd
    pure (emptyScalar t.start)

def parseFlowSequenceEntryMappingEnd : ParseM Event := do
  setState .flowSequenceEntry
  pure ⟨.mappingEnd, (← peekTok).start⟩

def parseFlowMappingKey (first : Bool) : ParseM Event := do
  if first then
    pushMark (← peekTok).start
    skipTok
  let t ← peekTok
  let endMapping (t : Token) : ParseM Event := do
    popState
    let _ ← popMark
    skipTok
    pure ⟨.mappingEnd, t.start⟩
  if t.kind == .flowMappingEnd then endMapping t
  else
    let t ← if first then pure t
      else if t.kind == .flowEntry then do
        skipTok
        peekTok
      else parseErrorIn "while parsing a flow mapping" (← popMark) "did not find expected ',' or '\x7d'" t.start
    match t.kind with
    | .key =>
      skipTok
      let t ← peekTok
      match t.kind with
      | .value | .flowEntry | .flowMappingEnd =>
        setState .flowMappingValue
        pure (emptyScalar t.start)
      | _ =>
        pushState .flowMappingValue
        parseNode false false
    | .flowMappingEnd => endMapping t
    | _ =>
      pushState .flowMappingEmptyValue
      parseNode false false

def parseFlowMappingValue (empty : Bool) : ParseM Event := do
  let t ← peekTok
  if empty then
    setState .flowMappingKey
    pure (emptyScalar t.start)
  else if t.kind == .value then
    skipTok
    let t ← peekTok
    match t.kind with
    | .flowEntry | .flowMappingEnd =>
      setState .flowMappingKey
      pure (emptyScalar t.start)
    | _ =>
      pushState .flowMappingKey
      parseNode false false
  else
    setState .flowMappingKey
    pure (emptyScalar t.start)

/-- The next event; `none` once the stream has ended. -/
def nextEvent : ParseM (Option Event) := do
  match (← get).state with
  | .finished => pure none
  | .streamStart => some <$> parseStreamStart
  | .implicitDocumentStart => some <$> parseDocumentStart true
  | .documentStart => some <$> parseDocumentStart false
  | .documentContent => some <$> parseDocumentContent
  | .documentEnd => some <$> parseDocumentEnd
  | .blockNode => some <$> parseNode true false
  | .blockNodeOrIndentlessSequence => some <$> parseNode true true
  | .flowNode => some <$> parseNode false false
  | .blockSequenceFirstEntry => some <$> parseBlockSequenceEntry true
  | .blockSequenceEntry => some <$> parseBlockSequenceEntry false
  | .indentlessSequenceEntry => some <$> parseIndentlessSequenceEntry
  | .blockMappingFirstKey => some <$> parseBlockMappingKey true
  | .blockMappingKey => some <$> parseBlockMappingKey false
  | .blockMappingValue => some <$> parseBlockMappingValue
  | .flowSequenceFirstEntry => some <$> parseFlowSequenceEntry true
  | .flowSequenceEntry => some <$> parseFlowSequenceEntry false
  | .flowSequenceEntryMappingKey => some <$> parseFlowSequenceEntryMappingKey
  | .flowSequenceEntryMappingValue => some <$> parseFlowSequenceEntryMappingValue
  | .flowSequenceEntryMappingEnd => some <$> parseFlowSequenceEntryMappingEnd
  | .flowMappingFirstKey => some <$> parseFlowMappingKey true
  | .flowMappingKey => some <$> parseFlowMappingKey false
  | .flowMappingValue => some <$> parseFlowMappingValue false
  | .flowMappingEmptyValue => some <$> parseFlowMappingValue true

end SqlScope.Yaml
