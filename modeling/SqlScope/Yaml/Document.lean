import SqlScope.Yaml.Parser

/-!
# YAML documents as node events

A loaded document is the list of its node events, each with the position where it
starts: scalars with their tag and style, the starts and ends of sequences and
mappings, and aliases, each pointing at the event of the node it repeats. Anchors
are resolved while loading; an alias to an anchor not yet defined ends the
document with an error.

Loading stops at the first syntax error, and the document keeps the events read
before it together with the error, so that a reader of the document meets the
error only when it needs an event past that point. A text with nothing in it is a
document holding a single `void` event.
-/

namespace SqlScope.Yaml

/-- A node event of a loaded document. -/
inductive Item where
  | scalar (text : String) (style : ScalarStyle) (tag : Option String)
  | sequenceStart (tag : Option String)
  | sequenceEnd
  | mappingStart (tag : Option String)
  | mappingEnd
  /-- A repetition of the node whose first event is at this index. -/
  | aliasRef (target : Nat)
  /-- The content of an empty text. -/
  | void
  deriving Repr, BEq, Inhabited

/-- Why a document ends before its last event. -/
inductive LoadError where
  | malformed (e : SyntaxError)
  | unknownAnchor (m : Mark)
  deriving Repr, BEq, Inhabited

/-- A loaded document: its events, and the error that cut it short, if any. -/
structure Document where
  items : Array (Item × Mark)
  error : Option LoadError := none
  deriving Repr, Inhabited

/-- Reads events up to the end of the next document. The answer is `none` when the
stream ends before another document starts, except that the first document is
always answered, empty texts giving a `void` document. The flag says whether the
stream may hold more. -/
def loadDocument (first : Bool) (p : EventParser) : Option Document × EventParser × Bool :=
  let rec go : Nat → EventParser → List (String × Nat) → Array (Item × Mark) →
      Option Document × EventParser × Bool
    | 0, p, _, items => (some { items }, p, false)
    | n + 1, p, anchors, items =>
      match nextEvent.run p with
      | .error e => (some { items, error := some (.malformed e) }, p, false)
      | .ok (none, p) => (if first then some { items := items.push (.void, default) } else none, p, false)
      | .ok (some ev, p) =>
        let record (anchor : Option String) (it : Item) :=
          let anchors := match anchor with
            | some a => (a, items.size) :: anchors
            | none => anchors
          go n p anchors (items.push (it, ev.start))
        match ev.kind with
        | .streamStart | .documentStart _ => go n p anchors items
        | .streamEnd =>
          if first then
            (some { items := if items.isEmpty then items.push (.void, ev.start) else items }, p, false)
          else (none, p, false)
        | .documentEnd _ => (some { items }, p, true)
        | .aliasRef name =>
          match anchors.find? (·.1 == name) with
          | some (_, target) => go n p anchors (items.push (.aliasRef target, ev.start))
          | none => (some { items, error := some (.unknownAnchor ev.start) }, p, false)
        | .scalar anchor tag text style => record anchor (.scalar text style tag)
        | .sequenceStart anchor tag => record anchor (.sequenceStart tag)
        | .sequenceEnd => go n p anchors (items.push (.sequenceEnd, ev.start))
        | .mappingStart anchor tag => record anchor (.mappingStart tag)
        | .mappingEnd => go n p anchors (items.push (.mappingEnd, ev.start))
  go (4 * p.scanner.input.size + 16) p [] #[]

/-- The first document of a text, and whether another document follows it. A
character that may not appear in YAML text is an error before any event. -/
def readFirstDocument (text : String) : Document × Bool :=
  let cs := text.toList
  let (cs, bom) := match cs with
    | c :: rest => if c.toNat == 0xFEFF then (rest, 3) else (cs, 0)
    | [] => (cs, 0)
  match firstUnprintable cs with
  | some (_, off) =>
    ({ items := #[], error := some (.malformed
        { problem := "control characters are not allowed", offset := off + bom }) }, false)
  | none =>
    let p := EventParser.ofString (String.ofList cs)
    match loadDocument true p with
    | (some doc, p, more) =>
      let another := more && (loadDocument false p).1.isSome
      (doc, another)
    | (none, _, _) => ({ items := #[(.void, default)] }, false)

end SqlScope.Yaml
