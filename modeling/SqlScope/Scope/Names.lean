import SqlScope.Sql.Printer
import SqlScope.Text.Unicode

/-!
# Table names in rules

A rule names its table as text, possibly schema-qualified (`public.tenant`) and
possibly quoted (`"my.table"`, `` `t` ``, `[t]`). This module reads such text and
decides whether a table reference of a statement is the one a rule means.

Two names are the same when they agree after one pair of surrounding quotes is
removed and both are lower-cased. A rule's name matches a reference when its
parts equal the trailing parts of the reference's name; a one-part name also
matches a reference whose alias is that name.
-/

namespace SqlScope.Scope

open SqlScope.Text SqlScope.Sql

/-- The quote pairs that may surround a name. -/
def quotePairs : List (Char × Char) := [('"', '"'), ('`', '`'), ('[', ']')]

/-- The opening quote of the pair that surrounds `cs`, if one does. -/
def surroundingQuote (cs : List Char) : Option Char :=
  match cs, cs.getLast? with
  | c :: _ :: _, some last =>
    (quotePairs.find? (fun p => p.1 == c && p.2 == last)).map Prod.fst
  | _, _ => none

/-- The name without surrounding whitespace and without one pair of surrounding
quotes. -/
def stripQuotes (name : String) : String :=
  let cs := (trim name).toList
  match surroundingQuote cs with
  | some _ => String.ofList (cs.drop 1).dropLast
  | none => String.ofList cs

/-- Names are equal when they agree after `stripQuotes` and lower-casing. -/
def namesEqual (left right : String) : Bool :=
  lowercase (stripQuotes left) == lowercase (stripQuotes right)

/-- The closing quote for an opening quote character, if it is one. -/
def closingQuote? (c : Char) : Option Char :=
  (quotePairs.find? (fun p => p.1 == c)).map Prod.snd

/-- Splits `cs` at dots outside quotes. `current` is the part read so far (reversed)
and `closing` the quote that ends the quoted stretch being read, if any. -/
def splitParts : List Char → List Char → Option Char → List String
  | [], current, _ => [String.ofList current.reverse]
  | c :: rest, current, some close =>
    splitParts rest (c :: current) (if c == close then none else some close)
  | c :: rest, current, none =>
    if c == '.' then String.ofList current.reverse :: splitParts rest [] none
    else splitParts rest (c :: current) (closingQuote? c)

/-- The parts of a possibly qualified name, split at dots that are not inside
quotes. The parts are kept as written, quotes and spaces included. -/
def splitQualified (name : String) : List String := splitParts name.toList [] none

/-- The identifier a configured name stands for: trimmed, and, when quoted,
with its quotes turned into the identifier's quote style. -/
def identOfName (name : String) : Ident :=
  let t := trim name
  match surroundingQuote t.toList with
  | some q => ⟨stripQuotes t, some q⟩
  | none => ⟨t, none⟩

/-- The table a rule is written for: the text as configured, and its parts with
quotes removed. -/
structure TableTarget where
  raw : String
  parts : List String
  deriving Repr, BEq, Inhabited

namespace TableTarget

/-- Reads a configured table name. -/
def ofString (raw : String) : TableTarget :=
  ⟨raw, (splitQualified raw).map stripQuotes⟩

/-- Whether a table reference, with its name and alias, is this table: a one-part
target matches the alias, and otherwise the target's parts must equal the trailing
parts of the name. -/
def refersTo (t : TableTarget) (name : Name) (aliasName : Option Ident) : Bool :=
  let declared := name.parts.map Ident.value
  let byAlias := match t.parts, aliasName with
    | [p], some a => namesEqual p a.value
    | _, _ => false
  byAlias ||
    (t.parts.length ≤ declared.length &&
      ((declared.drop (declared.length - t.parts.length)).zip t.parts).all
        (fun (d, w) => namesEqual d w))

end TableTarget

/-- The identifier by which a query refers to a table reference: its alias, or
else the last part of its name. -/
def qualifier (name : Name) (aliasName : Option TableAlias) : Option Ident :=
  match aliasName with
  | some a => some a.name
  | none => name.parts.getLast?

end SqlScope.Scope
