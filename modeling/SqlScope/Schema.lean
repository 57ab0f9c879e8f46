import SqlScope.Json

/-!
# JSON schemas

The part of JSON Schema that a rules file's schema uses: the `type`, `enum`,
`const`, `minLength`, `minItems`, `required`, `properties` (open, or closed by
`additionalProperties: false`), `items` and `oneOf` assertions. A schema is one
assertion, or several that are checked one after another, the way a validator
reads the keywords of a schema object in the order of their names.

`Schema.violations` lists what a value fails, each with the place of the failing
part of the value; `Schema.admits` says whether there is nothing to list. A closed
object reports the failures of its known keys first, key by key in the object's
order, and then one violation naming every unknown key. A `oneOf` reports one
violation of its own, never those of its alternatives.
-/

namespace SqlScope

open SqlScope.Number

/-- The types a schema can ask a value to have. -/
inductive JsonType where
  | null | boolean | integer | number | string | array | object
  deriving Repr, BEq, Inhabited

namespace JsonType

def name : JsonType → String
  | .null => "null" | .boolean => "boolean" | .integer => "integer" | .number => "number"
  | .string => "string" | .array => "array" | .object => "object"

/-- Whether a finite binary64 is a whole number. -/
def wholeFloat : Binary64 → Bool
  | .finite _ m e => 0 ≤ e || m % Nat.pow 2 (-e).toNat == 0
  | _ => false

/-- Whether a value has the type. An integer is any number with no fraction, so
`1.0` is one; every integer is also a number. -/
def admits : JsonType → Json → Bool
  | .null, .null => true
  | .boolean, .bool _ => true
  | .integer, .number (.float x) => wholeFloat x
  | .integer, .number _ => true
  | .number, .number _ => true
  | .string, .string _ => true
  | .array, .array _ => true
  | .object, .object _ => true
  | _, _ => false

end JsonType

/-- The integer a JSON number stands for, if it is a whole number. -/
def JsonNumber.whole? : JsonNumber → Option Int
  | .nat n => some n
  | .int n => some n
  | .float (.finite neg m e) =>
    let magnitude : Option Nat :=
      if 0 ≤ e then some (m * Nat.pow 2 e.toNat)
      else if m % Nat.pow 2 (-e).toNat == 0 then some (m / Nat.pow 2 (-e).toNat) else none
    magnitude.map fun k => if neg then -(k : Int) else k
  | .float _ => none

/-- Whether two numbers are equal: whole numbers by their value, whatever way
they were written, and other numbers by their binary64. -/
def JsonNumber.same (a b : JsonNumber) : Bool :=
  match a.whole?, b.whole? with
  | some x, some y => x == y
  | none, none => a == b
  | _, _ => false

/-- Whether two JSON values are the same value: numbers by `JsonNumber.same`,
arrays item by item, and objects by the same keys with the same values in any
order. -/
def Json.same : Json → Json → Bool
  | .null, .null => true
  | .bool a, .bool b => a == b
  | .number a, .number b => a.same b
  | .string a, .string b => a == b
  | .array xs, .array ys => xs.length == ys.length && (xs.zip ys).attach.all fun ⟨(x, y), _⟩ => Json.same x y
  | .object xs, .object ys =>
    xs.length == ys.length && xs.attach.all fun ⟨(k, x), _⟩ =>
      match ys.find? (·.1 == k) with
      | some (_, y) => Json.same x y
      | none => false
  | _, _ => false
termination_by a _ => sizeOf a
decreasing_by
  all_goals simp_wf
  · have := List.sizeOf_lt_of_mem (List.of_mem_zip ‹(x, y) ∈ xs.zip ys›).1
    omega
  · have := List.sizeOf_lt_of_mem ‹(k, x) ∈ xs›
    simp at this
    omega

/-- A schema: one assertion about a JSON value, or several checked in order. -/
inductive Schema where
  /-- The value has one of the types. -/
  | type (types : List JsonType)
  /-- The value is one of the options. -/
  | enum (options : List Json)
  /-- The value is this one. -/
  | const (value : Json)
  /-- A string has at least `n` characters. -/
  | minLength (n : Nat)
  /-- An array has at least `n` items. -/
  | minItems (n : Nat)
  /-- An object has each of the keys. -/
  | required (keys : List String)
  /-- The listed keys of an object hold values that meet their schemas; when
  `closed`, the object has no other key. -/
  | properties (fields : List (String × Schema)) (closed : Bool)
  /-- Every item of an array meets the schema. -/
  | items (item : Schema)
  /-- Exactly one of the alternatives holds. -/
  | oneOf (alternatives : List Schema)
  /-- Every part holds; their violations come in the order of the parts. -/
  | all (parts : List Schema)
  deriving Inhabited

namespace Schema

/-- What a value fails to meet. -/
inductive Fault where
  | type (types : List JsonType)
  | enum (options : List Json)
  | const (expected : Json)
  | minLength (n : Nat)
  | minItems (n : Nat)
  | required (key : String)
  | additional (keys : List String)
  | noAlternative
  | severalAlternatives
  deriving Repr, BEq, Inhabited

/-- A failure of a value: the keys and indexes that lead from the whole value to
the failing part, that part, and what it fails. -/
structure Violation where
  path : List String
  value : Json
  fault : Fault
  deriving Repr, BEq, Inhabited

/-- Everything `v`, found at `path`, fails of the schema, in the order described
above. -/
def violations (s : Schema) (v : Json) (path : List String) : List Violation :=
  match s with
  | .type types => if types.any (·.admits v) then [] else [⟨path, v, .type types⟩]
  | .enum options => if options.any (Json.same · v) then [] else [⟨path, v, .enum options⟩]
  | .const expected => if Json.same expected v then [] else [⟨path, v, .const expected⟩]
  | .minLength n =>
    match v with
    | .string str => if str.length < n then [⟨path, v, .minLength n⟩] else []
    | _ => []
  | .minItems n =>
    match v with
    | .array xs => if xs.length < n then [⟨path, v, .minItems n⟩] else []
    | _ => []
  | .required keys =>
    match v with
    | .object kvs => (keys.filter fun k => !kvs.any (·.1 == k)).map fun k => ⟨path, v, .required k⟩
    | _ => []
  | .properties fields closed =>
    match v with
    | .object kvs =>
      if closed then
        let known := kvs.flatMap fun (k, x) =>
          match fields.attach.find? (·.1.1 == k) with
          | some ⟨(_, sub), _⟩ => violations sub x (path ++ [k])
          | none => []
        let unknown := (kvs.map (·.1)).filter fun k => !fields.any (·.1 == k)
        known ++ (if unknown.isEmpty then [] else [⟨path, v, .additional unknown⟩])
      else
        fields.attach.flatMap fun ⟨(k, sub), _⟩ =>
          match kvs.find? (·.1 == k) with
          | some (_, x) => violations sub x (path ++ [k])
          | none => []
    | _ => []
  | .items item =>
    match v with
    | .array xs => xs.zipIdx.flatMap fun (x, i) => violations item x (path ++ [toString i])
    | _ => []
  | .oneOf alternatives =>
    let fitting := alternatives.attach.filter fun ⟨a, _⟩ => (violations a v path).isEmpty
    match fitting with
    | [_] => []
    | [] => [⟨path, v, .noAlternative⟩]
    | _ => [⟨path, v, .severalAlternatives⟩]
  | .all parts => parts.attach.flatMap fun ⟨p, _⟩ => violations p v path
termination_by sizeOf s
decreasing_by
  all_goals simp_wf
  all_goals first
    | omega
    | have h := List.sizeOf_lt_of_mem ‹_ ∈ fields›
      simp at h
      omega
    | have h := List.sizeOf_lt_of_mem ‹_ ∈ alternatives›
      omega
    | have h := List.sizeOf_lt_of_mem ‹_ ∈ parts›
      omega

/-- Whether a value meets the schema. -/
def admits (s : Schema) (v : Json) : Bool := (s.violations v []).isEmpty

/-- The text of a count of things: `1 character`, `2 characters`. -/
def counted (n : Nat) (noun : String) : String :=
  toString n ++ " " ++ noun ++ (if n == 1 then "" else "s")

/-- The options of an enum as a message names them: all of them when there are
at most three, else the first two and how many others there are. -/
def optionsText (options : List Json) : String :=
  match options with
  | a :: b :: _ :: _ :: _ =>
    a.compact ++ ", " ++ b.compact ++ " or " ++ toString (options.length - 2) ++ " other candidates"
  | _ =>
    match options.reverse with
    | [] => ""
    | [a] => a.compact
    | last :: before => ", ".intercalate (before.reverse.map Json.compact) ++ " or " ++ last.compact

/-- The message of a violation; values in it are compact JSON. -/
def Violation.message (e : Violation) : String :=
  let v := e.value.compact
  match e.fault with
  | .type [t] => v ++ " is not of type \"" ++ t.name ++ "\""
  | .type ts => v ++ " is not of types " ++ ", ".intercalate (ts.map fun t => "\"" ++ t.name ++ "\"")
  | .enum options => v ++ " is not one of " ++ optionsText options
  | .const c => c.compact ++ " was expected"
  | .minLength n => v ++ " is shorter than " ++ counted n "character"
  | .minItems n => v ++ " has less than " ++ counted n "item"
  | .required k => Json.quote k ++ " is a required property"
  | .additional ks =>
    "Additional properties are not allowed (" ++ ", ".intercalate (ks.map fun k => "'" ++ k ++ "'") ++
      (if ks.length == 1 then " was" else " were") ++ " unexpected)"
  | .noAlternative => v ++ " is not valid under any of the schemas listed in the 'oneOf' keyword"
  | .severalAlternatives =>
    v ++ " is valid under more than one of the schemas listed in the 'oneOf' keyword"

/-- One key or index of a JSON pointer, with `~` written `~0` and `/` written `~1`. -/
def pointerToken (t : String) : String :=
  String.join (t.toList.map fun c => if c == '~' then "~0" else if c == '/' then "~1" else c.toString)

/-- The place of the failing value as a JSON pointer: each key or index after a
slash, and the empty text for the whole value. -/
def Violation.pointer (e : Violation) : String :=
  String.join (e.path.map fun t => "/" ++ pointerToken t)

end Schema

end SqlScope
