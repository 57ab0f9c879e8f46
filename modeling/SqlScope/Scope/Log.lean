import SqlScope.Text.Unicode

/-!
# Log events

Rewriting writes log events as it goes. An event has a level, a target (the part of
the program that wrote it, a path of names joined by `::`), a message, and named
fields whose values are already rendered as text. A field shown with its text as it
is may hold line breaks; a field that holds a plain string is shown quoted and
escaped, so it never does.

Events are data here. Which of them a run shows, and how, is the command line's
business. `Logged α` pairs a result with the events written while computing it, in
the order they were written; its monad appends the events of each step to those of
the steps before.
-/

namespace SqlScope.Scope

/-- How severe an event is, from the most to the least severe. -/
inductive Level where
  | error | warn | info | debug | trace
  deriving Repr, BEq, DecidableEq, Inhabited

/-- The verbosity a filter needs to show an event of this level: 1 for errors up to
5 for traces. A filter of verbosity 0 shows nothing. -/
def Level.rank : Level → Nat
  | .error => 1
  | .warn => 2
  | .info => 3
  | .debug => 4
  | .trace => 5

/-- One log event. -/
structure Event where
  level : Level
  target : String
  message : String
  fields : List (String × String) := []
  deriving Repr, BEq, Inhabited

/-- The text of an event after its time, level and target: the message, then each
field as `name=value`, separated by spaces. -/
def Event.text (e : Event) : String :=
  e.message ++ String.join (e.fields.map fun (n, v) => " " ++ n ++ "=" ++ v)

/-- The names of an event's fields, its message counted as the field `message`. -/
def Event.fieldNames (e : Event) : List String := "message" :: e.fields.map Prod.fst

/-- The rendering of a string field: quoted and escaped. -/
def quotedField (s : String) : String := Text.debugQuoted s

/-- The target of the events of the engine itself. -/
def engineTarget : String := "sieve_rewrite::engine"

/-- The target of the events of the built-in rules. -/
def ruleTarget : String := "sieve_rewrite::rule::builtin"

/-- The target of the events of binding a condition to a table reference. -/
def bindingTarget : String := "sieve_rewrite::inject::condition"

/-- A result together with the events written while computing it. -/
structure Logged (α : Type) where
  events : List Event
  result : α
  deriving Repr

namespace Logged

/-- Writes one event. -/
def write (e : Event) : Logged Unit := ⟨[e], ()⟩

instance : Monad Logged where
  pure a := ⟨[], a⟩
  bind x f := let y := f x.result; ⟨x.events ++ y.events, y.result⟩

end Logged

end SqlScope.Scope
