/-!
# Positions and syntax errors in YAML text

A mark is a position in the text: the index of a character, and its line and
column counted from zero. Syntax errors name what was found wrong and where, and
often what was being read at the time and where that started; both positions are
written from one, and a position at the very start of the text is left out.
-/

namespace SqlScope.Yaml

/-- A position in the text; all three counts start at zero. -/
structure Mark where
  index : Nat
  line : Nat
  column : Nat
  deriving Repr, BEq, Inhabited

namespace Mark

/-- `line L column C`, counted from one. -/
def text (m : Mark) : String :=
  "line " ++ toString (m.line + 1) ++ " column " ++ toString (m.column + 1)

/-- Whether the mark is past the first character of the first line. -/
def isPastStart (m : Mark) : Bool := m.line != 0 || m.column != 0

end Mark

/-- A syntax error in YAML text. -/
structure SyntaxError where
  problem : String
  problemMark : Mark := default
  /-- The byte offset of the problem, for problems found before any token. -/
  offset : Nat := 0
  context : Option String := none
  contextMark : Mark := default
  deriving Repr, BEq, Inhabited

/-- The message of a syntax error: the problem and its position, then what was
being read and where it started, when that differs from the problem's position. -/
def SyntaxError.message (e : SyntaxError) : String :=
  let pm := e.problemMark
  let head := e.problem ++
    (if pm.isPastStart then " at " ++ pm.text
     else if e.offset != 0 then " at position " ++ toString e.offset else "")
  match e.context with
  | none => head
  | some c =>
    let cm := e.contextMark
    head ++ ", " ++ c ++
      (if cm.isPastStart && (cm.line != pm.line || cm.column != pm.column) then " at " ++ cm.text
       else "")

end SqlScope.Yaml
