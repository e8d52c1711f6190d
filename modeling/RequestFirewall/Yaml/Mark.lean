/- Positions in a YAML text and syntax errors. A mark counts characters and UTF-8 bytes from
   the start, lines and columns from zero; messages show lines and columns from one and leave out a position at
   the very start of the text. A syntax error names the problem and where it was found, and may
   name what was being read and where that began. -/
namespace RequestFirewall.Yaml

structure Mark where
  index : Nat := 0
  bytes : Nat := 0
  line : Nat := 0
  column : Nat := 0
  deriving Repr, DecidableEq, Inhabited

def Mark.atOrigin (m : Mark) : Bool := m.line == 0 && m.column == 0

def Mark.render (m : Mark) : String :=
  if m.atOrigin then "position " ++ Nat.repr m.index
  else "line " ++ Nat.repr (m.line + 1) ++ " column " ++ Nat.repr (m.column + 1)

structure SyntaxError where
  problem : String
  problemMark : Mark := {}
  offset : Nat := 0
  context : Option String := none
  contextMark : Mark := {}
  deriving Repr, Inhabited

/-- The wording of a syntax error: the problem and its position, then the context and its
    position when that differs from the problem's. -/
def SyntaxError.message (e : SyntaxError) : String :=
  let head := e.problem ++
    (if !e.problemMark.atOrigin then " at " ++ e.problemMark.render
     else if e.offset != 0 then " at position " ++ Nat.repr e.offset
     else "")
  match e.context with
  | none => head
  | some ctx =>
    let samePlace := e.contextMark.line == e.problemMark.line &&
      e.contextMark.column == e.problemMark.column
    head ++ ", " ++ ctx ++
      (if !e.contextMark.atOrigin && !samePlace then " at " ++ e.contextMark.render else "")

end RequestFirewall.Yaml
