import TemplateEngine.Artifact.Parser

/-!
# Printer — programs as artifact text

The text of a program, built as a list of marks: literal text, the two island markers, single blanks
and tokens. A mark knows its spelling and the token that a reader of it finds, so one list gives both
the artifact and the tokens of the artifact. Statements other than literal text stand in islands of
their own, the braces of a block close and open an island, and expressions carry parentheses only
where an operator stands below the level that its place asks for.
-/

namespace TemplateEngine
namespace Artifact

/-! ## Spelling of tokens -/

def quotedSpelling (c : Char) : List Char :=
  if c = '\\' || c = '\'' then ['\\', c] else [c]

/-- How a token is written. A number is written by its whole part, a text between single quotes. -/
def Token.spelling : Token → List Char
  | .text s => s.toList
  | .var s => '$' :: s.toList
  | .name s => s.toList
  | .number d => Decimal.digits (d.toNatUpTo maxMemberNumber)
  | .quoted s => '\'' :: s.toList.flatMap quotedSpelling ++ ['\'']
  | .keyword k => k.spelling.toList
  | .symbol s => s.spelling.toList

/-- The token that a member name is written as: a word, or else a number. -/
def Token.ofField (field : String) : Token :=
  if Text.isName field.toList then .ofWord field.toList
  else .number (.ofNat (Decimal.digitsValue field.toList))

def BinaryOp.symbol : BinaryOp → Symbol
  | .add => .plus
  | .sub => .minus
  | .mul => .star
  | .div => .slash
  | .mod => .percent
  | .equal => .equal
  | .notEqual => .notEqual
  | .less => .less
  | .lessEqual => .lessEqual
  | .greater => .greater
  | .greaterEqual => .greaterEqual
  | .and => .and
  | .or => .or

def UnaryOp.symbol : UnaryOp → Symbol
  | .not => .bang
  | .neg => .minus

/-! ## Marks -/

/-- What a printed artifact is made of. -/
inductive Mark
  /-- Literal text outside islands. -/
  | text (s : String)
  /-- The opening of an island. -/
  | enter
  /-- The end of an island. -/
  | leave
  /-- One space inside an island. -/
  | blank
  | token (t : Token)

def Mark.spelling : Mark → List Char
  | .text s => s.toList
  | .enter => islandOpen
  | .leave => islandClose
  | .blank => [' ']
  | .token t => t.spelling

/-- The token that a mark is read as, if it is one. -/
def Mark.token? : Mark → Option Token
  | .text s => some (.text s)
  | .leave => some (.symbol .semicolon)
  | .token t => some t
  | .enter | .blank => none

def Mark.symbol (s : Symbol) : Mark := .token (.symbol s)

def Mark.keyword (k : Keyword) : Mark := .token (.keyword k)

def spell (marks : List Mark) : List Char := marks.flatMap Mark.spelling

def tokensOf (marks : List Mark) : List Token := marks.filterMap Mark.token?

/-! ## Expressions -/

/-- The level of what an access is taken of: it binds tighter than any operator. -/
def accessLevel : Nat := 8

/-- Marks in parentheses where they need them. -/
def enclosed (needed : Bool) (marks : List Mark) : List Mark :=
  if needed then Mark.symbol .openParen :: marks ++ [Mark.symbol .closeParen] else marks

mutual

/-- An expression at a place where only operators of the given level or above need no parentheses. -/
def Expr.marks (level : Nat) : Expr → List Mark
  | .var name => [.token (.var name)]
  | .number d => [.token (.number d)]
  | .text s => [.token (.quoted s)]
  | .boolean true => [.keyword .trueWord]
  | .boolean false => [.keyword .falseWord]
  | .null => [.keyword .nullWord]
  | .list items => .symbol .openBracket :: itemMarks items ++ [.symbol .closeBracket]
  | .binary op left right =>
      enclosed (op.level < level)
        (left.marks op.level ++ [.blank, .symbol op.symbol, .blank] ++ right.marks (op.level + 1))
  | .unary op operand =>
      enclosed (unaryLevel < level) (.symbol op.symbol :: operand.marks unaryLevel)
  | .call name args =>
      .token (.name name) :: .symbol .openParen :: itemMarks args ++ [.symbol .closeParen]
  | .member object field =>
      object.marks accessLevel ++ [.symbol .arrow, .token (.ofField field)]
  | .index object position =>
      object.marks accessLevel ++ .symbol .openBracket :: position.marks 1 ++
        [.symbol .closeBracket]

def itemMarks : List Expr → List Mark
  | [] => []
  | e :: es => e.marks 1 ++ moreItemMarks es

def moreItemMarks : List Expr → List Mark
  | [] => []
  | e :: es => .symbol .comma :: .blank :: e.marks 1 ++ moreItemMarks es

end

/-! ## Statements -/

def island (marks : List Mark) : List Mark :=
  .enter :: .blank :: marks ++ [.blank, .leave]

/-- An island with nothing in it, between two literal texts that would be read as one. -/
def separator (s : Statement) (rest : List Statement) : List Mark :=
  match s, rest with
  | .text _, .text _ :: _ => [.enter, .blank, .leave]
  | _, _ => []

/-- A block: its opening brace ends an island, and its closing brace begins one. -/
def braces (marks : List Mark) : List Mark :=
  .symbol .openBrace :: .blank :: .leave :: marks ++ [.enter, .blank, .symbol .closeBrace]

def loopNameMarks (key : Option String) (item : String) : List Mark :=
  match key with
  | none => [.token (.var item)]
  | some key => [.token (.var key), .symbol .comma, .blank, .token (.var item)]

mutual

/-- A statement: literal text as it is, anything else in islands. -/
def Statement.marks : Statement → List Mark
  | .text s => [.text s]
  | .echo values => island (.keyword .echoWord :: .blank :: itemMarks values)
  | .assign name value =>
      island (.token (.var name) :: .blank :: .symbol .assign :: .blank :: value.marks 1)
  | .ifThen condition body =>
      island (.keyword .ifWord :: .blank :: condition.marks 1 ++
        .blank :: braces (programMarks body))
  | .ifElse condition body otherwise =>
      island (.keyword .ifWord :: .blank :: condition.marks 1 ++
        .blank :: braces (programMarks body) ++
          .blank :: .keyword .elseWord :: .blank :: braces (programMarks otherwise))
  | .forEach key item source body =>
      island (.keyword .forWord :: .blank :: loopNameMarks key item ++
        .blank :: .keyword .inWord :: .blank :: source.marks 1 ++
          .blank :: braces (programMarks body))
  | .eval e => island (e.marks 1)

def programMarks : List Statement → List Mark
  | [] => []
  | s :: rest => s.marks ++ separator s rest ++ programMarks rest

end

def print (p : Program) : String := String.ofList (spell (programMarks p))

example : spell (programMarks [.text "a", .text "b", .ifThen (.binary .sub (.var "x") (.binary .sub
    (.unary .neg (.var "y")) (.var "z"))) [.echo [.member (.unary .not (.var "z")) "if", .null]]]) =
    "a<% %>b<% if $x - (-$y - $z) \x7b %><% echo (!$z)->if, null %><% \x7d %>".toList := by
  decide

/-! ## Programs that can be written -/

/-- The names of members that can be written after an arrow: names, keywords among them, and whole
numbers as canonical decimals. -/
def IsField (field : String) : Prop :=
  Text.isName field.toList = true ∨ ∃ n < Nat.pow 2 53, field.toList = Decimal.digits n

mutual

def Expr.Writable : Expr → Prop
  | .var name => Text.isName name.toList = true
  | .number d => ∃ n < Nat.pow 2 53, d = .ofNat n
  | .text _ | .boolean _ | .null => True
  | .list items => AllWritable items
  | .binary _ left right => left.Writable ∧ right.Writable
  | .unary _ operand => operand.Writable
  | .call name args =>
      Text.isName name.toList = true ∧ Keyword.ofWord? name = none ∧ AllWritable args
  | .member object field => object.Writable ∧ IsField field
  | .index object position => object.Writable ∧ position.Writable

def AllWritable : List Expr → Prop
  | [] => True
  | e :: es => e.Writable ∧ AllWritable es

end

mutual

def Statement.Writable : Statement → Prop
  | .text s => s.toList ≠ [] ∧ Text.occurs islandOpen s.toList = false
  | .echo values => values ≠ [] ∧ AllWritable values
  | .assign name value => Text.isName name.toList = true ∧ value.Writable
  | .ifThen condition body => condition.Writable ∧ ProgramWritable body
  | .ifElse condition body otherwise =>
      condition.Writable ∧ ProgramWritable body ∧ ProgramWritable otherwise
  | .forEach key item source body =>
      (∀ name ∈ key, Text.isName name.toList = true) ∧ Text.isName item.toList = true ∧
        source.Writable ∧ ProgramWritable body
  | .eval e => e.Writable

def ProgramWritable : List Statement → Prop
  | [] => True
  | s :: rest => s.Writable ∧ ProgramWritable rest

end

end Artifact
end TemplateEngine
