import TemplateEngine.Execution.Eval

/-!
# Running statements

A machine holds the scopes and the output of a run. A statement leaves a machine behind whether it
succeeds or fails, so what a failure leaves can be stated. Blocks open no scope; the body of a loop
runs in a scope of its own for each entry.
-/

namespace TemplateEngine
namespace Execution

open Artifact (Expr Statement)

structure Machine where
  scopes : Scopes := {}
  output : String := ""

namespace Machine

def emit (text : String) (m : Machine) : Machine :=
  { m with output := m.output ++ text }

def clearOutput (m : Machine) : Machine :=
  { m with output := "" }

def onScopes (f : Scopes → Scopes) (m : Machine) : Machine :=
  { m with scopes := f m.scopes }

end Machine

/-- What a statement leaves: a machine, and the error that stopped it, if one did. -/
structure Outcome where
  machine : Machine
  error : Option RuntimeError

/-- The lines of a text. A line ends before a line feed or a carriage return and a line feed; after
the last of these no line follows unless there is more text. -/
def linesFrom : (line : List Char) → List Char → List (List Char)
  | [], [] => []
  | line, [] => [line.reverse]
  | line, '\n' :: cs =>
      (match line with
        | '\r' :: rest => rest.reverse
        | _ => line.reverse) :: linesFrom [] cs
  | line, c :: cs => linesFrom (c :: line) cs

def numbered (position : Nat) : List Value → List (Value × Value)
  | [] => []
  | v :: vs => (.number (.ofNat position), v) :: numbered (position + 1) vs

/-- The keys and items that a loop visits: those of a list or an object, the lines of a text, and
nothing for null. -/
def entries : Value → Except RuntimeError (List (Value × Value))
  | .list items => .ok (numbered 0 items)
  | .object members => .ok (members.map fun (key, v) => (.text key, v))
  | .text s =>
      .ok (numbered 0 ((linesFrom [] s.toList).map fun line => .text (String.ofList line)))
  | .null => .ok []
  | other => .error (.notIterable other.kind)

/-- A machine at the start of a loop body: a new scope with the names of the loop bound in it. -/
def enter (key : Option String) (item : String) (entry : Value × Value) (m : Machine) : Machine :=
  m.onScopes fun scopes =>
    -- The item is bound last: it stands where both names are the same.
    let scopes := scopes.push
    let scopes :=
      match key with
      | some name => scopes.define name entry.1
      | none => scopes
    scopes.define item entry.2

/-- Runs a loop body once for each entry, until one run fails. -/
def loop (start : Value × Value → Machine → Machine) (body : Machine → Outcome) :
    List (Value × Value) → Machine → Outcome
  | [], m => ⟨m, none⟩
  | entry :: rest, m =>
      let ran := body (start entry m)
      -- The scope of the body is left behind also where the body fails.
      let left := ran.machine.onScopes Scopes.pop
      match ran.error with
      | some e => ⟨left, some e⟩
      | none => loop start body rest left

/-- Writes the texts of some values, each before the next one is evaluated. -/
def echo : List Expr → Machine → Outcome
  | [], m => ⟨m, none⟩
  | e :: es, m =>
      match eval m.scopes e with
      | .error x => ⟨m, some x⟩
      | .ok v => echo es (m.emit v.toText)

mutual

def exec : Statement → Machine → Outcome
  | .text s, m => ⟨m.emit s, none⟩
  | .echo values, m => echo values m
  | .assign name value, m =>
      match eval m.scopes value with
      | .error e => ⟨m, some e⟩
      | .ok v => ⟨m.onScopes (Scopes.assign name v), none⟩
  | .ifThen condition body, m =>
      match eval m.scopes condition with
      | .error e => ⟨m, some e⟩
      | .ok v => if v.truth then execAll body m else ⟨m, none⟩
  | .ifElse condition body otherwise, m =>
      match eval m.scopes condition with
      | .error e => ⟨m, some e⟩
      | .ok v => if v.truth then execAll body m else execAll otherwise m
  | .forEach key item source body, m =>
      match eval m.scopes source with
      | .error e => ⟨m, some e⟩
      | .ok v =>
          match entries v with
          | .error e => ⟨m, some e⟩
          | .ok es => loop (enter key item) (execAll body) es m
  | .eval e, m =>
      match eval m.scopes e with
      | .error x => ⟨m, some x⟩
      | .ok _ => ⟨m, none⟩

/-- Runs statements in order, until one fails. -/
def execAll : List Statement → Machine → Outcome
  | [], m => ⟨m, none⟩
  | s :: rest, m =>
      let ran := exec s m
      match ran.error with
      | some e => ⟨ran.machine, some e⟩
      | none => execAll rest ran.machine

end

end Execution
end TemplateEngine
