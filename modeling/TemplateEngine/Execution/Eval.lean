import TemplateEngine.Artifact.Syntax
import TemplateEngine.Execution.Builtin
import TemplateEngine.Execution.Scopes

/-!
# Evaluating expressions

An expression has a value in some scopes, or a reason why it has none; it changes nothing. Operands
are evaluated from left to right, and the right one of `&&` and `||` only where the left one does not
settle the result. A name without a binding is null.
-/

namespace TemplateEngine
namespace Execution

open Artifact (BinaryOp UnaryOp Expr)

def arithmetic (f : Double → Double → Double) (a b : Value) : Except RuntimeError Value :=
  match a, b with
  | .number x, .number y => .ok (.number (f x y))
  | _, _ => .error (.notNumeric a.kind b.kind)

/-- The sum of two numbers, or the texts of two values joined if one of them is a text. -/
def plus (a b : Value) : Except RuntimeError Value :=
  match a, b with
  | .number x, .number y => .ok (.number (x.add y))
  | .text _, _ | _, .text _ => .ok (.text (a.toText ++ b.toText))
  | _, _ => .error (.notAddable a.kind b.kind)

def isZero : Value → Bool
  | .number d => d.isZero
  | _ => false

/-- A comparison of two numbers or two texts. What cannot be ordered counts as equal. -/
def comparison (accept : Ordering → Bool) (a b : Value) : Except RuntimeError Value :=
  match a, b with
  | .number x, .number y => .ok (.boolean (accept ((x.compare? y).getD .eq)))
  | .text s, .text t => .ok (.boolean (accept (compare s t)))
  | _, _ => .error (.notComparable a.kind b.kind)

def binary (op : BinaryOp) (a b : Value) : Except RuntimeError Value :=
  match op with
  | .add => plus a b
  | .sub => arithmetic Double.sub a b
  | .mul => arithmetic Double.mul a b
  | .div => if isZero b then .error .divisionByZero else arithmetic Double.div a b
  | .mod => if isZero b then .error .moduloByZero else arithmetic Double.rem a b
  | .equal => .ok (.boolean (a.same b))
  | .notEqual => .ok (.boolean !a.same b)
  | .less => comparison Ordering.isLT a b
  | .lessEqual => comparison Ordering.isLE a b
  | .greater => comparison Ordering.isGT a b
  | .greaterEqual => comparison Ordering.isGE a b
  -- The left value did not settle these two, so the right one does.
  | .and | .or => .ok (.boolean b.truth)

/-- The result of an operator that its left value settles. -/
def shortCircuit? (op : BinaryOp) (a : Value) : Option Value :=
  match op with
  | .and => if a.truth then none else some (.boolean false)
  | .or => if a.truth then some (.boolean true) else none
  | _ => none

def unary (op : UnaryOp) (v : Value) : Except RuntimeError Value :=
  match op, v with
  | .not, _ => .ok (.boolean !v.truth)
  | .neg, .number d => .ok (.number d.neg)
  | .neg, _ => .error (.notNegatable v.kind)

def maxPosition : Nat := Nat.pow 2 64 - 1

/-- The position that a member name is: decimal digits, maybe after a plus sign. -/
def position? (field : String) : Option Nat :=
  let ds :=
    match field.toList with
    | '+' :: rest => rest
    | cs => cs
  if !ds.isEmpty && ds.all Char.isDigit then
    let n := Decimal.digitsValue ds
    if n ≤ maxPosition then some n else none
  else none

/-- The member of an object, or the item of a list, by a written name. -/
def access (v : Value) (field : String) : Value :=
  match v with
  | .list items =>
      match position? field with
      | some n => Value.item items n
      | none => .null
  | _ => v.member field

/-- The member of an object, or the item of a list, by a computed value. -/
def lookup (object position : Value) : Except RuntimeError Value :=
  match object, position with
  | .list items, .number d =>
      -- A fraction counts as the whole number below it.
      .ok (if d.isNegative then .null else Value.item items (d.toNatUpTo maxPosition))
  | .object _, .text key => .ok (object.member key)
  | .null, _ => .ok .null
  | _, _ => .error (.notIndexable object.kind position.kind)

mutual

def eval (scopes : Scopes) : Expr → Except RuntimeError Value
  | .var name => .ok ((scopes.get? name).getD .null)
  | .number d => .ok (.number d)
  | .text s => .ok (.text s)
  | .boolean b => .ok (.boolean b)
  | .null => .ok .null
  | .list items => (evalAll scopes items).map .list
  | .binary op left right =>
      match eval scopes left with
      | .error e => .error e
      | .ok a =>
          match shortCircuit? op a with
          | some v => .ok v
          | none =>
              match eval scopes right with
              | .error e => .error e
              | .ok b => binary op a b
  | .unary op operand =>
      match eval scopes operand with
      | .error e => .error e
      | .ok v => unary op v
  | .call name args =>
      match evalAll scopes args with
      | .error e => .error e
      | .ok values => call name values
  | .member object field => (eval scopes object).map fun v => access v field
  | .index object position =>
      match eval scopes object with
      | .error e => .error e
      | .ok v =>
          match eval scopes position with
          | .error e => .error e
          | .ok p => lookup v p

def evalAll (scopes : Scopes) : List Expr → Except RuntimeError (List Value)
  | [] => .ok []
  | e :: es =>
      match eval scopes e with
      | .error x => .error x
      | .ok v => (evalAll scopes es).map (v :: ·)

end

end Execution
end TemplateEngine
