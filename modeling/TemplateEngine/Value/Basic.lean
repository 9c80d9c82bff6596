import TemplateEngine.Keyed
import TemplateEngine.Number.Decimal

/-!
# Values

The values that templates compute with: those of JSON, with doubles for numbers. A value has a
truth value, a type name, an equality in which `nan` equals nothing, and a text, which is what
`echo` writes. Null is the empty text, so that missing data leaves nothing in the output.
-/

namespace TemplateEngine

inductive Value
  | null
  | text (s : String)
  | number (d : Double)
  | boolean (b : Bool)
  | list (items : List Value)
  | object (members : List (String × Value))
  deriving Inhabited

namespace Value

inductive Kind
  | null | text | number | boolean | list | object
  deriving DecidableEq, Repr

def Kind.name : Kind → String
  | .null => "null"
  | .text => "string"
  | .number => "number"
  | .boolean => "boolean"
  | .list => "array"
  | .object => "object"

def kind : Value → Kind
  | .null => .null
  | .text _ => .text
  | .number _ => .number
  | .boolean _ => .boolean
  | .list _ => .list
  | .object _ => .object

def truth : Value → Bool
  | .null => false
  | .text s => !s.isEmpty
  | .number d => !d.isZero && !d.isNan
  | .boolean b => b
  | .list items => !items.isEmpty
  | .object members => !members.isEmpty

def isNull : Value → Bool
  | .null => true
  | _ => false

/-- How a number is written: an integer below 10¹⁵ by its digits, anything else in the shortest
digits that read back, and never with an exponent. -/
def numberText (d : Double) : String :=
  match d.shortInt? with
  | some i => String.ofList (Decimal.intText i)
  | none => d.write .plain "NaN" "INF"

mutual

/-- The text of a value; the items of a list are separated by a comma and a space. -/
def toText : Value → String
  | .null => ""
  | .text s => s
  | .number d => numberText d
  | .boolean b => if b then "true" else "false"
  | .list items => String.intercalate ", " (toTexts items)
  | .object _ => "[object]"

def toTexts : List Value → List String
  | [] => []
  | v :: vs => v.toText :: toTexts vs

end

theorem toTexts_eq_map (vs : List Value) : toTexts vs = vs.map toText := by
  induction vs with
  | nil => rfl
  | cons v vs ih => simp [toTexts, ih]

mutual

/-- Equality of values: alike in type and content, numbers as numbers. -/
def same : Value → Value → Bool
  | .null, .null => true
  | .text s, .text t => s == t
  | .number a, .number b => a.same b
  | .boolean a, .boolean b => a == b
  | .list as, .list bs => sameItems as bs
  | .object as, .object bs => sameMembers as bs
  | _, _ => false

def sameItems : List Value → List Value → Bool
  | [], [] => true
  | a :: as, b :: bs => same a b && sameItems as bs
  | _, _ => false

def sameMembers : List (String × Value) → List (String × Value) → Bool
  | [], [] => true
  | (k, a) :: as, (l, b) :: bs => k == l && same a b && sameMembers as bs
  | _, _ => false

end

/-- The member of an object by name; null where there is none. -/
def member (name : String) : Value → Value
  | .object members => (Keyed.get? name members).getD .null
  | _ => .null

/-- The item of a list by position; null past its end. -/
def item (items : List Value) (position : Nat) : Value :=
  items.getD position .null

mutual

/-- All objects in the value have strictly increasing keys. -/
def Ordered : Value → Prop
  | .list items => OrderedItems items
  | .object members => Keyed.Ordered members ∧ OrderedMembers members
  | _ => True

def OrderedItems : List Value → Prop
  | [] => True
  | v :: vs => v.Ordered ∧ OrderedItems vs

def OrderedMembers : List (String × Value) → Prop
  | [] => True
  | (_, v) :: rest => v.Ordered ∧ OrderedMembers rest

end

end Value
end TemplateEngine
