import TemplateEngine.Execution.Error
import TemplateEngine.Execution.Escape
import TemplateEngine.Text.Case
import TemplateEngine.Text.Scan
import TemplateEngine.Value.Json

/-!
# Builtin functions

The functions that an artifact can call. Each takes a fixed number of arguments, except `join`,
whose separator may be left out, and `object`, which takes any number of pairs.
-/

namespace TemplateEngine
namespace Execution

inductive Builtin
  | len | upper | lower | trim | escape | json | join | default | keys | typeof | object
  deriving DecidableEq, Repr

namespace Builtin

def name : Builtin → String
  | .len => "len"
  | .upper => "upper"
  | .lower => "lower"
  | .trim => "trim"
  | .escape => "escape"
  | .json => "json"
  | .join => "join"
  | .default => "default"
  | .keys => "keys"
  | .typeof => "typeof"
  | .object => "object"

def all : List Builtin :=
  [.len, .upper, .lower, .trim, .escape, .json, .join, .default, .keys, .typeof, .object]

def ofName? (name : String) : Option Builtin :=
  all.find? fun b => b.name == name

def one (b : Builtin) (args : List Value) (f : Value → Except RuntimeError Value) :
    Except RuntimeError Value :=
  match args with
  | [v] => f v
  | _ => .error (.argumentCount b.name 1)

def length : Value → Except RuntimeError Value
  | .list items => .ok (.number (.ofNat items.length))
  | .text s => .ok (.number (.ofNat s.length))
  | .object members => .ok (.number (.ofNat members.length))
  | .null => .ok (.number (.ofNat 0))
  | other => .error (.noLength other.kind)

def joined (separator : String) : Value → Except RuntimeError Value
  | .list items => .ok (.text (String.intercalate separator (items.map Value.toText)))
  | other => .error (.notJoinable other.kind)

/-- The first value unless it is null or the empty text, which the second one replaces. -/
def orElse (value fallback : Value) : Value :=
  match value with
  | .null => fallback
  | .text s => if s.isEmpty then fallback else value
  | _ => value

def keysOf : Value → Except RuntimeError Value
  | .object members => .ok (.list ((Keyed.keys members).map .text))
  | other => .error (.noKeys other.kind)

/-- Arguments as pairs of a key and a value, if their number is even. -/
def pairs? : List Value → Option (List (String × Value))
  | [] => some []
  | [_] => none
  | key :: value :: rest => (pairs? rest).map ((key.toText, value) :: ·)

/-- The object of some arguments taken in pairs. -/
def objectOf (args : List Value) : Except RuntimeError Value :=
  match pairs? args with
  | some pairs => .ok (.object (Keyed.ofPairs pairs))
  | none => .error .unpairedArguments

def apply (b : Builtin) (args : List Value) : Except RuntimeError Value :=
  match b with
  | .len => b.one args length
  | .upper => b.one args fun v => .ok (.text (Text.upper v.toText))
  | .lower => b.one args fun v => .ok (.text (Text.lower v.toText))
  | .trim => b.one args fun v => .ok (.text (String.ofList (Text.trim v.toText.toList)))
  | .escape => b.one args fun v => .ok (.text (escapeHtml v.toText))
  | .json => b.one args fun v => .ok (.text v.toJson)
  | .join =>
      match args with
      | [v] => joined "" v
      | [v, separator] => joined separator.toText v
      | _ => .error .joinArgumentCount
  | .default =>
      match args with
      | [value, fallback] => .ok (orElse value fallback)
      | _ => .error (.argumentCount b.name 2)
  | .keys => b.one args keysOf
  | .typeof => b.one args fun v => .ok (.text v.kind.name)
  | .object => objectOf args

end Builtin

def call (name : String) (args : List Value) : Except RuntimeError Value :=
  match Builtin.ofName? name with
  | some b => b.apply args
  | none => .error (.unknownFunction name)

end Execution
end TemplateEngine
