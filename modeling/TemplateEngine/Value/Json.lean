import TemplateEngine.Value.Basic
import TemplateEngine.Json.Reader
import TemplateEngine.Text.Quoted

/-!
# Values and JSON

A value is read from a JSON document, of equal keys the last one counting, and written as compact
JSON. Whole numbers below 10¹⁵ are written as integers, other finite numbers in the shortest digits
that read back, and numbers that are not finite as null.
-/

namespace TemplateEngine
namespace Value

mutual

def ofJson : Json → Value
  | .null => .null
  | .boolean b => .boolean b
  | .number n => .number n.toDouble
  | .text s => .text s
  | .array items => .list (ofJsonItems items)
  | .object members => .object (Keyed.ofPairs (ofJsonMembers members))

def ofJsonItems : List Json → List Value
  | [] => []
  | j :: js => ofJson j :: ofJsonItems js

def ofJsonMembers : List (String × Json) → List (String × Value)
  | [] => []
  | (key, j) :: rest => (key, ofJson j) :: ofJsonMembers rest

end

def ofJsonText? (s : String) : Option Value :=
  (Json.read? s).map ofJson

/-- The text of a number in JSON: powers of ten from -5 to 15 are written without an exponent, and
a tie goes to the even digit. -/
def jsonNumberStyle : DecimalStyle where
  tieToEven := true
  positional := fun exponent => -5 ≤ exponent && exponent ≤ 15
  fraction := true

def jsonNumber (d : Double) : List Char :=
  match d.shortInt?, d with
  | some i, _ => Decimal.intText i
  | none, .finite negative units => (jsonNumberStyle.write negative units).toList
  | none, _ => ['n', 'u', 'l', 'l']

def jsonChar (c : Char) : List Char :=
  if c = '"' then ['\\', '"']
  else if c = '\\' then ['\\', '\\']
  else if c = '\x08' then ['\\', 'b']
  else if c = '\x0c' then ['\\', 'f']
  else if c = '\n' then ['\\', 'n']
  else if c = '\r' then ['\\', 'r']
  else if c = '\t' then ['\\', 't']
  else if c.toNat < 0x20 then
    '\\' :: 'u' :: '0' :: '0' :: Text.hexDigit (c.toNat / 16) :: Text.hexDigit (c.toNat % 16) :: []
  else [c]

def jsonText (s : String) : List Char :=
  '"' :: s.toList.flatMap jsonChar ++ ['"']

mutual

/-- A value as JSON, as characters. -/
def jsonChars : Value → List Char
  | .null => ['n', 'u', 'l', 'l']
  | .text s => jsonText s
  | .number d => jsonNumber d
  | .boolean true => ['t', 'r', 'u', 'e']
  | .boolean false => ['f', 'a', 'l', 's', 'e']
  | .list [] => ['[', ']']
  | .list (v :: vs) => '[' :: jsonChars v ++ jsonItems vs
  | .object [] => ['\x7b', '\x7d']
  | .object ((key, v) :: rest) =>
      '\x7b' :: jsonText key ++ ':' :: jsonChars v ++ jsonMembers rest

def jsonItems : List Value → List Char
  | [] => [']']
  | v :: vs => ',' :: jsonChars v ++ jsonItems vs

def jsonMembers : List (String × Value) → List Char
  | [] => ['\x7d']
  | (key, v) :: rest => ',' :: jsonText key ++ ':' :: jsonChars v ++ jsonMembers rest

end

/-- A value as compact JSON. -/
def toJson (v : Value) : String :=
  String.ofList v.jsonChars

end Value
end TemplateEngine
