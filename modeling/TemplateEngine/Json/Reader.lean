import TemplateEngine.Json.Number

/-!
# Reading JSON

A strict reader: white space is space, tab, line feed and carriage return; texts hold no control
character and no escape for half of a surrogate pair; arrays and objects nest at most 127 deep; and
nothing but white space follows the document.
-/

namespace TemplateEngine
namespace Json

/-- How deep arrays and objects may nest. -/
def maxNesting : Nat := 127

def isSpace (c : Char) : Bool :=
  c == ' ' || c == '\n' || c == '\t' || c == '\r'

def skipSpace (cs : List Char) : List Char :=
  cs.dropWhile isSpace

def hexValue? (c : Char) : Option Nat :=
  if '0' ≤ c && c ≤ '9' then some (c.toNat - '0'.toNat)
  else if 'a' ≤ c && c ≤ 'f' then some (c.toNat - 'a'.toNat + 10)
  else if 'A' ≤ c && c ≤ 'F' then some (c.toNat - 'A'.toNat + 10)
  else none

def hexQuad? : List Char → Option (Nat × List Char)
  | a :: b :: c :: d :: rest => do
      let a ← hexValue? a
      let b ← hexValue? b
      let c ← hexValue? c
      let d ← hexValue? d
      pure (((a * 16 + b) * 16 + c) * 16 + d, rest)
  | _ => none

def unicodeEscape? (cs : List Char) : Option (Char × List Char) := do
  let (unit, rest) ← hexQuad? cs
  if 0xdc00 ≤ unit && unit ≤ 0xdfff then none
  else if 0xd800 ≤ unit && unit ≤ 0xdbff then
    match rest with
    | '\\' :: 'u' :: rest => do
        let (low, rest) ← hexQuad? rest
        if 0xdc00 ≤ low && low ≤ 0xdfff then
          pure (Char.ofNat (0x10000 + (unit - 0xd800) * 0x400 + (low - 0xdc00)), rest)
        else none
    | _ => none
  else pure (Char.ofNat unit, rest)

def escape? : List Char → Option (Char × List Char)
  | '"' :: rest => some ('"', rest)
  | '\\' :: rest => some ('\\', rest)
  | '/' :: rest => some ('/', rest)
  | 'b' :: rest => some ('\x08', rest)
  | 'f' :: rest => some ('\x0c', rest)
  | 'n' :: rest => some ('\n', rest)
  | 'r' :: rest => some ('\r', rest)
  | 't' :: rest => some ('\t', rest)
  | 'u' :: rest => unicodeEscape? rest
  | _ => none

/-- The characters of a text up to its closing quote. The fuel bounds the number of characters. -/
def textBody? : Nat → List Char → Option (List Char × List Char)
  | 0, _ => none
  | _ + 1, [] => none
  | fuel + 1, c :: cs =>
      if c = '"' then some ([], cs)
      else if c = '\\' then do
        let (escaped, rest) ← escape? cs
        let (body, rest) ← textBody? fuel rest
        pure (escaped :: body, rest)
      else if c.toNat < 0x20 then none
      else do
        let (body, rest) ← textBody? fuel cs
        pure (c :: body, rest)

mutual

/-- A value, with the levels that may still open inside it. -/
def value? : Nat → Nat → List Char → Option (Json × List Char)
  | 0, _, _ => none
  | fuel + 1, levels, cs =>
      match cs with
      | 'n' :: 'u' :: 'l' :: 'l' :: rest => some (.null, rest)
      | 't' :: 'r' :: 'u' :: 'e' :: rest => some (.boolean true, rest)
      | 'f' :: 'a' :: 'l' :: 's' :: 'e' :: rest => some (.boolean false, rest)
      | '"' :: rest => do
          let (body, rest) ← textBody? (rest.length + 1) rest
          pure (.text (String.ofList body), rest)
      | '[' :: rest =>
          match levels, skipSpace rest with
          | 0, _ => none
          | _ + 1, ']' :: rest => some (.array [], rest)
          | levels + 1, rest => do
              let (items, rest) ← items? fuel levels rest
              pure (.array items, rest)
      | '\x7b' :: rest =>
          match levels, skipSpace rest with
          | 0, _ => none
          | _ + 1, '\x7d' :: rest => some (.object [], rest)
          | levels + 1, rest => do
              let (members, rest) ← members? fuel levels rest
              pure (.object members, rest)
      | _ => (JsonNumber.read? cs).map fun (n, rest) => (.number n, rest)

def items? : Nat → Nat → List Char → Option (List Json × List Char)
  | 0, _, _ => none
  | fuel + 1, levels, cs => do
      let (item, rest) ← value? fuel levels (skipSpace cs)
      match skipSpace rest with
      | ']' :: rest => pure ([item], rest)
      | ',' :: rest => do
          let (items, rest) ← items? fuel levels rest
          pure (item :: items, rest)
      | _ => none

def members? : Nat → Nat → List Char → Option (List (String × Json) × List Char)
  | 0, _, _ => none
  | fuel + 1, levels, cs =>
      match skipSpace cs with
      | '"' :: rest => do
          let (key, rest) ← textBody? (rest.length + 1) rest
          match skipSpace rest with
          | ':' :: rest => do
              let (item, rest) ← value? fuel levels (skipSpace rest)
              match skipSpace rest with
              | '\x7d' :: rest => pure ([(String.ofList key, item)], rest)
              | ',' :: rest => do
                  let (members, rest) ← members? fuel levels rest
                  pure ((String.ofList key, item) :: members, rest)
              | _ => none
          | _ => none
      | _ => none

end

/-- Reads a whole document. Every step of the reader consumes a character, so the length of the
text is fuel enough. -/
def read? (s : String) : Option Json :=
  let cs := s.toList
  match value? (cs.length + 1) maxNesting (skipSpace cs) with
  | some (document, rest) => if (skipSpace rest).isEmpty then some document else none
  | none => none

end Json
end TemplateEngine
