import TemplateEngine.Text.CodeRanges
import TemplateEngine.Text.Unprintable

/-!
# Quoted text in messages

How a message shows a text: between double quotes, with a backslash before quotes and backslashes,
short forms for the common controls, and the code point in braces for every character that has no
glyph of its own.
-/

namespace TemplateEngine
namespace Text

def hexDigit (n : Nat) : Char :=
  if n < 10 then Char.ofNat ('0'.toNat + n) else Char.ofNat ('a'.toNat + n - 10)

def hexDigits (n : Nat) : List Char :=
  Nat.toDigits 16 n

/-- Whether a quoted text shows a character as it is. -/
def isPrintable (c : Char) : Bool :=
  if c.toNat < 0x80 then 0x20 ≤ c.toNat && c.toNat ≤ 0x7e
  else !(unprintableRanges.contains c.toNat || graphemeExtendRanges.contains c.toNat)

def quotedChar (c : Char) : List Char :=
  if c == '\x00' then ['\\', '0']
  else if c == '\t' then ['\\', 't']
  else if c == '\r' then ['\\', 'r']
  else if c == '\n' then ['\\', 'n']
  else if c == '\\' || c == '"' then ['\\', c]
  else if isPrintable c then [c]
  else '\\' :: 'u' :: '{' :: hexDigits c.toNat ++ ['}']

def quoted (s : String) : String :=
  String.ofList ('"' :: s.toList.flatMap quotedChar ++ ['"'])

end Text
end TemplateEngine
