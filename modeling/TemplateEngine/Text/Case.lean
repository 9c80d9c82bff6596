import TemplateEngine.Text.CaseTable
import TemplateEngine.Text.Cased

/-!
# Changing case

Capital and small forms of a text by the full case mappings of Unicode. A character maps on its
own, except that a capital sigma at the end of a word becomes the final small sigma: the nearest
character before it that is not case-ignorable is cased, and the nearest one after it is not.
-/

namespace TemplateEngine
namespace Text

def CaseRule.covers (rule : CaseRule) (code : Nat) : Bool :=
  rule.first ≤ code && code ≤ rule.last && (code - rule.first) % rule.step == 0

/-- The code point that a list of rules maps a code point to; itself where none covers it. -/
def mapCode (rules : List CaseRule) (code : Nat) : Nat :=
  match rules.find? (·.covers code) with
  | some rule => ((code : Int) + rule.shift).toNat
  | none => code

def mapCase (specials : List (Nat × List Nat)) (rules : List CaseRule) (c : Char) : List Char :=
  match specials.lookup c.toNat with
  | some codes => codes.map Char.ofNat
  | none => [Char.ofNat (mapCode rules c.toNat)]

def upperChar (c : Char) : List Char :=
  if c.toNat < 0x80 then [c.toUpper] else mapCase upperSpecials upperRules c

/-- The small form of a character that stands alone. -/
def lowerChar (c : Char) : List Char :=
  if c.toNat < 0x80 then [c.toLower] else mapCase lowerSpecials lowerRules c

/-- Whether the first character that is not case-ignorable exists and is cased. -/
def casedNext (cs : List Char) : Bool :=
  match cs.dropWhile (fun c => caseIgnorableRanges.contains c.toNat) with
  | c :: _ => casedRanges.contains c.toNat
  | [] => false

/-- The small form of a text, given what stands before it from the nearest character on. -/
def lowerAfter (before : List Char) : List Char → List Char
  | [] => []
  | c :: cs =>
      (if c == 'Σ' then
        [if casedNext before && !casedNext cs then 'ς' else 'σ']
      else lowerChar c) ++ lowerAfter (c :: before) cs

def upper (s : String) : String :=
  String.ofList (s.toList.flatMap upperChar)

def lower (s : String) : String :=
  String.ofList (lowerAfter [] s.toList)

end Text
end TemplateEngine
