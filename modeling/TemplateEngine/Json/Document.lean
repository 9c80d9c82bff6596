import TemplateEngine.Number.Double

/-!
# JSON documents

A JSON text as it was written: members in their order with duplicates kept, and numbers by the form
they have. Whoever reads a document decides what duplicates mean and which forms a number may take.
-/

namespace TemplateEngine

inductive JsonNumber
  /-- Digits alone, below 2⁶⁴. -/
  | natural (n : Nat)
  /-- Minus `n`, written with digits alone; `n` is positive and at most 2⁶³. -/
  | negative (n : Nat)
  /-- Any other number. -/
  | double (d : Double)
  deriving DecidableEq, Repr

inductive Json
  | null
  | boolean (b : Bool)
  | number (n : JsonNumber)
  | text (s : String)
  | array (items : List Json)
  | object (members : List (String × Json))

def JsonNumber.toDouble : JsonNumber → Double
  | .natural n => Double.ofNat n
  | .negative n => (Double.ofNat n).neg
  | .double d => d

end TemplateEngine
