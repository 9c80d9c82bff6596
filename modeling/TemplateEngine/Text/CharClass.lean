import TemplateEngine.Text.Age
import TemplateEngine.Text.Alphabetic
import TemplateEngine.Text.Numeric
import TemplateEngine.Text.WordExtender

/-!
# Character classes

The classes of characters that templates and artifacts are read by: white space, letters, the
characters of a name, and the characters of a word. Below U+0080 each class is written out; above,
the tables of Unicode properties decide.
-/

namespace TemplateEngine
namespace Text

/-- White space: the Unicode property `White_Space`. -/
def isBlank (c : Char) : Bool :=
  let n := c.toNat
  (9 ≤ n && n ≤ 13) || n == 0x20 || n == 0x85 || n == 0xa0 || n == 0x1680 ||
    (0x2000 ≤ n && n ≤ 0x200a) || n == 0x2028 || n == 0x2029 || n == 0x202f || n == 0x205f ||
    n == 0x3000

/-- A letter: the Unicode property `Alphabetic`. -/
def isLetter (c : Char) : Bool :=
  if c.toNat < 0x80 then c.isAlpha else alphabeticRanges.contains c.toNat

def isAlphanumeric (c : Char) : Bool :=
  if c.toNat < 0x80 then c.isAlphanum
  else alphabeticRanges.contains c.toNat || numericRanges.contains c.toNat

def isNameStart (c : Char) : Bool :=
  isLetter c || c == '_'

def isNamePart (c : Char) : Bool :=
  isAlphanumeric c || c == '_'

/-- A character of a word: a letter, a decimal digit, a mark, a connector or a join control.
Words keep to Unicode 16, while names take in the letters and digits of the next version too. -/
def isWordPart (c : Char) : Bool :=
  if c.toNat < 0x80 then c.isAlphanum || c == '_'
  else
    (alphabeticRanges.contains c.toNat || decimalDigitRanges.contains c.toNat ||
      wordExtenderRanges.contains c.toNat) && !youngRanges.contains c.toNat

/-- Whether a word that has just been read ends here. -/
def wordEnds : List Char → Bool
  | [] => true
  | c :: _ => !isWordPart c

/-- Whether a text is a name: one starting character, then any number of continuing ones. -/
def isName : List Char → Bool
  | [] => false
  | c :: cs => isNameStart c && cs.all isNamePart

/-- Core's white space is white space here. -/
theorem isBlank_of_isWhitespace {c : Char} (h : c.isWhitespace = true) : isBlank c = true := by
  simp only [Char.isWhitespace, Bool.or_eq_true, decide_eq_true_eq] at h
  rcases h with ((rfl | rfl) | rfl) | rfl <;> decide

/-- Core's letters are letters here. -/
theorem isLetter_of_isAlpha {c : Char} (h : c.isAlpha = true) : isLetter c = true := by
  have either : (c.isUpper || c.isLower) = true := h
  have low : c.val.toNat ≤ 122 := by
    rcases Bool.or_eq_true_iff.1 either with upper | lower
    · have bounds : 'A'.val ≤ c.val ∧ c.val ≤ 'Z'.val := of_decide_eq_true upper
      exact Nat.le_trans (UInt32.le_iff_toNat_le.1 bounds.2) (by decide)
    · have bounds : (decide ('a'.val ≤ c.val) && decide (c.val ≤ 'z'.val)) = true := lower
      exact UInt32.le_iff_toNat_le.1 (of_decide_eq_true (Bool.and_eq_true_iff.1 bounds).2)
  have small : c.toNat < 0x80 := Nat.lt_of_le_of_lt low (by decide)
  simp [isLetter, small, h]

/-- What may begin a name may also continue one. -/
theorem isNamePart_of_isNameStart {c : Char} (h : isNameStart c = true) :
    isNamePart c = true := by
  simp only [isNameStart, isLetter, Bool.or_eq_true] at h
  simp only [isNamePart, isAlphanumeric, Bool.or_eq_true]
  rcases h with h | h
  · left
    split at h <;> rename_i small
    · simp [small, Char.isAlphanum, h]
    · simp [small, h]
  · exact Or.inr h

end Text
end TemplateEngine
