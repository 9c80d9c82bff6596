import TemplateEngine.Proofs.Artifact.Printer
import TemplateEngine.Proofs.Number.WholeDouble
import TemplateEngine.Proofs.Text.CharClass

/-!
# Spelling — tokens read back from their spelling

`Token.read` at the spelling of a token gives the token and exactly its spelling, as long as the next
character could not belong to it: a word must not go on, a number neither go on nor have a point after
it, and no sign may make a longer symbol.
-/

namespace TemplateEngine

namespace Artifact

open Text (isBlank isNameStart isNamePart isName)

/-- What stands after a word or a number does not go on with it. -/
def Breaks (cs : List Char) : Prop :=
  ∀ c ∈ cs.head?, isNamePart c = false ∧ c ≠ '.'

/-- What stands after a symbol makes no longer symbol with it. -/
def Calm (cs : List Char) : Prop :=
  ∀ c ∈ cs.head?, c ≠ '=' ∧ c ≠ '>'

/-! ## Words -/

/-- A name is taken whole where nothing goes on with it. -/
theorem takeWhile_isNamePart {word cs : List Char} (name : isName word = true) (breaks : Breaks cs) :
    (word ++ cs).takeWhile isNamePart = word := by
  cases word with
  | nil => simp [isName] at name
  | cons c word =>
      simp only [isName, Bool.and_eq_true] at name
      refine Text.takeWhile_append_of_all ?_ fun d member => (breaks d member).1
      simp [Text.isNamePart_of_isNameStart name.1, name.2]

/-- A variable is read back with its sigil. -/
theorem read_var {name : String} {cs : List Char} (h : isName name.toList = true)
    (breaks : Breaks cs) :
    Token.read ((Token.var name).spelling ++ cs) = .ok (.var name, (Token.var name).spelling) := by
  have word := takeWhile_isNamePart h breaks
  cases chars : name.toList with
  | nil => simp [chars, isName] at h
  | cons c rest =>
      rw [chars] at h word
      have start : isNameStart c = true := (Bool.and_eq_true_iff.1 h).1
      simp only [Token.spelling, chars, List.cons_append, Token.read, if_true, start]
      rw [List.cons_append] at word
      rw [word, ← chars, String.ofList_toList]

/-- What begins like a name is read as a word. -/
theorem read_of_isNameStart {c : Char} (start : isNameStart c = true) (cs : List Char) :
    Token.read (c :: cs) =
      .ok (.ofWord ((c :: cs).takeWhile isNamePart), (c :: cs).takeWhile isNamePart) := by
  have notSigil : c ≠ '$' := Text.ne_of_class start (by decide)
  have notDouble : c ≠ '"' := Text.ne_of_class start (by decide)
  have notSingle : c ≠ '\'' := Text.ne_of_class start (by decide)
  simp [Token.read, notSigil, notDouble, notSingle, Text.not_isDigit_of_isNameStart start, start]

/-- A word is read back as the token that it is. -/
theorem read_word {word cs : List Char} (h : isName word = true) (breaks : Breaks cs) :
    Token.read (word ++ cs) = .ok (.ofWord word, word) := by
  have all := takeWhile_isNamePart h breaks
  cases word with
  | nil => simp [isName] at h
  | cons c rest =>
      have start : isNameStart c = true := (Bool.and_eq_true_iff.1 h).1
      rw [List.cons_append] at all ⊢
      rw [read_of_isNameStart start, all]

theorem ofWord_of_name {name : String} (h : Keyword.ofWord? name = none) :
    Token.ofWord name.toList = .name name := by
  simp [Token.ofWord, String.ofList_toList, h]

theorem ofWord_keyword (k : Keyword) : Token.ofWord k.spelling.toList = .keyword k := by
  cases k <;> decide

theorem spelling_ofWord (word : List Char) : (Token.ofWord word).spelling = word := by
  simp only [Token.ofWord]
  split
  · next k found =>
      unfold Keyword.ofWord? at found
      have same := List.find?_some found
      simp [Token.spelling, eq_of_beq same]
  · simp [Token.spelling]

theorem isName_keyword (k : Keyword) : isName k.spelling.toList = true := by
  cases k <;> decide

/-! ## Quoted texts -/

theorem quotedBody?_close (quote : Char) (cs : List Char) :
    quotedBody? quote (quote :: cs) = some ([], [quote]) := by
  rw [quotedBody?.eq_def]
  simp

/-- A backslash takes the next character with it, whatever it is. -/
theorem quotedBody?_escape {quote : Char} (h : quote ≠ '\\') (c : Char) (cs : List Char) :
    quotedBody? quote ('\\' :: c :: cs) =
      (quotedBody? quote cs).map fun (body, read) => (escaped c ++ body, '\\' :: c :: read) := by
  rw [quotedBody?.eq_def]
  simp [Ne.symm h]

/-- Any other character of a quoted text stands for itself. -/
theorem quotedBody?_plain {quote c : Char} (notQuote : c ≠ quote) (notBackslash : c ≠ '\\')
    (cs : List Char) :
    quotedBody? quote (c :: cs) =
      (quotedBody? quote cs).map fun (body, read) => (c :: body, c :: read) := by
  rw [quotedBody?.eq_def]
  simp [notQuote, notBackslash]

/-- A quoted text is read back from its spelling, up to the closing quote. -/
theorem quotedBody?_spelling (chars cs : List Char) :
    quotedBody? '\'' (chars.flatMap quotedSpelling ++ '\'' :: cs) =
      some (chars, chars.flatMap quotedSpelling ++ ['\'']) := by
  induction chars with
  | nil => exact quotedBody?_close '\'' cs
  | cons c chars ih =>
      rw [List.flatMap_cons]
      by_cases special : c = '\\' ∨ c = '\''
      · have spelled : quotedSpelling c = ['\\', c] := by simp [quotedSpelling, special]
        have meaning : escaped c = [c] := by rcases special with rfl | rfl <;> decide
        rw [spelled, List.append_assoc]
        simp [quotedBody?_escape, ih, meaning]
      · have spelled : quotedSpelling c = [c] := by simp [quotedSpelling, special]
        rw [not_or] at special
        rw [spelled, List.append_assoc]
        simp [quotedBody?_plain special.2 special.1, ih]

theorem read_of_quote {c : Char} (mark : c = '"' ∨ c = '\'') {cs body within : List Char}
    (closed : quotedBody? c cs = some (body, within)) :
    Token.read (c :: cs) = .ok (.quoted (String.ofList body), c :: within) := by
  rcases mark with rfl | rfl <;> simp [Token.read, closed]

/-- So is the whole token. -/
theorem read_quoted (s : String) (cs : List Char) :
    Token.read ((Token.quoted s).spelling ++ cs) =
      .ok (.quoted s, (Token.quoted s).spelling) := by
  have body := quotedBody?_spelling s.toList cs
  simp [Token.spelling, Token.read, body, String.ofList_toList]

/-! ## Numbers -/

/-- A number has a digit at least. -/
theorem digits_cons (n : Nat) : ∃ d ds, Decimal.digits n = d :: ds ∧ d.isDigit = true := by
  cases digits : Decimal.digits n with
  | nil => exact absurd digits (Decimal.digits_ne_nil n)
  | cons d ds => exact ⟨d, ds, rfl, Decimal.isDigit_of_mem_digits (n := n) (by simp [digits])⟩

theorem Breaks.noDigit {cs : List Char} (breaks : Breaks cs) : ∀ c ∈ cs.head?, c.isDigit = false := by
  intro c member
  refine Bool.eq_false_iff.2 fun digit => ?_
  exact absurd rfl (Text.ne_of_class (Text.isNamePart_of_isDigit digit) (breaks c member).1)

theorem wholeDigits_of_ne_zero {c : Char} (digit : c.isDigit = true) (notZero : c ≠ '0')
    (cs : List Char) : wholeDigits (c :: cs) = c :: cs.takeWhile Char.isDigit := by
  unfold wholeDigits
  split
  · next same => exact absurd (List.cons.inj same).1 notZero
  · exact List.takeWhile_cons_of_pos digit

/-- The digits of a number are taken whole: only zero begins with a zero. -/
theorem wholeDigits_digits {cs : List Char} (breaks : Breaks cs) (n : Nat) :
    wholeDigits (Decimal.digits n ++ cs) = Decimal.digits n := by
  rcases Nat.eq_zero_or_pos n with zero | positive
  · subst zero
    simp [Decimal.digits_zero, wholeDigits]
  · have first := Decimal.head_digits_ne_zero positive
    have all : (Decimal.digits n).all Char.isDigit = true :=
      List.all_eq_true.2 fun c member => Decimal.isDigit_of_mem_digits member
    have taken := Text.takeWhile_append_of_all all breaks.noDigit
    rcases digits_cons n with ⟨d, ds, digits, digit⟩
    rw [digits] at first taken ⊢
    -- Only a number that is zero begins with a zero, and zero stands alone.
    have nonzero : d ≠ '0' := by simpa using first
    rw [List.cons_append, List.takeWhile_cons_of_pos digit] at taken
    rw [List.cons_append, wholeDigits_of_ne_zero digit nonzero, taken]

/-- A whole number is read back from its digits. -/
theorem readNumber_digits {cs : List Char} (breaks : Breaks cs) (n : Nat) :
    readNumber (Decimal.digits n ++ cs) = .ok (.ofNat n, Decimal.digits n) := by
  unfold readNumber
  simp only [wholeDigits_digits breaks, List.drop_left]
  cases cs with
  | nil => simp [Decimal.digitsValue_digits]
  | cons c cs =>
      have noPoint : c ≠ '.' := (breaks c (by simp)).2
      split
      · next same => exact absurd (List.cons.inj same).1 noPoint
      · rw [Decimal.digitsValue_digits]

/-- What begins with a digit is read as a number. -/
theorem read_of_isDigit {c : Char} (digit : c.isDigit = true) (cs : List Char) :
    Token.read (c :: cs) =
      (readNumber (c :: cs)).map fun (d, read) => (.number d, read) := by
  have notSigil : c ≠ '$' := Text.ne_of_class digit (by decide)
  have notDouble : c ≠ '"' := Text.ne_of_class digit (by decide)
  have notSingle : c ≠ '\'' := Text.ne_of_class digit (by decide)
  simp [Token.read, notSigil, notDouble, notSingle, digit]

theorem read_digits {cs : List Char} (breaks : Breaks cs) (n : Nat) :
    Token.read (Decimal.digits n ++ cs) = .ok (.number (.ofNat n), Decimal.digits n) := by
  have number := readNumber_digits breaks n
  rcases digits_cons n with ⟨d, ds, digits, digit⟩
  rw [digits, List.cons_append] at number ⊢
  rw [read_of_isDigit digit, number]
  rfl

/-- The spelling of a number below two to the power of 53 is its digits. -/
theorem spelling_number {n : Nat} (small : n < Nat.pow 2 53) :
    (Token.number (.ofNat n)).spelling = Decimal.digits n := by
  have le : n ≤ maxMemberNumber := by
    have top : Nat.pow 2 53 ≤ maxMemberNumber := by decide
    exact Nat.le_trans (Nat.le_of_lt small) top
  simp only [Token.spelling, Double.toNatUpTo_ofNat small le]

/-! ## Member names -/

/-- Digits are no name. -/
theorem not_isName_digits (n : Nat) : isName (Decimal.digits n) = false := by
  rcases digits_cons n with ⟨d, ds, digits, digit⟩
  simp [digits, isName, Text.not_isNameStart_of_isDigit digit]

theorem ofField_digits {field : String} {n : Nat} (spelled : field.toList = Decimal.digits n) :
    Token.ofField field = .number (.ofNat n) := by
  simp [Token.ofField, spelled, not_isName_digits, Decimal.digitsValue_digits]

/-! ## Symbols -/

/-- A character that begins neither a word, a number nor a quoted text. -/
def isSign (c : Char) : Bool :=
  c != '$' && c != '"' && c != '\'' && !c.isDigit && !isNameStart c

/-- A sign begins a symbol. -/
theorem read_sign {c : Char} (sign : isSign c = true) (cs : List Char) :
    Token.read (c :: cs) = (readSymbol c cs).map fun (s, read) => (.symbol s, read) := by
  simp only [isSign, Bool.and_eq_true, bne_iff_ne, Bool.not_eq_true'] at sign
  rcases sign with ⟨⟨⟨⟨notSigil, notDouble⟩, notSingle⟩, notDigit⟩, notName⟩
  simp [Token.read, notSigil, notDouble, notSingle, notDigit, notName]

/-- A symbol of one character is read where no longer one is made with what follows. -/
theorem readSymbol_single {c : Char} {s : Symbol} (single : singleSymbol? c = some s)
    (notDoubled : c ≠ '&' ∧ c ≠ '|') {cs : List Char} (calm : Calm cs) :
    readSymbol c cs = .ok (s, [c]) := by
  -- Every longer symbol ends in one of the two signs, but for the doubled ones.
  have noLonger : ∀ d ∈ cs.head?, doubleSymbol? c d = none := by
    intro d member
    rcases calm d member with ⟨notEqual, notGreater⟩
    unfold doubleSymbol?
    split <;> simp_all
  unfold readSymbol
  cases cs with
  | nil => simp [single]
  | cons d cs => simp [noLonger d (by simp), single]

/-- Of two symbols that begin alike the longer one is read. -/
theorem readSymbol_double {c d : Char} {s : Symbol} (double : doubleSymbol? c d = some s)
    (cs : List Char) : readSymbol c (d :: cs) = .ok (s, [c, d]) := by
  simp [readSymbol, double]

/-- A symbol is one sign or two, and its spelling tells it. -/
theorem Symbol.spelling_cases (s : Symbol) :
    (∃ c, s.spelling.toList = [c] ∧ isSign c = true ∧ singleSymbol? c = some s ∧
      c ≠ '&' ∧ c ≠ '|') ∨
    ∃ c d, s.spelling.toList = [c, d] ∧ isSign c = true ∧ doubleSymbol? c d = some s := by
  cases s
  case arrow => exact Or.inr ⟨'-', '>', by decide⟩
  case equal => exact Or.inr ⟨'=', '=', by decide⟩
  case notEqual => exact Or.inr ⟨'!', '=', by decide⟩
  case lessEqual => exact Or.inr ⟨'<', '=', by decide⟩
  case greaterEqual => exact Or.inr ⟨'>', '=', by decide⟩
  case and => exact Or.inr ⟨'&', '&', by decide⟩
  case or => exact Or.inr ⟨'|', '|', by decide⟩
  all_goals exact Or.inl ⟨_, rfl, by decide⟩

/-- A symbol is read back from its spelling. -/
theorem read_symbol (s : Symbol) {cs : List Char} (calm : Calm cs) :
    Token.read ((Token.symbol s).spelling ++ cs) =
      .ok (.symbol s, (Token.symbol s).spelling) := by
  rcases s.spelling_cases with
    ⟨c, spelled, sign, single, notDoubled⟩ | ⟨c, d, spelled, sign, double⟩
  · simp only [Token.spelling, spelled, List.singleton_append]
    rw [read_sign sign, readSymbol_single single notDoubled calm]
    rfl
  · simp only [Token.spelling, spelled, List.cons_append, List.nil_append]
    rw [read_sign sign, readSymbol_double double]
    rfl

end Artifact
end TemplateEngine
