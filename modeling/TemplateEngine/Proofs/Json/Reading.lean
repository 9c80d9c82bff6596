import TemplateEngine.Proofs.Number.WholeDouble
import TemplateEngine.Value.Json

/-!
# Reading what is written as JSON

Texts are read back from their escaped form and whole numbers from their digits, whatever stands behind
them, as long as it does not go on with a number. For the parts of arrays and objects there is one lemma
for each thing that may follow an item.
-/

namespace TemplateEngine

/-! ## Texts -/

namespace Json

open Value (jsonChar jsonText)

/-- A hexadecimal digit is read back. -/
theorem hexValue?_hexDigit {n : Nat} (small : n < 16) : hexValue? (Text.hexDigit n) = some n := by
  have values : ∀ m < 16, hexValue? (Text.hexDigit m) = some m := by decide
  exact values n small

/-- The escape of a control character by its code point. -/
theorem escape?_control {c : Char} (control : c.toNat < 0x20) (rest : List Char) :
    escape? ('u' :: '0' :: '0' :: Text.hexDigit (c.toNat / 16) :: Text.hexDigit (c.toNat % 16) ::
      rest) = some (c, rest) := by
  have zero : hexValue? '0' = some 0 := by decide
  have high := hexValue?_hexDigit (n := c.toNat / 16) (by omega)
  have low := hexValue?_hexDigit (n := c.toNat % 16) (by omega)
  have quad : hexQuad? ('0' :: '0' :: Text.hexDigit (c.toNat / 16) ::
      Text.hexDigit (c.toNat % 16) :: rest) = some (c.toNat, rest) := by
    simp only [hexQuad?, zero, high, low, Option.bind_eq_bind, Option.bind_some, Option.pure_def,
      Option.some.injEq, Prod.mk.injEq, and_true]
    omega
  -- A control character is no half of a surrogate pair.
  have notLow : ¬ 0xdc00 ≤ c.toNat := by omega
  have notHigh : ¬ 0xd800 ≤ c.toNat := by omega
  simp [escape?, unicodeEscape?, quad, notLow, notHigh]

/-- A character of a text is written as an escape, which is read back, or as it is. -/
theorem jsonChar_cases (c : Char) :
    (∃ code, jsonChar c = '\\' :: code ∧ ∀ rest, escape? (code ++ rest) = some (c, rest)) ∨
      jsonChar c = [c] ∧ c ≠ '"' ∧ c ≠ '\\' ∧ ¬ c.toNat < 0x20 := by
  unfold jsonChar
  split
  · next same => exact .inl ⟨['"'], rfl, fun rest => by rw [same]; rfl⟩
  split
  · next same => exact .inl ⟨['\\'], rfl, fun rest => by rw [same]; rfl⟩
  split
  · next same => exact .inl ⟨['b'], rfl, fun rest => by rw [same]; rfl⟩
  split
  · next same => exact .inl ⟨['f'], rfl, fun rest => by rw [same]; rfl⟩
  split
  · next same => exact .inl ⟨['n'], rfl, fun rest => by rw [same]; rfl⟩
  split
  · next same => exact .inl ⟨['r'], rfl, fun rest => by rw [same]; rfl⟩
  split
  · next same => exact .inl ⟨['t'], rfl, fun rest => by rw [same]; rfl⟩
  split
  · next control => exact .inl ⟨_, rfl, escape?_control control⟩
  · next notQuote notBackslash _ _ _ _ _ notControl =>
    exact .inr ⟨rfl, notQuote, notBackslash, notControl⟩

/-- An escaped text is read back up to its closing quote. -/
theorem textBody?_escaped (cs rest : List Char) {fuel : Nat} (enough : cs.length < fuel) :
    textBody? fuel (cs.flatMap jsonChar ++ '"' :: rest) = some (cs, rest) := by
  induction cs generalizing fuel with
  | nil =>
      cases fuel with
      | zero => omega
      | succ fuel => rfl
  | cons c cs ih =>
      cases fuel with
      | zero => omega
      | succ fuel =>
          have later := ih (Nat.lt_of_succ_lt_succ enough)
          rw [List.flatMap_cons, List.append_assoc]
          rcases jsonChar_cases c with ⟨code, escaped, read⟩ | ⟨plain, notQuote, notBackslash, solid⟩
          · rw [escaped, List.cons_append, textBody?]
            simp [read, later]
          · rw [plain, List.singleton_append, textBody?]
            simp [notQuote, notBackslash, solid, later]

theorem length_le_length_flatMap_jsonChar (cs : List Char) :
    cs.length ≤ (cs.flatMap jsonChar).length := by
  induction cs with
  | nil => exact Nat.le_refl 0
  | cons c cs ih =>
      have some : 1 ≤ (jsonChar c).length := by
        rcases jsonChar_cases c with ⟨code, escaped, _⟩ | ⟨plain, _⟩
        · simp [escaped]
        · simp [plain]
      rw [List.flatMap_cons, List.length_append, List.length_cons]
      omega

/-- Behind the opening quote of a text, the text and its closing quote are read with the fuel that the
reader takes for it. -/
theorem textBody?_jsonText (s : String) (rest : List Char) :
    ∃ body, jsonText s ++ rest = '"' :: body ∧
      textBody? (body.length + 1) body = some (s.toList, rest) := by
  refine ⟨s.toList.flatMap jsonChar ++ '"' :: rest, by simp [jsonText], ?_⟩
  refine textBody?_escaped s.toList rest ?_
  have shorter := length_le_length_flatMap_jsonChar s.toList
  rw [List.length_append]
  omega

end Json

/-! ## Whole numbers -/

namespace JsonNumber

/-- An integer as a number of a document. -/
def ofInt (i : Int) : JsonNumber :=
  if i < 0 then .negative i.natAbs else .natural i.natAbs

/-- What stands behind a number does not go on with it. -/
def Ends (rest : List Char) : Prop :=
  ∀ c ∈ rest.head?, c.isDigit = false ∧ c ≠ '.' ∧ c ≠ 'e' ∧ c ≠ 'E'

theorem le_foldl_digits (value : Nat) (ds : List Char) :
    value ≤ ds.foldl (fun n c => n * 10 + Decimal.digitValue c) value := by
  induction ds generalizing value with
  | nil => exact Nat.le_refl value
  | cons d ds ih =>
      have more := ih (value * 10 + Decimal.digitValue d)
      rw [List.foldl_cons]
      omega

/-- Digits whose value is below the limit are all taken. -/
theorem takeWhole_of_lt {value : Nat} {ds : List Char}
    (small : ds.foldl (fun n c => n * 10 + Decimal.digitValue c) value < significandLimit) :
    takeWhole value 0 ds = (ds.foldl (fun n c => n * 10 + Decimal.digitValue c) value, 0) := by
  induction ds generalizing value with
  | nil => rfl
  | cons d ds ih =>
      have next : value * 10 + Decimal.digitValue d < significandLimit :=
        Nat.lt_of_le_of_lt (le_foldl_digits _ ds) small
      rw [takeWhole]
      simp only [next, decide_true, Bool.and_true, if_true]
      exact ih small

/-- Digits are read up to what cannot continue them. -/
theorem digitRun_digits (n : Nat) {rest : List Char} (ends : Ends rest) :
    digitRun (Decimal.digits n ++ rest) = (Decimal.digits n, rest) := by
  have all : ∀ c ∈ Decimal.digits n, c.isDigit = true := fun c member =>
    Decimal.isDigit_of_mem_digits member
  have stop : rest.takeWhile Char.isDigit = [] ∧ rest.dropWhile Char.isDigit = rest := by
    cases rest with
    | nil => exact ⟨rfl, rfl⟩
    | cons c cs => simp [(ends c rfl).1]
  rw [digitRun, List.takeWhile_append_of_pos all, List.dropWhile_append_of_pos all, stop.1, stop.2,
    List.append_nil]

theorem fraction?_of_ends {rest : List Char} (ends : Ends rest) :
    fraction? rest = some (none, rest) := by
  unfold fraction?
  split
  · exact absurd rfl (ends '.' rfl).2.1
  · rfl

theorem exponent?_of_ends {rest : List Char} (ends : Ends rest) :
    exponent? rest = some (none, rest) := by
  cases rest with
  | nil => rfl
  | cons c cs =>
      rcases ends c rfl with ⟨_, _, notSmall, notLarge⟩
      simp [exponent?, notSmall, notLarge]

/-- Digits of a number stand for themselves: there are some, and only zero begins with a zero. -/
theorem digits_cases (n : Nat) :
    ∃ d ds, Decimal.digits n = d :: ds ∧ d ≠ '-' ∧ (d = '0' → ds = []) := by
  rcases List.exists_cons_of_ne_nil (Decimal.digits_ne_nil n) with ⟨d, ds, digits⟩
  have digit : d.isDigit = true := Decimal.isDigit_of_mem_digits (n := n) (by simp [digits])
  refine ⟨d, ds, digits, ?_, ?_⟩
  · rintro rfl
    exact absurd digit (by decide)
  · rintro rfl
    rcases Nat.eq_zero_or_pos n with rfl | positive
    · simpa [Decimal.digits_zero] using digits.symm
    · exact absurd (by simp [digits]) (Decimal.head_digits_ne_zero positive)

/-- Behind its sign a number without point and exponent is read from its digits. -/
theorem read?_signed (minus : Bool) (n : Nat) {rest : List Char} (ends : Ends rest) :
    read? ((if minus then ['-'] else []) ++ (Decimal.digits n ++ rest)) =
      (ofParts? minus (Decimal.digits n) none none).map (·, rest) := by
  have run := digitRun_digits n ends
  rcases digits_cases n with ⟨d, ds, digits, notMinus, notZero⟩
  rw [digits] at run ⊢
  unfold read?
  split
  next _ minus' unsigned sign =>
  -- A sign is taken only where it was written, since no digit is one.
  have signed : minus' = minus ∧ unsigned = d :: ds ++ rest := by
    cases minus with
    | true =>
        cases sign
        exact ⟨rfl, rfl⟩
    | false =>
        split at sign
        · next same => exact absurd (List.cons.inj same).1 notMinus
        · cases sign
          exact ⟨rfl, rfl⟩
  rw [signed.1, signed.2]
  simp only [run]
  split
  · next none => cases none
  · next longZero =>
    rcases List.cons.inj longZero with ⟨zero, more⟩
    rw [notZero zero] at more
    cases more
  · simp only [fraction?_of_ends ends, exponent?_of_ends ends, Option.bind_eq_bind,
      Option.bind_some, Option.map_eq_bind]
    rfl

/-- A whole number is read back from its digits. -/
theorem read?_intText {i : Int} (small : i.natAbs < Nat.pow 10 15) {rest : List Char}
    (ends : Ends rest) : read? (Decimal.intText i ++ rest) = some (ofInt i, rest) := by
  have limits : Nat.pow 10 15 ≤ significandLimit ∧ Nat.pow 10 15 ≤ Nat.pow 2 63 := by decide
  have value : takeWhole 0 0 (Decimal.digits i.natAbs) = (i.natAbs, 0) := by
    have whole := Decimal.digitsValue_digits i.natAbs
    unfold Decimal.digitsValue at whole
    rw [takeWhole_of_lt (by omega), whole]
  have signed := read?_signed (decide (i < 0)) i.natAbs ends
  unfold Decimal.intText ofInt
  by_cases negative : i < 0
  · have positive : 0 < i.natAbs := Int.natAbs_pos.2 (by omega)
    have fits : i.natAbs ≤ Nat.pow 2 63 := by omega
    simpa [negative, ofParts?, value, positive, fits] using signed
  · simpa [negative, ofParts?, value] using signed

end JsonNumber

/-! ## Arrays and objects -/

namespace Json

theorem isSpace_of_isDigit {c : Char} (digit : c.isDigit = true) : isSpace c = false := by
  refine Bool.eq_false_iff.2 fun space => ?_
  have spaces : ((c = ' ' ∨ c = '\n') ∨ c = '\t') ∨ c = '\r' := by
    simpa [isSpace] using space
  rcases spaces with ((rfl | rfl) | rfl) | rfl
  all_goals exact absurd digit (by decide)

section Steps

variable {fuel levels : Nat} {cs body rest next : List Char} {item : Json}

/-- No space is skipped in front of a solid character. -/
theorem skipSpace_of_head {c : Char} (solid : isSpace c = false) (cs : List Char) :
    skipSpace (c :: cs) = c :: cs := by
  rw [skipSpace, List.dropWhile_cons_of_neg (by simp [solid])]

/-- A value that begins like a number is one. -/
theorem value?_number {c : Char} (first : c = '-' ∨ c.isDigit = true) :
    value? (fuel + 1) levels (c :: cs) =
      (JsonNumber.read? (c :: cs)).map fun (n, rest) => (.number n, rest) := by
  have other : ∀ d ∈ ['n', 't', 'f', '"', '[', '\x7b'], c ≠ d := by
    rintro d member rfl
    rcases first with rfl | digit
    · revert member
      decide
    · simp only [List.mem_cons, List.not_mem_nil, or_false] at member
      rcases member with rfl | rfl | rfl | rfl | rfl | rfl
      all_goals exact absurd digit (by decide)
  simp only [List.forall_mem_cons] at other
  unfold value?
  split
  all_goals simp_all

/-- An array that is not empty is read item by item. -/
theorem value?_array {c : Char} (solid : isSpace c = false) (notEnd : c ≠ ']') :
    value? (fuel + 1) (levels + 1) ('[' :: c :: cs) =
      (items? fuel levels (c :: cs)).map fun (items, rest) => (.array items, rest) := by
  have skipped := skipSpace_of_head solid cs
  cases read : items? fuel levels (c :: cs) with
  | none => simp [value?, skipped, notEnd, read]
  | some result => simp [value?, skipped, notEnd, read]

/-- The last item stands before the bracket. -/
theorem items?_last (read : value? fuel levels (skipSpace cs) = some (item, ']' :: rest)) :
    items? (fuel + 1) levels cs = some ([item], rest) := by
  have closing : skipSpace (']' :: rest) = ']' :: rest := skipSpace_of_head (by decide) rest
  simp [items?, read, closing]

/-- Another item follows a comma. -/
theorem items?_more {items : List Json}
    (read : value? fuel levels (skipSpace cs) = some (item, ',' :: next))
    (more : items? fuel levels next = some (items, rest)) :
    items? (fuel + 1) levels cs = some (item :: items, rest) := by
  have comma : skipSpace (',' :: next) = ',' :: next := skipSpace_of_head (by decide) next
  simp [items?, read, comma, more]

theorem value?_object :
    value? (fuel + 1) (levels + 1) ('\x7b' :: '"' :: cs) =
      (members? fuel levels ('"' :: cs)).map fun (members, rest) => (.object members, rest) := by
  have quote : skipSpace ('"' :: cs) = '"' :: cs := skipSpace_of_head (by decide) cs
  cases read : members? fuel levels ('"' :: cs) with
  | none => simp [value?, quote, read]
  | some result => simp [value?, quote, read]

section Members

variable {key : List Char} {members : List (String × Json)}
  (named : textBody? (body.length + 1) body = some (key, ':' :: cs))

include named

theorem members?_last (read : value? fuel levels (skipSpace cs) = some (item, '\x7d' :: rest)) :
    members? (fuel + 1) levels ('"' :: body) = some ([(String.ofList key, item)], rest) := by
  have quote : skipSpace ('"' :: body) = '"' :: body := skipSpace_of_head (by decide) body
  have colon : skipSpace (':' :: cs) = ':' :: cs := skipSpace_of_head (by decide) cs
  have closing : skipSpace ('\x7d' :: rest) = '\x7d' :: rest := skipSpace_of_head (by decide) rest
  simp [members?, quote, named, colon, read, closing]

/-- Another member follows a comma. -/
theorem members?_more (read : value? fuel levels (skipSpace cs) = some (item, ',' :: next))
    (more : members? fuel levels next = some (members, rest)) :
    members? (fuel + 1) levels ('"' :: body) =
      some ((String.ofList key, item) :: members, rest) := by
  have quote : skipSpace ('"' :: body) = '"' :: body := skipSpace_of_head (by decide) body
  have colon : skipSpace (':' :: cs) = ':' :: cs := skipSpace_of_head (by decide) cs
  have comma : skipSpace (',' :: next) = ',' :: next := skipSpace_of_head (by decide) next
  simp [members?, quote, named, colon, read, comma, more]

end Members

end Steps

end Json
end TemplateEngine
