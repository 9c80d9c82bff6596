import TemplateEngine.Proofs.Artifact.Spelling

/-!
# Where a token ends

A token is read from at least one character, and the characters it is read from stand at the head of the
text. What ends it is the character behind it: where there is one, it does not matter what follows.
-/

namespace TemplateEngine
namespace Artifact

open Text (isNameStart isNamePart)

/-- The characters taken are at the head of the text, `c` the first of them; where any are left, the same
are taken whatever stands behind the first of those. -/
def Ends {α : Type} (read : List Char → Except (List Char) (α × List Char)) (c : Char)
    (cs : List Char) (a : α) (taken : List Char) : Prop :=
  ∃ word more, taken = c :: word ∧ cs = word ++ more ∧
    ∀ d ∈ more.head?, ∀ behind, read (c :: (word ++ d :: behind)) = .ok (a, taken)

theorem eq_of_map_ok {ε α β : Type} {f : α → β} {result : Except ε α} {b : β}
    (h : result.map f = .ok b) : ∃ a, result = .ok a ∧ b = f a := by
  cases result with
  | error e => cases h
  | ok a =>
      cases h
      exact ⟨a, rfl, rfl⟩

/-! ## Words and quoted texts -/

/-- The characters that are taken while they are of a kind end at the first that is not. -/
theorem takeWhile_append_of_left {p : Char → Bool} {cs : List Char} {d : Char}
    (left : d ∈ (cs.dropWhile p).head?) (behind : List Char) :
    (cs.takeWhile p ++ d :: behind).takeWhile p = cs.takeWhile p := by
  refine Text.takeWhile_append_of_all (List.all_takeWhile ..) ?_
  rintro e ⟨⟩
  have stops := List.head?_dropWhile_not p cs
  rw [left] at stops
  simpa using stops

/-- What is taken of a quoted text does not depend on what stands behind it. -/
theorem quotedBody?_ends {quote : Char} {cs body taken : List Char}
    (found : quotedBody? quote cs = some (body, taken)) :
    ∃ more, cs = taken ++ more ∧
      ∀ behind, quotedBody? quote (taken ++ behind) = some (body, taken) := by
  fun_induction quotedBody? quote cs generalizing body taken with
  | case1 => cases found
  | case2 =>
      cases found
      exact ⟨_, rfl, fun behind => quotedBody?_close quote _⟩
  | case3 => cases found
  | @case4 d ds notQuote ih =>
      rcases Option.map_eq_some_iff.1 found with ⟨⟨inner, within⟩, closed, same⟩
      cases same
      rcases ih closed with ⟨more, rfl, stays⟩
      refine ⟨more, rfl, fun behind => ?_⟩
      have escape := quotedBody?_escape (Ne.symm notQuote) d (within ++ behind)
      rw [stays] at escape
      exact escape
  | @case5 c cs notQuote notBackslash ih =>
      rcases Option.map_eq_some_iff.1 found with ⟨⟨inner, within⟩, closed, same⟩
      cases same
      rcases ih closed with ⟨more, rfl, stays⟩
      refine ⟨more, rfl, fun behind => ?_⟩
      have plain := quotedBody?_plain notQuote notBackslash (within ++ behind)
      rw [stays] at plain
      exact plain

/-! ## Numbers -/

/-- The digits before a point end where something else than a digit follows. -/
theorem wholeDigits_ends {c : Char} (digit : c.isDigit = true) (cs : List Char) :
    ∃ word more, wholeDigits (c :: cs) = c :: word ∧ cs = word ++ more ∧
      ∀ d ∈ more.head?, ∀ behind, wholeDigits (c :: (word ++ d :: behind)) = c :: word := by
  by_cases zero : c = '0'
  · subst zero
    exact ⟨[], cs, rfl, rfl, fun _ _ _ => rfl⟩
  · have run := wholeDigits_of_ne_zero digit zero
    refine ⟨cs.takeWhile Char.isDigit, cs.dropWhile Char.isDigit, run cs,
      List.takeWhile_append_dropWhile.symm, fun d left behind => ?_⟩
    rw [run, takeWhile_append_of_left left]

/-- A number by its digits before the point and what stands behind them. -/
def numberAfter (whole : List Char) : List Char → Except (List Char) (Double × List Char)
  | '.' :: rest =>
      let places := rest.takeWhile Char.isDigit
      if places.isEmpty then .error rest
      else
        .ok (Double.ofDecimal false (Decimal.digitsValue (whole ++ places)) (-(places.length : Int)),
          whole ++ '.' :: places)
  | _ => .ok (Double.ofNat (Decimal.digitsValue whole), whole)

/-- A number is its digits before the point and what can be read behind them. -/
theorem readNumber_of_wholeDigits {whole more : List Char}
    (digits : wholeDigits (whole ++ more) = whole) :
    readNumber (whole ++ more) = numberAfter whole more := by
  rw [readNumber, digits, List.drop_left]
  rfl

/-- What is taken behind the digits depends only on the next character. -/
theorem numberAfter_ends {whole more taken : List Char} {d : Double}
    (found : numberAfter whole more = .ok (d, taken)) :
    ∃ places rest, taken = whole ++ places ∧ more = places ++ rest ∧
      ∀ e ∈ rest.head?, ∀ behind, numberAfter whole (places ++ e :: behind) = .ok (d, taken) := by
  cases more with
  | nil =>
      simp only [numberAfter, Except.ok.injEq, Prod.mk.injEq] at found
      rcases found with ⟨-, rfl⟩
      exact ⟨[], [], by simp, rfl, by simp⟩
  | cons e rest =>
      -- With a point the digits behind it are taken too, and the end of these is what must stay.
      by_cases point : e = '.'
      · subst point
        simp only [numberAfter] at found
        split at found
        · cases found
        · next places =>
            simp only [Except.ok.injEq, Prod.mk.injEq] at found
            rcases found with ⟨value, rfl⟩
            refine ⟨'.' :: rest.takeWhile Char.isDigit, rest.dropWhile Char.isDigit, rfl, ?_, ?_⟩
            · rw [List.cons_append, List.takeWhile_append_dropWhile]
            · intro e left behind
              simp only [List.cons_append, numberAfter, takeWhile_append_of_left left, value,
                if_neg places]
      · have plain (rest : List Char) :
            numberAfter whole (e :: rest) = .ok (Double.ofNat (Decimal.digitsValue whole), whole) := by
          unfold numberAfter
          split
          · next same => exact absurd (List.cons.inj same).1 point
          · rfl
        rw [plain, Except.ok.injEq, Prod.mk.injEq] at found
        rcases found with ⟨rfl, rfl⟩
        refine ⟨[], e :: rest, by simp, rfl, ?_⟩
        rintro _ ⟨⟩ behind
        exact plain behind

/-- What is taken of a number depends only on the character behind it. -/
theorem readNumber_ends {c : Char} {cs taken : List Char} {d : Double} (digit : c.isDigit = true)
    (found : readNumber (c :: cs) = .ok (d, taken)) : Ends readNumber c cs d taken := by
  rcases wholeDigits_ends digit cs with ⟨word, more, digits, rfl, stays⟩
  rw [← List.cons_append] at found digits
  rw [readNumber_of_wholeDigits digits] at found
  rcases numberAfter_ends found with ⟨places, rest, rfl, rfl, keeps⟩
  refine ⟨word ++ places, rest, rfl, by rw [List.append_assoc], fun e left behind => ?_⟩
  -- What ends the digits before the point is the point, or what ends the number.
  have digits' : wholeDigits (c :: word ++ (places ++ e :: behind)) = c :: word := by
    cases places with
    | nil => exact stays e left behind
    | cons point others => exact stays point rfl (others ++ e :: behind)
  rw [List.append_assoc, ← List.cons_append, readNumber_of_wholeDigits digits', keeps e left]

/-! ## Symbols -/

/-- What is taken of a symbol depends only on the character behind it. -/
theorem readSymbol_ends {c : Char} {cs taken : List Char} {s : Symbol}
    (found : readSymbol c cs = .ok (s, taken)) :
    ∃ word more, taken = c :: word ∧ cs = word ++ more ∧
      ∀ d ∈ more.head?, ∀ behind, readSymbol c (word ++ d :: behind) = .ok (s, taken) := by
  have single {cs : List Char}
      (none : (cs.head?.bind fun d => (doubleSymbol? c d).map fun s => (s, [c, d])) = none)
      (found : readSymbol c cs = .ok (s, taken)) : singleSymbol? c = some s ∧ taken = [c] := by
    unfold readSymbol at found
    rw [none] at found
    cases alone : singleSymbol? c with
    | none => simp [alone] at found
    | some t =>
        simp only [alone] at found
        cases found
        exact ⟨rfl, rfl⟩
  cases cs with
  | nil =>
      rcases single rfl found with ⟨-, rfl⟩
      exact ⟨[], [], rfl, rfl, by simp⟩
  | cons d ds =>
      cases double : doubleSymbol? c d with
      | some t =>
          have pair (rest : List Char) : readSymbol c (d :: rest) = .ok (t, [c, d]) := by
            simp [readSymbol, double]
          rw [pair] at found
          cases found
          exact ⟨[d], ds, rfl, rfl, fun e _ behind => pair (e :: behind)⟩
      | none =>
          rcases single (by simp [double]) found with ⟨alone, rfl⟩
          refine ⟨[], d :: ds, rfl, rfl, ?_⟩
          rintro _ ⟨⟩ behind
          simp [readSymbol, double, alone]

/-! ## Tokens -/

/-- A token is read from characters at the head of the text, and what ends it is the next one. -/
theorem read_ends {c : Char} {cs taken : List Char} {t : Token}
    (found : Token.read (c :: cs) = .ok (t, taken)) : Ends Token.read c cs t taken := by
  -- The first character decides which reader takes the token, so each kind is one case.
  by_cases sigil : c = '$'
  · subst sigil
    cases cs with
    | nil => simp [Token.read] at found
    | cons d ds =>
        cases start : isNameStart d with
        | false => simp [Token.read, start] at found
        | true =>
            have read (rest : List Char) : Token.read ('$' :: d :: rest) =
                .ok (.var (String.ofList ((d :: rest).takeWhile isNamePart)),
                  '$' :: (d :: rest).takeWhile isNamePart) := by
              simp [Token.read, start]
            rw [read] at found
            cases found
            have part := Text.isNamePart_of_isNameStart start
            refine ⟨_, (d :: ds).dropWhile isNamePart, rfl,
              List.takeWhile_append_dropWhile.symm, fun e left behind => ?_⟩
            have word := takeWhile_append_of_left left behind
            rw [List.takeWhile_cons_of_pos part, List.cons_append] at word ⊢
            rw [read, word]
  by_cases quote : c = '"' ∨ c = '\''
  · cases closed : quotedBody? c cs with
    | none => simp [Token.read, sigil, quote, closed] at found
    | some result =>
        rcases result with ⟨inner, within⟩
        rw [read_of_quote quote closed] at found
        cases found
        rcases quotedBody?_ends closed with ⟨more, rfl, stays⟩
        exact ⟨within, more, rfl, rfl, fun d _ behind => read_of_quote quote (stays (d :: behind))⟩
  cases digit : c.isDigit with
  | true =>
      rw [read_of_isDigit digit] at found
      rcases eq_of_map_ok found with ⟨⟨d, digits⟩, number, same⟩
      cases same
      rcases readNumber_ends digit number with ⟨word, more, rfl, rfl, stays⟩
      refine ⟨word, more, rfl, rfl, fun e left behind => ?_⟩
      rw [read_of_isDigit digit, stays e left]
      rfl
  | false =>
      cases start : isNameStart c with
      | true =>
          have read := read_of_isNameStart start
          have part := Text.isNamePart_of_isNameStart start
          rw [read] at found
          cases found
          refine ⟨cs.takeWhile isNamePart, cs.dropWhile isNamePart,
            List.takeWhile_cons_of_pos part, List.takeWhile_append_dropWhile.symm,
            fun d left behind => ?_⟩
          rw [read, List.takeWhile_cons_of_pos part, List.takeWhile_cons_of_pos part,
            takeWhile_append_of_left left]
      | false =>
          have sign : isSign c = true := by simp [isSign, sigil, not_or.1 quote, digit, start]
          have read := read_sign sign
          rw [read] at found
          rcases eq_of_map_ok found with ⟨⟨s, signs⟩, symbol, same⟩
          cases same
          rcases readSymbol_ends symbol with ⟨word, more, rfl, rfl, stays⟩
          refine ⟨word, more, rfl, rfl, fun d left behind => ?_⟩
          rw [read, stays d left]
          rfl

/-- A token of an island, and the closing marker that it is not, are read the same with anything else
behind the first character that it leaves. -/
theorem token_of_head {t : Token} {c : Char} {word more more' : List Char} (left : more ≠ [])
    (same : more'.head? = more.head?)
    (inside : islandClose.isPrefixOf (c :: (word ++ more)) = false)
    (found : Token.read (c :: (word ++ more)) = .ok (t, c :: word)) :
    islandClose.isPrefixOf (c :: (word ++ more')) = false ∧
      Token.read (c :: (word ++ more')) = .ok (t, c :: word) := by
  rcases List.exists_cons_of_ne_nil left with ⟨d, ds, rfl⟩
  rcases List.head?_eq_some_iff.1 same with ⟨ds', rfl⟩
  constructor
  · cases word with
    | nil => simpa [islandClose, List.isPrefixOf] using inside
    | cons e word => simpa [islandClose, List.isPrefixOf] using inside
  · rcases read_ends found with ⟨word', more', taken, split, stays⟩
    cases taken
    cases List.append_cancel_left split
    exact stays d rfl ds'

/-- Inside an island no token is literal text. -/
theorem read_ne_text {cs read : List Char} {s : String} : Token.read cs ≠ .ok (.text s, read) := by
  cases cs with
  | nil => simp [Token.read]
  | cons c cs =>
      have word (name : List Char) : Token.ofWord name ≠ .text s := by
        cases found : Keyword.ofWord? (String.ofList name) <;> simp [Token.ofWord, found]
      -- One case for each kind of character that a token begins with.
      by_cases sigil : c = '$'
      · cases cs with
        | nil => simp [Token.read, sigil]
        | cons d cs => cases start : isNameStart d <;> simp [Token.read, sigil, start]
      by_cases quote : c = '"' ∨ c = '\''
      · cases found : quotedBody? c cs <;> simp [Token.read, sigil, quote, found]
      cases digit : c.isDigit with
      | true =>
          cases found : readNumber (c :: cs) <;>
            simp [Token.read, sigil, quote, digit, found, Except.map]
      | false =>
          cases start : isNameStart c with
          | true => simp [Token.read, sigil, quote, digit, start, word]
          | false =>
              cases found : readSymbol c cs <;>
                simp [Token.read, sigil, quote, digit, start, found, Except.map]

end Artifact
end TemplateEngine
