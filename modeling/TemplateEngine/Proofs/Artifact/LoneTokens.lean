import TemplateEngine.Proofs.Artifact.Lexing

/-!
# Lone tokens

Which token characters denote is told by the characters alone: what is read as a token is read as the same
token in an island of its own, with any white space around it or none.
-/

namespace TemplateEngine
namespace Artifact

open Text (isBlank isName isNameStart isNamePart)

/-! ## What denotes a token -/

/-- The characters that a token of an island is read from. -/
inductive Denotes : List Char → Token → Prop
  | var {name} (isName : isName name = true) : Denotes ('$' :: name) (.var (String.ofList name))
  | word {word} (isName : isName word = true) : Denotes word (.ofWord word)
  | quoted {quote body within} (mark : quote = '"' ∨ quote = '\'')
      (closed : quotedBody? quote within = some (body, within)) :
      Denotes (quote :: within) (.quoted (String.ofList body))
  | whole {c digits} (digit : c.isDigit = true) (whole : wholeDigits (c :: digits) = c :: digits) :
      Denotes (c :: digits) (.number (.ofNat (Decimal.digitsValue (c :: digits))))
  | decimal {c digits places} (digit : c.isDigit = true)
      (whole : wholeDigits (c :: digits) = c :: digits) (nonempty : places ≠ [])
      (all : places.all Char.isDigit = true) :
      Denotes (c :: (digits ++ '.' :: places))
        (.number (.ofDecimal false (Decimal.digitsValue (c :: digits ++ places)) (-(places.length : Int))))
  | symbol (s : Symbol) : Denotes s.spelling.toList (.symbol s)

/-- No token begins with white space, and none but the percent sign begins with a percent sign. -/
theorem Denotes.head {cs : List Char} {t : Token} (h : Denotes cs t) :
    ∃ c word, cs = c :: word ∧ isBlank c = false ∧ (c = '%' → word = []) := by
  cases h with
  | var => exact ⟨_, _, rfl, by decide, fun percent => absurd percent (by decide)⟩
  | word name =>
      cases cs with
      | nil => cases name
      | cons c cs =>
          have start : isNameStart c = true := (Bool.and_eq_true_iff.1 name).1
          exact ⟨c, cs, rfl, Text.not_isBlank_of_isNameStart start, fun percent =>
            absurd percent (Text.ne_of_class start (by decide))⟩
  | quoted mark =>
      rcases mark with rfl | rfl
      all_goals exact ⟨_, _, rfl, by decide, fun percent => absurd percent (by decide)⟩
  | whole digit =>
      exact ⟨_, _, rfl, Text.not_isBlank_of_isDigit digit, fun percent =>
        absurd percent (Text.ne_of_class digit (by decide))⟩
  | decimal digit =>
      exact ⟨_, _, rfl, Text.not_isBlank_of_isDigit digit, fun percent =>
        absurd percent (Text.ne_of_class digit (by decide))⟩
  | symbol s => cases s <;> exact ⟨_, _, rfl, by decide, by decide⟩

/-! ## Numbers -/

/-- The digits before the point are the same with nothing behind them, and with what is no digit. -/
theorem wholeDigits_append {c : Char} {digits more rest : List Char} (digit : c.isDigit = true)
    (whole : wholeDigits (c :: (digits ++ more)) = c :: digits)
    (stop : ∀ d ∈ rest.head?, d.isDigit = false) :
    wholeDigits (c :: (digits ++ rest)) = c :: digits := by
  by_cases zero : c = '0'
  · subst zero
    cases (List.cons.inj whole).2
    rfl
  · rw [wholeDigits_of_ne_zero digit zero, List.cons.injEq] at whole
    have all : digits.all Char.isDigit = true := by
      rw [← whole.2]
      exact List.all_takeWhile ..
    rw [wholeDigits_of_ne_zero digit zero, Text.takeWhile_append_of_all all stop]

/-- Digits with nothing behind them that goes on with a number are a whole number. -/
theorem numberAfter_of_breaks {whole rest : List Char} (breaks : Breaks rest) :
    numberAfter whole rest = .ok (.ofNat (Decimal.digitsValue whole), whole) := by
  unfold numberAfter
  split
  · next cs => exact absurd rfl (breaks '.' rfl).2
  · rfl

/-- Digits with a point and more digits behind them are a decimal number. -/
theorem numberAfter_places {whole places rest : List Char} (nonempty : places ≠ [])
    (all : places.all Char.isDigit = true) (stop : ∀ d ∈ rest.head?, d.isDigit = false) :
    numberAfter whole ('.' :: (places ++ rest)) =
      .ok (.ofDecimal false (Decimal.digitsValue (whole ++ places)) (-(places.length : Int)),
        whole ++ '.' :: places) := by
  have taken := Text.takeWhile_append_of_all all stop
  simp only [numberAfter, taken, List.isEmpty_eq_false_iff.2 nonempty, Bool.false_eq_true, if_false]

/-! ## Reading what denotes a token -/

/-- What denotes a token is read as that token, unless what stands behind goes on with it. -/
theorem Denotes.read {cs rest : List Char} {t : Token} (h : Denotes cs t) (breaks : Breaks rest)
    (calm : Calm rest) : Token.read (cs ++ rest) = .ok (t, cs) := by
  -- What breaks a word is not a digit either.
  have stop := breaks.noDigit
  cases h with
  | @var name isName =>
      have named : Text.isName (String.ofList name).toList = true := by rwa [String.toList_ofList]
      simpa [Token.spelling] using read_var named breaks
  | word isName => exact read_word isName breaks
  | quoted mark closed =>
      rcases quotedBody?_ends closed with ⟨more, -, stays⟩
      exact read_of_quote mark (stays rest)
  | @whole c digits digit whole =>
      have number : readNumber (c :: digits ++ rest) = _ :=
        readNumber_of_wholeDigits (wholeDigits_append digit (by rwa [List.append_nil]) stop)
      rw [List.cons_append] at number ⊢
      rw [read_of_isDigit digit, number, numberAfter_of_breaks breaks]
      rfl
  | @decimal c digits places digit whole nonempty all =>
      have point : ∀ d ∈ ('.' :: (places ++ rest)).head?, d.isDigit = false := by
        rintro d ⟨⟩
        decide
      have number : readNumber (c :: digits ++ '.' :: (places ++ rest)) = _ :=
        readNumber_of_wholeDigits (wholeDigits_append digit (by rwa [List.append_nil]) point)
      rw [numberAfter_places nonempty all stop] at number
      have chars : c :: (digits ++ '.' :: places) ++ rest =
          c :: (digits ++ '.' :: (places ++ rest)) := by simp
      rw [List.cons_append] at number
      rw [chars, read_of_isDigit digit, number]
      rfl
  | symbol s => exact read_symbol s calm

/-! ## What is read denotes a token -/

theorem doubleSymbol?_spelling {c d : Char} {s : Symbol} (double : doubleSymbol? c d = some s) :
    s.spelling.toList = [c, d] := by
  unfold doubleSymbol? at double
  split at double
  all_goals cases double
  all_goals decide

theorem singleSymbol?_spelling {c : Char} {s : Symbol} (single : singleSymbol? c = some s) :
    s.spelling.toList = [c] := by
  unfold singleSymbol? at single
  split at single
  all_goals cases single
  all_goals decide

/-- The characters that are taken for a symbol are its spelling. -/
theorem readSymbol_spelling {c : Char} {cs taken : List Char} {s : Symbol}
    (found : readSymbol c cs = .ok (s, taken)) : taken = s.spelling.toList := by
  unfold readSymbol at found
  split at found
  · next both longer =>
    rcases Option.bind_eq_some_iff.1 longer with ⟨d, -, pair⟩
    rcases Option.map_eq_some_iff.1 pair with ⟨t, double, rfl⟩
    cases found
    exact (doubleSymbol?_spelling double).symm
  · split at found
    · next t single =>
      cases found
      exact (singleSymbol?_spelling single).symm
    · cases found

/-- A number is denoted by the characters that are taken for it. -/
theorem denotes_of_readNumber {c : Char} {cs taken : List Char} {d : Double}
    (digit : c.isDigit = true) (found : readNumber (c :: cs) = .ok (d, taken)) :
    Denotes taken (.number d) := by
  rcases wholeDigits_ends digit cs with ⟨word, more, digits, rfl, -⟩
  have whole : wholeDigits (c :: (word ++ [])) = c :: word :=
    wholeDigits_append digit digits fun _ member => nomatch member
  rw [List.append_nil] at whole
  rw [← List.cons_append] at found digits
  rw [readNumber_of_wholeDigits digits] at found
  unfold numberAfter at found
  split at found
  · next rest =>
    simp only at found
    split at found
    · cases found
    · next nonempty =>
      simp only [Except.ok.injEq, Prod.mk.injEq] at found
      rcases found with ⟨rfl, rfl⟩
      exact .decimal digit whole (by simpa using nonempty) (List.all_takeWhile ..)
  · simp only [Except.ok.injEq, Prod.mk.injEq] at found
    rcases found with ⟨rfl, rfl⟩
    exact .whole digit whole

/-- What is read as a token denotes it. -/
theorem denotes_of_read {cs taken : List Char} {t : Token}
    (found : Token.read cs = .ok (t, taken)) : Denotes taken t := by
  cases cs with
  | nil => cases found
  | cons c cs =>
      -- The first character decides which reader has taken the token.
      by_cases sigil : c = '$'
      · subst sigil
        cases cs with
        | nil => simp [Token.read] at found
        | cons d ds =>
            cases start : isNameStart d with
            | false => simp [Token.read, start] at found
            | true =>
                have part := Text.isNamePart_of_isNameStart start
                have name : isName ((d :: ds).takeWhile isNamePart) = true := by
                  rw [List.takeWhile_cons_of_pos part, isName, start, List.all_takeWhile]
                  rfl
                simp only [Token.read, start, if_true] at found
                cases found
                exact .var name
      by_cases quote : c = '"' ∨ c = '\''
      · cases closed : quotedBody? c cs with
        | none => simp [Token.read, sigil, quote, closed] at found
        | some result =>
            rcases result with ⟨body, within⟩
            rw [read_of_quote quote closed] at found
            cases found
            rcases quotedBody?_ends closed with ⟨more, -, stays⟩
            have alone := stays []
            rw [List.append_nil] at alone
            exact .quoted quote alone
      cases digit : c.isDigit with
      | true =>
          rw [read_of_isDigit digit] at found
          rcases eq_of_map_ok found with ⟨⟨d, digits⟩, number, same⟩
          cases same
          exact denotes_of_readNumber digit number
      | false =>
          cases start : isNameStart c with
          | true =>
              have part := Text.isNamePart_of_isNameStart start
              have name : isName ((c :: cs).takeWhile isNamePart) = true := by
                rw [List.takeWhile_cons_of_pos part, isName, start, List.all_takeWhile]
                rfl
              rw [read_of_isNameStart start] at found
              cases found
              exact .word name
          | false =>
              have sign : isSign c = true := by simp [isSign, sigil, not_or.1 quote, digit, start]
              rw [read_sign sign] at found
              rcases eq_of_map_ok found with ⟨⟨s, signs⟩, symbol, same⟩
              cases same
              rw [readSymbol_spelling symbol]
              exact .symbol s

/-! ## Islands of one token -/

/-- White space and the closing marker end every token. -/
theorem breaks_and_calm_of_blank {spacing : List Char} (blank : ∀ c ∈ spacing, isBlank c = true)
    (rest : List Char) :
    Breaks (spacing ++ (islandClose ++ rest)) ∧ Calm (spacing ++ (islandClose ++ rest)) := by
  cases spacing with
  | nil =>
      constructor
      all_goals
        rintro c ⟨⟩
        decide
  | cons c spacing =>
      have here : isBlank c = true := blank c List.mem_cons_self
      have notPart := Text.not_isNamePart_of_isBlank here
      constructor
      all_goals rintro d ⟨⟩
      · exact ⟨notPart, Text.ne_of_class here (by decide)⟩
      · exact ⟨Text.ne_of_class here (by decide), Text.ne_of_class here (by decide)⟩

/-- White space in front of the tokens of an island is passed over. -/
theorem Scans.blanks {spacing more : List Char} {tokens : List Token}
    (blank : ∀ c ∈ spacing, isBlank c = true) (follow : Scans .island more tokens) :
    Scans .island (spacing ++ more) tokens := by
  induction spacing with
  | nil => exact follow
  | cons c spacing ih =>
      exact .blank (blank c List.mem_cons_self) (ih fun d member =>
        blank d (List.mem_cons_of_mem c member))

/-- What denotes a token is read as that token where white space or the end of the island is behind it. -/
theorem Denotes.scans {cs spacing rest : List Char} {t : Token} {tokens : List Token}
    (h : Denotes cs t) (blank : ∀ c ∈ spacing, isBlank c = true) (follow : Scans .text rest tokens) :
    Scans .island (cs ++ (spacing ++ (islandClose ++ rest))) (t :: .symbol .semicolon :: tokens) := by
  rcases breaks_and_calm_of_blank blank rest with ⟨breaks, calm⟩
  have read := h.read breaks calm
  rcases h.head with ⟨c, word, rfl, solid, percent⟩
  refine .token solid ?_ read (.blanks blank (.leave follow))
  by_cases same : c = '%'
  · -- A percent sign would close the island with a `>` behind it, which is not there.
    cases percent same
    cases behind : spacing ++ (islandClose ++ rest) with
    | nil => rw [same]; rfl
    | cons d ds =>
        have notGreater : '>' ≠ d := ((calm d (by simp [behind])).2).symm
        simp [islandClose, List.isPrefixOf, notGreater]
  · exact not_islandClose (Ne.symm same) _

end Artifact
end TemplateEngine
