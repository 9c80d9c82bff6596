import TemplateEngine.Proofs.Artifact.Scans

/-!
# Lexing of marks

Marks *lex* in a region when their spelling, read from there on, gives exactly their tokens. Each rule
below puts one mark in front of marks that lex, and asks of them only what their first character must
not be.
-/

namespace TemplateEngine
namespace Artifact

open Text (isBlank isNameStart isNamePart isName)

/-! ## Spelling of marks -/

@[simp]
theorem spell_nil : spell [] = [] := rfl

@[simp]
theorem spell_cons (m : Mark) (ms : List Mark) : spell (m :: ms) = m.spelling ++ spell ms := rfl

@[simp]
theorem spell_append (ms ms' : List Mark) : spell (ms ++ ms') = spell ms ++ spell ms' := by
  simp [spell]

/-! ## Marks that lex -/

/-- The spelling of the marks, read from the region on, splits into the tokens of the marks. -/
def Lexes (region : Region) (ms : List Mark) : Prop :=
  ∀ place, ∃ lexemes, lex region 0 place (spell ms) = .ok lexemes ∧
    lexemes.map Lexeme.token = tokensOf ms

/-- Marks lex to their tokens where their spelling scans to them. -/
theorem lexes_iff {region : Region} {ms : List Mark} :
    Lexes region ms ↔ Scans region (spell ms) (tokensOf ms) :=
  scans_iff_lex.symm

theorem lexes_nil : Lexes .text [] := lexes_iff.2 .done

theorem lexes_enter {ms : List Mark} (h : Lexes .island ms) : Lexes .text (.enter :: ms) :=
  lexes_iff.2 (.enter (lexes_iff.1 h))

theorem lexes_leave {ms : List Mark} (h : Lexes .text ms) : Lexes .island (.leave :: ms) :=
  lexes_iff.2 (.leave (lexes_iff.1 h))

theorem lexes_blank {ms : List Mark} (h : Lexes .island ms) : Lexes .island (.blank :: ms) :=
  lexes_iff.2 (.blank (by decide) (lexes_iff.1 h))

/-- Literal text is read up to the island behind it, if no island opens in it. -/
theorem lexes_text {s : String} {ms : List Mark} (nonempty : s.toList ≠ [])
    (noIsland : Text.occurs islandOpen s.toList = false)
    (opens : spell ms = [] ∨ ∃ more, spell ms = islandOpen ++ more) (h : Lexes .text ms) :
    Lexes .text (.text s :: ms) := by
  have scans := Scans.literal nonempty noIsland opens (lexes_iff.1 h)
  rw [String.ofList_toList] at scans
  exact lexes_iff.2 scans

/-- A token in front, if it is read from there and does not begin like white space or an end. -/
theorem lexes_token {t : Token} {ms : List Mark} {c : Char} {more : List Char}
    (spelled : t.spelling = c :: more) (solid : isBlank c = false)
    (inside : islandClose.isPrefixOf (c :: (more ++ spell ms)) = false)
    (read : Token.read (t.spelling ++ spell ms) = .ok (t, t.spelling)) (h : Lexes .island ms) :
    Lexes .island (.token t :: ms) := by
  rw [spelled, List.cons_append] at read
  have scans := Scans.token solid inside read (lexes_iff.1 h)
  rw [← List.cons_append, ← spelled] at scans
  exact lexes_iff.2 scans

/-! ## Tokens in front -/

/-- Only a percent sign begins the closing marker of an island. -/
theorem not_islandClose {c : Char} (ne : '%' ≠ c) (cs : List Char) :
    islandClose.isPrefixOf (c :: cs) = false := by
  simp [islandClose, List.isPrefixOf, ne]

/-- A quoted text is read back with its escapes. -/
theorem lexes_quoted (s : String) {ms : List Mark} (h : Lexes .island ms) :
    Lexes .island (.token (.quoted s) :: ms) :=
  lexes_token rfl (by decide) (not_islandClose (by decide) _) (read_quoted s _) h

theorem lexes_var {name : String} {ms : List Mark} (isName : isName name.toList = true)
    (breaks : Breaks (spell ms)) (h : Lexes .island ms) :
    Lexes .island (.token (.var name) :: ms) :=
  lexes_token rfl (by decide) (not_islandClose (by decide) _) (read_var isName breaks) h

/-- A word is read as a name or a keyword where nothing goes on with it. -/
theorem lexes_word {word : List Char} {ms : List Mark} (name : isName word = true)
    (breaks : Breaks (spell ms)) (h : Lexes .island ms) :
    Lexes .island (.token (.ofWord word) :: ms) := by
  have read := read_word name breaks
  rw [← spelling_ofWord word] at read
  cases word with
  | nil => simp [isName] at name
  | cons c more =>
      have start : isNameStart c = true := (Bool.and_eq_true_iff.1 name).1
      have notClose : '%' ≠ c := (Text.ne_of_class start (by decide)).symm
      refine lexes_token (spelling_ofWord _) (Text.not_isBlank_of_isNameStart start) ?_ ?_ h
      · exact not_islandClose notClose _
      · rw [spelling_ofWord] at read ⊢
        exact read

theorem lexes_keyword (k : Keyword) {ms : List Mark} (breaks : Breaks (spell ms))
    (h : Lexes .island ms) : Lexes .island (.keyword k :: ms) := by
  have here := lexes_word (isName_keyword k) breaks h
  rwa [ofWord_keyword] at here

/-- A whole number of at most 53 binary digits is read back. -/
theorem lexes_digits {n : Nat} {ms : List Mark} (small : n < Nat.pow 2 53)
    (breaks : Breaks (spell ms)) (h : Lexes .island ms) :
    Lexes .island (.token (.number (.ofNat n)) :: ms) := by
  have spelled := spelling_number small
  have read := read_digits breaks n
  rcases digits_cons n with ⟨c, more, digits, digit⟩
  have notClose : '%' ≠ c := (Text.ne_of_class digit (by decide)).symm
  refine lexes_token (spelled.trans digits) (Text.not_isBlank_of_isDigit digit) ?_ ?_ h
  · exact not_islandClose notClose _
  · rwa [spelled]

/-- A member name is read back as the token that it is. -/
theorem lexes_field {field : String} {ms : List Mark} (isField : IsField field)
    (breaks : Breaks (spell ms)) (h : Lexes .island ms) :
    Lexes .island (.token (.ofField field) :: ms) := by
  rcases isField with name | ⟨n, small, spelled⟩
  · rw [Token.ofField, if_pos name]
    exact lexes_word name breaks h
  · rw [ofField_digits spelled]
    exact lexes_digits small breaks h

/-- A symbol is read back where what stands behind it makes no longer one. -/
theorem lexes_symbol (s : Symbol) {ms : List Mark} (calm : Calm (spell ms))
    (h : Lexes .island ms) : Lexes .island (.symbol s :: ms) := by
  have read := read_symbol s calm
  have solid : (Token.symbol s).spelling.all (fun c => !isBlank c) = true := by
    cases s <;> decide
  -- Only a percent sign could look like an end, and no `>` follows it.
  have inside : islandClose.isPrefixOf ((Token.symbol s).spelling ++ spell ms) = false := by
    cases s
    case percent =>
      cases chars : spell ms with
      | nil => rfl
      | cons c cs =>
          have notGreater : '>' ≠ c := ((calm c (by simp [chars])).2).symm
          simp [islandClose, List.isPrefixOf, Token.spelling, Symbol.spelling, notGreater]
    all_goals exact not_islandClose (by decide) _
  cases spelled : (Token.symbol s).spelling with
  | nil => cases s <;> cases spelled
  | cons c more =>
      rw [spelled] at solid inside
      have notBlank : isBlank c = false := by
        have first := (Bool.and_eq_true_iff.1 solid).1
        simpa using first
      exact lexes_token spelled notBlank inside read h

end Artifact
end TemplateEngine
