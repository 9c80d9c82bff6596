import TemplateEngine.Proofs.Artifact.LexSteps

/-!
# Divisions — the literal texts and the islands of an artifact

An artifact that splits into tokens is made of literal texts and of islands, and each lexeme belongs to
one of them. An island up to its closing marker is read the same whatever stands behind it.
-/

namespace TemplateEngine
namespace Artifact

open Text (isBlank occurs)

/-- A stretch of an artifact: literal text, or an island with its markers. -/
inductive Segment
  | text (cs : List Char)
  | island (cs : List Char)
  deriving DecidableEq, Repr

def Segment.chars : Segment → List Char
  | .text cs => cs
  | .island cs => cs

def segmentChars (segments : List Segment) : List Char := segments.flatMap Segment.chars

theorem segmentChars_cons (segment : Segment) (segments : List Segment) :
    segmentChars (segment :: segments) = segment.chars ++ segmentChars segments := rfl

/-- An island behind its opening marker, up to and with its closing marker, and its lexemes. -/
inductive Interior : (place : Nat) → List Char → List Lexeme → Prop
  | close (place : Nat) : Interior place islandClose [⟨.symbol .semicolon, place, place + 2⟩]
  | blank {place c cs lexemes} (blank : isBlank c = true)
      (follow : Interior (place + 1) cs lexemes) : Interior place (c :: cs) lexemes
  | token {place t c word cs lexemes} (solid : isBlank c = false)
      (inside : islandClose.isPrefixOf (c :: (word ++ cs)) = false)
      (found : Token.read (c :: (word ++ cs)) = .ok (t, c :: word))
      (follow : Interior (place + (word.length + 1)) cs lexemes) :
      Interior place (c :: (word ++ cs)) (⟨t, place, place + (word.length + 1)⟩ :: lexemes)

/-- Segments and their lexemes: a literal text is one lexeme and goes up to an island or to the end, and
an island has the lexemes of its interior. -/
inductive Divides : (place : Nat) → List Segment → List Lexeme → Prop
  | done (place : Nat) : Divides place [] []
  | text {place s segments lexemes} (nonempty : s ≠ []) (noIsland : occurs islandOpen s = false)
      (bound : segments = [] ∨ ∃ cs more, segments = .island cs :: more)
      (follow : Divides (place + s.length) segments lexemes) :
      Divides place (.text s :: segments)
        (⟨.text (String.ofList s), place, place + s.length⟩ :: lexemes)
  | island {place cs lexemes segments later} (inside : Interior (place + 2) cs lexemes)
      (follow : Divides (place + 2 + cs.length) segments later) :
      Divides place (.island (islandOpen ++ cs) :: segments) (lexemes ++ later)

theorem Interior.ne_nil {place : Nat} {cs : List Char} {lexemes : List Lexeme}
    (h : Interior place cs lexemes) : cs ≠ [] := by
  cases h <;> simp [islandClose]

/-- What stands behind an island does not change its first character. -/
theorem Interior.head? {place : Nat} {cs : List Char} {lexemes : List Lexeme}
    (h : Interior place cs lexemes) (rest : List Char) : (cs ++ rest).head? = cs.head? := by
  rcases List.exists_cons_of_ne_nil h.ne_nil with ⟨d, ds, rfl⟩
  rfl

/-- A token of an island is read the same whatever stands behind the island. -/
theorem Interior.token_append {place : Nat} {t : Token} {c : Char} {word cs : List Char}
    {lexemes : List Lexeme} (h : Interior place cs lexemes)
    (inside : islandClose.isPrefixOf (c :: (word ++ cs)) = false)
    (found : Token.read (c :: (word ++ cs)) = .ok (t, c :: word)) (rest : List Char) :
    islandClose.isPrefixOf (c :: (word ++ (cs ++ rest))) = false ∧
      Token.read (c :: (word ++ (cs ++ rest))) = .ok (t, c :: word) :=
  token_of_head h.ne_nil (h.head? rest) inside found

/-- An island ends with its closing marker. -/
theorem Interior.closes {place : Nat} {cs : List Char} {lexemes : List Lexeme}
    (h : Interior place cs lexemes) : ∃ inside, cs = inside ++ islandClose := by
  induction h with
  | close => exact ⟨[], rfl⟩
  | @blank place c cs lexemes blank follow ih =>
      rcases ih with ⟨inside, rfl⟩
      exact ⟨c :: inside, rfl⟩
  | @token place t c word cs lexemes solid plain found follow ih =>
      rcases ih with ⟨inside, rfl⟩
      exact ⟨c :: (word ++ inside), by rw [List.cons_append, List.append_assoc]⟩

/-- What a literal text goes up to. -/
theorem Divides.bound {place : Nat} {segments : List Segment} {lexemes : List Lexeme}
    (h : Divides place segments lexemes)
    (bound : segments = [] ∨ ∃ cs more, segments = .island cs :: more) :
    segmentChars segments = [] ∨ ∃ next, segmentChars segments = islandOpen ++ next := by
  rcases bound with rfl | ⟨cs, more, rfl⟩
  · exact .inl rfl
  · cases h with
    | island inside follow => exact .inr ⟨_, List.append_assoc ..⟩

/-- The last token of an island is the semicolon of its closing marker. -/
theorem Interior.tokens_eq {place : Nat} {cs : List Char} {lexemes : List Lexeme}
    (h : Interior place cs lexemes) :
    ∃ tokens, lexemes.map Lexeme.token = tokens ++ [.symbol .semicolon] := by
  induction h with
  | close => exact ⟨[], rfl⟩
  | blank _ _ ih => exact ih
  | @token place t c word cs lexemes solid plain found _ ih =>
      rcases ih with ⟨tokens, same⟩
      exact ⟨t :: tokens, by rw [List.map_cons, same, List.cons_append]⟩

/-- No token of an island is literal text. -/
theorem Interior.not_text {place : Nat} {cs : List Char} {lexemes : List Lexeme}
    (h : Interior place cs lexemes) : ∀ lexeme ∈ lexemes, ∀ s, lexeme.token ≠ .text s := by
  induction h with
  | close => simp
  | blank _ _ ih => exact ih
  | @token place t c word cs lexemes solid plain found _ ih =>
      rintro lexeme (_ | ⟨_, later⟩) s same
      · have isText : t = .text s := same
        rw [isText] at found
        exact read_ne_text found
      · exact ih lexeme later s same

/-! ## The lexer divides -/

/-- What the lexer reads from within an island on is the rest of the island and what is behind it. -/
theorem exists_interior {cs : List Char} {place : Nat} {lexemes : List Lexeme}
    (lexed : lex .island 0 place cs = .ok lexemes) :
    ∃ inside rest within later, cs = inside ++ rest ∧ lexemes = within ++ later ∧
      Interior place inside within ∧ lex .text 0 (place + inside.length) rest = .ok later := by
  cases cs with
  | nil =>
      rw [lex] at lexed
      cases lexed
  | cons c more =>
      cases blank : isBlank c with
      | true =>
          rw [lex_blank blank] at lexed
          rcases exists_interior lexed with ⟨inside, rest, within, later, rfl, rfl, interior, follow⟩
          refine ⟨c :: inside, rest, within, later, rfl, rfl, .blank blank interior, ?_⟩
          rwa [Nat.add_assoc, Nat.add_comm 1] at follow
      | false =>
          cases closes : islandClose.isPrefixOf (c :: more) with
          | true =>
              rcases List.isPrefixOf_iff_prefix.1 closes with ⟨next, split⟩
              rw [← split, lex_leave] at lexed
              rcases eq_of_map_ok lexed with ⟨later, follow, rfl⟩
              exact ⟨islandClose, next, _, later, split.symm, rfl, .close place, follow⟩
          | false =>
              cases found : Token.read (c :: more) with
              | error stuck =>
                  rw [lex, blank, closes, found] at lexed
                  cases lexed
              | ok result =>
                  rcases result with ⟨t, taken⟩
                  rcases read_ends found with ⟨word, behind, rfl, rfl, -⟩
                  rw [lex_token blank closes found] at lexed
                  rcases eq_of_map_ok lexed with ⟨lexemes, follow, rfl⟩
                  rcases exists_interior follow with
                    ⟨inside, rest, within, later, rfl, rfl, interior, follow⟩
                  -- The token was read with everything behind it, and the island alone does as well.
                  rcases token_of_head (by simp [interior.ne_nil]) (interior.head? rest).symm
                    closes found with ⟨closes', found'⟩
                  refine ⟨c :: (word ++ inside), rest, _, later, by simp, rfl,
                    .token blank closes' found' interior, ?_⟩
                  rw [← follow]
                  congr 1
                  rw [List.length_cons, List.length_append]
                  omega
termination_by cs.length
decreasing_by
  all_goals subst_vars
  all_goals simp only [List.length_append, List.length_cons]
  all_goals omega

mutual

/-- What the lexer reads from a literal text on divides into segments. -/
theorem exists_divides {cs : List Char} {place : Nat} {lexemes : List Lexeme}
    (lexed : lex .text 0 place cs = .ok lexemes) :
    ∃ segments, Divides place segments lexemes ∧ segmentChars segments = cs := by
  rcases literal_split cs with ⟨s, rest, rfl, noIsland, bound⟩
  by_cases empty : s = []
  · subst empty
    rcases exists_divides_behind bound lexed with ⟨segments, divides, chars, -⟩
    exact ⟨segments, divides, chars⟩
  · rw [lex_literal empty noIsland bound] at lexed
    rcases eq_of_map_ok lexed with ⟨later, follow, rfl⟩
    rcases exists_divides_behind bound follow with ⟨segments, divides, rfl, ends⟩
    exact ⟨.text s :: segments, .text empty noIsland ends divides, rfl⟩
termination_by (cs.length, 1)
decreasing_by
  all_goals subst_vars
  · exact .right _ Nat.zero_lt_one
  · refine .left _ _ ?_
    rw [List.length_append]
    exact Nat.lt_add_of_pos_left (List.length_pos_iff.2 empty)

/-- Behind a literal text an island begins, if there is anything. -/
theorem exists_divides_behind {cs : List Char} {place : Nat} {lexemes : List Lexeme}
    (bound : cs = [] ∨ ∃ next, cs = islandOpen ++ next)
    (lexed : lex .text 0 place cs = .ok lexemes) :
    ∃ segments, Divides place segments lexemes ∧ segmentChars segments = cs ∧
      (segments = [] ∨ ∃ cs more, segments = .island cs :: more) := by
  rcases bound with rfl | ⟨next, rfl⟩
  · rw [lex] at lexed
    cases lexed
    exact ⟨[], .done place, rfl, .inl rfl⟩
  · rw [lex_enter] at lexed
    rcases exists_interior lexed with ⟨inside, rest, within, later, rfl, rfl, interior, follow⟩
    rcases exists_divides follow with ⟨segments, divides, rfl⟩
    refine ⟨_, .island interior divides, ?_, .inr ⟨_, _, rfl⟩⟩
    rw [segmentChars_cons, Segment.chars, List.append_assoc]
termination_by (cs.length, 0)
decreasing_by
  all_goals subst_vars
  refine .left _ _ ?_
  simp only [islandOpen, List.length_append, List.length_cons]
  omega

end

end Artifact
end TemplateEngine
