import TemplateEngine.Proofs.Artifact.TokenEnds

/-!
# Steps of the lexer

What the lexer does from a place on with a literal text, a marker, white space and a token. Each step
reads some characters and goes on behind them.
-/

namespace TemplateEngine
namespace Artifact

open Text (isBlank)

/-! ## The lexer, from a place on -/

/-- Characters that are read already are passed over. -/
theorem lex_append (region : Region) (read rest : List Char) (place : Nat) :
    lex region read.length place (read ++ rest) = lex region 0 (place + read.length) rest := by
  induction read generalizing place with
  | nil => rfl
  | cons c read ih =>
      rw [List.length_cons, List.cons_append, lex, ih, Nat.add_right_comm, Nat.add_assoc]

/-! ## Literal text -/

/-- Literal text ends where an island begins. -/
theorem literal_append {s rest : List Char} (noIsland : Text.occurs islandOpen s = false)
    (opens : rest = [] ∨ ∃ more, rest = islandOpen ++ more) : literal (s ++ rest) = s := by
  induction s with
  | nil =>
      rcases opens with rfl | ⟨more, rfl⟩
      · rfl
      · simp [literal, islandOpen]
  | cons c s ih =>
      simp only [Text.occurs, Bool.or_eq_false_iff] at noIsland
      -- The last character of the text is next to what follows, which goes on with no opening.
      have plain : islandOpen.isPrefixOf (c :: (s ++ rest)) = false := by
        cases s with
        | nil =>
            rcases opens with rfl | ⟨more, rfl⟩
            · exact noIsland.1
            · simp [islandOpen, List.isPrefixOf]
        | cons d s => simpa [islandOpen, List.isPrefixOf] using noIsland.1
      rw [List.cons_append, literal, plain, ih noIsland.2]
      rfl

/-- An artifact is its first literal text and what stands behind that. -/
theorem literal_append_drop (cs : List Char) : literal cs ++ cs.drop (literal cs).length = cs := by
  induction cs with
  | nil => rfl
  | cons c cs ih =>
      cases opens : islandOpen.isPrefixOf (c :: cs) with
      | true => simp [literal, opens]
      | false => simp [literal, opens, ih]

/-- Literal text goes up to an island or to the end. -/
theorem literal_bound (cs : List Char) :
    cs.drop (literal cs).length = [] ∨
      ∃ next, cs.drop (literal cs).length = islandOpen ++ next := by
  induction cs with
  | nil => exact Or.inl rfl
  | cons c cs ih =>
      cases opens : islandOpen.isPrefixOf (c :: cs) with
      | true =>
          rcases List.isPrefixOf_iff_prefix.1 opens with ⟨next, split⟩
          exact Or.inr ⟨next, by simp [literal, opens, split]⟩
      | false => simpa [literal, opens] using ih

/-- No island opens within a literal text. -/
theorem occurs_literal (cs : List Char) : Text.occurs islandOpen (literal cs) = false := by
  induction cs with
  | nil => rfl
  | cons c cs ih =>
      cases opens : islandOpen.isPrefixOf (c :: cs) with
      | true =>
          rw [literal, opens]
          rfl
      | false =>
          have plain : islandOpen.isPrefixOf (c :: literal cs) = false := by
            cases cs with
            | nil => exact opens
            | cons d ds =>
                -- The literal text goes on with `d`, or `d` begins an island and is no percent sign.
                cases next : islandOpen.isPrefixOf (d :: ds) with
                | true =>
                    rw [literal, next]
                    simp [islandOpen, List.isPrefixOf]
                | false =>
                    rw [literal, next]
                    simpa [islandOpen, List.isPrefixOf] using opens
          rw [literal, opens]
          simp [Text.occurs, plain, ih]

/-- Characters begin with a literal text, maybe none, up to an island or to the end. -/
theorem literal_split (cs : List Char) :
    ∃ s rest, cs = s ++ rest ∧ Text.occurs islandOpen s = false ∧
      (rest = [] ∨ ∃ next, rest = islandOpen ++ next) :=
  ⟨literal cs, cs.drop (literal cs).length, (literal_append_drop cs).symm, occurs_literal cs,
    literal_bound cs⟩

/-! ## One step -/

/-- Literal text is read as one token, and what is behind it after that. -/
theorem lex_literal {s rest : List Char} (nonempty : s ≠ [])
    (noIsland : Text.occurs islandOpen s = false)
    (opens : rest = [] ∨ ∃ more, rest = islandOpen ++ more) (place : Nat) :
    lex .text 0 place (s ++ rest) =
      (lex .text 0 (place + s.length) rest).map
        (⟨.text (String.ofList s), place, place + s.length⟩ :: ·) := by
  cases s with
  | nil => exact absurd rfl nonempty
  | cons c cs =>
      have literal_eq := literal_append noIsland opens
      rw [List.cons_append] at literal_eq
      have outside : islandOpen.isPrefixOf (c :: (cs ++ rest)) = false := by
        cases opening : islandOpen.isPrefixOf (c :: (cs ++ rest)) with
        | false => rfl
        | true => simp [literal, opening] at literal_eq
      -- The first character is looked at, and the others are passed over.
      have skipped := lex_append .text cs rest (place + 1)
      rw [Nat.add_assoc, Nat.add_comm 1] at skipped
      rw [List.cons_append, lex, outside, literal_eq]
      simp [skipped]

/-- An opening marker leads into an island and is no token. -/
theorem lex_enter (more : List Char) (place : Nat) :
    lex .text 0 place (islandOpen ++ more) = lex .island 0 (place + 2) more :=
  lex_append .island ['%'] more (place + 1)

/-- A closing marker leads back to text and is read as a semicolon. -/
theorem lex_leave (more : List Char) (place : Nat) :
    lex .island 0 place (islandClose ++ more) =
      (lex .text 0 (place + 2) more).map (⟨.symbol .semicolon, place, place + 2⟩ :: ·) := by
  have notBlank : isBlank '%' = false := by decide
  have skipped := lex_append .text ['>'] more (place + 1)
  rw [islandClose, List.cons_append, lex, notBlank]
  simp [islandClose] at skipped ⊢
  rw [skipped]

/-- White space in an island is passed over. -/
theorem lex_blank {c : Char} (blank : isBlank c = true) (more : List Char) (place : Nat) :
    lex .island 0 place (c :: more) = lex .island 0 (place + 1) more := by
  rw [lex, blank]
  rfl

/-- A token of an island is read with its place, and reading goes on behind it. -/
theorem lex_token {t : Token} {c : Char} {word more : List Char} (solid : isBlank c = false)
    (inside : islandClose.isPrefixOf (c :: (word ++ more)) = false)
    (found : Token.read (c :: (word ++ more)) = .ok (t, c :: word)) (place : Nat) :
    lex .island 0 place (c :: (word ++ more)) =
      (lex .island 0 (place + (word.length + 1)) more).map
        (⟨t, place, place + (word.length + 1)⟩ :: ·) := by
  have skipped := lex_append .island word more (place + 1)
  rw [lex, solid, inside, found]
  simp only [Bool.false_eq_true, if_false, List.length_cons, Nat.add_sub_cancel]
  rw [skipped, Nat.add_right_comm, Nat.add_assoc]

end Artifact
end TemplateEngine
