import TemplateEngine.Proofs.Artifact.Divisions

/-!
# Segments — where the lexer sees islands

Where the islands of an artifact lie is read off its lexemes, so a marker within a quoted text of an
island bounds nothing. The segments found so are those into which the artifact divides.
-/

namespace TemplateEngine
namespace Artifact

/-! ## Segments by the lexemes -/

/-- The segments of an artifact from a place on, by the lexemes from there on. An island goes up to the
end of the lexeme that is its closing marker. -/
def segmentsFrom (artifact : List Char) : (start : Nat) → List Lexeme → List Segment
  | _, [] => []
  | start, lexeme :: lexemes =>
      match lexeme.token with
      | .text s => .text s.toList :: segmentsFrom artifact lexeme.stop lexemes
      | _ =>
          if islandClose.isPrefixOf (artifact.drop lexeme.start) then
            .island ((artifact.drop start).take (lexeme.stop - start)) ::
              segmentsFrom artifact lexeme.stop lexemes
          else segmentsFrom artifact start lexemes

/-- The segments of an artifact by its lexemes. -/
def segments (artifact : String) (lexemes : List Lexeme) : List Segment :=
  segmentsFrom artifact.toList 0 lexemes

/-! ## The lexemes of one segment -/

/-- What stands in an artifact after an opening and the part of the island that is read. -/
theorem drop_within {artifact before passed rest : List Char}
    (here : artifact = before ++ (islandOpen ++ (passed ++ rest))) :
    artifact.drop (before.length + 2 + passed.length) = rest := by
  have front : artifact = (before ++ (islandOpen ++ passed)) ++ rest := by
    rw [here]
    simp only [List.append_assoc]
  have length : (before ++ (islandOpen ++ passed)).length = before.length + 2 + passed.length := by
    simp only [List.length_append, islandOpen, List.length_cons, List.length_nil]
    omega
  rw [front, ← length]
  exact List.drop_left

/-- A closing marker ends the segment of its island. -/
theorem segmentsFrom_closing {artifact before passed next : List Char}
    (here : artifact = before ++ (islandOpen ++ (passed ++ (islandClose ++ next))))
    (lexemes : List Lexeme) :
    segmentsFrom artifact before.length (⟨.symbol .semicolon, before.length + 2 + passed.length,
        before.length + 2 + passed.length + 2⟩ :: lexemes) =
      .island (islandOpen ++ (passed ++ islandClose)) ::
        segmentsFrom artifact (before.length + 2 + passed.length + 2) lexemes := by
  have closing := drop_within here
  have island : (artifact.drop before.length).take
      (before.length + 2 + passed.length + 2 - before.length) =
      islandOpen ++ (passed ++ islandClose) := by
    have front : artifact = before ++ ((islandOpen ++ (passed ++ islandClose)) ++ next) := by
      simp [here]
    have length : (islandOpen ++ (passed ++ islandClose)).length =
        before.length + 2 + passed.length + 2 - before.length := by
      simp [islandOpen, islandClose]
      omega
    rw [front, List.drop_left, ← length]
    exact List.take_left
  simp [segmentsFrom, closing, island, islandClose]

/-- Any other token of an island leaves its segment open. -/
theorem segmentsFrom_inside {artifact : List Char} {lexeme : Lexeme}
    (notText : ∀ s, lexeme.token ≠ .text s)
    (notClosing : islandClose.isPrefixOf (artifact.drop lexeme.start) = false) (start : Nat)
    (lexemes : List Lexeme) :
    segmentsFrom artifact start (lexeme :: lexemes) = segmentsFrom artifact start lexemes := by
  rw [segmentsFrom]
  split
  · next s same => exact absurd same (notText s)
  · rw [if_neg (by simp [notClosing])]

/-- The lexemes of an island, from the part on that is read, end its segment. -/
theorem segmentsFrom_interior {artifact before passed cs rest : List Char} {place : Nat}
    {lexemes : List Lexeme} (inside : Interior place cs lexemes)
    (there : place = before.length + 2 + passed.length)
    (here : artifact = before ++ (islandOpen ++ (passed ++ (cs ++ rest)))) (later : List Lexeme) :
    segmentsFrom artifact before.length (lexemes ++ later) =
      .island (islandOpen ++ (passed ++ cs)) :: segmentsFrom artifact (place + cs.length) later := by
  -- The induction is on the island, and what has been passed of it grows.
  induction inside generalizing passed with
  | close place =>
      subst there
      exact segmentsFrom_closing here later
  | @blank place c cs lexemes blank _ ih =>
      have passing : artifact = before ++ (islandOpen ++ ((passed ++ [c]) ++ (cs ++ rest))) := by
        simpa using here
      have place' : place + 1 = before.length + 2 + (passed ++ [c]).length := by
        rw [there, List.length_append, List.length_singleton, Nat.add_assoc]
      have later := ih place' passing
      rwa [List.append_assoc, Nat.add_assoc, Nat.add_comm 1] at later
  | @token place t c word cs lexemes solid plain found follow ih =>
      have notText : ∀ s, t ≠ .text s := by
        rintro s rfl
        exact read_ne_text found
      -- The closing marker does not begin here, whatever stands behind the island.
      have notClosing : islandClose.isPrefixOf (artifact.drop place) = false := by
        rw [there, drop_within here, List.cons_append, List.append_assoc]
        exact (follow.token_append plain found rest).1
      have passing :
          artifact = before ++ (islandOpen ++ ((passed ++ c :: word) ++ (cs ++ rest))) := by
        simpa using here
      have place' : place + (word.length + 1) =
          before.length + 2 + (passed ++ c :: word).length := by
        rw [there, List.length_append, List.length_cons, Nat.add_assoc]
      have later := ih place' passing
      have length : (c :: (word ++ cs)).length = word.length + 1 + cs.length := by
        rw [List.length_cons, List.length_append, Nat.add_right_comm]
      rw [List.cons_append, segmentsFrom_inside notText notClosing, later, length, List.append_assoc,
        Nat.add_assoc place]
      rfl

/-- The lexemes tell the segments. -/
theorem segmentsFrom_divides {artifact before : List Char} {place : Nat} {segments : List Segment}
    {lexemes : List Lexeme} (divides : Divides place segments lexemes)
    (there : place = before.length) (here : artifact = before ++ segmentChars segments) :
    segmentsFrom artifact place lexemes = segments := by
  induction divides generalizing before with
  | done => rfl
  | @text place s segments lexemes nonempty noIsland bound _ ih =>
      have behind : artifact = (before ++ s) ++ segmentChars segments := by
        rw [here, segmentChars_cons, Segment.chars, List.append_assoc]
      have later := ih (by rw [there, List.length_append]) behind
      simp only [segmentsFrom, later, String.toList_ofList]
  | @island place cs lexemes segments later inside _ ih =>
      have within : artifact = before ++ (islandOpen ++ ([] ++ (cs ++ segmentChars segments))) := by
        rw [here, segmentChars_cons, Segment.chars, List.append_assoc]
        rfl
      have behind : artifact = (before ++ (islandOpen ++ cs)) ++ segmentChars segments := by
        rw [within, List.append_assoc, List.append_assoc]
        rfl
      have place' : place + 2 + cs.length = (before ++ (islandOpen ++ cs)).length := by
        rw [there, List.length_append, List.length_append]
        exact Nat.add_assoc ..
      have interior := segmentsFrom_interior inside (by rw [there]; rfl) within later
      rw [ih place' behind, ← there] at interior
      exact interior

/-- The lexemes of an artifact are those of its segments, which are all of its characters. -/
theorem divides_segments {artifact : String} {lexemes : List Lexeme}
    (tokenized : tokenize artifact = .ok lexemes) :
    Divides 0 (segments artifact lexemes) lexemes ∧
      segmentChars (segments artifact lexemes) = artifact.toList := by
  rw [tokenize] at tokenized
  cases lexed : lexAll artifact.toList with
  | error stuck =>
      rw [lexed] at tokenized
      cases tokenized
  | ok all =>
      rw [lexed] at tokenized
      cases tokenized
      rcases exists_divides lexed with ⟨found, divides, chars⟩
      have whole : artifact.toList = [] ++ segmentChars found := chars.symm
      have same : segments artifact lexemes = found :=
        segmentsFrom_divides divides List.length_nil.symm whole
      rw [same]
      exact ⟨divides, chars⟩

/-! ## What the segments are -/

/-- Characters fall into segments: a literal text goes up to an island or to the end, and an island has
its markers. -/
inductive Delimits : List Char → List Segment → Prop
  | done : Delimits [] []
  | text {s more segments} (opens : more = [] ∨ ∃ next, more = islandOpen ++ next)
      (follow : Delimits more segments) : Delimits (s ++ more) (.text s :: segments)
  | island {inside more segments} (follow : Delimits more segments) :
      Delimits (islandOpen ++ (inside ++ (islandClose ++ more)))
        (.island (islandOpen ++ (inside ++ islandClose)) :: segments)

/-- Segments are all of the characters they are of. -/
theorem Delimits.chars {cs : List Char} {segments : List Segment} (h : Delimits cs segments) :
    segmentChars segments = cs := by
  induction h with
  | done => rfl
  | text _ _ ih => rw [segmentChars, List.flatMap_cons, ← segmentChars, ih, Segment.chars]
  | island _ ih =>
      rw [segmentChars, List.flatMap_cons, ← segmentChars, ih, Segment.chars]
      simp only [List.append_assoc]

/-- The segments of the lexer keep to the markers. -/
theorem Divides.delimits {place : Nat} {segments : List Segment} {lexemes : List Lexeme}
    (h : Divides place segments lexemes) : Delimits (segmentChars segments) segments := by
  induction h with
  | done => exact .done
  | text _ _ bound follow ih => exact .text (follow.bound bound) ih
  | @island place cs lexemes segments later inside _ ih =>
      rcases inside.closes with ⟨interior, rfl⟩
      rw [segmentChars_cons, Segment.chars, List.append_assoc, List.append_assoc]
      exact .island ih

/-- The lexemes of an artifact delimit its segments. -/
theorem delimits_segments {artifact : String} {lexemes : List Lexeme}
    (tokenized : tokenize artifact = .ok lexemes) :
    Delimits artifact.toList (segments artifact lexemes) := by
  rcases divides_segments tokenized with ⟨divides, chars⟩
  exact chars ▸ divides.delimits

end Artifact
end TemplateEngine
