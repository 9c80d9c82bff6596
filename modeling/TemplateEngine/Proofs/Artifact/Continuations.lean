import TemplateEngine.Proofs.Artifact.LoneTokens

/-!
# Continuations — islands that go on

An island that ends behind some code scans to the tokens of the code and a semicolon. With anything else
behind the code that joins none of its tokens, the tokens of the code are the same, and those of what
follows come next.
-/

namespace TemplateEngine
namespace Artifact

open Text (isBlank isName isNameStart isNamePart)

/-! ## Where characters meet the end of an island -/

/-- No end of the characters begins what stands behind them. -/
def Distinct (front close : List Char) : Prop :=
  ∀ y, y ≠ [] → y <:+ front → ¬ y <+: close

/-- Characters in front that do not run into the last ones stand in front of them. -/
theorem Distinct.split {front close x more : List Char} (distinct : Distinct front close)
    (same : x ++ close = front ++ more) : ∃ x', x = front ++ x' ∧ more = x' ++ close := by
  rcases List.append_eq_append_iff.1 same with ⟨y, rfl, split⟩ | ⟨x', rfl, rfl⟩
  · cases y with
    | nil => exact ⟨[], by simp, by simpa using split.symm⟩
    | cons c y => exact absurd ⟨more, split.symm⟩ (distinct _ (by simp) (List.suffix_append _ _))
  · exact ⟨x', rfl, rfl⟩

theorem distinct_of_not_mem {front : List Char} {b : Char} (absent : b ∉ front)
    (close : List Char) : Distinct front (b :: close) := by
  intro y nonempty suffix startsWith
  rcases List.exists_cons_of_ne_nil nonempty with ⟨c, y, rfl⟩
  rcases startsWith with ⟨more, split⟩
  cases (List.cons.inj split).1
  exact absent (suffix.subset List.mem_cons_self)

/-- An end of the characters has their last one in it, which does not begin what stands behind them. -/
theorem distinct_of_getLast {front close : List Char} {q : Char} (last : front.getLast? = some q)
    (absent : q ∉ close) : Distinct front close := by
  rintro y nonempty ⟨before, rfl⟩ startsWith
  rw [List.getLast?_append, List.getLast?_eq_some_getLast nonempty, Option.some_or,
    Option.some.injEq] at last
  exact absent (startsWith.subset (last ▸ List.getLast_mem nonempty))

/-- What is taken of a quoted text ends with its closing quote. -/
theorem quotedBody?_getLast {quote : Char} {cs body taken : List Char}
    (closed : quotedBody? quote cs = some (body, taken)) : taken.getLast? = some quote := by
  fun_induction quotedBody? quote cs generalizing body taken with
  | case1 => cases closed
  | case2 =>
      cases closed
      rfl
  | case3 => cases closed
  | case4 d ds notQuote ih =>
      rcases Option.map_eq_some_iff.1 closed with ⟨⟨inner, within⟩, found, same⟩
      cases same
      rw [List.getLast?_cons, List.getLast?_cons, ih found]
      rfl
  | case5 c cs notQuote notBackslash ih =>
      rcases Option.map_eq_some_iff.1 closed with ⟨⟨inner, within⟩, found, same⟩
      cases same
      rw [List.getLast?_cons, ih found]
      rfl

/-- Only digits stand before the point of a number. -/
theorem isDigit_of_mem_wholeDigits {cs : List Char} {c : Char} (member : c ∈ wholeDigits cs) :
    c.isDigit = true := by
  unfold wholeDigits at member
  split at member
  · rw [List.mem_singleton] at member
    rw [member]
    rfl
  · exact List.all_eq_true.1 (List.all_takeWhile ..) c member

theorem blank_not_mem_name {name : List Char} (isName : isName name = true) : ' ' ∉ name := by
  intro blank
  cases name with
  | nil => cases blank
  | cons c cs =>
      rcases Bool.and_eq_true_iff.1 isName with ⟨start, parts⟩
      have part : isNamePart ' ' = true := by
        rcases List.mem_cons.1 blank with rfl | later
        · exact Text.isNamePart_of_isNameStart start
        · exact List.all_eq_true.1 parts ' ' later
      exact absurd part (by decide)

theorem blank_not_mem_digits {digits : List Char} (all : ∀ c ∈ digits, c.isDigit = true) :
    ' ' ∉ digits :=
  fun blank => absurd (all ' ' blank) (by decide)

/-- Only a quoted text has a blank in it, and a quoted text ends with its quote. -/
theorem Denotes.distinct {cs : List Char} {t : Token} (h : Denotes cs t) :
    Distinct cs (' ' :: islandClose) := by
  have wholes {cs : List Char} (whole : wholeDigits cs = cs) : ∀ c ∈ cs, c.isDigit = true :=
    fun c member => isDigit_of_mem_wholeDigits (whole.symm ▸ member)
  cases h with
  | quoted mark closed =>
      have last := quotedBody?_getLast closed
      refine distinct_of_getLast (by rw [List.getLast?_cons, last, Option.getD_some]) ?_
      rcases mark with rfl | rfl <;> decide
  | var isName =>
      exact distinct_of_not_mem (List.not_mem_cons_of_ne_of_not_mem (by decide)
        (blank_not_mem_name isName)) _
  | word isName => exact distinct_of_not_mem (blank_not_mem_name isName) _
  | whole digit whole => exact distinct_of_not_mem (blank_not_mem_digits (wholes whole)) _
  | @decimal c digits places digit whole nonempty all =>
      have before := blank_not_mem_digits (wholes whole)
      have after := blank_not_mem_digits (List.all_eq_true.1 all)
      refine distinct_of_not_mem (fun blank => ?_) _
      rw [← List.cons_append, List.mem_append] at blank
      rcases blank with blank | blank
      · exact before blank
      · exact List.not_mem_cons_of_ne_of_not_mem (by decide) after blank
  | symbol s => exact distinct_of_not_mem (by cases s <;> decide) _

/-- An opening marker does not run into the end of an island either. -/
theorem distinct_islandOpen (s : List Char) :
    Distinct (s ++ islandOpen) (' ' :: islandClose) := by
  rintro y nonempty ⟨before, split⟩ ⟨after, startsWith⟩
  have ends := congrArg List.reverse split
  rcases y with _ | ⟨a, _ | ⟨b, _ | ⟨c, _ | ⟨d, y⟩⟩⟩⟩ <;>
    simp_all [islandOpen, islandClose]

/-! ## Islands that go on -/

/-- Only an empty text scans to no token. -/
theorem Scans.eq_nil {region : Region} {cs : List Char} (h : Scans region cs []) :
    region = .text ∧ cs = [] := by
  generalize none : [] = tokens at h
  induction h with
  | done => exact ⟨rfl, rfl⟩
  | enter follow ih => cases (ih none).1
  | blank blank follow ih => cases (ih none).1
  | _ => cases none

/-- What is no last token is one of those before it. -/
theorem exists_cons_of_append_singleton {α : Type} {ts tokens : List α} {t last : α}
    (same : ts ++ [last] = t :: tokens) (more : tokens ≠ []) :
    ∃ ts', ts = t :: ts' ∧ ts' ++ [last] = tokens := by
  cases ts with
  | nil =>
      cases same
      exact absurd rfl more
  | cons u us =>
      cases same
      exact ⟨us, rfl, rfl⟩

/-- A token is read the same behind code that goes on with a minus sign. -/
theorem token_minus {t : Token} {c : Char} {word x tail : List Char} (minus : tail.head? = some '-')
    (inside : islandClose.isPrefixOf (c :: (word ++ (x ++ ' ' :: islandClose))) = false)
    (found : Token.read (c :: (word ++ (x ++ ' ' :: islandClose))) = .ok (t, c :: word)) :
    islandClose.isPrefixOf (c :: (word ++ (x ++ tail))) = false ∧
      Token.read (c :: (word ++ (x ++ tail))) = .ok (t, c :: word) := by
  cases x with
  | cons d x => exact token_of_head (by simp) (by simp) inside found
  | nil =>
      have denotes := denotes_of_read found
      have breaks : Breaks tail := by
        intro d head
        rw [minus] at head
        cases head
        decide
      have calm : Calm tail := by
        intro d head
        rw [minus] at head
        cases head
        decide
      refine ⟨?_, denotes.read breaks calm⟩
      rcases List.head?_eq_some_iff.1 minus with ⟨more, rfl⟩
      rcases denotes.head with ⟨_, _, ⟨⟩, solid, percent⟩
      by_cases same : c = '%'
      · rw [percent same]
        simp [islandClose, List.isPrefixOf]
      · exact not_islandClose (Ne.symm same) _

/-- Behind code that an island ends with, an arrow or what else begins with its sign may stand. -/
theorem Scans.continued {region : Region} {x tail : List Char} {ts behind : List Token}
    (h : Scans region (x ++ " %>".toList) (ts ++ [.symbol .semicolon]))
    (minus : tail.head? = some '-') (follow : Scans .island tail behind) :
    Scans region (x ++ tail) (ts ++ behind) := by
  have closing : " %>".toList = ' ' :: islandClose := rfl
  rw [closing] at h
  generalize chars : x ++ ' ' :: islandClose = cs at h
  generalize tokens : ts ++ [.symbol .semicolon] = read at h
  induction h generalizing x ts with
  | done => simp at chars
  | last =>
      cases ts with
      | nil => cases tokens
      | cons t ts => simp at tokens
  | @text s more read nonempty noIsland within ih =>
      rw [← List.append_assoc] at chars
      rcases (distinct_islandOpen s).split chars with ⟨x', rfl, rfl⟩
      have left : read ≠ [] := fun none => by cases (none ▸ within).eq_nil.1
      rcases exists_cons_of_append_singleton tokens left with ⟨ts', rfl, tokens'⟩
      rw [List.append_assoc, List.append_assoc]
      exact .text nonempty noIsland (ih rfl tokens')
  | @enter more read within ih =>
      rcases (distinct_islandOpen []).split chars with ⟨x', rfl, rfl⟩
      exact .enter (ih rfl tokens)
  | @blank c more read blank within ih =>
      cases x with
      | nil =>
          cases chars
          -- Nothing but the end of the island is left.
          cases within.unique (.leave .done)
          cases List.append_cancel_right (tokens.trans (List.nil_append _).symm)
          exact follow
      | cons d x =>
          cases chars
          exact .blank blank (ih rfl tokens)
  | @leave more read within ih =>
      have distinct : Distinct islandClose (' ' :: islandClose) :=
        distinct_of_not_mem (by decide) _
      rcases distinct.split chars with ⟨x', rfl, rfl⟩
      have left : read ≠ [] := fun none => by
        have empty := (none ▸ within).eq_nil.2
        simp at empty
      rcases exists_cons_of_append_singleton tokens left with ⟨ts', rfl, tokens'⟩
      rw [List.append_assoc]
      exact .leave (ih rfl tokens')
  | @token t c word more read solid inside found within ih =>
      rw [← List.cons_append] at chars
      rcases (denotes_of_read found).distinct.split chars with ⟨x', rfl, rfl⟩
      have left : read ≠ [] := fun none => by cases (none ▸ within).eq_nil.1
      rcases exists_cons_of_append_singleton tokens left with ⟨ts', rfl, tokens'⟩
      rcases token_minus minus inside found with ⟨inside', found'⟩
      rw [List.append_assoc]
      exact .token solid inside' found' (ih rfl tokens')

end Artifact
end TemplateEngine
