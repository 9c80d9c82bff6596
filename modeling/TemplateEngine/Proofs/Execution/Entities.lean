import TemplateEngine.Execution.Builtin
import TemplateEngine.Proofs.Text.Scan

/-!
# Entities — reading an escaped text back

An escaped text holds no character that has a meaning in HTML, apart from the ampersands that begin its
entities. Reading the entities from left to right gives back the text: where an entity ends the next
character begins, so none is read across the two, whatever entities the text had in it already.
-/

namespace TemplateEngine
namespace Execution

open Text (after? replaceSpans Recogniser)

/-! ## Entities -/

def entities : List (List Char × Char) :=
  [("&amp;".toList, '&'), ("&lt;".toList, '<'), ("&gt;".toList, '>'), ("&quot;".toList, '"'),
    ("&#39;".toList, '\'')]

/-- The entity at the head of a text. -/
def entity? : Recogniser Char := fun cs =>
  entities.findSome? fun (written, c) => (after? written cs).map fun rest => (c, rest)

/-- A text with the characters of its entities in their places, read from left to right. -/
def unescapeHtml (s : String) : String :=
  String.ofList (replaceSpans entity? (fun c => [c]) s.toList)

/-- The entity of a character is read back, whatever stands behind it. -/
theorem entity?_written {written : List Char} {c : Char} (member : (written, c) ∈ entities)
    (rest : List Char) : entity? (written ++ rest) = some (c, rest) := by
  simp only [entities, List.mem_cons, List.not_mem_nil, or_false, Prod.mk.injEq] at member
  rcases member with ⟨rfl, rfl⟩ | ⟨rfl, rfl⟩ | ⟨rfl, rfl⟩ | ⟨rfl, rfl⟩ | ⟨rfl, rfl⟩ <;>
    simp [entity?, entities, after?]

/-- An entity begins with an ampersand, and no other one is in it. -/
theorem entity_ampersand {written : List Char} {c : Char} (member : (written, c) ∈ entities) :
    ∃ name, written = '&' :: name ∧ '&' ∉ name := by
  have all : ∀ e ∈ entities, e.1.head? = some '&' ∧ '&' ∉ e.1.tail := by decide
  rcases all _ member with ⟨first, single⟩
  rcases List.head?_eq_some_iff.1 first with ⟨name, rfl⟩
  exact ⟨name, rfl, single⟩

/-- An entity begins with an ampersand. -/
theorem entity?_other {c : Char} (other : c ≠ '&') (cs : List Char) : entity? (c :: cs) = none := by
  refine List.findSome?_eq_none_iff.2 ?_
  rintro ⟨written, d⟩ member
  rcases entity_ampersand member with ⟨name, rfl, -⟩
  simp [after?, Ne.symm other]

/-! ## Escaped characters -/

/-- The characters that must not stand in HTML text as they are. -/
def markup : List Char := ['<', '>', '"', '\'']

/-- A character is written as its entity, or it has no meaning and stays. -/
theorem escapeChar_cases (c : Char) :
    (escapeChar c, c) ∈ entities ∨ (escapeChar c = [c] ∧ c ≠ '&' ∧ c ∉ markup) := by
  unfold escapeChar
  split
  case h_6 ampersand less greater double single =>
    have plain : c ∉ markup := by
      simp only [markup, List.mem_cons, List.not_mem_nil, or_false, not_or]
      exact ⟨less, greater, double, single⟩
    exact .inr ⟨rfl, ampersand, plain⟩
  all_goals exact .inl (by decide)

/-- No escaped character has markup. -/
theorem not_mem_markup_of_mem_escapeChar {c d : Char} (member : d ∈ escapeChar c) : d ∉ markup := by
  rcases escapeChar_cases c with entity | ⟨stays, -, plain⟩
  · have all : entities.all (fun e => e.1.all fun d => !markup.contains d) = true := by decide
    have plain := List.all_eq_true.1 (List.all_eq_true.1 all _ entity) d member
    simpa using plain
  · rw [stays, List.mem_singleton] at member
    rwa [member]

/-- An ampersand in an escaped text is the first character of an entity. -/
theorem entity_at_ampersand {cs before behind : List Char}
    (split : cs.flatMap escapeChar = before ++ '&' :: behind) :
    ∃ e ∈ entities, e.1 <+: '&' :: behind := by
  induction cs generalizing before with
  | nil => simp at split
  | cons c cs ih =>
      rw [List.flatMap_cons] at split
      rcases List.append_eq_append_iff.1 split with ⟨more, rfl, later⟩ | ⟨here, first, rest⟩
      · exact ih later
      -- The ampersand is in what the first character is written as, or right behind it.
      rcases List.append_eq_cons_iff.1 rest.symm with ⟨rfl, later⟩ | ⟨name, rfl, follow⟩
      · exact ih (show _ = [] ++ '&' :: behind from later)
      rcases escapeChar_cases c with entity | ⟨stays, other, -⟩
      · rcases entity_ampersand entity with ⟨letters, written, single⟩
        rw [written] at first
        cases before with
        | nil =>
            refine ⟨_, entity, ?_⟩
            rw [written, first, follow]
            exact ⟨_, rfl⟩
        | cons d before =>
            have inside : letters = before ++ '&' :: name := (List.cons.inj first).2
            exact absurd (by simp [inside]) single
      · rw [stays] at first
        have member : '&' ∈ [c] := by simp [first]
        exact absurd (List.mem_singleton.1 member).symm other

/-! ## Reading back -/

/-- What one character is written as is read as that character, whatever stands behind. -/
theorem replaceSpans_entity?_escapeChar (c : Char) (rest : List Char) :
    replaceSpans entity? (fun c => [c]) (escapeChar c ++ rest) =
      [c] ++ replaceSpans entity? (fun c => [c]) rest := by
  rcases escapeChar_cases c with entity | ⟨stays, other, -⟩
  · rcases entity_ampersand entity with ⟨name, written, -⟩
    exact Text.replaceSpans_append_of_found (entity?_written entity rest) (by simp [written])
  · rw [stays]
    exact Text.replaceSpans_append_of_skips ⟨entity?_other other rest, trivial⟩

/-- Decoding undoes escaping. -/
theorem unescapeHtml_escapeHtml (s : String) : unescapeHtml (escapeHtml s) = s := by
  have whole := Text.replaceSpans_flatMap replaceSpans_entity?_escapeChar s.toList []
  rw [List.append_nil] at whole
  rw [unescapeHtml, escapeHtml, String.toList_ofList, whole]
  simp [replaceSpans, Text.Piece.replace]

/-- Texts are escaped piece by piece. -/
theorem escapeHtml_append (s t : String) : escapeHtml (s ++ t) = escapeHtml s ++ escapeHtml t := by
  simp [escapeHtml]

/-- The function `escape` gives a text without markup, each ampersand of which begins an entity, and which
is read back as the text of the value. So it tells all texts apart; and it escapes a text part by part. -/
theorem escape_safe_lossless :
    (∀ v : Value, ∃ escaped, call "escape" [v] = .ok (.text escaped) ∧
      (∀ c ∈ escaped.toList, c ∉ markup) ∧
      (∀ before behind, escaped.toList = before ++ '&' :: behind →
        ∃ e ∈ entities, e.1 <+: '&' :: behind) ∧
      unescapeHtml escaped = v.toText) ∧
    (∀ v w : Value, call "escape" [v] = call "escape" [w] ↔ v.toText = w.toText) ∧
    ∀ s t : String, ∃ first second, call "escape" [.text s] = .ok (.text first) ∧
      call "escape" [.text t] = .ok (.text second) ∧
      call "escape" [.text (s ++ t)] = .ok (.text (first ++ second)) := by
  have called (v : Value) : call "escape" [v] = .ok (.text (escapeHtml v.toText)) := rfl
  refine ⟨fun v => ⟨_, called v, ?safe, ?ampersands, unescapeHtml_escapeHtml _⟩, ?injective, ?parts⟩
  case safe =>
    intro c member
    rw [escapeHtml, String.toList_ofList] at member
    rcases List.mem_flatMap.1 member with ⟨d, -, written⟩
    exact not_mem_markup_of_mem_escapeChar written
  case ampersands =>
    intro before behind split
    rw [escapeHtml, String.toList_ofList] at split
    exact entity_at_ampersand split
  case injective =>
    intro v w
    rw [called, called]
    constructor
    · intro same
      simp only [Except.ok.injEq, Value.text.injEq] at same
      rw [← unescapeHtml_escapeHtml v.toText, same, unescapeHtml_escapeHtml]
    · intro same
      rw [same]
  case parts =>
    intro s t
    refine ⟨_, _, called (.text s), called (.text t), ?_⟩
    rw [called, Value.toText, escapeHtml_append]
    rfl

/-- An entity that is in the text already has its ampersand escaped, and is read back as it was. -/
theorem escape_safe_lossless_entity :
    let escaped := "&lt;b&gt; &amp; &amp;lt;"
    call "escape" [.text "<b> & &lt;"] = .ok (.text escaped) ∧
      ('b' ∈ escaped.toList ∧ 'b' ∉ markup) ∧
      (escaped.toList = "&lt;b&gt; ".toList ++ '&' :: "amp; &amp;lt;".toList ∧
        ∃ e ∈ entities, e.1 <+: '&' :: "amp; &amp;lt;".toList) ∧
      unescapeHtml escaped = "<b> & &lt;" := by
  intro escaped
  rcases escape_safe_lossless.1 (.text "<b> & &lt;") with ⟨written, called, safe, ampersands, back⟩
  have computed : call "escape" [.text "<b> & &lt;"] = .ok (.text escaped) := by rfl
  cases computed.symm.trans called
  have letter : 'b' ∈ escaped.toList := by decide
  have split : escaped.toList = "&lt;b&gt; ".toList ++ '&' :: "amp; &amp;lt;".toList := by decide
  exact ⟨computed, ⟨letter, safe 'b' letter⟩, ⟨split, ampersands _ _ split⟩, back⟩

end Execution
end TemplateEngine
