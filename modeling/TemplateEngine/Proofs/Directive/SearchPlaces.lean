import TemplateEngine.Proofs.Directive.Arrowed
import TemplateEngine.Proofs.Directive.Openings

/-!
# Places of the search

Where the search for a directive that is not closed stands behind some text, and how many lines it has
counted by then. No island has to be well-formed for that: the search knows only markers, quotes and
backslashes. Arrows for dots make no difference to it.
-/

namespace TemplateEngine
namespace Directive

open Artifact (islandClose islandOpen)
open Text (after? occurs Skips)

/-! ## Markers -/

/-- No marker that the search heeds at the place begins the text. -/
structure Place.Stays (place : Place) (cs : List Char) : Prop where
  outside : place = .text → islandOpen.isPrefixOf cs = false
  within : place = .island → islandClose.isPrefixOf cs = false

/-- No marker of an island lies across the end of a text. -/
def Parted (cs rest : List Char) : Prop :=
  ∀ mark ∈ [islandOpen, islandClose], ∀ c ∈ cs.getLast?, ∀ d ∈ rest.head?, mark ≠ [c, d]

theorem Parted.tail {c : Char} {cs rest : List Char} (parted : Parted (c :: cs) rest) :
    Parted cs rest := by
  cases cs with
  | nil => simp [Parted]
  | cons d cs => simpa [Parted, List.getLast?_cons_cons] using parted

/-- No marker lies across an end that could not begin one. -/
theorem parted_of_last {cs : List Char} (apart : ∀ c ∈ cs.getLast?, c ≠ '<' ∧ c ≠ '%')
    (rest : List Char) : Parted cs rest := by
  intro mark member c last d _
  simp only [List.mem_cons, List.not_mem_nil, or_false] at member
  rcases member with rfl | rfl
  · simp [islandOpen, (apart c last).1.symm]
  · simp [islandClose, (apart c last).2.symm]

/-- No marker lies across the end before a character that could not end one. -/
theorem parted_of_head {rest : List Char} (apart : ∀ d ∈ rest.head?, d ≠ '%' ∧ d ≠ '>')
    (cs : List Char) : Parted cs rest := by
  intro mark member c _ d first
  simp only [List.mem_cons, List.not_mem_nil, or_false] at member
  rcases member with rfl | rfl
  · simp [islandOpen, (apart d first).1.symm]
  · simp [islandClose, (apart d first).2.symm]

/-- The markers that begin before the end of a text end there too. -/
theorem Parted.isPrefixOf_eq {a b c : Char} {cs rest : List Char} (parted : Parted (c :: cs) rest)
    (mark : [a, b] ∈ [islandOpen, islandClose]) :
    [a, b].isPrefixOf (c :: (cs ++ rest)) = [a, b].isPrefixOf (c :: cs) := by
  rw [isPrefixOf_pair, isPrefixOf_pair]
  -- Only a marker that begins at the last character could end in the rest.
  cases cs with
  | cons d cs => rfl
  | nil =>
      cases rest with
      | nil => rfl
      | cons d rest =>
          have apart := parted _ mark c rfl d rfl
          by_cases first : c = a
          · have second : d ≠ b := by
              rintro rfl
              exact apart (first ▸ rfl)
            simp [second]
          · simp [first]

/-- What stands behind does not matter for the markers where the text is parted from it. -/
theorem Place.Stays.append {place : Place} {c : Char} {cs rest : List Char}
    (stays : place.Stays (c :: cs)) (parted : Parted (c :: cs) rest) :
    place.Stays (c :: (cs ++ rest)) where
  outside inText := (parted.isPrefixOf_eq (.head _)).trans (stays.outside inText)
  within inIsland := (parted.isPrefixOf_eq (.tail _ (.head _))).trans (stays.within inIsland)

theorem isPrefixOf_pair_eq_false {a b c : Char} {cs : List Char}
    (never : ∀ more, c = a → cs ≠ b :: more) : [a, b].isPrefixOf (c :: cs) = false := by
  rw [Bool.eq_false_iff]
  intro begins
  rcases List.isPrefixOf_iff_prefix.1 begins with ⟨more, split⟩
  cases split
  exact never more rfl rfl

theorem isPrefixOf_eq_false_of_after? {mark cs : List Char} (none : after? mark cs = none) :
    mark.isPrefixOf cs = false := by
  rw [Bool.eq_false_iff]
  intro begins
  rcases List.isPrefixOf_iff_prefix.1 begins with ⟨rest, rfl⟩
  rw [Text.after?_append] at none
  cases none

/-! ## Behind some text -/

/-- The place of the search behind some text. -/
def Place.behind : Place → List Char → Place
  | .text, '<' :: '%' :: cs => Place.behind .island cs
  | .island, '%' :: '>' :: cs => Place.behind .text cs
  | place, c :: cs => Place.behind (place.after c) cs
  | place, [] => place

@[simp]
theorem Place.behind_nil (place : Place) : place.behind [] = place := by
  cases place <;> rfl

/-- The place behind a text is found character by character. -/
theorem Place.Stays.behind_cons {place : Place} {c : Char} {cs : List Char}
    (stays : place.Stays (c :: cs)) : place.behind (c :: cs) = (place.after c).behind cs := by
  apply Place.behind.eq_3
  · rintro more inText rfl rfl
    exact absurd (stays.outside inText) (by simp [islandOpen])
  · rintro more inIsland rfl rfl
    exact absurd (stays.within inIsland) (by simp [islandClose])

variable (line : Nat)

/-- Where no marker begins, the search stops at an opening in literal text and else goes on to the next
character. -/
theorem Place.Stays.openingLine?_cons {place : Place} {c : Char} {cs : List Char}
    (stays : place.Stays (c :: cs)) :
    openingLine? line place false (c :: cs) =
      if place = .text ∧ interpolationOpen.isPrefixOf (c :: cs) then some line
      else openingLine? (line + lineBreaks [c]) (place.after c) false cs := by
  by_cases inText : place = .text
  · subst inText
    rw [openingLine?_text line (stays.outside rfl)]
    simp [Place.after]
  · rw [openingLine?_within line inText stays.within]
    simp [inText]

/-- An induction over the text that the search goes over, a marker at a time. -/
theorem Place.behind_induct {motive : Place → List Char → Prop}
    (done : ∀ place, motive place [])
    (enter : ∀ cs, motive .island cs → motive .text (islandOpen ++ cs))
    (leave : ∀ cs, motive .text cs → motive .island (islandClose ++ cs))
    (step : ∀ place c cs, place.Stays (c :: cs) → motive (place.after c) cs → motive place (c :: cs))
    (place : Place) (cs : List Char) : motive place cs := by
  fun_induction Place.behind place cs with
  | case1 cs ih => exact enter cs ih
  | case2 cs ih => exact leave cs ih
  | case3 place c cs notEnter notLeave ih =>
      refine step place c cs ⟨fun inText => ?_, fun inIsland => ?_⟩ ih
      · exact isPrefixOf_pair_eq_false fun more first split => notEnter more inText first split
      · exact isPrefixOf_pair_eq_false fun more first split => notLeave more inIsland first split
  | case4 place => exact done place

/-- The search goes over a text in which nothing opens. -/
theorem openingLine?_behind {place : Place} {cs rest : List Char}
    (skips : Skips (after? interpolationOpen) cs rest) (parted : Parted cs rest) :
    openingLine? line place false (cs ++ rest) =
      openingLine? (line + lineBreaks cs) (place.behind cs) false rest := by
  induction place, cs using Place.behind_induct generalizing line with
  | done place => rw [place.behind_nil]; rfl
  | enter cs ih =>
      have noBreak : lineBreaks (islandOpen ++ cs) = lineBreaks cs := by simp [lineBreaks, islandOpen]
      rw [noBreak, List.append_assoc, openingLine?_enter, ih line skips.2.2 parted.tail.tail]
      rfl
  | leave cs ih =>
      have noBreak : lineBreaks (islandClose ++ cs) = lineBreaks cs := by simp [lineBreaks, islandClose]
      rw [noBreak, List.append_assoc, openingLine?_leave, ih line skips.2.2 parted.tail.tail]
      rfl
  | step place c cs stays ih =>
      have notOpen := isPrefixOf_eq_false_of_after? skips.1
      have here := (stays.append parted).openingLine?_cons line
      rw [List.cons_append, here, notOpen, lineBreaks_cons c cs, ← Nat.add_assoc, stays.behind_cons,
        ← ih _ skips.2 parted.tail]
      simp

/-- Literal text leads to no island if none opens in it. -/
theorem Place.behind_text {cs : List Char} (never : occurs islandOpen cs = false) :
    Place.behind .text cs = .text := by
  induction cs with
  | nil => rfl
  | cons c cs ih =>
      rw [occurs, Bool.or_eq_false_iff] at never
      have stays : Place.Stays .text (c :: cs) := ⟨fun _ => never.1, fun other => by cases other⟩
      rw [stays.behind_cons]
      exact ih never.2

/-! ## Quotes -/

/-- Whether a place is in a quoted text. -/
def Place.inQuotes : Place → Bool
  | .quoted .. => true
  | _ => false

/-- The quotes of a text in an island are balanced: the search leaves every quoted text in it. -/
def Balanced (cs : List Char) : Prop := (Place.behind .island cs).inQuotes = false

instance (cs : List Char) : Decidable (Balanced cs) := inferInstanceAs (Decidable (_ = _))

theorem Place.after_ne_text {place : Place} (within : place ≠ .text) (c : Char) :
    place.after c ≠ .text := by
  fun_cases Place.after place c <;> simp_all

/-- Within an island that has no closing marker in it, the place is a matter of the quotes alone. -/
theorem Place.behind_eq_foldl {place : Place} (within : place ≠ .text) {cs : List Char}
    (never : occurs islandClose cs = false) : place.behind cs = cs.foldl Place.after place := by
  induction cs generalizing place with
  | nil => exact place.behind_nil
  | cons c cs ih =>
      rw [occurs, Bool.or_eq_false_iff] at never
      have stays : place.Stays (c :: cs) := ⟨fun inText => absurd inText within, fun _ => never.1⟩
      rw [stays.behind_cons, List.foldl_cons, ih (Place.after_ne_text within c) never.2]

/-- Quotes are balanced if the search is out of them at the end. -/
theorem balanced_of_foldl {cs : List Char} (never : occurs islandClose cs = false)
    (quotes : (cs.foldl Place.after .island).inQuotes = false) : Balanced cs := by
  rw [Balanced, Place.behind_eq_foldl (by decide) never]
  exact quotes

/-- Where the quotes are balanced, there is literal text behind the closing marker. -/
theorem Balanced.behind_close {cs : List Char} (balanced : Balanced cs) :
    (Place.behind .island cs).behind " %>".toList = .text := by
  rw [Balanced] at balanced
  cases there : Place.behind .island cs with
  | text => rfl
  | island => rfl
  | quoted => simp [there, Place.inQuotes] at balanced

/-! ## Arrows for dots -/

/-- Arrows for dots add no line break. -/
theorem Arrowed.lineBreaks_eq {place : Place} {cs ds : List Char} (h : Arrowed place cs ds) :
    lineBreaks ds = lineBreaks cs := by
  induction h with
  | done => rfl
  | @keep place c cs ds _ ih => rw [lineBreaks_cons, lineBreaks_cons c cs, ih]
  | @arrow cs ds _ ih => simpa [lineBreaks] using ih

/-- Nor do they change which marker begins a text. -/
theorem Arrowed.head?_beq {place : Place} {cs ds : List Char} (h : Arrowed place cs ds) {m : Char}
    (mark : m ≠ '.' ∧ m ≠ '-') (rest : List Char) :
    ((ds ++ rest).head? == some m) = ((cs ++ rest).head? == some m) := by
  cases h with
  | done => rfl
  | keep => rfl
  | arrow =>
      have dot : ('.' == m) = false := beq_eq_false_iff_ne.2 mark.1.symm
      have minus : ('-' == m) = false := beq_eq_false_iff_ne.2 mark.2.symm
      simp [dot, minus]

/-- A quoted text is in quotes of one kind or the other. -/
def Place.Proper : Place → Prop
  | .quoted quote _ => quote = '\'' ∨ quote = '"'
  | _ => True

/-- A quoted text stays in quotes of its kind. -/
theorem Place.Proper.after {place : Place} (proper : place.Proper) (c : Char) :
    (place.after c).Proper := by
  fun_cases Place.after place c with
  | case1 => trivial
  | case2 c kind => simpa [Proper] using kind
  | case3 => trivial
  | case4 => exact proper
  | case5 => exact proper
  | case6 => trivial
  | case7 => exact proper

/-- To the search a dot and an arrow are the same. Behind the first character of a marker it is in no
quoted text. -/
theorem Arrowed.openingLine?_eq {place : Place} {cs ds : List Char} (h : Arrowed place cs ds)
    {here : Place} (proper : here.Proper) {passed : Bool}
    (marked : passed = true → here = .text ∨ here = .island) (rest : List Char) :
    openingLine? line here passed (ds ++ rest) = openingLine? line here passed (cs ++ rest) := by
  induction h generalizing line here passed with
  | done => rfl
  | @keep place c cs ds h ih =>
      -- The next character is a mark of the search in both texts or in neither.
      have head (m : Char) (mark : m ≠ '.' ∧ m ≠ '-') := h.head?_beq mark rest
      simp only [List.cons_append, openingLine?, head '%' (by decide), head '>' (by decide),
        head '\x7b' (by decide)]
      split
      · exact ih _ proper (by simp)
      split
      · exact @ih _ .island trivial true (by simp)
      split
      · rfl
      split
      · exact @ih _ .text trivial true (by simp)
      · exact ih _ (proper.after c) (by simp)
  | @arrow cs ds h ih =>
      -- No character of either is a mark of the search, and the place behind them is the same.
      cases passed with
      | true =>
          rcases marked rfl with rfl | rfl <;>
            simpa [openingLine?, Place.after] using ih _ proper (by simp)
      | false =>
          cases here with
          | text => simpa [openingLine?, Place.after] using ih _ proper (by simp)
          | island => simpa [openingLine?, Place.after] using ih _ proper (by simp)
          | quoted quote escaped =>
              have stay : openingLine? line (.quoted quote false) false (ds ++ rest) =
                  openingLine? line (.quoted quote false) false (cs ++ rest) :=
                @ih line (.quoted quote false) proper false (by simp)
              rcases proper with rfl | rfl <;> cases escaped <;>
                simpa [openingLine?, Place.after] using stay

end Directive
end TemplateEngine
