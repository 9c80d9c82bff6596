import TemplateEngine.Text.Scan

/-!
# Scanning past a text

A recogniser *skips* a text before another one when it accepts at no place of it, whatever it may make
of the text behind. Replacement goes through a skipped text unchanged, and a search for a closing reads
all of it. So a text made of parts is scanned part by part, and no match lies across two of them.
-/

namespace TemplateEngine
namespace Text

variable {α : Type}

/-- The reader accepts at no place of `text` when `rest` stands behind it. -/
def Skips (read : List Char → Option α) : (text rest : List Char) → Prop
  | [], _ => True
  | c :: cs, rest => read (c :: (cs ++ rest)) = none ∧ Skips read cs rest

theorem skips_append {read : List Char → Option α} {text text' rest : List Char} :
    Skips read (text ++ text') rest ↔ Skips read text (text' ++ rest) ∧ Skips read text' rest := by
  induction text with
  | nil => simp [Skips]
  | cons c cs ih => simp [Skips, ih, and_assoc]

/-- What reads less skips more. -/
theorem Skips.mono {β : Type} {read : List Char → Option α} {read' : List Char → Option β}
    {text rest : List Char} (h : Skips read text rest)
    (weaker : ∀ cs, read cs = none → read' cs = none) : Skips read' text rest := by
  induction text with
  | nil => trivial
  | cons c cs ih => exact ⟨weaker _ h.1, ih h.2⟩

/-- A reader that accepts at no split of a text skips it. -/
theorem skips_of_splits {read : List Char → Option α} {text rest : List Char}
    (h : ∀ before here, text = before ++ here → here ≠ [] → read (here ++ rest) = none) :
    Skips read text rest := by
  induction text with
  | nil => trivial
  | cons c cs ih =>
      refine ⟨h [] (c :: cs) rfl (List.cons_ne_nil c cs), ih ?_⟩
      intro before here split nonempty
      exact h (c :: before) here (congrArg (c :: ·) split) nonempty

/-- A reader that stops at every character of a kind skips a text of that kind. -/
theorem skips_of_forall {read : List Char → Option α} {text : List Char}
    (stops : ∀ c ∈ text, ∀ cs, read (c :: cs) = none) (rest : List Char) :
    Skips read text rest := by
  induction text with
  | nil => trivial
  | cons c cs ih =>
      exact ⟨stops c (by simp) _, ih fun d member => stops d (List.mem_cons_of_mem c member)⟩

/-- What is skipped stays character by character. -/
theorem pieces_append_of_skips {read : Recogniser α} {text rest : List Char}
    (h : Skips read text rest) :
    pieces read (text ++ rest) = text.map Piece.plain ++ pieces read rest := by
  induction text with
  | nil => rfl
  | cons c cs ih => simp [pieces_plain h.1, ih h.2]

/-- A span is found and the rest is scanned. -/
theorem pieces_append_of_found {read : Recogniser α} {span rest : List Char} {a : α}
    (h : read (span ++ rest) = some (a, rest)) (nonempty : span ≠ []) :
    pieces read (span ++ rest) = .found a :: pieces read rest := by
  cases span with
  | nil => exact absurd rfl nonempty
  | cons c cs => exact pieces_found h rfl

/-! ## Replacement -/

theorem replace_append (write : α → List Char) (ps qs : List (Piece α)) :
    Piece.replace write (ps ++ qs) = Piece.replace write ps ++ Piece.replace write qs := by
  simp [Piece.replace]

theorem replace_map_plain (write : α → List Char) (text : List Char) :
    Piece.replace write (text.map Piece.plain) = text := by
  simp [Piece.replace, List.flatMap_map]

/-- What is skipped is not replaced. -/
theorem replaceSpans_append_of_skips {read : Recogniser α} {write : α → List Char}
    {text rest : List Char} (h : Skips read text rest) :
    replaceSpans read write (text ++ rest) = text ++ replaceSpans read write rest := by
  unfold replaceSpans
  rw [pieces_append_of_skips h, replace_append, replace_map_plain]

/-- A span is replaced. -/
theorem replaceSpans_append_of_found {read : Recogniser α} {write : α → List Char}
    {span rest : List Char} {a : α} (h : read (span ++ rest) = some (a, rest))
    (nonempty : span ≠ []) :
    replaceSpans read write (span ++ rest) = write a ++ replaceSpans read write rest := by
  simp only [replaceSpans, Piece.replace, pieces_append_of_found h nonempty, List.flatMap_cons]

/-- A text made of parts is replaced part by part, if each part is, whatever stands behind it. -/
theorem replaceSpans_flatMap {β : Type} {read : Recogniser α} {write : α → List Char}
    {chars written : β → List Char} (part : ∀ b rest,
      replaceSpans read write (chars b ++ rest) = written b ++ replaceSpans read write rest)
    (parts : List β) (rest : List Char) :
    replaceSpans read write (parts.flatMap chars ++ rest) =
      parts.flatMap written ++ replaceSpans read write rest := by
  induction parts with
  | nil => rfl
  | cons b parts ih =>
      rw [List.flatMap_cons, List.flatMap_cons, List.append_assoc, List.append_assoc, part, ih]

theorem captures_append_of_skips {read : Recogniser α} {text rest : List Char}
    (h : Skips read text rest) :
    Piece.captures (pieces read (text ++ rest)) = Piece.captures (pieces read rest) := by
  simp [Piece.captures, pieces_append_of_skips h, List.filterMap_map]

/-- It is captured in front of the later ones. -/
theorem captures_append_of_found {read : Recogniser α} {span rest : List Char} {a : α}
    (h : read (span ++ rest) = some (a, rest)) (nonempty : span ≠ []) :
    Piece.captures (pieces read (span ++ rest)) = a :: Piece.captures (pieces read rest) := by
  simp [Piece.captures, pieces_append_of_found h nonempty]

/-- A text that is skipped to its end is its own pieces. -/
theorem pieces_of_skips {read : Recogniser α} {text : List Char} (h : Skips read text []) :
    pieces read text = text.map Piece.plain := by
  have whole := pieces_append_of_skips h
  simpa using whole

theorem replaceSpans_of_skips {read : Recogniser α} {write : α → List Char} {text : List Char}
    (h : Skips read text []) : replaceSpans read write text = text := by
  rw [replaceSpans, pieces_of_skips h, replace_map_plain]

theorem captures_of_skips {read : Recogniser α} {text : List Char} (h : Skips read text []) :
    Piece.captures (pieces read text) = [] := by
  simp [Piece.captures, pieces_of_skips h, List.filterMap_map]

/-! ## Reading within a text -/

/-- At every place of `text` the reader accepts what it would accept without the `rest` behind. -/
def ReadsWithin (read : Recogniser α) (text rest : List Char) : Prop :=
  ∀ before here, text = before ++ here →
    read (here ++ rest) = (read here).map fun (a, left) => (a, left ++ rest)

/-- Spans that lie within a text are replaced in it alone. -/
theorem replaceSpans_append_of_readsWithin {read : Recogniser α} {write : α → List Char}
    {text rest : List Char}
    (spans : ∀ {cs a left}, read cs = some (a, left) → ∃ span, span ≠ [] ∧ cs = span ++ left)
    (h : ReadsWithin read text rest) :
    replaceSpans read write (text ++ rest) =
      replaceSpans read write text ++ replaceSpans read write rest := by
  -- What is left behind a span is a shorter text.
  induction size : text.length using Nat.strongRecOn generalizing text with
  | ind n ih =>
      cases text with
      | nil => rfl
      | cons c cs =>
          have here := h [] (c :: cs) rfl
          cases found : read (c :: cs) with
          | none =>
              have within : ReadsWithin read cs rest := by
                intro before here split
                exact h (c :: before) here (congrArg (c :: ·) split)
              rw [found] at here
              rw [List.cons_append] at here ⊢
              rw [replaceSpans, replaceSpans, pieces_plain here, pieces_plain found]
              exact congrArg (c :: ·) (ih cs.length (by simp [← size]) within rfl)
          | some accepted =>
              rcases accepted with ⟨a, left⟩
              rcases spans found with ⟨span, nonempty, split⟩
              have within : ReadsWithin read left rest := by
                intro before here tail
                apply h (span ++ before) here
                rw [split, tail, List.append_assoc]
              have shorter : left.length < n := by
                rw [← size, split, List.length_append]
                exact Nat.lt_add_of_pos_left (List.length_pos_iff.2 nonempty)
              rw [found, split, List.append_assoc] at here
              rw [split] at found
              rw [split, List.append_assoc, replaceSpans_append_of_found here nonempty,
                replaceSpans_append_of_found found nonempty, ih _ shorter within rfl,
                List.append_assoc]

/-! ## Marks before a rest -/

/-- A rest that begins with no character of a mark takes no part in reading the mark. -/
theorem after?_append_of_head {mark rest : List Char} (apart : ∀ c ∈ rest.head?, c ∉ mark)
    (cs : List Char) : after? mark (cs ++ rest) = (after? mark cs).map (· ++ rest) := by
  induction mark generalizing cs with
  | nil => rfl
  | cons m ms ih =>
      cases cs with
      | nil =>
          cases rest with
          | nil => rfl
          | cons c more =>
              have unlike : m ≠ c := by
                rintro rfl
                exact apart m rfl (List.mem_cons_self ..)
              simp [after?, unlike]
      | cons c cs =>
          have later := ih (fun d first member => apart d first (List.mem_cons_of_mem m member)) cs
          by_cases same : m = c
          · simpa [after?, same] using later
          · simp [after?, same]

/-- A mark occurs at some place of a text. -/
theorem occurs_iff {mark cs : List Char} :
    occurs mark cs = true ↔ ∃ before after, cs = before ++ (mark ++ after) := by
  induction cs with
  | nil =>
      cases mark with
      | nil => exact ⟨fun _ => ⟨[], [], rfl⟩, fun _ => rfl⟩
      | cons m ms => simp [occurs]
  | cons c cs ih =>
      rw [occurs, Bool.or_eq_true, ih, List.isPrefixOf_iff_prefix]
      constructor
      · rintro (⟨after, here⟩ | ⟨before, after, later⟩)
        · exact ⟨[], after, here.symm⟩
        · exact ⟨c :: before, after, congrArg (c :: ·) later⟩
      · rintro ⟨before, after, split⟩
        cases before with
        | nil => exact Or.inl ⟨after, split.symm⟩
        | cons d before =>
            cases split
            exact Or.inr ⟨before, after, rfl⟩

theorem not_occurs_of_append {mark cs : List Char} (before : List Char)
    (never : occurs mark (before ++ cs) = false) : occurs mark cs = false := by
  rw [Bool.eq_false_iff] at never ⊢
  intro here
  rcases occurs_iff.1 here with ⟨more, after, split⟩
  exact never (occurs_iff.2 ⟨before ++ more, after, by rw [split, List.append_assoc]⟩)

/-- A text without the mark is skipped before a rest that begins with no character of the mark. -/
theorem skips_of_not_occurs {mark cs rest : List Char} (never : occurs mark cs = false)
    (apart : ∀ c ∈ rest.head?, c ∉ mark) : Skips (after? mark) cs rest := by
  apply skips_of_splits
  intro before here split _
  rw [after?_append_of_head apart]
  cases found : after? mark here with
  | none => rfl
  | some left =>
      have there : occurs mark cs = true :=
        occurs_iff.2 ⟨before, left, by rw [split, after?_eq_some_iff.1 found]⟩
      rw [never] at there
      cases there

/-! ## Replacing a mark -/

/-- Replacing a mark is a replacement of spans. -/
theorem replaceAll_eq {mark : List Char} (nonempty : mark ≠ []) (new cs : List Char) :
    replaceAll mark new cs =
      replaceSpans (fun cs => (after? mark cs).map fun rest => ((), rest)) (fun _ => new) cs := by
  cases mark with
  | nil => exact absurd rfl nonempty
  | cons m ms => rfl

theorem replaceAll_append_of_skips {mark text rest : List Char} (nonempty : mark ≠ [])
    (new : List Char) (h : Skips (after? mark) text rest) :
    replaceAll mark new (text ++ rest) = text ++ replaceAll mark new rest := by
  rw [replaceAll_eq nonempty, replaceAll_eq nonempty]
  exact replaceSpans_append_of_skips (h.mono fun cs none => by simp [none])

/-- A mark is replaced, and the rest is searched behind it. -/
theorem replaceAll_append_mark {mark : List Char} (nonempty : mark ≠ []) (new rest : List Char) :
    replaceAll mark new (mark ++ rest) = new ++ replaceAll mark new rest := by
  have found : ((after? mark (mark ++ rest)).map fun rest => ((), rest)) = some ((), rest) := by
    simp
  rw [replaceAll_eq nonempty, replaceAll_eq nonempty]
  exact replaceSpans_append_of_found found nonempty

/-- Where a mark does not occur there is nothing to replace. -/
theorem replaceAll_of_not_occurs {mark cs : List Char} (nonempty : mark ≠ []) (new : List Char)
    (h : occurs mark cs = false) : replaceAll mark new cs = cs := by
  have skipped : Skips (after? mark) cs [] := skips_of_not_occurs h (by simp)
  have whole := replaceAll_append_of_skips nonempty new skipped
  have nothing : replaceAll mark new [] = [] := by
    rw [replaceAll_eq nonempty]
    rfl
  rwa [nothing, List.append_nil] at whole

/-! ## Searching for a closing -/

/-- A search reads up to a place where the closing is taken. -/
theorem until?_split {close : List Char → Option (List Char)} {allowed : Char → Bool}
    {cs read left : List Char} (found : until? close allowed cs = some (read, left)) :
    ∃ tail, cs = read ++ tail ∧ close tail = some left := by
  induction cs generalizing read with
  | nil =>
      rw [until?, Option.map_eq_some_iff] at found
      rcases found with ⟨rest, closed, same⟩
      cases same
      exact ⟨[], rfl, closed⟩
  | cons c cs ih =>
      rw [until?] at found
      cases closed : close (c :: cs) with
      | some behind =>
          rw [closed] at found
          cases found
          exact ⟨c :: cs, rfl, closed⟩
      | none =>
          rw [closed] at found
          cases free : allowed c with
          | false => simp [free] at found
          | true =>
              simp only [free, if_true, Option.map_eq_some_iff] at found
              rcases found with ⟨⟨read', left'⟩, later, same⟩
              cases same
              rcases ih later with ⟨tail, rfl, ends⟩
              exact ⟨tail, rfl, ends⟩

/-- A search that ends within a text ends there whatever stands behind, if the closing is read so. -/
theorem until?_append_of_some {close : List Char → Option (List Char)} {allowed : Char → Bool}
    {text rest read left : List Char}
    (within : ∀ cs, close (cs ++ rest) = (close cs).map (· ++ rest))
    (found : until? close allowed text = some (read, left)) :
    until? close allowed (text ++ rest) = some (read, left ++ rest) := by
  induction text generalizing read with
  | nil =>
      -- Only a closing of no characters is read at the end, and then it is read before the rest
      -- too.
      have closed := within []
      rw [until?] at found
      cases nothing : close [] with
      | none => simp [nothing] at found
      | some after =>
          rw [nothing] at found closed
          cases found
          cases rest with
          | nil => simpa [until?] using closed
          | cons c cs =>
              rw [List.nil_append] at closed ⊢
              rw [until?, closed]
              rfl
  | cons c cs ih =>
      have closed := within (c :: cs)
      rw [List.cons_append] at closed ⊢
      rw [until?] at found ⊢
      cases here : close (c :: cs) with
      | some after =>
          rw [here] at found closed
          cases found
          rw [closed]
          rfl
      | none =>
          rw [here] at found closed
          rw [closed]
          cases free : allowed c with
          | false => simp [free] at found
          | true =>
              simp only [free, if_true, Option.map_none, Option.map_eq_some_iff] at found ⊢
              rcases found with ⟨⟨read', left'⟩, later, same⟩
              cases same
              exact ⟨(read', left' ++ rest), ih later, rfl⟩

/-- A span reaches to the first closing. -/
theorem until?_append_of_skips {close : List Char → Option (List Char)} {allowed : Char → Bool}
    {text rest after : List Char} (h : Skips close text rest) (closed : close rest = some after)
    (free : ∀ c ∈ text, allowed c = true) :
    until? close allowed (text ++ rest) = some (text, after) := by
  induction text with
  | nil =>
      cases rest with
      | nil => simp [until?, closed]
      | cons c cs => simp [until?, closed]
  | cons c cs ih =>
      have here := ih h.2 fun d member => free d (List.mem_cons_of_mem c member)
      simp [until?, h.1, here, free c (by simp)]

end Text
end TemplateEngine
