import TemplateEngine.Text.CharClass

/-!
# Scanning a text

Three ways to walk a text from left to right. `after?` reads a fixed beginning, `until?` reads up to
the first place where something closes, and `pieces` splits a whole text into the spans that a
recogniser accepts, leftmost first and without overlap, and the single characters between them.
-/

namespace TemplateEngine
namespace Text

/-- A recogniser looks at the head of a text; it gives what it read there and the text after it. -/
abbrev Recogniser (α : Type) := List Char → Option (α × List Char)

def after? : List Char → List Char → Option (List Char)
  | [], cs => some cs
  | _ :: _, [] => none
  | m :: ms, c :: cs => if m = c then after? ms cs else none

theorem after?_eq_some_iff {mark cs rest : List Char} :
    after? mark cs = some rest ↔ cs = mark ++ rest := by
  induction mark generalizing cs with
  | nil => simp [after?]
  | cons m ms ih =>
      cases cs with
      | nil => simp [after?]
      | cons c cs =>
          by_cases h : m = c
          · subst h; simp [after?, ih]
          · simp [after?, h, Ne.symm h]

@[simp]
theorem after?_append (mark rest : List Char) : after? mark (mark ++ rest) = some rest :=
  after?_eq_some_iff.2 rfl

/-- The characters up to the first place where `close` accepts, all of them allowed, and the text
that `close` leaves. -/
def until? (close : List Char → Option (List Char)) (allowed : Char → Bool) :
    Recogniser (List Char)
  | [] => (close []).map fun rest => ([], rest)
  | c :: cs =>
      match close (c :: cs) with
      | some rest => some ([], rest)
      | none =>
          if allowed c then
            (until? close allowed cs).map fun (read, rest) => (c :: read, rest)
          else none

/-- A part of a text: a character by itself, or what a recogniser read from a span. -/
inductive Piece (α : Type)
  | plain (c : Char)
  | found (a : α)
  deriving DecidableEq, Repr

/-- The pieces of a text whose first characters, as many as the number says, are read already. -/
def piecesFrom {α : Type} (read : Recogniser α) : Nat → List Char → List (Piece α)
  | _, [] => []
  | n + 1, _ :: cs => piecesFrom read n cs
  | 0, c :: cs =>
      match read (c :: cs) with
      | some (a, rest) => .found a :: piecesFrom read (cs.length - rest.length) cs
      | none => .plain c :: piecesFrom read 0 cs

/-- A text as the spans that a recogniser accepts and the characters between them. -/
def pieces {α : Type} (read : Recogniser α) (cs : List Char) : List (Piece α) :=
  piecesFrom read 0 cs

/-- What a recogniser read, in text order. -/
def Piece.captures {α : Type} (ps : List (Piece α)) : List α :=
  ps.filterMap fun
    | .plain _ => none
    | .found a => some a

/-- A list of pieces as text, each found span replaced. -/
def Piece.replace {α : Type} (write : α → List Char) (ps : List (Piece α)) : List Char :=
  ps.flatMap fun
    | .plain c => [c]
    | .found a => write a

/-- A text with each span that a recogniser accepts replaced. -/
def replaceSpans {α : Type} (read : Recogniser α) (write : α → List Char) (cs : List Char) :
    List Char :=
  Piece.replace write (pieces read cs)

theorem piecesFrom_eq_drop {α : Type} (read : Recogniser α) (n : Nat) (cs : List Char) :
    piecesFrom read n cs = pieces read (cs.drop n) := by
  induction cs generalizing n with
  | nil => cases n <;> simp [piecesFrom, pieces]
  | cons c cs ih =>
      cases n with
      | zero => rfl
      | succ n => simpa [piecesFrom] using ih n

@[simp]
theorem pieces_nil {α : Type} (read : Recogniser α) : pieces read [] = [] := rfl

/-- Where nothing is recognised the first character stands by itself. -/
theorem pieces_plain {α : Type} {read : Recogniser α} {c : Char} {cs : List Char}
    (h : read (c :: cs) = none) : pieces read (c :: cs) = .plain c :: pieces read cs := by
  simp [pieces, piecesFrom, h]

/-- A recognised span is one piece; the pieces of what follows it come next. -/
theorem pieces_found {α : Type} {read : Recogniser α} {c : Char} {cs span rest : List Char} {a : α}
    (h : read (c :: cs) = some (a, rest)) (split : cs = span ++ rest) :
    pieces read (c :: cs) = .found a :: pieces read rest := by
  rw [pieces, piecesFrom, h]
  simp only
  rw [piecesFrom_eq_drop, split]
  simp

/-- The text with every occurrence of `mark` replaced, from left to right and without overlap. The
empty mark occurs before every character and at the end. -/
def replaceAll (mark new cs : List Char) : List Char :=
  match mark with
  | [] => new ++ cs.flatMap fun c => c :: new
  | _ => replaceSpans (fun cs => (after? mark cs).map fun rest => ((), rest)) (fun _ => new) cs

def occurs (mark : List Char) : List Char → Bool
  | [] => mark.isEmpty
  | c :: cs => mark.isPrefixOf (c :: cs) || occurs mark cs

def trimEnd (cs : List Char) : List Char :=
  (cs.reverse.dropWhile isBlank).reverse

def trim (cs : List Char) : List Char :=
  trimEnd (cs.dropWhile isBlank)

/-- The line a place is on, counted from one, given the text before it. -/
def lineAfter (before : List Char) : Nat :=
  before.count '\n' + 1

end Text
end TemplateEngine
