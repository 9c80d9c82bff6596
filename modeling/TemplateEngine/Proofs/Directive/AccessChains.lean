import TemplateEngine.Proofs.Directive.ChainStates

/-!
# Access chains

The texts of expressions, as data: quoted texts, numbers, and access chains, whose groups hold such texts
again, with signs between them. The dots of the chains are all that is rewritten, at every depth.
-/

namespace TemplateEngine
namespace Directive

open Text (isNamePart)

/-! ## Texts of expressions -/

/-- A character of a quoted text, or a backslash and the character behind it. -/
inductive QuotedPart (quote : Char)
  | plain (c : Char) (notQuote : c ≠ quote) (notBackslash : c ≠ '\\')
  | escape (c : Char)

def QuotedPart.chars {quote : Char} : QuotedPart quote → List Char
  | .plain c _ _ => [c]
  | .escape c => ['\\', c]

structure QuotedText where
  quote : Char
  mark : quote = '\'' ∨ quote = '"'
  body : List (QuotedPart quote)

def QuotedText.chars (q : QuotedText) : List Char :=
  q.quote :: (q.body.flatMap QuotedPart.chars ++ [q.quote])

structure NumberText where
  whole : List Char
  places : List Char
  nonempty : whole ≠ []
  wholeDigits : whole.all Char.isDigit = true
  placesDigits : places.all Char.isDigit = true

def NumberText.chars (n : NumberText) : List Char :=
  if n.places = [] then n.whole else n.whole ++ '.' :: n.places

/-- A run of name characters. Digits are a member by their position; a name is not of digits alone. -/
structure Word where
  chars : List Char
  nonempty : chars ≠ []
  parts : chars.all isNamePart = true

structure Sign where
  char : Char
  notPart : isNamePart char = false
  notDot : char ≠ '.'
  notSingle : char ≠ '\''
  notDouble : char ≠ '"'

inductive Bracket
  | round
  | square

def Bracket.opening : Bracket → Char
  | .round => '('
  | .square => '['

def Bracket.closing : Bracket → Char
  | .round => ')'
  | .square => ']'

mutual

/-- The text of an expression. Where a number or a chain stands right before it, it does not begin with one. -/
inductive Expression : (behind : Bool) → Type
  | done {behind} : Expression behind
  | sign {behind} (sign : Sign) (rest : Expression false) : Expression behind
  | quoted {behind} (q : QuotedText) (rest : Expression false) : Expression behind
  | number (n : NumberText) (rest : Expression true) : Expression false
  | chain (root : ChainRoot) (accesses : Accesses) (rest : Expression true) : Expression false

inductive ChainRoot
  | name (word : Word) (notDigits : word.chars.all Char.isDigit = false)
  | group (bracket : Bracket) (inner : Expression false)

inductive Accesses
  | done
  | member (word : Word) (rest : Accesses)
  | group (bracket : Bracket) (inner : Expression false) (rest : Accesses)

end

mutual

/-- The characters of an expression, with a mark before each member. -/
def Expression.chars (mark : List Char) {behind : Bool} : Expression behind → List Char
  | .done => []
  | .sign sign rest => sign.char :: rest.chars mark
  | .quoted q rest => q.chars ++ rest.chars mark
  | .number n rest => n.chars ++ rest.chars mark
  | .chain root accesses rest => root.chars mark ++ (accesses.chars mark ++ rest.chars mark)

def ChainRoot.chars (mark : List Char) : ChainRoot → List Char
  | .name word _ => word.chars
  | .group bracket inner => bracket.opening :: (inner.chars mark ++ [bracket.closing])

def Accesses.chars (mark : List Char) : Accesses → List Char
  | .done => []
  | .member word rest => mark ++ word.chars ++ rest.chars mark
  | .group bracket inner rest =>
      bracket.opening :: (inner.chars mark ++ [bracket.closing]) ++ rest.chars mark

end

example : Expression.chars ['.']
    (.chain (.name ⟨['x'], by decide, by decide⟩ (by decide))
      (.group .square (.chain (.name ⟨['i'], by decide, by decide⟩ (by decide))
        (.member ⟨['0'], by decide, by decide⟩ .done) .done)
        (.member ⟨['y'], by decide, by decide⟩ .done))
      (.sign ⟨'*', by decide, by decide, by decide, by decide⟩
        (.number ⟨['1'], ['5'], by decide, by decide, by decide⟩ .done))) =
    "x[i.0].y*1.5".toList := by decide

/-! ## The parts of an expression -/

namespace ChainState

variable {s : ChainState}

/-- Within a quoted text, behind no backslash. -/
structure InText (s : ChainState) (quote : Char) : Prop where
  quote : s.quote = some quote
  escaped : s.escaped = false
  afterArrow : s.afterArrow = false
  run : s.run = none

/-- Nothing is rewritten within quotes. -/
theorem rewrites_inQuote {quote : Char} (h : s.quote = some quote) (c : Char) :
    s.Rewrites [c] [c] (s.inQuote quote c) := by
  intro rest
  simp [arrowsFrom, h]

theorem InText.rewrites_part {quote : Char} (h : s.InText quote) (part : QuotedPart quote) :
    ∃ s' : ChainState, s'.InText quote ∧ s.Rewrites part.chars part.chars s' := by
  have first := rewrites_inQuote h.quote
  cases part with
  | plain c notQuote notBackslash =>
      have same : s.inQuote quote c = { s with last := some c } := by
        simp [inQuote, h.escaped, notQuote, notBackslash]
      exact ⟨s.inQuote quote c, same ▸ ⟨h.quote, h.escaped, h.afterArrow, h.run⟩, first c⟩
  | escape c =>
      have backslash : s.inQuote quote '\\' = { s with escaped := true, last := some '\\' } := by
        simp [inQuote, h.escaped]
      have within : (s.inQuote quote '\\').quote = some quote := backslash ▸ h.quote
      refine ⟨(s.inQuote quote '\\').inQuote quote c, ?_,
        (first '\\').append (rewrites_inQuote within c)⟩
      rw [backslash]
      exact ⟨h.quote, rfl, h.afterArrow, h.run⟩

/-- The rest of a quoted text, up to its closing quote, is kept. -/
theorem InText.rewrites_body {quote : Char} (h : s.InText quote) (notBackslash : quote ≠ '\\')
    (body : List (QuotedPart quote)) :
    ∃ s' : ChainState, s'.Fresh ∧
      s.Rewrites (body.flatMap QuotedPart.chars ++ [quote]) (body.flatMap QuotedPart.chars ++ [quote])
        s' := by
  induction body generalizing s with
  | nil =>
      have closed : s.inQuote quote quote = { s with quote := none, last := some quote } := by
        simp [inQuote, h.escaped, notBackslash]
      refine ⟨s.inQuote quote quote, ?_, rewrites_inQuote h.quote quote⟩
      rw [closed]
      exact ⟨⟨⟨rfl, h.escaped⟩, h.afterArrow⟩, h.run⟩
  | cons part body ih =>
      rcases h.rewrites_part part with ⟨between, within, here⟩
      rcases ih within with ⟨s', fresh, later⟩
      refine ⟨s', fresh, ?_⟩
      rw [List.flatMap_cons, List.append_assoc]
      exact here.append later

/-- A quoted text is left as it is. -/
theorem Quiet.rewrites_quoted (h : s.Quiet) (q : QuotedText) :
    ∃ s' : ChainState, s'.Fresh ∧ s.Rewrites q.chars q.chars s' := by
  have opens : s.Rewrites [q.quote] [q.quote] (s.other q.quote) := by
    rcases q.mark with same | same
    all_goals
      rw [same]
      exact h.rewrites_other (by decide) (by decide)
  have within : (s.other q.quote).InText q.quote :=
    ⟨by simp [other, q.mark], h.escaped, rfl, rfl⟩
  have notBackslash : q.quote ≠ '\\' := by
    rcases q.mark with same | same
    all_goals
      rw [same]
      decide
  rcases within.rewrites_body notBackslash q.body with ⟨s', fresh, body⟩
  exact ⟨s', fresh, opens.append body⟩

/-- The point of a number is left as it is. -/
theorem Fresh.rewrites_number (h : s.Fresh) (n : NumberText) :
    ∃ s' : ChainState, s'.Quiet ∧ s.Rewrites n.chars n.chars s' := by
  have parts : ∀ c ∈ n.whole, isNamePart c = true := fun c member =>
    Text.isNamePart_of_isDigit (List.all_eq_true.1 n.wholeDigits c member)
  rcases rewrites_word h.toUnquoted h.run n.nonempty parts with ⟨between, inRun, whole⟩
  rw [h.afterArrow, n.wholeDigits] at inRun
  unfold NumberText.chars
  split
  · exact ⟨between, inRun.toQuiet, whole⟩
  · next nonempty =>
    rcases inRun.rewrites_places nonempty n.placesDigits with ⟨s', inRun', places⟩
    exact ⟨s', inRun'.toQuiet, whole.append places⟩

/-- A group is rewritten inside, and a member may be taken of it. -/
theorem Unquoted.rewrites_group (h : s.Unquoted) (bracket : Bracket) {cs cs' : List Char}
    (inner : ∀ t : ChainState, t.Fresh → ∃ t' : ChainState, t'.Quiet ∧ t.Rewrites cs cs' t') :
    ∃ s' : ChainState, s'.Object ∧
      s.Rewrites (bracket.opening :: (cs ++ [bracket.closing]))
        (bracket.opening :: (cs' ++ [bracket.closing])) s' := by
  have opens : s.Rewrites [bracket.opening] [bracket.opening] (s.other bracket.opening) := by
    cases bracket <;> exact h.rewrites_other (by decide) (by decide)
  have fresh : (s.other bracket.opening).Fresh := by
    cases bracket <;> exact h.fresh_other (by decide) (by decide)
  rcases inner _ fresh with ⟨t, quiet, within⟩
  have closes : t.Rewrites [bracket.closing] [bracket.closing] (t.other bracket.closing) := by
    cases bracket <;> exact quiet.rewrites_other (by decide) (by decide)
  have object : (t.other bracket.closing).Object := by
    have fresh' : (t.other bracket.closing).Fresh := by
      cases bracket <;> exact quiet.fresh_other (by decide) (by decide)
    have ends : endsObject bracket.closing = true := by cases bracket <;> decide
    exact ⟨fresh'.toQuiet, by simp [fresh'.run], ends⟩
  exact ⟨_, object, opens.append (within.append closes)⟩

end ChainState

/-! ## Dots of access chains -/

mutual

/-- Each mark of an expression becomes an arrow and nothing else changes, by recursion on the expression.
-/
theorem Expression.rewrites : ∀ {behind : Bool} (e : Expression behind) {s : ChainState}, s.Quiet →
    (behind = false → s.run = none) →
    ∃ s' : ChainState, s'.Quiet ∧ s.Rewrites (e.chars ['.']) (e.chars ['-', '>']) s'
  | _, .done, s, quiet, _ => ⟨s, quiet, .refl s⟩
  | _, .sign sign rest, s, quiet, _ => by
      have here := quiet.rewrites_other sign.notPart sign.notDot
      have fresh := quiet.fresh_other sign.notSingle sign.notDouble
      rcases rest.rewrites fresh.toQuiet fun _ => fresh.run with ⟨s', quiet', later⟩
      exact ⟨s', quiet', here.append later⟩
  | _, .quoted q rest, s, quiet, _ => by
      rcases quiet.rewrites_quoted q with ⟨between, fresh, here⟩
      rcases rest.rewrites fresh.toQuiet fun _ => fresh.run with ⟨s', quiet', later⟩
      exact ⟨s', quiet', here.append later⟩
  | _, .number n rest, s, quiet, fresh => by
      rcases ChainState.Fresh.rewrites_number ⟨quiet, fresh rfl⟩ n with ⟨between, quiet', here⟩
      rcases rest.rewrites quiet' fun same => nomatch same with ⟨s', quiet'', later⟩
      exact ⟨s', quiet'', here.append later⟩
  | _, .chain root accesses rest, s, quiet, fresh => by
      rcases root.rewrites ⟨quiet, fresh rfl⟩ with ⟨behindRoot, object, here⟩
      rcases accesses.rewrites object with ⟨between, object', follow⟩
      rcases rest.rewrites object'.toQuiet fun same => nomatch same with ⟨s', quiet', later⟩
      exact ⟨s', quiet', here.append (follow.append later)⟩

/-- A chain begins with what a member may be taken of. -/
theorem ChainRoot.rewrites : ∀ (root : ChainRoot) {s : ChainState}, s.Fresh →
    ∃ s' : ChainState, s'.Object ∧ s.Rewrites (root.chars ['.']) (root.chars ['-', '>']) s'
  | .name word notDigits, s, fresh => by
      rcases ChainState.rewrites_word fresh.toUnquoted fresh.run word.nonempty
        (List.all_eq_true.1 word.parts) with
        ⟨s', inRun, here⟩
      rw [notDigits, Bool.and_false] at inRun
      exact ⟨s', inRun.object, here⟩
  | .group bracket inner, s, fresh =>
      fresh.rewrites_group bracket fun _ fresh' => inner.rewrites fresh'.toQuiet fun _ => fresh'.run

/-- Each dot of a chain becomes an arrow. -/
theorem Accesses.rewrites : ∀ (accesses : Accesses) {s : ChainState}, s.Object →
    ∃ s' : ChainState, s'.Object ∧ s.Rewrites (accesses.chars ['.']) (accesses.chars ['-', '>']) s'
  | .done, s, object => ⟨s, object, .refl s⟩
  | .member word rest, s, object => by
      rcases object.rewrites_member word.nonempty (List.all_eq_true.1 word.parts) with ⟨between, inRun, here⟩
      rcases rest.rewrites inRun.object with ⟨s', object', later⟩
      exact ⟨s', object', here.append later⟩
  | .group bracket inner rest, s, object => by
      have within (t : ChainState) (fresh : t.Fresh) := inner.rewrites fresh.toQuiet fun _ => fresh.run
      rcases object.rewrites_group bracket within with ⟨between, object', here⟩
      rcases rest.rewrites object' with ⟨s', object'', later⟩
      exact ⟨s', object'', here.append later⟩

end

/-- The dots of the access chains become arrows, and all else is kept: the points of numbers, and whatever
quoted texts hold. -/
theorem arrows_expression (e : Expression false) :
    arrows (e.chars ['.']) = e.chars ['-', '>'] := by
  rcases e.rewrites ChainState.Fresh.initial.toQuiet fun _ => rfl with ⟨s, -, rewrites⟩
  exact rewrites.arrows

end Directive
end TemplateEngine
