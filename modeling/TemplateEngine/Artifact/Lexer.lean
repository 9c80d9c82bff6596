import TemplateEngine.Artifact.Error
import TemplateEngine.Text.Scan

/-!
# Splitting an artifact into tokens

`Token.read` reads the token at the head of a text and gives the characters it is made of;
`lex` walks an artifact, in text and in islands by turns, and marks where each token starts and
stops. A failure is the text that is left at the character no token can go on with.
-/

namespace TemplateEngine
namespace Artifact

open Decimal (digitsValue)
open Text (isBlank isNameStart isNamePart lineAfter)

def islandOpen : List Char := ['<', '%']

def islandClose : List Char := ['%', '>']

/-- The literal text at the head of an artifact: everything before the next island. -/
def literal : List Char → List Char
  | [] => []
  | c :: cs => if islandOpen.isPrefixOf (c :: cs) then [] else c :: literal cs

/-- What a backslash and a character stand for in a quoted text. Both are kept where the character
has no meaning there. -/
def escaped (c : Char) : List Char :=
  if c = 'n' then ['\n']
  else if c = 't' then ['\t']
  else if c = 'r' then ['\r']
  else if c = '\\' || c = '"' || c = '\'' || c = '$' then [c]
  else ['\\', c]

/-- A quoted text after its opening quote: its content, and the characters read up to and with the
closing quote. -/
def quotedBody? (quote : Char) : List Char → Option (List Char × List Char)
  | [] => none
  | c :: cs =>
      if c = quote then some ([], [c])
      else if c = '\\' then
        match cs with
        | [] => none
        | d :: ds =>
            (quotedBody? quote ds).map fun (body, read) => (escaped d ++ body, c :: d :: read)
      else (quotedBody? quote cs).map fun (body, read) => (c :: body, c :: read)

/-- The digits before the point: a zero alone, or digits that do not begin with zero. -/
def wholeDigits (cs : List Char) : List Char :=
  match cs with
  | '0' :: _ => ['0']
  | _ => cs.takeWhile Char.isDigit

/-- A number: its value and its characters. A point needs a digit after it. -/
def readNumber (cs : List Char) : Except (List Char) (Double × List Char) :=
  let whole := wholeDigits cs
  match cs.drop whole.length with
  | '.' :: rest =>
      -- Once there is a point, a number without places is a fault and not a shorter number.
      let places := rest.takeWhile Char.isDigit
      if places.isEmpty then .error rest
      else
        let value := digitsValue (whole ++ places)
        .ok (Double.ofDecimal false value (-(places.length : Int)), whole ++ '.' :: places)
  | _ => .ok (Double.ofNat (digitsValue whole), whole)

def singleSymbol? (c : Char) : Option Symbol :=
  match c with
  | '\x7b' => some .openBrace
  | '\x7d' => some .closeBrace
  | '(' => some .openParen
  | ')' => some .closeParen
  | '[' => some .openBracket
  | ']' => some .closeBracket
  | ',' => some .comma
  | ';' => some .semicolon
  | '=' => some .assign
  | '+' => some .plus
  | '-' => some .minus
  | '*' => some .star
  | '/' => some .slash
  | '%' => some .percent
  | '!' => some .bang
  | '<' => some .less
  | '>' => some .greater
  | _ => none

def doubleSymbol? (c d : Char) : Option Symbol :=
  match c, d with
  | '-', '>' => some .arrow
  | '=', '=' => some .equal
  | '!', '=' => some .notEqual
  | '<', '=' => some .lessEqual
  | '>', '=' => some .greaterEqual
  | '&', '&' => some .and
  | '|', '|' => some .or
  | _, _ => none

/-- A symbol, the longer one where two begin alike, and its characters. -/
def readSymbol (c : Char) (cs : List Char) : Except (List Char) (Symbol × List Char) :=
  match cs.head?.bind fun d => (doubleSymbol? c d).map fun s => (s, [c, d]) with
  | some found => .ok found
  | none =>
      match singleSymbol? c with
      | some s => .ok (s, [c])
      -- The half of a doubled symbol is passed before its other half is missed.
      | none => .error (if c = '&' || c = '|' then cs else c :: cs)

def Token.ofWord (word : List Char) : Token :=
  let s := String.ofList word
  match Keyword.ofWord? s with
  | some k => .keyword k
  | none => .name s

/-- The token at the head of a text inside an island, and its characters. -/
def Token.read : List Char → Except (List Char) (Token × List Char)
  | [] => .error []
  | c :: cs =>
      if c = '$' then
        match cs with
        | d :: _ =>
            if isNameStart d then
              let word := cs.takeWhile isNamePart
              .ok (.var (String.ofList word), c :: word)
            else .error cs
        | [] => .error []
      else if c = '"' || c = '\'' then
        match quotedBody? c cs with
        | some (body, read) => .ok (.quoted (String.ofList body), c :: read)
        | none => .error []
      else if c.isDigit then
        (readNumber (c :: cs)).map fun (d, read) => (.number d, read)
      else if isNameStart c then
        let word := (c :: cs).takeWhile isNamePart
        .ok (.ofWord word, word)
      else (readSymbol c cs).map fun (s, read) => (.symbol s, read)

inductive Region
  | text
  | island
  deriving DecidableEq, Repr

/-- The tokens of an artifact from a place on, the first `skip` characters being read already. -/
def lex : Region → (skip place : Nat) → List Char → Except (List Char) (List Lexeme)
  | .text, _, _, [] => .ok []
  | .island, _, _, [] => .error []
  | region, skip + 1, place, _ :: cs => lex region skip (place + 1) cs
  | .text, 0, place, c :: cs =>
      if islandOpen.isPrefixOf (c :: cs) then lex .island 1 (place + 1) cs
      else
        let read := literal (c :: cs)
        (lex .text (read.length - 1) (place + 1) cs).map
          (⟨.text (String.ofList read), place, place + read.length⟩ :: ·)
  | .island, 0, place, c :: cs =>
      -- The end of an island comes before any symbol that begins with a percent sign.
      if isBlank c then lex .island 0 (place + 1) cs
      else if islandClose.isPrefixOf (c :: cs) then
        (lex .text 1 (place + 1) cs).map (⟨.symbol .semicolon, place, place + 2⟩ :: ·)
      else
        match Token.read (c :: cs) with
        | .error stuck => .error stuck
        | .ok (token, read) =>
            (lex .island (read.length - 1) (place + 1) cs).map
              (⟨token, place, place + read.length⟩ :: ·)

/-- The tokens of a whole artifact, or the text left where no token can be read. -/
def lexAll (cs : List Char) : Except (List Char) (List Lexeme) :=
  lex .text 0 0 cs

def Fault.atText (cs stuck : List Char) : Fault where
  line := lineAfter (cs.take (cs.length - stuck.length))
  cause :=
    match stuck with
    | c :: _ => .badCharacter c
    | [] => .endOfInput

def tokenize (artifact : String) : Except Fault (List Lexeme) :=
  (lexAll artifact.toList).mapError (Fault.atText artifact.toList)

end Artifact
end TemplateEngine
