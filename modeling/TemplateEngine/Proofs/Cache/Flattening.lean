import TemplateEngine.Cache.Store
import TemplateEngine.Proofs.Cache.Names
import TemplateEngine.Proofs.Text.CharClass

/-!
# Flattening — an artifact tells the identity of its template

The code of a character is read back whatever stands behind it, so flattening loses nothing. A name holds
the whole of a short flattened identity and the end of a long one, and what is added to it has a fixed
length: short identities are kept apart whatever the digest is, and no name gets too long.
-/

namespace TemplateEngine
namespace Text

/-! ## Numbers in base sixteen -/

def hexDigitValue (c : Char) : Nat :=
  ((List.range 16).map Nat.digitChar).idxOf c

def hexNumber (digits : List Char) : Nat :=
  digits.foldl (fun n c => n * 16 + hexDigitValue c) 0

theorem hexDigitValue_digitChar {n : Nat} (small : n < 16) :
    hexDigitValue (Nat.digitChar n) = n := by
  have values : ∀ m < 16, hexDigitValue (Nat.digitChar m) = m := by decide
  exact values n small

/-- Digits in base sixteen tell their number. -/
theorem hexNumber_hexDigits (n : Nat) : hexNumber (hexDigits n) = n := by
  unfold hexDigits
  induction n using Nat.strongRecOn with
  | _ n ih =>
      by_cases small : n < 16
      · rw [Nat.toDigits_of_lt_base small, hexNumber, List.foldl_cons, List.foldl_nil,
          hexDigitValue_digitChar small, Nat.zero_mul, Nat.zero_add]
      · have large : 16 ≤ n := Nat.le_of_not_lt small
        have before : hexNumber (Nat.toDigits 16 (n / 16)) = n / 16 := ih (n / 16) (by omega)
        have last := hexDigitValue_digitChar (Nat.mod_lt n (y := 16) (by decide))
        unfold hexNumber at before ⊢
        rw [Nat.toDigits_of_base_le (by decide) large, List.foldl_append, before, List.foldl_cons,
          List.foldl_nil, last, Nat.div_add_mod']

/-! ## Bytes -/

/-- In characters of one byte each a text has as many bytes as characters. -/
theorem utf8ByteSize_of_ascii {s : String} (ascii : ∀ c ∈ s.toList, c.toNat < 128) :
    s.utf8ByteSize = s.toList.length := by
  suffices lists : ∀ cs : List Char, (∀ c ∈ cs, c.toNat < 128) →
      (String.ofList cs).utf8ByteSize = cs.length by
    rw [← lists _ ascii, String.ofList_toList]
  intro cs ascii
  induction cs with
  | nil => simp
  | cons c cs ih =>
      have low : c.toNat < 128 := ascii c List.mem_cons_self
      have one : c.utf8Size = 1 :=
        Char.utf8Size_eq_one_iff.2 (UInt32.le_iff_toNat_le.2 (Nat.le_of_lt_succ low))
      have rest := ih fun d member => ascii d (List.mem_cons_of_mem c member)
      rw [String.ofList_cons, String.utf8ByteSize_append, rest, String.utf8ByteSize_singleton, one,
        List.length_cons, Nat.add_comm]

/-- The letters and digits that stand for themselves have one byte. -/
theorem ascii_of_isAlphanum {c : Char} (h : c.isAlphanum = true) : c.toNat < 128 := by
  rcases Bool.or_eq_true_iff.1 h with letter | digit
  · rcases Bool.or_eq_true_iff.1 letter with upper | lower
    · have last : c.val ≤ 'Z'.val := (of_decide_eq_true upper : 'A'.val ≤ c.val ∧ c.val ≤ 'Z'.val).2
      exact Nat.lt_of_le_of_lt (UInt32.le_iff_toNat_le.1 last) (by decide)
    · have last : c.val ≤ 'z'.val := of_decide_eq_true (Bool.and_eq_true_iff.1 lower).2
      exact Nat.lt_of_le_of_lt (UInt32.le_iff_toNat_le.1 last) (by decide)
  · exact Nat.lt_of_le_of_lt (isDigit_toNat_bounds digit).2 (by decide)

end Text

namespace Cache

open Text (isHexDigit isHexDigit_of_mem_hexDigits hexDigits hexNumber)

/-! ## Codes are read back -/

/-- The character whose code a text begins with, and what stands behind the code. -/
def uncoded? : List Char → Option (Char × List Char)
  | '_' :: mark :: cs =>
      match shortCodes.find? fun code => code.2 == mark with
      | some (c, _) => some (c, cs)
      | none =>
          some (Char.ofNat (hexNumber (cs.takeWhile (· != '_'))), (cs.dropWhile (· != '_')).tail)
  | c :: cs => some (c, cs)
  | [] => none

/-- A code is read back, whatever stands behind it. -/
theorem Coded.uncoded? {c : Char} {code : List Char} (coded : Coded c code) (rest : List Char) :
    uncoded? (code ++ rest) = some (c, rest) := by
  cases coded with
  | plain portable =>
      have notUnderscore : c ≠ '_' := Text.ne_of_class portable (by decide)
      unfold Cache.uncoded?
      split
      · next same => exact absurd (List.cons.inj same).1 notUnderscore
      · next same =>
          cases same
          rfl
      · next same => cases same
  | short listed =>
      have found : ∀ code ∈ shortCodes,
          shortCodes.find? (fun other => other.2 == code.2) = some code := by decide
      simp only [List.cons_append, List.nil_append, Cache.uncoded?, found _ listed]
  | point =>
      have notListed : shortCodes.find? (fun code => code.2 == 'x') = none := by decide
      have digits : ∀ d ∈ hexDigits c.toNat, (d != '_') = true := by
        intro d member
        rw [bne_iff_ne]
        exact Text.ne_of_class (isHexDigit_of_mem_hexDigits member) (by decide)
      -- The underscore at the end of the code ends the digits.
      have taken : (hexDigits c.toNat ++ '_' :: rest).takeWhile (· != '_') = hexDigits c.toNat := by
        rw [List.takeWhile_append_of_pos digits]
        simp
      have left : (hexDigits c.toNat ++ '_' :: rest).dropWhile (· != '_') = '_' :: rest := by
        rw [List.dropWhile_append_of_pos digits]
        simp
      simp only [List.cons_append, List.append_assoc, List.nil_append, Cache.uncoded?, notListed,
        taken, left, Text.hexNumber_hexDigits, Char.ofNat_toNat, List.tail_cons]

/-- A text of codes has one reading only. -/
theorem flatMap_flattenChar_inj {cs ds : List Char}
    (same : cs.flatMap flattenChar = ds.flatMap flattenChar) : cs = ds := by
  have ne_nil (c : Char) (cs : List Char) : (c :: cs).flatMap flattenChar ≠ [] := by
    intro empty
    have read := (coded_flattenChar c).uncoded? (cs.flatMap flattenChar)
    rw [← List.flatMap_cons, empty] at read
    cases read
  induction cs generalizing ds with
  | nil =>
      cases ds with
      | nil => rfl
      | cons d ds => exact absurd same.symm (ne_nil d ds)
  | cons c cs ih =>
      cases ds with
      | nil => exact absurd same (ne_nil c cs)
      | cons d ds =>
          have first := (coded_flattenChar c).uncoded? (cs.flatMap flattenChar)
          have first' := (coded_flattenChar d).uncoded? (ds.flatMap flattenChar)
          rw [← List.flatMap_cons, same, List.flatMap_cons, first', Option.some.injEq,
            Prod.mk.injEq] at first
          rw [first.1, ih first.2.symm]

/-- Flattening loses nothing. -/
theorem flatten_inj {a b : String} (same : flatten a = flatten b) : a = b :=
  String.toList_inj.1 (flatMap_flattenChar_inj same)

/-! ## The ending of a name -/

/-- What stands behind the last dot of a name, if anything stands before that dot. -/
def ending? (name : String) : Option String :=
  match name.toList.reverse.dropWhile (· != '.') with
  | _ :: _ :: _ => some (String.ofList (name.toList.reverse.takeWhile (· != '.')).reverse)
  | _ => none

/-- The ending of a name has no dot of its own. -/
theorem ending?_of_append {name : String} {before ending : List Char} (nonempty : before ≠ [])
    (noDot : '.' ∉ ending) (split : name.toList = before ++ '.' :: ending) :
    ending? name = some (String.ofList ending) := by
  have all : ∀ c ∈ ending.reverse, (c != '.') = true := by
    intro c member
    rw [bne_iff_ne]
    rintro rfl
    exact noDot (List.mem_reverse.1 member)
  have reversed : name.toList.reverse = ending.reverse ++ '.' :: before.reverse := by
    simp [split]
  rcases List.exists_cons_of_ne_nil (mt List.reverse_eq_nil_iff.1 nonempty) with ⟨d, ds, last⟩
  have taken : name.toList.reverse.takeWhile (· != '.') = ending.reverse := by
    rw [reversed, List.takeWhile_append_of_pos all]
    simp
  have left : name.toList.reverse.dropWhile (· != '.') = '.' :: d :: ds := by
    rw [reversed, List.dropWhile_append_of_pos all, last]
    simp
  simp only [ending?, taken, left, List.reverse_reverse]

/-- Artifacts are told by the ending of their names. -/
theorem isArtifactName_iff {name : String} :
    isArtifactName name = true ↔ ending? name = some extension := by
  constructor
  · intro artifact
    simp only [isArtifactName, Bool.and_eq_true, decide_eq_true_eq,
      List.isSuffixOf_iff_suffix] at artifact
    rcases artifact with ⟨long, before, split⟩
    have nonempty : before ≠ [] := by
      rintro rfl
      simp [← split] at long
    have ends := ending?_of_append nonempty (by decide) split.symm
    rwa [String.ofList_toList] at ends
  · intro ends
    unfold ending? at ends
    split at ends
    · next d e more left =>
      -- Read from the end, the ending stands before the first dot.
      have dot := List.head?_dropWhile_not (· != '.') name.toList.reverse
      have whole := List.takeWhile_append_dropWhile (p := (· != '.')) (l := name.toList.reverse)
      have taken := congrArg String.toList (Option.some.inj ends)
      rw [String.toList_ofList, List.reverse_eq_iff] at taken
      rw [left, List.head?_cons] at dot
      have isDot : d = '.' := by simpa using dot
      rw [taken, left, isDot] at whole
      have split : name.toList = (e :: more).reverse ++ ('.' :: extension.toList) := by
        rw [← List.reverse_reverse name.toList, ← whole]
        simp
      simp only [isArtifactName, split, Bool.and_eq_true, decide_eq_true_eq,
        List.isSuffixOf_iff_suffix]
      refine ⟨?_, List.suffix_append _ _⟩
      simp only [List.length_append, List.length_reverse, List.length_cons]
      omega
    · cases ends

/-! ## Names of bounded length -/

/-- A flattened identity has one byte for each character. -/
theorem ascii_of_isFlat {c : Char} (flat : isFlat c = true) : c.toNat < 128 := by
  simp only [isFlat, isPortable, Bool.or_eq_true, beq_iff_eq] at flat
  rcases flat with ((((((alphanumeric | rfl) | rfl) | rfl) | rfl) | rfl) | rfl) | rfl
  · exact Text.ascii_of_isAlphanum alphanumeric
  all_goals decide

structure IsShortDigest (digest : String → String) : Prop where
  length : ∀ s, (digest s).toList.length = 16
  digits : ∀ s, ∀ c ∈ (digest s).toList, isHexDigit c = true

/-- The digest in use has sixteen digits. -/
theorem isShortDigest_shortText : IsShortDigest Digest.Blake3.shortText where
  length := by
    intro s
    simp [Digest.Blake3.shortText, Digest.Blake3.wordText]
  digits := fun _ _ => isHexDigit_of_mem_shortText

section Digest

variable {digest : String → String}

theorem isFlat_of_mem_artifactName (short : IsShortDigest digest) {identity : String} {c : Char}
    (member : c ∈ (artifactName digest identity).toList) : isFlat c = true := by
  rw [toList_artifactName] at member
  simp only [List.mem_append, List.mem_cons, List.not_mem_nil, or_false] at member
  rcases member with (inStem | rfl | inDigest) | rfl | rfl | rfl | rfl
  · exact isFlat_of_mem_stem inStem
  · decide
  · exact isFlat_of_isHexDigit (short.digits _ c inDigest)
  all_goals decide

/-- A name is at most as long as what is kept, the digest and the ending together. -/
theorem length_artifactName (short : IsShortDigest digest) (identity : String) :
    (artifactName digest identity).toList.length ≤ 181 := by
  have kept : (stem identity).length ≤ maxStem := by
    unfold stem
    rw [List.length_drop]
    omega
  rw [toList_artifactName]
  simp only [List.length_append, List.length_cons, List.length_nil, short.length]
  unfold maxStem at kept
  omega

/-- A short identity is kept as a whole, so its name tells it. -/
theorem artifactName_inj (short : IsShortDigest digest) {a b : String}
    (shortA : (flatten a).length ≤ maxStem) (shortB : (flatten b).length ≤ maxStem)
    (same : artifactName digest a = artifactName digest b) : a = b := by
  have whole {identity : String} (fits : (flatten identity).length ≤ maxStem) :
      stem identity = flatten identity := by
    simp only [stem, Nat.sub_eq_zero_of_le fits, List.drop_zero]
  have spelled := congrArg String.toList same
  rw [toList_artifactName, toList_artifactName, whole shortA, whole shortB, List.append_assoc,
    List.append_assoc] at spelled
  -- What stands behind the flattened identity is as long in both names.
  refine flatten_inj (List.append_inj_left' spelled ?_)
  simp only [List.length_append, List.length_cons, short.length]

end Digest

/-! ## Artifacts in the cache -/

/-- Flattening loses nothing; templates whose flattened identities are short have artifacts of one name
only where their identities are the same; and every artifact has one name in the cache directory, without
separators, with the ending of artifacts, and of at most 181 bytes. -/
theorem artifactPath_named {cache : Cache} (short : IsShortDigest cache.digest) :
    (∀ a b, flatten a = flatten b → a = b) ∧
      (∀ files files' source source',
        (String.ofList (flatten (Files.identity files source))).utf8ByteSize ≤ 160 →
        (String.ofList (flatten (Files.identity files' source'))).utf8ByteSize ≤ 160 →
        (Path.parts (cache.artifactPath files source)).getLast? =
          (Path.parts (cache.artifactPath files' source')).getLast? →
        files.identity source = files'.identity source') ∧
      ∀ files source, ∃ name, cache.artifactPath files source = Path.join cache.directory name ∧
        (Path.parts (cache.artifactPath files source)).getLast? = some name ∧
        (∀ c ∈ name.toList, c ≠ '/' ∧ c ≠ '\\') ∧ name ≠ "." ∧ name ≠ ".." ∧
        ending? name = some "stc" ∧ name.utf8ByteSize ≤ 181 := by
  have noSlash (s : String) : '/' ∉ (cache.digest s).toList := by
    intro member
    exact absurd (short.digits s _ member) (by decide)
  have last (files : Files) (source : String) :
      (Path.parts (cache.artifactPath files source)).getLast? =
        some (artifactName cache.digest (files.identity source)) :=
    Path.getLast?_parts_join cache.directory (isSingle_artifactName noSlash _)
  -- A flattened text is plain, so a byte is a character.
  have bytes (identity : String) :
      (String.ofList (flatten identity)).utf8ByteSize = (flatten identity).length := by
    rw [Text.utf8ByteSize_of_ascii, String.toList_ofList]
    rw [String.toList_ofList]
    exact fun c member => ascii_of_isFlat (isFlat_of_mem_flatten member)
  refine ⟨fun a b => flatten_inj, ?_, ?_⟩
  · intro files files' source source' fits fits' same
    rw [last, last, Option.some.injEq] at same
    rw [bytes] at fits fits'
    exact artifactName_inj short fits fits' same
  · intro files source
    have single := isSingle_artifactName noSlash (files.identity source)
    have flat : ∀ c ∈ (artifactName cache.digest (files.identity source)).toList,
        isFlat c = true := fun c member => isFlat_of_mem_artifactName short member
    refine ⟨artifactName cache.digest (files.identity source), rfl, last files source,
      fun c member => ?_, single.isName.2.1, single.isName.2.2,
      isArtifactName_iff.1 (isArtifactName_artifactName _ _), ?_⟩
    · exact ⟨Text.ne_of_class (flat c member) (by decide), Text.ne_of_class (flat c member) (by decide)⟩
    · rw [Text.utf8ByteSize_of_ascii fun c member => ascii_of_isFlat (flat c member)]
      exact length_artifactName short _

/-- Where there are no files, an absolute path is its own identity. -/
theorem identity_noFiles {path name : String} {names : List String}
    (good : Files.badPath? path = none) (absolute : Path.isAbsolute path = true)
    (parts : Path.parts path = "" :: name :: names) (proper : Files.IsName name)
    (short : name.utf8ByteSize ≤ Files.maxName) : Files.identity {} path = path := by
  have root : Files.HasDirectory {} [] := ⟨_, _, rfl⟩
  have absent : Files.follow {} Files.maxLinks [] ("" :: name :: names) = .error .notFound :=
    (Files.follow_still root (.inl rfl)).trans (Files.follow_absent root proper short rfl)
  rw [Files.identity, Files.resolve, good, parts, Files.origin, if_pos absolute]
  simp only [absent]

/-- The underscore is told from the slash, so these two pages have two artifacts. -/
theorem artifactPath_named_underscores :
    IsShortDigest Digest.Blake3.shortText ∧
      (Path.parts (Cache.artifactPath ⟨"cache", Digest.Blake3.shortText⟩ {} "/a/b_c")).getLast? ≠
        (Path.parts (Cache.artifactPath ⟨"cache", Digest.Blake3.shortText⟩ {} "/a_b/c")).getLast? := by
  have parts : Path.parts "/a/b_c" = ["", "a", "b_c"] ∧ Path.parts "/a_b/c" = ["", "a_b", "c"] := by
    decide
  have identity : Files.identity {} "/a/b_c" = "/a/b_c" :=
    identity_noFiles (by decide) (by decide) parts.1 (by decide) (by decide)
  have identity' : Files.identity {} "/a_b/c" = "/a_b/c" :=
    identity_noFiles (by decide) (by decide) parts.2 (by decide) (by decide)
  refine ⟨isShortDigest_shortText, fun same => ?_⟩
  have alike := (@artifactPath_named ⟨"cache", _⟩ isShortDigest_shortText).2.1 {} {}
    "/a/b_c" "/a_b/c" (by rw [identity]; decide) (by rw [identity']; decide) same
  rw [identity, identity'] at alike
  exact absurd alike (by decide)

end Cache
end TemplateEngine
