import TemplateEngine.Cache.Name
import TemplateEngine.Digest.Blake3
import TemplateEngine.Proofs.Files.Filing

/-!
# Names — the name of an artifact stays in its directory

Whatever the identity of a template, the name of its artifact is one name and no path, and its ending
keeps it apart from the name under which a file is staged. The characters of a flattened identity are
portable ones and the underscore, each code of a kind of its own.
-/

namespace TemplateEngine
namespace Text

def isHexDigit (c : Char) : Bool :=
  c.isDigit || ('a' ≤ c && c ≤ 'f')

theorem isHexDigit_digitChar {n : Nat} (small : n < 16) : isHexDigit (Nat.digitChar n) = true := by
  have digits : ∀ m < 16, isHexDigit (Nat.digitChar m) = true := by decide
  exact digits n small

theorem isHexDigit_of_mem_hexDigits {n : Nat} {c : Char} (member : c ∈ hexDigits n) :
    isHexDigit c = true := by
  unfold hexDigits at member
  -- The last digit is written last, so the induction is on the number without it.
  induction n using Nat.strongRecOn with
  | _ n ih =>
      by_cases small : n < 16
      · rw [Nat.toDigits_of_lt_base small, List.mem_singleton] at member
        rw [member]
        exact isHexDigit_digitChar small
      · have large : 16 ≤ n := Nat.le_of_not_lt small
        have shorter : n / 16 < n :=
          Nat.div_lt_self (Nat.lt_of_lt_of_le (by decide) large) (by decide)
        rw [Nat.toDigits_of_base_le (by decide) large, List.mem_append, List.mem_singleton] at member
        rcases member with before | rfl
        · exact ih _ shorter before
        · exact isHexDigit_digitChar (Nat.mod_lt n (by decide))

end Text

namespace Cache

open Text (isHexDigit isHexDigit_digitChar isHexDigit_of_mem_hexDigits hexDigits)

/-! ## Flattened characters -/

def isFlat (c : Char) : Bool :=
  isPortable c || c == '_'

/-- The characters that have a code of two characters, with the second of them. -/
def shortCodes : List (Char × Char) :=
  [('_', '_'), ('/', 's'), ('\\', 'b'), (':', 'c')]

/-- The codes of characters, by their kinds. -/
inductive Coded : Char → List Char → Prop
  | plain {c} (portable : isPortable c = true) : Coded c [c]
  | short {c mark} (listed : (c, mark) ∈ shortCodes) : Coded c ['_', mark]
  | point (c : Char) : Coded c ('_' :: 'x' :: (hexDigits c.toNat ++ ['_']))

/-- Every character has a code. -/
theorem coded_flattenChar (c : Char) : Coded c (flattenChar c) := by
  unfold flattenChar
  split
  · next same =>
      subst same
      exact .short (by decide)
  split
  · next same =>
      subst same
      exact .short (by decide)
  split
  · next same =>
      subst same
      exact .short (by decide)
  split
  · next same =>
      subst same
      exact .short (by decide)
  split
  · next portable => exact .plain portable
  · exact .point c

theorem isFlat_of_isHexDigit {c : Char} (digit : isHexDigit c = true) : isFlat c = true := by
  simp only [isHexDigit, Bool.or_eq_true, Bool.and_eq_true, decide_eq_true_eq] at digit
  rcases digit with digit | ⟨low, high⟩
  · simp [isFlat, isPortable, Char.isAlphanum, digit]
  · have letter : c.isLower = true :=
      Bool.and_eq_true_iff.2 ⟨decide_eq_true low, decide_eq_true (Char.le_trans high (by decide))⟩
    have alpha : c.isAlpha = true := Bool.or_eq_true_iff.2 (.inr letter)
    simp [isFlat, isPortable, Char.isAlphanum, alpha]

/-- A code is made of portable characters. -/
theorem Coded.isFlat {c d : Char} {code : List Char} (coded : Coded c code) (member : d ∈ code) :
    isFlat d = true := by
  cases coded with
  | plain portable =>
      rw [List.mem_singleton.1 member]
      simp [Cache.isFlat, portable]
  | short listed =>
      have marks : ∀ pair ∈ shortCodes, Cache.isFlat pair.2 = true := by decide
      simp only [List.mem_cons, List.not_mem_nil, or_false] at member
      rcases member with rfl | rfl
      · decide
      · exact marks (_, _) listed
  | point =>
      simp only [List.mem_cons, List.mem_append, List.not_mem_nil, or_false] at member
      rcases member with rfl | rfl | digit | rfl
      · decide
      · decide
      · exact isFlat_of_isHexDigit (isHexDigit_of_mem_hexDigits digit)
      · decide

theorem isFlat_of_mem_flatten {identity : String} {c : Char} (member : c ∈ flatten identity) :
    isFlat c = true := by
  rcases List.mem_flatMap.1 member with ⟨d, _, found⟩
  exact (coded_flattenChar d).isFlat found

/-- So is what a name keeps of an identity. -/
theorem isFlat_of_mem_stem {identity : String} {c : Char} (member : c ∈ stem identity) :
    isFlat c = true :=
  isFlat_of_mem_flatten (List.mem_of_mem_drop member)

/-! ## The digest -/

theorem isHexDigit_of_mem_wordText {w : UInt32} {c : Char} (member : c ∈ Digest.Blake3.wordText w) :
    isHexDigit c = true := by
  unfold Digest.Blake3.wordText at member
  rcases List.mem_flatMap.1 member with ⟨shift, _, found⟩
  have byte : (w >>> shift).toNat % 256 < 256 := Nat.mod_lt _ (by decide)
  simp only [List.mem_cons, List.not_mem_nil, or_false] at found
  rcases found with rfl | rfl
  · exact isHexDigit_digitChar (Nat.div_lt_of_lt_mul byte)
  · exact isHexDigit_digitChar (Nat.mod_lt _ (by decide))

theorem isHexDigit_of_mem_shortText {s : String} {c : Char}
    (member : c ∈ (Digest.Blake3.shortText s).toList) : isHexDigit c = true := by
  rw [Digest.Blake3.shortText, String.toList_ofList, List.mem_append] at member
  exact member.elim isHexDigit_of_mem_wordText isHexDigit_of_mem_wordText

/-! ## Slashes -/

/-- So no slash is in it. -/
theorem slash_not_mem_stem (identity : String) : '/' ∉ stem identity := by
  intro member
  exact absurd (isFlat_of_mem_stem member) (by decide)

theorem slash_not_mem_shortText (s : String) : '/' ∉ (Digest.Blake3.shortText s).toList := by
  intro member
  exact absurd (isHexDigit_of_mem_shortText member) (by decide)

/-! ## The name -/

/-- A name is the end of the flattened identity, the digest and the ending, with dots between them. -/
theorem toList_artifactName (digest : String → String) (identity : String) :
    (artifactName digest identity).toList =
      stem identity ++ '.' :: (digest identity).toList ++ ['.', 's', 't', 'c'] := by
  simp [artifactName, extension]

theorem artifactName_getLast? (digest : String → String) (identity : String) :
    (artifactName digest identity).toList.getLast? = some 'c' := by
  rw [toList_artifactName, List.getLast?_append]
  rfl

/-- The names of artifacts are told by their ending. -/
theorem isArtifactName_artifactName (digest : String → String) (identity : String) :
    isArtifactName (artifactName digest identity) = true := by
  unfold isArtifactName
  rw [toList_artifactName]
  simp only [Bool.and_eq_true, decide_eq_true_eq, List.isSuffixOf_iff_suffix]
  refine ⟨?_, List.suffix_append _ _⟩
  simp [extension]
  omega

/-- An artifact lies right in the cache directory. -/
theorem isSingle_artifactName {digest : String → String}
    (noSlash : ∀ s, '/' ∉ (digest s).toList) (identity : String) :
    Path.IsSingle (artifactName digest identity) where
  isName := by
    have ending := artifactName_getLast? digest identity
    refine ⟨?_, ?_, ?_⟩
    · intro empty
      simp [empty] at ending
    · intro dot
      simp [dot] at ending
    · intro dots
      simp [dots] at ending
  noSlash := by
    rw [toList_artifactName]
    simpa using ⟨slash_not_mem_stem identity, noSlash identity⟩

end Cache
end TemplateEngine
