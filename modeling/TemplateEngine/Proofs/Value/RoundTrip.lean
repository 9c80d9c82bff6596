import TemplateEngine.Proofs.Json.Reading
import TemplateEngine.Proofs.Keyed

/-!
# RoundTrip — values are read back from their JSON

A value is written as a document, and the document is read from the text whatever stands behind it: the
induction goes along the value, with fuel for every character and a level for every list and object. What
is read is the value itself, but for the sign of a zero, which JSON text of whole numbers does not show.
-/

namespace TemplateEngine

/-! ## Whole numbers -/

namespace Double

/-- An integer below 10¹⁵ in absolute value. -/
def IsShortInt (d : Double) : Prop :=
  ∃ i, d.toInt? = some i ∧ i.natAbs < Nat.pow 10 15

/-- A short number is written as an integer. -/
theorem IsShortInt.shortInt? {d : Double} (h : d.IsShortInt) :
    ∃ i, d.shortInt? = some i ∧ d.toInt? = some i ∧ i.natAbs < Nat.pow 10 15 := by
  rcases h with ⟨i, whole, small⟩
  exact ⟨i, by simp [Double.shortInt?, whole, small], whole, small⟩

/-- A finite number is the same as itself. -/
theorem same_finite (negative : Bool) (units : Nat) :
    (finite negative units).same (finite negative units) = true := by
  simp [same, compare?]

/-- A whole number is the number of its integer, and a zero of either sign is the positive one. -/
theorem toDouble_ofInt {d : Double} {i : Int} (whole : d.toInt? = some i)
    (small : i.natAbs < Nat.pow 10 15) :
    (JsonNumber.ofInt i).toDouble.same d = true ∧
      (d ≠ .finite true 0 → (JsonNumber.ofInt i).toDouble = d) := by
  cases d with
  | nan => cases whole
  | infinite => cases whole
  | finite negative units =>
      -- A whole number is a multiple of what one unit counts; below the bound it has few enough
      -- bits to be read back exactly.
      rw [toInt?] at whole
      split at whole
      · next divides =>
        have units_eq := Nat.div_mul_cancel (Nat.dvd_of_mod_eq_zero divides)
        generalize units / unitsPerOne = n at whole units_eq
        cases whole
        rw [← units_eq]
        have short : n < Nat.pow 2 53 := by
          have limit : Nat.pow 10 15 ≤ Nat.pow 2 53 := by decide
          have abs : (signedUnits negative n).natAbs = n := by cases negative <;> simp [signedUnits]
          rw [abs] at small
          exact Nat.lt_of_lt_of_le small limit
        have nearest := ofNat_eq_finite short
        cases negative with
        | false =>
            have read : (JsonNumber.ofInt (signedUnits false n)).toDouble =
                .finite false (n * unitsPerOne) := by
              have notNegative : ¬ (signedUnits false n < 0) := by
                simp only [signedUnits, Bool.false_eq_true, if_false]
                omega
              rw [JsonNumber.ofInt, if_neg notNegative]
              exact nearest
            rw [read]
            exact ⟨same_finite _ _, fun _ => rfl⟩
        | true =>
            cases n with
            | zero =>
                -- A negative zero is written as zero and read back as the positive one.
                rw [Nat.zero_mul]
                rw [Nat.zero_mul] at nearest
                have read : (JsonNumber.ofInt (signedUnits true 0)).toDouble = .finite false 0 := nearest
                rw [read]
                exact ⟨rfl, fun notZero => absurd rfl notZero⟩
            | succ m =>
                have read : (JsonNumber.ofInt (signedUnits true (m + 1))).toDouble =
                    .finite true ((m + 1) * unitsPerOne) := by
                  have below : signedUnits true (m + 1) < 0 := by
                    simp only [signedUnits, if_true]
                    omega
                  have abs : (signedUnits true (m + 1)).natAbs = m + 1 := by
                    simp only [signedUnits, if_true]
                    omega
                  rw [JsonNumber.ofInt, if_pos below, abs, JsonNumber.toDouble, nearest]
                  rfl
                rw [read]
                exact ⟨same_finite _ _, fun _ => rfl⟩
      · cases whole

end Double

namespace Value

/-! ## What is said of a value -/

mutual

/-- Every number in a value is of a kind. -/
def AllNumbers (p : Double → Prop) : Value → Prop
  | .number d => p d
  | .list items => ItemsAllNumbers p items
  | .object members => MembersAllNumbers p members
  | _ => True

def ItemsAllNumbers (p : Double → Prop) : List Value → Prop
  | [] => True
  | v :: vs => v.AllNumbers p ∧ ItemsAllNumbers p vs

def MembersAllNumbers (p : Double → Prop) : List (String × Value) → Prop
  | [] => True
  | (_, v) :: rest => v.AllNumbers p ∧ MembersAllNumbers p rest

end

mutual

def depth : Value → Nat
  | .list items => depthItems items + 1
  | .object members => depthMembers members + 1
  | _ => 0

def depthItems : List Value → Nat
  | [] => 0
  | v :: vs => max v.depth (depthItems vs)

def depthMembers : List (String × Value) → Nat
  | [] => 0
  | (_, v) :: rest => max v.depth (depthMembers rest)

end

/-! ## The document of a value -/

def numberDocument (d : Double) : Json :=
  match d.shortInt?, d with
  | some i, _ => .number (.ofInt i)
  | none, .finite negative units => .number (.double (.finite negative units))
  | none, _ => .null

mutual

def document : Value → Json
  | .null => .null
  | .text s => .text s
  | .number d => numberDocument d
  | .boolean b => .boolean b
  | .list items => .array (documentItems items)
  | .object members => .object (documentMembers members)

def documentItems : List Value → List Json
  | [] => []
  | v :: vs => v.document :: documentItems vs

def documentMembers : List (String × Value) → List (String × Json)
  | [] => []
  | (key, v) :: rest => (key, v.document) :: documentMembers rest

end

theorem ofJsonMembers_keys (members : List (String × Json)) :
    (ofJsonMembers members).map Prod.fst = members.map Prod.fst := by
  induction members with
  | nil => rfl
  | cons member members ih => simp [ofJsonMembers, ih]

/-- A document has the names of its members. -/
theorem documentMembers_keys (members : List (String × Value)) :
    (documentMembers members).map Prod.fst = members.map Prod.fst := by
  induction members with
  | nil => rfl
  | cons member members ih => simp [documentMembers, ih]

/-- Reading a document of members keeps their keys, and so their order. -/
theorem ordered_ofJsonMembers {members : List (String × Value)} (ordered : Keyed.Ordered members) :
    Keyed.Ordered (ofJsonMembers (documentMembers members)) := by
  have keys := (ofJsonMembers_keys (documentMembers members)).trans (documentMembers_keys members)
  have increasing : (members.map Prod.fst).Pairwise (· < ·) := List.pairwise_map.2 ordered
  rw [← keys] at increasing
  exact List.pairwise_map.1 increasing

mutual

/-- What is read from the document of a whole value is equal to it, and the same where it has no negative
zero. -/
theorem ofJson_document (v : Value) (ordered : v.Ordered) (whole : v.AllNumbers Double.IsShortInt) :
    (ofJson v.document).same v = true ∧
      (v.AllNumbers (· ≠ .finite true 0) → ofJson v.document = v) := by
  cases v with
  | null => exact ⟨rfl, fun _ => rfl⟩
  | text s => exact ⟨beq_self_eq_true s, fun _ => rfl⟩
  | boolean b => exact ⟨beq_self_eq_true b, fun _ => rfl⟩
  | number d =>
      rcases whole.shortInt? with ⟨i, short, int, small⟩
      rcases Double.toDouble_ofInt int small with ⟨equal, same⟩
      have read : ofJson (document (.number d)) = .number (JsonNumber.ofInt i).toDouble := by
        simp [document, numberDocument, short, ofJson]
      rw [read]
      exact ⟨equal, fun signs => congrArg Value.number (same signs)⟩
  | list items =>
      rcases ofJsonItems_documentItems items ordered whole with ⟨equal, same⟩
      exact ⟨equal, fun signs => congrArg Value.list (same signs)⟩
  | object members =>
      rcases ofJsonMembers_documentMembers members ordered.2 whole with ⟨equal, same⟩
      have read : ofJson (document (.object members)) =
          .object (ofJsonMembers (documentMembers members)) := by
        rw [document, ofJson, Keyed.ofPairs_of_ordered (ordered_ofJsonMembers ordered.1)]
      rw [read]
      exact ⟨equal, fun signs => congrArg Value.object (same signs)⟩
termination_by sizeOf v

/-- Items come back the same. -/
theorem ofJsonItems_documentItems (items : List Value) (ordered : OrderedItems items)
    (whole : ItemsAllNumbers Double.IsShortInt items) :
    sameItems (ofJsonItems (documentItems items)) items = true ∧
      (ItemsAllNumbers (· ≠ .finite true 0) items → ofJsonItems (documentItems items) = items) := by
  cases items with
  | nil => exact ⟨rfl, fun _ => rfl⟩
  | cons v vs =>
      rcases ofJson_document v ordered.1 whole.1 with ⟨equal, same⟩
      rcases ofJsonItems_documentItems vs ordered.2 whole.2 with ⟨equalItems, sameAll⟩
      refine ⟨?_, fun signs => ?_⟩
      · simp only [documentItems, ofJsonItems, sameItems, equal, equalItems, Bool.and_true]
      · rw [documentItems, ofJsonItems, same signs.1, sameAll signs.2]
termination_by sizeOf items

/-- So do members. -/
theorem ofJsonMembers_documentMembers : ∀ members : List (String × Value), OrderedMembers members →
    MembersAllNumbers Double.IsShortInt members →
    sameMembers (ofJsonMembers (documentMembers members)) members = true ∧
      (MembersAllNumbers (· ≠ .finite true 0) members →
        ofJsonMembers (documentMembers members) = members)
  | [], _, _ => ⟨rfl, fun _ => rfl⟩
  | (key, v) :: members, ordered, whole => by
      rcases ofJson_document v ordered.1 whole.1 with ⟨equal, same⟩
      rcases ofJsonMembers_documentMembers members ordered.2 whole.2 with ⟨equalMembers, sameAll⟩
      refine ⟨?_, fun signs => ?_⟩
      · simp only [documentMembers, ofJsonMembers, sameMembers, equal, equalMembers, Bool.and_true,
          beq_self_eq_true]
      · rw [documentMembers, ofJsonMembers, same signs.1, sameAll signs.2]
termination_by members => sizeOf members

end

/-! ## The text of a value -/

/-- A number may stand before a comma or a bracket. -/
theorem ends_of_mark {c : Char} (mark : c ∈ [',', ']', '\x7d']) (rest : List Char) :
    JsonNumber.Ends (c :: rest) := by
  rintro d ⟨⟩
  simp only [List.mem_cons, List.not_mem_nil, or_false] at mark
  rcases mark with rfl | rfl | rfl
  all_goals decide

/-- Behind an item stands a comma or a closing bracket. -/
theorem ends_jsonItems (vs : List Value) (rest : List Char) :
    JsonNumber.Ends (jsonItems vs ++ rest) := by
  cases vs with
  | nil => exact ends_of_mark (by decide) rest
  | cons v vs => exact ends_of_mark (by decide) _

/-- Behind a member stands a comma or a closing brace. -/
theorem ends_jsonMembers (members : List (String × Value)) (rest : List Char) :
    JsonNumber.Ends (jsonMembers members ++ rest) := by
  cases members with
  | nil => exact ends_of_mark (by decide) rest
  | cons member members => exact ends_of_mark (by decide) _

/-- An integer begins with a sign or a digit. -/
theorem intText_head (i : Int) :
    ∃ c cs, Decimal.intText i = c :: cs ∧ (c = '-' ∨ c.isDigit = true) := by
  unfold Decimal.intText
  split
  · exact ⟨_, _, rfl, .inl rfl⟩
  · rcases List.exists_cons_of_ne_nil (Decimal.digits_ne_nil i.natAbs) with ⟨d, ds, digits⟩
    exact ⟨d, ds, digits, .inr (Decimal.isDigit_of_mem_digits (n := i.natAbs) (by simp [digits]))⟩

/-- The text of a value begins neither with white space nor with a closing bracket, and the document of the
value is read from it, whatever stands behind it. -/
structure Readable (v : Value) : Prop where
  head : ∃ c cs, v.jsonChars = c :: cs ∧ Json.isSpace c = false ∧ c ≠ ']'
  read : ∀ (fuel levels : Nat) (rest : List Char), v.depth ≤ levels → v.jsonChars.length ≤ fuel →
    JsonNumber.Ends rest → Json.value? fuel levels (v.jsonChars ++ rest) = some (v.document, rest)

namespace Readable

/-- A text without white space in front is its own remainder. -/
theorem skipSpace {v : Value} (h : Readable v) (rest : List Char) :
    Json.skipSpace (v.jsonChars ++ rest) = v.jsonChars ++ rest := by
  rcases h.head with ⟨c, cs, chars, solid, -⟩
  rw [chars]
  exact Json.skipSpace_of_head solid _

/-- A value without parts is readable if its text is. -/
theorem of_flat {v : Value} (head : ∃ c cs, v.jsonChars = c :: cs ∧ Json.isSpace c = false ∧ c ≠ ']')
    (read : ∀ (fuel levels : Nat) (rest : List Char), JsonNumber.Ends rest →
      Json.value? (fuel + 1) levels (v.jsonChars ++ rest) = some (v.document, rest)) :
    Readable v where
  head := head
  read := by
    intro fuel levels rest _ enough ends
    rcases head with ⟨c, cs, chars, -⟩
    cases fuel with
    | zero => simp [chars] at enough
    | succ fuel => exact read fuel levels rest ends

theorem null : Readable .null :=
  of_flat ⟨_, _, rfl, by decide⟩ fun _ _ _ _ => rfl

theorem boolean (b : Bool) : Readable (.boolean b) := by
  cases b
  · exact of_flat ⟨_, _, rfl, by decide⟩ fun _ _ _ _ => rfl
  · exact of_flat ⟨_, _, rfl, by decide⟩ fun _ _ _ _ => rfl

theorem text (s : String) : Readable (.text s) := by
  refine of_flat ⟨_, _, rfl, by decide⟩ fun fuel levels rest _ => ?_
  rcases Json.textBody?_jsonText s rest with ⟨body, split, read⟩
  rw [jsonChars, split, Json.value?]
  simp [read, document]

/-- A short number can be read. -/
theorem number {d : Double} (whole : d.IsShortInt) : Readable (.number d) := by
  rcases whole.shortInt? with ⟨i, short, -, small⟩
  rcases intText_head i with ⟨c, cs, digits, first⟩
  have chars : jsonChars (.number d) = c :: cs := by simp [jsonChars, jsonNumber, short, digits]
  refine of_flat ⟨c, cs, chars, ?_⟩ fun fuel levels rest ends => ?_
  · rcases first with rfl | digit
    · decide
    · exact ⟨Json.isSpace_of_isDigit digit, by rintro rfl; exact absurd digit (by decide)⟩
  · have read := JsonNumber.read?_intText small ends
    rw [digits, List.cons_append] at read
    rw [chars, List.cons_append, Json.value?_number first, read]
    simp [document, numberDocument, short]

/-- One item or more are read up to the closing bracket. -/
theorem items?_jsonItems {v : Value} {vs : List Value} (readable : ∀ w ∈ v :: vs, Readable w)
    {fuel levels : Nat} (deep : depthItems (v :: vs) ≤ levels)
    (enough : v.jsonChars.length + (jsonItems vs).length ≤ fuel) (rest : List Char) :
    Json.items? fuel levels (v.jsonChars ++ (jsonItems vs ++ rest)) =
      some (documentItems (v :: vs), rest) := by
  -- The induction is on the later items. The fuel is more than the characters left, and each item
  -- takes one of it.
  induction vs generalizing v fuel with
  | nil =>
      have first : Readable v := readable v List.mem_cons_self
      rw [depthItems] at deep
      rw [jsonItems, List.length_singleton] at enough
      cases fuel with
      | zero => omega
      | succ fuel =>
          have read := first.read fuel levels (jsonItems [] ++ rest) (by omega) (by omega)
            (ends_jsonItems [] rest)
          rw [← first.skipSpace] at read
          exact Json.items?_last read
  | cons w ws ih =>
      have first : Readable v := readable v List.mem_cons_self
      have others : ∀ u ∈ w :: ws, Readable u := fun u member =>
        readable u (List.mem_cons_of_mem _ member)
      rw [depthItems] at deep
      simp only [jsonItems, List.length_cons, List.length_append] at enough
      cases fuel with
      | zero => omega
      | succ fuel =>
          have read := first.read fuel levels (jsonItems (w :: ws) ++ rest) (by omega) (by omega)
            (ends_jsonItems (w :: ws) rest)
          have more : Json.items? fuel levels (w.jsonChars ++ (jsonItems ws ++ rest)) = _ :=
            ih others (by omega) (by omega)
          have comma : jsonItems (w :: ws) ++ rest = ',' :: (w.jsonChars ++ (jsonItems ws ++ rest)) := by
            simp only [jsonItems, List.cons_append, List.append_assoc]
          rw [← first.skipSpace, comma] at read
          rw [comma]
          exact Json.items?_more read more

/-- One member or more are read up to the closing brace. -/
theorem members?_jsonMembers {key : String} {v : Value} {members : List (String × Value)}
    (readable : ∀ member ∈ (key, v) :: members, Readable member.2) {fuel levels : Nat}
    (deep : depthMembers ((key, v) :: members) ≤ levels)
    (enough : (jsonText key).length + v.jsonChars.length + (jsonMembers members).length ≤ fuel)
    (rest : List Char) :
    Json.members? fuel levels
        (jsonText key ++ ':' :: (v.jsonChars ++ (jsonMembers members ++ rest))) =
      some (documentMembers ((key, v) :: members), rest) := by
  -- As for items, with the key and its colon in front of the value.
  induction members generalizing key v fuel with
  | nil =>
      have first : Readable v := readable (key, v) List.mem_cons_self
      rcases Json.textBody?_jsonText key (':' :: (v.jsonChars ++ (jsonMembers [] ++ rest)))
        with ⟨body, split, named⟩
      rw [depthMembers] at deep
      rw [jsonMembers, List.length_singleton] at enough
      cases fuel with
      | zero => omega
      | succ fuel =>
          have read := first.read fuel levels (jsonMembers [] ++ rest) (by omega) (by omega)
            (ends_jsonMembers [] rest)
          rw [← first.skipSpace] at read
          have last := Json.members?_last named read
          rwa [String.ofList_toList, ← split] at last
  | cons member members ih =>
      obtain ⟨next, w⟩ := member
      have first : Readable v := readable (key, v) List.mem_cons_self
      have others : ∀ pair ∈ (next, w) :: members, Readable pair.2 := fun pair mem =>
        readable pair (List.mem_cons_of_mem _ mem)
      rw [depthMembers] at deep
      simp only [jsonMembers, List.length_cons, List.length_append] at enough
      rcases Json.textBody?_jsonText key
        (':' :: (v.jsonChars ++ (jsonMembers ((next, w) :: members) ++ rest)))
        with ⟨body, split, named⟩
      cases fuel with
      | zero => omega
      | succ fuel =>
          have read := first.read fuel levels (jsonMembers ((next, w) :: members) ++ rest) (by omega)
            (by omega) (ends_jsonMembers ((next, w) :: members) rest)
          have more : Json.members? fuel levels
              (jsonText next ++ ':' :: (w.jsonChars ++ (jsonMembers members ++ rest))) = _ :=
            ih others (by omega) (by omega)
          have comma : jsonMembers ((next, w) :: members) ++ rest =
              ',' :: (jsonText next ++ ':' :: (w.jsonChars ++ (jsonMembers members ++ rest))) := by
            simp only [jsonMembers, List.cons_append, List.append_assoc]
          rw [split]
          rw [← first.skipSpace, comma] at read
          rw [comma] at named
          have later := Json.members?_more named read more
          rwa [String.ofList_toList] at later

/-- A list of what can be read can be read. -/
theorem list {items : List Value} (readable : ∀ w ∈ items, Readable w) : Readable (.list items) where
  head := by cases items <;> exact ⟨_, _, rfl, by decide⟩
  read := by
    intro fuel levels rest deep enough _
    cases fuel with
    | zero => cases items <;> simp [jsonChars] at enough
    | succ fuel =>
        cases levels with
        | zero => simp [depth] at deep
        | succ levels =>
            cases items with
            | nil =>
                have closing : Json.skipSpace (']' :: rest) = ']' :: rest :=
                  Json.skipSpace_of_head (by decide) rest
                simp [jsonChars, Json.value?, closing, document, documentItems]
            | cons v vs =>
                rcases (readable v List.mem_cons_self).head with ⟨c, cs, chars, solid, notEnd⟩
                simp only [depth] at deep
                simp only [jsonChars, List.length_cons, List.length_append] at enough
                have items : Json.items? fuel levels (v.jsonChars ++ (jsonItems vs ++ rest)) = _ :=
                  items?_jsonItems readable (by omega) (by omega) rest
                have text : jsonChars (.list (v :: vs)) ++ rest =
                    '[' :: (v.jsonChars ++ (jsonItems vs ++ rest)) := by
                  simp only [jsonChars, List.cons_append, List.append_assoc]
                rw [chars, List.cons_append] at items text
                rw [text, Json.value?_array solid notEnd, items]
                rfl

/-- So can an object. -/
theorem object {members : List (String × Value)} (readable : ∀ member ∈ members, Readable member.2) :
    Readable (.object members) where
  head := by cases members <;> exact ⟨_, _, rfl, by decide⟩
  read := by
    intro fuel levels rest deep enough _
    cases fuel with
    | zero => cases members <;> simp [jsonChars] at enough
    | succ fuel =>
        cases levels with
        | zero => simp [depth] at deep
        | succ levels =>
            cases members with
            | nil =>
                have closing : Json.skipSpace ('\x7d' :: rest) = '\x7d' :: rest :=
                  Json.skipSpace_of_head (by decide) rest
                simp [jsonChars, Json.value?, closing, document, documentMembers]
            | cons member members =>
                obtain ⟨key, v⟩ := member
                simp only [depth] at deep
                simp only [jsonChars, List.length_cons, List.length_append] at enough
                have read : Json.members? fuel levels
                    (jsonText key ++ ':' :: (v.jsonChars ++ (jsonMembers members ++ rest))) = _ :=
                  members?_jsonMembers readable (by omega) (by omega) rest
                have text : jsonChars (.object ((key, v) :: members)) ++ rest = '\x7b' ::
                    (jsonText key ++ ':' :: (v.jsonChars ++ (jsonMembers members ++ rest))) := by
                  simp only [jsonChars, List.cons_append, List.append_assoc]
                rcases Json.textBody?_jsonText key
                  (':' :: (v.jsonChars ++ (jsonMembers members ++ rest))) with ⟨body, split, -⟩
                rw [split] at read text
                rw [text, Json.value?_object, read]
                rfl

end Readable

mutual

/-- Every value of whole numbers is readable. -/
theorem readable : ∀ v : Value, v.AllNumbers Double.IsShortInt → Readable v
  | .null, _ => .null
  | .text s, _ => .text s
  | .number _, whole => .number whole
  | .boolean b, _ => .boolean b
  | .list items, whole => .list (readableItems items whole)
  | .object members, whole => .object (readableMembers members whole)

theorem readableItems : ∀ items : List Value, ItemsAllNumbers Double.IsShortInt items →
    ∀ v ∈ items, Readable v
  | [], _ => fun _ member => nomatch member
  | v :: vs, whole => List.forall_mem_cons.2 ⟨readable v whole.1, readableItems vs whole.2⟩

theorem readableMembers : ∀ members : List (String × Value),
    MembersAllNumbers Double.IsShortInt members → ∀ member ∈ members, Readable member.2
  | [], _ => fun _ member => nomatch member
  | (_, v) :: members, whole =>
      List.forall_mem_cons.2 ⟨readable v whole.1, readableMembers members whole.2⟩

end

/-- A value whose numbers are integers below 10¹⁵ and whose lists and objects nest at most 127 deep is read
back from its JSON: what is read equals it, and is it, if no zero in it is negative. -/
theorem ofJsonText?_toJson {v : Value} (ordered : v.Ordered)
    (whole : v.AllNumbers Double.IsShortInt) (nesting : v.depth ≤ 127) :
    ∃ w, ofJsonText? v.toJson = some w ∧ w.same v = true ∧
      (v.AllNumbers (· ≠ .finite true 0) → w = v) := by
  rcases ofJson_document v ordered whole with ⟨equal, same⟩
  refine ⟨ofJson v.document, ?_, equal, same⟩
  have legible := readable v whole
  have ends : JsonNumber.Ends [] := fun c member => nomatch member
  have read := legible.read (v.jsonChars.length + 1) 127 [] nesting (Nat.le_succ _) ends
  have skipped := legible.skipSpace []
  rw [List.append_nil] at read skipped
  unfold ofJsonText? Json.read? toJson
  simp only [String.toList_ofList, skipped]
  rw [Json.maxNesting, read]
  rfl

/-- A key and a text with control characters, quotes and backslashes, an empty key, an empty object and the
largest integer that is written by its digits. -/
theorem ofJsonText?_toJson_escaped :
    ofJsonText? (object [("\x00\"", .list [.null, .number (.ofNat 999999999999999), .boolean true]),
        ("\\ß", .object [("", .text "\x7f\t\u2028\\\""), ("a", .object [])])]).toJson =
      some (object [("\x00\"", .list [.null, .number (.ofNat 999999999999999), .boolean true]),
        ("\\ß", .object [("", .text "\x7f\t\u2028\\\""), ("a", .object [])])]) := by
  have integer : Double.IsShortInt (.ofNat 999999999999999) :=
    ⟨999999999999999, Double.toInt?_ofNat (by decide), by decide⟩
  have positive : Double.ofNat 999999999999999 ≠ .finite true 0 := by
    rw [Double.ofNat_eq_finite (by decide)]
    exact fun same => nomatch same
  have keys : "\x00\"" < "\\ß" ∧ "" < "a" := by decide
  have ordered : Ordered (object [("\x00\"", .list [.null, .number (.ofNat 999999999999999),
      .boolean true]), ("\\ß", .object [("", .text "\x7f\t\u2028\\\""), ("a", .object [])])]) :=
    ⟨.cons (List.forall_mem_singleton.2 keys.1) (.cons (List.forall_mem_nil _) .nil),
      ⟨trivial, trivial, trivial, trivial⟩,
      ⟨.cons (List.forall_mem_singleton.2 keys.2) (.cons (List.forall_mem_nil _) .nil),
        trivial, ⟨.nil, trivial⟩, trivial⟩, trivial⟩
  rcases ofJsonText?_toJson ordered
      (by simp [AllNumbers, ItemsAllNumbers, MembersAllNumbers, integer]) (by decide) with
    ⟨w, read, -, same⟩
  rw [read, same (by simp [AllNumbers, ItemsAllNumbers, MembersAllNumbers, positive])]

end Value
end TemplateEngine
