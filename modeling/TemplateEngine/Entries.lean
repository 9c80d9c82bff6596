/-!
# Entries

Keys with items in the order of their first mention, each key once. `set` changes the item of a key in
its place and puts a new key at the end; `List.lookup` is the view: it finds the item that was set and
is otherwise as it was.
-/

namespace TemplateEngine
namespace Entries

variable {κ α : Type} [BEq κ]

def set (key : κ) (item : α) : List (κ × α) → List (κ × α)
  | [] => [(key, item)]
  | (k, a) :: rest => if k == key then (k, item) :: rest else (k, a) :: set key item rest

variable [LawfulBEq κ]

@[simp]
theorem lookup_set_self (key : κ) (item : α) (entries : List (κ × α)) :
    (set key item entries).lookup key = some item := by
  induction entries with
  | nil => simp [set]
  | cons entry rest ih =>
      obtain ⟨k, a⟩ := entry
      by_cases same : k = key
      · simp [set, same]
      · simp [set, same, List.lookup_cons, ih, beq_eq_false_iff_ne.2 (Ne.symm same)]

theorem lookup_set_of_ne {key other : κ} (different : other ≠ key) (item : α)
    (entries : List (κ × α)) : (set key item entries).lookup other = entries.lookup other := by
  induction entries with
  | nil => simp [set, List.lookup_cons, beq_eq_false_iff_ne.2 different]
  | cons entry rest ih =>
      obtain ⟨k, a⟩ := entry
      by_cases same : k = key
      · subst same
        simp [set, List.lookup_cons, beq_eq_false_iff_ne.2 different]
      · by_cases found : other = k
        · simp [set, same, found]
        · simp [set, same, List.lookup_cons, ih]

/-- A known key keeps its place, a new one comes last. -/
theorem keys_set (key : κ) (item : α) (entries : List (κ × α)) :
    (set key item entries).map Prod.fst =
      if (entries.lookup key).isSome then entries.map Prod.fst
      else entries.map Prod.fst ++ [key] := by
  induction entries with
  | nil => simp [set]
  | cons entry rest ih =>
      obtain ⟨k, a⟩ := entry
      by_cases same : k = key
      · simp [set, same]
      · have next : ((k, a) :: rest).lookup key = rest.lookup key := by
          simp [List.lookup_cons, beq_eq_false_iff_ne.2 (Ne.symm same)]
        rw [next]
        simp only [set, beq_eq_false_iff_ne.2 same, Bool.false_eq_true, if_false, List.map_cons, ih]
        split <;> simp

end Entries
end TemplateEngine
