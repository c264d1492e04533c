/-!
# Association lists

A map with few entries, kept as a list of pairs in order of first insertion.
Writing to a key that is present replaces its value in place, so a key stands
in the list at most once.
-/

namespace MallFabric

/-- A finite map from keys to values, in order of first insertion. -/
abbrev Assoc (Key Value : Type) := List (Key × Value)

namespace Assoc

variable {Key Value : Type} [DecidableEq Key]

/-- The value stored under `key`. -/
def find? (entries : Assoc Key Value) (key : Key) : Option Value :=
  match entries with
  | [] => none
  | (other, value) :: rest => if other = key then some value else find? rest key

def contains (entries : Assoc Key Value) (key : Key) : Bool :=
  (entries.find? key).isSome

/-- Store `value` under `key`, in the place of an earlier value if there is one. -/
def insert (entries : Assoc Key Value) (key : Key) (value : Value) : Assoc Key Value :=
  match entries with
  | [] => [(key, value)]
  | (other, old) :: rest =>
      if other = key then (key, value) :: rest else (other, old) :: insert rest key value

/-- Remove `key` and its value. -/
def erase (entries : Assoc Key Value) (key : Key) : Assoc Key Value :=
  List.filter (fun entry => entry.1 ≠ key) entries

/-- The keys in order of first insertion. -/
def keys (entries : Assoc Key Value) : List Key :=
  entries.map Prod.fst

@[simp] theorem find?_nil (key : Key) : find? ([] : Assoc Key Value) key = none := rfl

theorem find?_insert_self (entries : Assoc Key Value) (key : Key) (value : Value) :
    find? (insert entries key value) key = some value := by
  induction entries with
  | nil => simp [insert, find?]
  | cons entry rest inductionHypothesis =>
      by_cases same : entry.1 = key
      · simp [insert, find?, same]
      · simp [insert, find?, same, inductionHypothesis]

theorem find?_insert_of_ne (entries : Assoc Key Value) {key other : Key} (value : Value)
    (different : other ≠ key) :
    find? (insert entries key value) other = find? entries other := by
  induction entries with
  | nil => simp [insert, find?, different.symm]
  | cons entry rest inductionHypothesis =>
      by_cases same : entry.1 = key
      · simp [insert, find?, same, different.symm]
      · simp [insert, find?, same, inductionHypothesis]

theorem find?_erase_self (entries : Assoc Key Value) (key : Key) :
    find? (erase entries key) key = none := by
  induction entries with
  | nil => rfl
  | cons entry rest inductionHypothesis =>
      by_cases same : entry.1 = key
      · simpa [erase, same] using inductionHypothesis
      · simpa [erase, find?, same] using inductionHypothesis

theorem find?_erase_of_ne (entries : Assoc Key Value) {key other : Key} (different : other ≠ key) :
    find? (erase entries key) other = find? entries other := by
  induction entries with
  | nil => rfl
  | cons entry rest inductionHypothesis =>
      by_cases same : entry.1 = key
      · have unlike : entry.1 ≠ other := fun equal => different (equal.symm.trans same)
        simpa [erase, find?, same, unlike, different.symm] using inductionHypothesis
      · by_cases found : entry.1 = other
        · simp [erase, find?, found, different]
        · simpa [erase, find?, same, found] using inductionHypothesis

/-- A write adds one entry at most. -/
theorem length_insert_le (entries : Assoc Key Value) (key : Key) (value : Value) :
    List.length (insert entries key value) ≤ List.length entries + 1 := by
  induction entries with
  | nil => simp [insert]
  | cons entry rest inductionHypothesis =>
      by_cases same : entry.1 = key
      · simp [insert, same]
      · simpa [insert, same] using inductionHypothesis

/-- A write to a key that is present adds no entry. -/
theorem length_insert_of_contains (entries : Assoc Key Value) {key : Key} (value : Value)
    (present : contains entries key = true) :
    List.length (insert entries key value) = List.length entries := by
  induction entries with
  | nil => simp [contains] at present
  | cons entry rest inductionHypothesis =>
      by_cases same : entry.1 = key
      · simp [insert, same]
      · have later : contains rest key = true := by
          simpa [contains, find?, same] using present
        simpa [insert, same] using inductionHypothesis later

end Assoc

end MallFabric
