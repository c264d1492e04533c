import MallFabric.Assoc
import Mathlib.Data.List.Nodup

/-!
# Distinct keys

Writing and erasing keep the keys of an association list distinct.  In such a
list a key determines its entry, so that the entries with a property can be
counted through every change.
-/

namespace MallFabric
namespace Assoc

variable {Key Value : Type} [DecidableEq Key]

/-- No key stands in the list twice. -/
def Distinct (entries : Assoc Key Value) : Prop := (keys entries).Nodup

omit [DecidableEq Key] in
theorem distinct_nil : Distinct ([] : Assoc Key Value) := List.nodup_nil

theorem find?_eq_none_iff
    (entries : Assoc Key Value)
    (key : Key) :
    find? entries key = none ↔ key ∉ keys entries := by
  induction entries with
  | nil => simp [keys]
  | cons entry rest inductionHypothesis =>
      by_cases same : entry.1 = key
      · simp [find?, keys, same]
      · have unlike : key ≠ entry.1 := fun equal => same equal.symm
        simpa [find?, keys, same, unlike] using inductionHypothesis

/-- Where nothing is found, there is nothing. -/
theorem eq_nil_of_find?
    {entries : Assoc Key Value}
    (absent : ∀ key, find? entries key = none) :
    entries = [] := by
  cases entries with
  | nil => rfl
  | cons entry rest =>
      have missing := absent entry.1
      simp [find?] at missing

/-- A value that is found stands in the list. -/
theorem mem_of_find?
    {entries : Assoc Key Value}
    {key : Key}
    {value : Value}
    (found : find? entries key = some value) :
    (key, value) ∈ entries := by
  induction entries with
  | nil => simp at found
  | cons entry rest inductionHypothesis =>
      by_cases same : entry.1 = key
      · have equal : entry.2 = value := by simpa [find?, same] using found
        rw [← same, ← equal]
        exact List.mem_cons_self
      · have later : find? rest key = some value := by
          simpa [find?, same] using found
        exact List.mem_cons_of_mem _ (inductionHypothesis later)

/-- Where keys are distinct, every entry is found under its key. -/
theorem Distinct.find?_of_mem
    {entries : Assoc Key Value}
    (distinct : Distinct entries)
    {key : Key}
    {value : Value}
    (present : (key, value) ∈ entries) :
    find? entries key = some value := by
  induction entries with
  | nil => simp at present
  | cons entry rest inductionHypothesis =>
      have headAbsent : entry.1 ∉ keys rest := (List.nodup_cons.mp distinct).1
      have tailDistinct : Distinct rest := (List.nodup_cons.mp distinct).2
      rcases List.mem_cons.mp present with equal | inTail
      · rw [← equal]
        simp [find?]
      · have unlike : entry.1 ≠ key := by
          intro same
          rw [same] at headAbsent
          exact headAbsent (List.mem_map.mpr ⟨(key, value), inTail, rfl⟩)
        simpa [find?, unlike] using inductionHypothesis tailDistinct inTail

/-- A write adds its own entry and no other. -/
theorem mem_insert
    {entries : Assoc Key Value}
    {key : Key}
    {value : Value}
    {entry : Key × Value}
    (present : entry ∈ insert entries key value) :
    entry = (key, value) ∨ entry ∈ entries := by
  induction entries with
  | nil => exact Or.inl (List.mem_singleton.mp present)
  | cons first rest inductionHypothesis =>
      by_cases same : first.1 = key
      · simp only [insert, same, if_true] at present
        rcases List.mem_cons.mp present with new | old
        · exact Or.inl new
        · exact Or.inr (List.mem_cons_of_mem _ old)
      · simp only [insert, same, if_false] at present
        rcases List.mem_cons.mp present with head | later
        · exact Or.inr (List.mem_cons.mpr (Or.inl head))
        · rcases inductionHypothesis later with new | old
          · exact Or.inl new
          · exact Or.inr (List.mem_cons_of_mem _ old)

/-- A write under a new key goes to the end. -/
theorem insert_of_find?_eq_none
    {entries : Assoc Key Value}
    {key : Key}
    (absent : find? entries key = none)
    (value : Value) :
    insert entries key value = entries ++ [(key, value)] := by
  induction entries with
  | nil => rfl
  | cons entry rest inductionHypothesis =>
      by_cases same : entry.1 = key
      · simp [find?, same] at absent
      · have later : find? rest key = none := by
          simpa [find?, same] using absent
        simp [insert, same, inductionHypothesis later]

/-- A write under a present key leaves the keys as they are. -/
theorem keys_insert_of_find?
    {entries : Assoc Key Value}
    {key : Key}
    {old : Value}
    (found : find? entries key = some old)
    (value : Value) :
    keys (insert entries key value) = keys entries := by
  induction entries with
  | nil => simp at found
  | cons entry rest inductionHypothesis =>
      by_cases same : entry.1 = key
      · simp [insert, keys, same]
      · have later : find? rest key = some old := by
          simpa [find?, same] using found
        have kept := inductionHypothesis later
        simp only [keys] at kept
        simp [insert, keys, same, kept]

theorem Distinct.insert
    {entries : Assoc Key Value}
    (distinct : Distinct entries)
    (key : Key)
    (value : Value) :
    Distinct (insert entries key value) := by
  cases found : find? entries key with
  | some old =>
      rw [Distinct, keys_insert_of_find? found]
      exact distinct
  | none =>
      have absent := (find?_eq_none_iff entries key).mp found
      rw [Distinct, insert_of_find?_eq_none found, keys, List.map_append]
      exact List.Nodup.append distinct (by simp) (by simpa [keys] using absent)

omit [DecidableEq Key] in
theorem Distinct.filter
    {entries : Assoc Key Value}
    (distinct : Distinct entries)
    (property : Key × Value -> Bool) :
    Distinct (List.filter property entries) :=
  List.Nodup.sublist (List.Sublist.map Prod.fst List.filter_sublist) distinct

theorem Distinct.erase
    {entries : Assoc Key Value}
    (distinct : Distinct entries)
    (key : Key) :
    Distinct (erase entries key) :=
  distinct.filter _

/-- Where keys are distinct, filtering the entries filters what is found. -/
theorem Distinct.find?_filter
    {entries : Assoc Key Value}
    (distinct : Distinct entries)
    (property : Key × Value -> Bool)
    (key : Key) :
    find? (List.filter property entries) key =
      (find? entries key).filter fun value => property (key, value) := by
  induction entries with
  | nil => rfl
  | cons entry rest inductionHypothesis =>
      obtain ⟨other, value⟩ := entry
      have headAbsent : other ∉ keys rest := (List.nodup_cons.mp distinct).1
      have tailDistinct : Distinct rest := (List.nodup_cons.mp distinct).2
      by_cases same : other = key
      · subst same
        have tailAbsent : find? (List.filter property rest) other = none := by
          rw [inductionHypothesis tailDistinct, (find?_eq_none_iff rest other).mpr headAbsent]
          rfl
        cases kept : property (other, value) with
        | false => simpa [find?, kept, Option.filter] using tailAbsent
        | true => simp [find?, kept, Option.filter]
      · cases kept : property (other, value) with
        | false => simpa [find?, kept, same] using inductionHypothesis tailDistinct
        | true => simpa [find?, kept, same] using inductionHypothesis tailDistinct

/-- Erasing a key that is not there changes nothing. -/
theorem erase_of_find?_eq_none
    {entries : Assoc Key Value}
    {key : Key}
    (absent : find? entries key = none) :
    erase entries key = entries := by
  have missing := (find?_eq_none_iff entries key).mp absent
  refine List.filter_eq_self.mpr fun entry present => ?_
  have unlike : entry.1 ≠ key := by
    intro same
    exact missing (same ▸ List.mem_map_of_mem present)
  simpa using unlike

/-- An entry that is written under a new key and erased again leaves nothing behind. -/
theorem erase_insert_of_find?_eq_none
    {entries : Assoc Key Value}
    {key : Key}
    (absent : find? entries key = none)
    (value : Value) :
    erase (insert entries key value) key = entries := by
  have kept := erase_of_find?_eq_none absent
  unfold erase at kept ⊢
  rw [insert_of_find?_eq_none absent, List.filter_append, kept]
  simp

/-! ## Counting entries -/

omit [DecidableEq Key] in
/-- An entry counts for one if it has the property, and else for none. -/
theorem countP_cons_toNat
    (property : Key × Value -> Bool)
    (entry : Key × Value)
    (entries : List (Key × Value)) :
    List.countP property (entry :: entries) =
      List.countP property entries + (property entry).toNat := by
  cases counts : property entry with
  | false => simp [counts]
  | true => simp [counts]

theorem countP_insert_of_find?_eq_none
    {entries : Assoc Key Value}
    {key : Key}
    (absent : find? entries key = none)
    (value : Value)
    (property : Key × Value -> Bool) :
    List.countP property (insert entries key value) =
      List.countP property entries + (property (key, value)).toNat := by
  rw [insert_of_find?_eq_none absent, List.countP_append, countP_cons_toNat, List.countP_nil,
    Nat.zero_add]

/-- A write in the place of an earlier value counts the new one in its stead. -/
theorem countP_insert_of_find?
    {entries : Assoc Key Value}
    {key : Key}
    {old : Value}
    (found : find? entries key = some old)
    (value : Value)
    (property : Key × Value -> Bool) :
    List.countP property (insert entries key value) + (property (key, old)).toNat =
      List.countP property entries + (property (key, value)).toNat := by
  induction entries with
  | nil => simp at found
  | cons entry rest inductionHypothesis =>
      obtain ⟨other, present⟩ := entry
      by_cases same : other = key
      · subst same
        have equal : present = old := by simpa [find?] using found
        subst equal
        simp only [insert, if_true, countP_cons_toNat]
        omega
      · have later : find? rest key = some old := by
          simpa [find?, same] using found
        have counted := inductionHypothesis later
        simp only [insert, same, if_false, List.countP_cons]
        omega

theorem countP_erase_of_find?
    {entries : Assoc Key Value}
    (distinct : Distinct entries)
    {key : Key}
    {value : Value}
    (found : find? entries key = some value)
    (property : Key × Value -> Bool) :
    List.countP property (erase entries key) + (property (key, value)).toNat =
      List.countP property entries := by
  induction entries with
  | nil => simp at found
  | cons entry rest inductionHypothesis =>
      obtain ⟨other, present⟩ := entry
      have headAbsent : other ∉ keys rest := (List.nodup_cons.mp distinct).1
      have tailDistinct : Distinct rest := (List.nodup_cons.mp distinct).2
      by_cases same : other = key
      · subst same
        have equal : present = value := by simpa [find?] using found
        subst equal
        have kept : erase ((other, present) :: rest) other = erase rest other := by
          simp [erase]
        rw [kept, erase_of_find?_eq_none ((find?_eq_none_iff rest other).mpr headAbsent),
          countP_cons_toNat]
      · have later : find? rest key = some value := by
          simpa [find?, same] using found
        have counted := inductionHypothesis tailDistinct later
        have kept : erase ((other, present) :: rest) key = (other, present) :: erase rest key := by
          simp [erase, same]
        rw [kept, List.countP_cons, List.countP_cons]
        omega

theorem length_insert_of_find?_eq_none
    {entries : Assoc Key Value}
    {key : Key}
    (absent : find? entries key = none)
    (value : Value) :
    List.length (insert entries key value) = List.length entries + 1 := by
  rw [insert_of_find?_eq_none absent, List.length_append, List.length_singleton]

theorem length_erase_of_find?
    {entries : Assoc Key Value}
    (distinct : Distinct entries)
    {key : Key}
    {value : Value}
    (found : find? entries key = some value) :
    List.length (erase entries key) + 1 = List.length entries := by
  simpa using countP_erase_of_find? distinct found fun _ => true

/-! ## Other values under the same keys -/

/-- The list with other values, each made from its key and its old value. -/
def mapValues (entries : Assoc Key Value) (change : Key -> Value -> Value) : Assoc Key Value :=
  List.map (fun entry => (entry.1, change entry.1 entry.2)) entries

theorem find?_mapValues
    (entries : Assoc Key Value)
    (change : Key -> Value -> Value)
    (key : Key) :
    find? (mapValues entries change) key = (find? entries key).map (change key) := by
  induction entries with
  | nil => rfl
  | cons entry rest inductionHypothesis =>
      by_cases same : entry.1 = key
      · simp [mapValues, find?, same]
      · simpa [mapValues, find?, same] using inductionHypothesis

omit [DecidableEq Key] in
theorem mapValues_eq_self
    {entries : Assoc Key Value}
    {change : Key -> Value -> Value}
    (kept : ∀ entry ∈ entries, change entry.1 entry.2 = entry.2) :
    mapValues entries change = entries := by
  refine (List.map_congr_left fun entry present => ?_).trans (List.map_id entries)
  exact congrArg (Prod.mk entry.1) (kept entry present)

theorem mapValues_insert
    (entries : Assoc Key Value)
    (change : Key -> Value -> Value)
    (key : Key)
    (value : Value) :
    mapValues (insert entries key value) change =
      insert (mapValues entries change) key (change key value) := by
  induction entries with
  | nil => rfl
  | cons entry rest inductionHypothesis =>
      by_cases same : entry.1 = key
      · simp [mapValues, insert, same]
      · simpa [mapValues, insert, same] using inductionHypothesis

theorem mapValues_erase
    (entries : Assoc Key Value)
    (change : Key -> Value -> Value)
    (key : Key) :
    mapValues (erase entries key) change = erase (mapValues entries change) key := by
  simp [mapValues, erase, List.filter_map, Function.comp_def]

/-! ## Some of the keys -/

/-- The entries whose keys are kept. -/
def restrict (entries : Assoc Key Value) (keeps : Key -> Bool) : Assoc Key Value :=
  List.filter (fun entry => keeps entry.1) entries

section Restrict

variable {keeps : Key -> Bool} {key : Key}

theorem find?_restrict
    (entries : Assoc Key Value)
    (kept : keeps key = true) :
    find? (restrict entries keeps) key = find? entries key := by
  induction entries with
  | nil => rfl
  | cons entry rest inductionHypothesis =>
      unfold restrict at inductionHypothesis ⊢
      by_cases same : entry.1 = key
      · simp [same, kept, find?]
      · cases stays : keeps entry.1 with
        | true => simpa [stays, find?, same] using inductionHypothesis
        | false => simpa [stays, find?, same] using inductionHypothesis

theorem find?_restrict_of_not
    (entries : Assoc Key Value)
    (left : keeps key = false) :
    find? (restrict entries keeps) key = none := by
  rw [find?_eq_none_iff, keys, List.mem_map]
  rintro ⟨entry, present, rfl⟩
  have kept := (List.mem_filter.mp present).2
  rw [left] at kept
  cases kept

theorem restrict_insert
    (entries : Assoc Key Value)
    (kept : keeps key = true)
    (value : Value) :
    restrict (insert entries key value) keeps = insert (restrict entries keeps) key value := by
  induction entries with
  | nil => simp [restrict, insert, kept]
  | cons entry rest inductionHypothesis =>
      unfold restrict at inductionHypothesis ⊢
      by_cases same : entry.1 = key
      · simp [insert, same, kept]
      · cases stays : keeps entry.1 with
        | true => simpa [insert, same, stays] using inductionHypothesis
        | false => simpa [insert, same, stays] using inductionHypothesis

/-- A write under another key is not seen. -/
theorem restrict_insert_of_not
    (entries : Assoc Key Value)
    (left : keeps key = false)
    (value : Value) :
    restrict (insert entries key value) keeps = restrict entries keeps := by
  induction entries with
  | nil => simp [restrict, insert, left]
  | cons entry rest inductionHypothesis =>
      unfold restrict at inductionHypothesis ⊢
      by_cases same : entry.1 = key
      · simp [insert, same, left]
      · cases stays : keeps entry.1 with
        | true => simpa [insert, same, stays] using inductionHypothesis
        | false => simpa [insert, same, stays] using inductionHypothesis

theorem restrict_erase
    (entries : Assoc Key Value)
    (keeps : Key -> Bool)
    (key : Key) :
    restrict (erase entries key) keeps = erase (restrict entries keeps) key := by
  unfold restrict erase
  rw [List.filter_filter, List.filter_filter]
  exact List.filter_congr fun entry _ => Bool.and_comm _ _

theorem restrict_erase_of_not
    (entries : Assoc Key Value)
    (left : keeps key = false) :
    restrict (erase entries key) keeps = restrict entries keeps := by
  rw [restrict_erase, erase_of_find?_eq_none (find?_restrict_of_not entries left)]

end Restrict

theorem contains_erase_of_ne
    (entries : Assoc Key Value)
    {key other : Key}
    (different : other ≠ key) :
    contains (erase entries key) other = contains entries other := by
  rw [contains, find?_erase_of_ne entries different, contains]

/-- The order in which two keys are erased does not matter. -/
theorem erase_comm
    (entries : Assoc Key Value)
    (first second : Key) :
    erase (erase entries first) second = erase (erase entries second) first :=
  restrict_erase entries (fun key => key ≠ second) first

/-- A write under a key that is erased again is lost. -/
theorem erase_insert_self
    (entries : Assoc Key Value)
    (key : Key)
    (value : Value) :
    erase (insert entries key value) key = erase entries key := by
  show restrict (insert entries key value) (fun kept => kept ≠ key) = _
  rw [restrict_insert_of_not entries (by simp)]
  rfl

/-- Erasing one key leaves a write under another one. -/
theorem erase_insert_of_ne
    (entries : Assoc Key Value)
    {key other : Key}
    (different : key ≠ other)
    (value : Value) :
    erase (insert entries key value) other = insert (erase entries other) key value := by
  show restrict (insert entries key value) (fun kept => kept ≠ other) = _
  rw [restrict_insert entries (decide_eq_true different)]
  rfl

/-! ## Two lists without a common key -/

section Apart

variable {Other : Type} {left : Assoc Key Value} {right : Assoc Key Other} {key : Key}

/-- A key may be written to one list if the other does not have it. -/
theorem apart_insert
    (apart : ∀ key, find? left key = none ∨ find? right key = none)
    (free : find? right key = none)
    (value : Value)
    (other : Key) :
    find? (insert left key value) other = none ∨ find? right other = none := by
  by_cases same : other = key
  · rw [same]
    exact Or.inr free
  · rw [find?_insert_of_ne _ _ same]
    exact apart other

theorem apart_erase
    (apart : ∀ key, find? left key = none ∨ find? right key = none)
    (key other : Key) :
    find? (erase left key) other = none ∨ find? right other = none := by
  by_cases same : other = key
  · rw [same]
    exact Or.inl (find?_erase_self _ _)
  · rw [find?_erase_of_ne _ same]
    exact apart other

/-- A key may move from one list to the other. -/
theorem apart_move
    (apart : ∀ key, find? left key = none ∨ find? right key = none)
    (key : Key)
    (value : Other)
    (other : Key) :
    find? (erase left key) other = none ∨ find? (insert right key value) other = none := by
  have erased := apart_erase apart key
  have moved := apart_insert (fun key => (erased key).symm) (find?_erase_self left key) value
  exact (moved other).symm

/-- A key of one list is not a key of the other. -/
theorem free_of_apart
    (apart : ∀ key, find? left key = none ∨ find? right key = none)
    {value : Value}
    (found : find? left key = some value) :
    find? right key = none := by
  rcases apart key with missing | free
  · rw [found] at missing
    cases missing
  · exact free

end Apart

end Assoc
end MallFabric
