import MallFabric.Proofs.Registry.Change
import Mathlib.Order.Bounds.Basic

/-!
# The history of a store

What was done in a store, and when, makes up its history, newest deed first.
The history alone tells which lease is live and what is shown under a key: a
lease lives for its span from its grant or its last renewal unless it is
revoked, and a key shows what was last bound to it while that lease is live.
-/

namespace MallFabric
namespace Registry

/-- A deed and the instant at which it was done. -/
structure Record where
  instant : Instant
  deed : Deed
deriving DecidableEq, Repr

/-- What was done in a store, newest first. -/
abbrev History := List Record

namespace History

/-- The lease was granted for a span. -/
def Granted (history : History) (lease : LeaseId) (span : Duration) : Prop :=
  ∃ record ∈ history, record.deed = .granted lease span

/-- The lease was revoked. -/
def Revoked (history : History) (lease : LeaseId) : Prop :=
  ∃ record ∈ history, record.deed = .revoked lease

/-- The latest instant at which the lease was granted or renewed. -/
def LastRefreshed (history : History) (lease : LeaseId) (since : Instant) : Prop :=
  IsGreatest { instant | ∃ deed, ⟨instant, deed⟩ ∈ history ∧ deed.Refreshes lease } since

/-- The key was last bound to a value under a lease; `later` is what was done
afterwards. -/
def LastBound (history : History) (key : String) (binding : Binding) (later : History) : Prop :=
  ∃ instant earlier,
    history = later ++ ⟨instant, .bound key binding.value binding.lease⟩ :: earlier ∧
      ∀ record ∈ later, ¬ record.deed.Binds key

/-- Less than its span has passed since the lease was last granted or renewed. -/
def Unexpired (history : History) (now : Instant) (lease : LeaseId) : Prop :=
  ∃ span since, history.Granted lease span ∧ history.LastRefreshed lease since ∧
    now < since + span

/-- What the history tells to be shown under a key: the value that was last bound
to it, as long as the lease was not revoked since and has not expired. -/
def Shows (history : History) (now : Instant) (key value : String) : Prop :=
  ∃ lease later, history.LastBound key ⟨value, lease⟩ later ∧ ¬ Revoked later lease ∧
    history.Unexpired now lease

variable {history : History} {record : Record} {lease : LeaseId} {span : Duration}
variable {since : Instant} {key : String} {binding : Binding} {later : History}

theorem granted_cons :
    Granted (record :: history) lease span ↔
      record.deed = .granted lease span ∨ history.Granted lease span := by
  simp [Granted]

theorem revoked_cons :
    Revoked (record :: history) lease ↔ record.deed = .revoked lease ∨ history.Revoked lease := by
  simp [Revoked]

theorem revoked_append
    {first second : History} :
    Revoked (first ++ second) lease ↔ first.Revoked lease ∨ second.Revoked lease := by
  simp [Revoked, or_and_right, exists_or]

/-- A deed that does not refresh a lease leaves its last refreshment. -/
theorem lastRefreshed_cons
    (other : ¬ record.deed.Refreshes lease) :
    LastRefreshed (record :: history) lease since ↔ history.LastRefreshed lease since := by
  have same : { instant | ∃ deed, ⟨instant, deed⟩ ∈ record :: history ∧ deed.Refreshes lease } =
      { instant | ∃ deed, ⟨instant, deed⟩ ∈ history ∧ deed.Refreshes lease } := by
    ext instant
    constructor
    · rintro ⟨deed, present, refreshes⟩
      rcases List.mem_cons.mp present with equal | before
      · rw [← equal] at other
        exact absurd refreshes other
      · exact ⟨deed, before, refreshes⟩
    · rintro ⟨deed, present, refreshes⟩
      exact ⟨deed, List.mem_cons_of_mem _ present, refreshes⟩
  rw [LastRefreshed, same, LastRefreshed]

/-- The newest deed, if it refreshes a lease, is its last refreshment. -/
theorem lastRefreshed_cons_self
    (past : ∀ earlier ∈ history, earlier.instant ≤ record.instant)
    (refreshes : record.deed.Refreshes lease) :
    LastRefreshed (record :: history) lease record.instant := by
  refine ⟨⟨record.deed, List.mem_cons_self, refreshes⟩, ?_⟩
  rintro instant ⟨deed, present, -⟩
  rcases List.mem_cons.mp present with equal | before
  · rw [← equal]
  · exact past _ before

section OtherLease

variable (other : record.deed.lease ≠ lease)

include other

/-! A deed on another lease changes nothing for a lease. -/

theorem granted_cons_of_ne :
    Granted (record :: history) lease span ↔ history.Granted lease span := by
  rw [granted_cons]
  refine or_iff_right fun same => other ?_
  rw [same]
  rfl

theorem revoked_cons_of_ne :
    Revoked (record :: history) lease ↔ history.Revoked lease := by
  rw [revoked_cons]
  refine or_iff_right fun same => other ?_
  rw [same]
  rfl

theorem lastRefreshed_cons_of_ne :
    LastRefreshed (record :: history) lease since ↔ history.LastRefreshed lease since :=
  lastRefreshed_cons fun refreshes => other refreshes.lease_eq

theorem unexpired_cons_of_ne
    {now : Instant} :
    Unexpired (record :: history) now lease ↔ history.Unexpired now lease := by
  simp only [Unexpired, granted_cons_of_ne other, lastRefreshed_cons_of_ne other]

end OtherLease

/-- A deed that does not write a key leaves what was last bound to it. -/
theorem LastBound.cons
    (last : history.LastBound key binding later)
    (other : ¬ record.deed.Binds key) :
    LastBound (record :: history) key binding (record :: later) := by
  obtain ⟨instant, earlier, rfl, unwritten⟩ := last
  refine ⟨instant, earlier, rfl, ?_⟩
  intro newer present
  rcases List.mem_cons.mp present with rfl | before
  · exact other
  · exact unwritten newer before

/-- The newest deed, if it writes a key, is what was last bound to it. -/
theorem lastBound_cons_self
    (instant : Instant)
    (history : History)
    (key : String)
    (binding : Binding) :
    LastBound (⟨instant, .bound key binding.value binding.lease⟩ :: history) key binding [] :=
  ⟨instant, history, rfl, fun _ present => absurd present List.not_mem_nil⟩

/-- What was last bound is told by the newest deed, or else was so before it. -/
theorem LastBound.of_cons
    (last : LastBound (record :: history) key binding later) :
    record.deed = .bound key binding.value binding.lease ∨
      ¬ record.deed.Binds key ∧ ∃ before, history.LastBound key binding before := by
  obtain ⟨instant, earlier, equal, unwritten⟩ := last
  cases later with
  | nil =>
      rw [List.nil_append, List.cons.injEq] at equal
      exact Or.inl (by rw [equal.1])
  | cons newest rest =>
      rw [List.cons_append, List.cons.injEq] at equal
      obtain ⟨rfl, rfl⟩ := equal
      refine Or.inr ⟨unwritten record List.mem_cons_self, rest, instant, earlier, rfl, ?_⟩
      exact fun newer present => unwritten newer (List.mem_cons_of_mem _ present)

/-- The lease of what was last bound has a deed in the history. -/
theorem LastBound.lease_mem
    (last : history.LastBound key binding later) :
    ∃ record ∈ history, record.deed.lease = binding.lease := by
  obtain ⟨instant, earlier, rfl, -⟩ := last
  exact ⟨_, List.mem_append_right _ List.mem_cons_self, rfl⟩

/-- Every deed on a lease was done on a lease that was not revoked before. -/
def Orderly (history : History) : Prop :=
  ∀ later record earlier, history = later ++ record :: earlier ->
    ¬ Revoked earlier record.deed.lease

theorem orderly_nil : Orderly [] := by
  intro later record earlier equal
  cases later with
  | nil => cases equal
  | cons first rest => cases equal

theorem Orderly.cons
    (orderly : history.Orderly)
    (unrevoked : ¬ history.Revoked record.deed.lease) :
    Orderly (record :: history) := by
  intro later newer earlier equal
  cases later with
  | nil =>
      rw [List.nil_append, List.cons.injEq] at equal
      obtain ⟨rfl, rfl⟩ := equal
      exact unrevoked
  | cons first rest =>
      rw [List.cons_append, List.cons.injEq] at equal
      exact orderly rest newer earlier equal.2

/-- Under a lease that was bound last and is not revoked since, nothing was revoked
at all. -/
theorem LastBound.not_revoked
    (last : history.LastBound key binding later)
    (orderly : history.Orderly)
    (unrevoked : ¬ Revoked later binding.lease) :
    ¬ history.Revoked binding.lease := by
  obtain ⟨instant, earlier, rfl, -⟩ := last
  have before : ¬ Revoked earlier binding.lease := orderly later _ earlier rfl
  rw [revoked_append, revoked_cons]
  rintro (after | same | long)
  · exact unrevoked after
  · cases same
  · exact before long

end History

end Registry
end MallFabric
