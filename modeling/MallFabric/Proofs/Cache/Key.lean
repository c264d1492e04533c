import MallFabric.Cache
import MallFabric.Services
import Mathlib.Data.List.Basic

/-!
# Keys of the response cache

A key joins the names of a method and a digest by colons.  A digest is written
without colons, so that the key of a method without colons in its names
determines the method and the digest.
-/

namespace MallFabric

namespace Hex

/-- No digit is a colon. -/
theorem digit_ne_colon : (value : Nat) -> value < 16 -> digit value ≠ ':' := by
  decide

theorem colon_not_mem_encode (bytes : Bytes) : ':' ∉ (encode bytes).toList := by
  rw [encode, String.toList_ofList]
  induction bytes with
  | nil => exact List.not_mem_nil
  | cons byte rest inductionHypothesis =>
      have bound : byte.toNat < 256 := byte.toNat_lt
      have high := digit_ne_colon (byte.toNat / 16) (by omega)
      have low := digit_ne_colon (byte.toNat % 16) (by omega)
      simp [encodeChars, high.symm, low.symm, inductionHypothesis]

theorem encode_injective : Function.Injective encode := by
  intro first second same
  have read := decode_encode first
  rw [same, decode_encode, Option.some.injEq] at read
  exact read.symm

end Hex

/-- No separator is left after the last one. -/
theorem eq_of_append_separator
    {Symbol : Type}
    {separator : Symbol}
    {first firstRest second secondRest : List Symbol}
    (plain : separator ∉ firstRest)
    (longer : ∃ between, second = first ++ between ∧
      separator :: firstRest = between ++ separator :: secondRest) :
    first = second ∧ firstRest = secondRest := by
  obtain ⟨between, split, rest⟩ := longer
  cases between with
  | nil =>
      rw [List.append_nil] at split
      exact ⟨split.symm, (List.cons.inj rest).2⟩
  | cons symbol between =>
      have tail : firstRest = between ++ separator :: secondRest := (List.cons.inj rest).2
      rw [tail] at plain
      exact absurd (List.mem_append_right _ List.mem_cons_self) plain

/-- What stands before and after the last of some separators is determined by the whole. -/
theorem append_separator_inj
    {Symbol : Type}
    {separator : Symbol}
    {first firstRest second secondRest : List Symbol}
    (firstPlain : separator ∉ firstRest)
    (secondPlain : separator ∉ secondRest)
    (same : first ++ separator :: firstRest = second ++ separator :: secondRest) :
    first = second ∧ firstRest = secondRest := by
  rcases List.append_eq_append_iff.mp same with longer | longer
  · exact eq_of_append_separator firstPlain longer
  · obtain ⟨heads, tails⟩ := eq_of_append_separator secondPlain longer
    exact ⟨heads.symm, tails.symm⟩

namespace Method

/-- A method without colons in its names. -/
def Plain (method : Method) : Prop :=
  ':' ∉ method.service.toList ∧ ':' ∉ method.name.toList

instance (method : Method) : Decidable method.Plain :=
  inferInstanceAs (Decidable (_ ∧ _))

theorem toList_cacheKey
    (method : Method)
    (request : Bytes) :
    (method.cacheKey request).toList =
      ("mall:".toList ++ (method.service.toList ++ ':' :: method.name.toList)) ++
        ':' :: (Hex.encode (Sha256.digest request)).toList := by
  simp [cacheKey, toString]

/-- Keys are equal exactly if the digests and the joined names are. -/
theorem cacheKey_eq_iff
    {method other : Method}
    {payload otherPayload : Bytes} :
    method.cacheKey payload = other.cacheKey otherPayload ↔
      method.service.toList ++ ':' :: method.name.toList =
          other.service.toList ++ ':' :: other.name.toList ∧
        Sha256.digest payload = Sha256.digest otherPayload := by
  rw [← String.toList_inj, toList_cacheKey, toList_cacheKey]
  constructor
  · intro texts
    obtain ⟨heads, digests⟩ := append_separator_inj (Hex.colon_not_mem_encode _)
      (Hex.colon_not_mem_encode _) texts
    exact ⟨List.append_cancel_left heads, Hex.encode_injective (String.toList_inj.mp digests)⟩
  · rintro ⟨names, digests⟩
    rw [names, digests]

/-- The key of a plain method determines the method and the digest. -/
theorem eq_of_cacheKey_eq
    {method other : Method}
    (plain : method.Plain)
    {payload otherPayload : Bytes}
    (same : method.cacheKey payload = other.cacheKey otherPayload) :
    method = other ∧ Sha256.digest payload = Sha256.digest otherPayload := by
  obtain ⟨names, digests⟩ := cacheKey_eq_iff.mp same
  obtain ⟨services, -, operations⟩ := (List.append_cons_inj_of_notMem plain.1 plain.2).mp names
  rw [String.toList_inj] at services operations
  exact ⟨congr (congrArg Method.mk services) operations, digests⟩

end Method

/-! ## The methods of the mall -/

namespace ServiceMethod

variable {Conn Peers : Type} {service : Grpc.Service Peers} {method : Method}
variable {before : DispatchTable Conn Peers}

/-- Marking a method cacheable registers no other. -/
theorem contains_markCacheable
    {marked : Method}
    (present : (before.markCacheable marked).contains method = true)
    (different : method ≠ marked) :
    before.contains method = true := by
  unfold DispatchTable.markCacheable DispatchTable.contains at present
  cases found : before.entries.find? marked with
  | none =>
      simp only [found] at present
      exact present
  | some entry =>
      simp only [found, Assoc.contains, Assoc.find?_insert_of_ne _ _ different] at present
      exact present

/-- Registering a method registers no other. -/
theorem contains_registerAt
    {entry : ServiceMethod}
    {path : String}
    (present : (entry.registerAt service path before).contains method = true)
    (different : method ≠ entry.method) :
    before.contains method = true := by
  have registered : ∀ handler, DispatchTable.contains
      (before.registerRemote entry.method entry.request entry.response handler) method = true ->
        before.contains method = true := by
    intro handler remains
    simp only [DispatchTable.registerRemote, DispatchTable.contains, Assoc.contains,
      Assoc.find?_insert_of_ne _ _ different] at remains
    exact remains
  simp only [registerAt] at present
  split at present
  · exact registered _ (contains_markCacheable present different)
  · exact registered _ present

theorem mem_of_contains_foldl
    (entries : List ServiceMethod)
    (present : (entries.foldl (fun table entry => entry.registerAt service entry.path table)
      before).contains method = true)
    (absent : before.contains method = false) :
    ∃ entry ∈ entries, entry.method = method := by
  induction entries generalizing before with
  | nil => cases absent.symm.trans present
  | cons entry rest inductionHypothesis =>
      by_cases same : entry.method = method
      · exact ⟨entry, List.mem_cons_self, same⟩
      · have still : (entry.registerAt service entry.path before).contains method = false := by
          rw [Bool.eq_false_iff] at absent ⊢
          exact fun added => absent (contains_registerAt added (Ne.symm same))
        obtain ⟨other, later, equal⟩ := inductionHypothesis present still
        exact ⟨other, List.mem_cons_of_mem _ later, equal⟩

/-- No name in the table of the mall has a colon. -/
theorem plain_of_contains_table
    (service : Grpc.Service Peers)
    (present : (table service : DispatchTable Conn Peers).contains method = true) :
    method.Plain := by
  obtain ⟨entry, listed, rfl⟩ := mem_of_contains_foldl all present rfl
  have plain : ∀ entry ∈ all, entry.method.Plain := by decide
  exact plain entry listed

end ServiceMethod
end MallFabric
