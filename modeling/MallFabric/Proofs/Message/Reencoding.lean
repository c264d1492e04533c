import MallFabric.Proofs.Message.RoundTrip

/-!
# Messages are written again

What is read from bytes may be written in another way than it stood there: keys and
numbers in their shortest form, but negative integers with all their 64 bits, fields in
order and each once.  Still no more than twice the bytes are written that were read, so
what was read from the bytes of a memory has a length that 64 bits can tell, and it is
read back.
-/

namespace MallFabric.Message

open Cursor (ofBytes)

/-! ## The lengths of varints -/

theorem length_varint_pos (number : Nat) : 0 < (varint number).length :=
  List.length_pos_iff.mpr (varint_ne_nil number)

/-- A varint has as many bytes as its number has groups of seven bits. -/
theorem length_varint_le_iff
    {number more : Nat} :
    (varint number).length ≤ more + 1 ↔ number < 128 ^ (more + 1) := by
  induction more generalizing number with
  | zero =>
      by_cases small : number < 128
      · simp [varint_of_lt small, small]
      · have later := length_varint_pos (number / 128)
        simp only [varint_of_not_lt small, List.length_cons]
        omega
  | succ more inductionHypothesis =>
      by_cases small : number < 128
      · have power : 128 ≤ 128 ^ (more + 1 + 1) := Nat.le_self_pow (by omega) 128
        simp only [varint_of_lt small, List.length_singleton]
        omega
      · rw [varint_of_not_lt small, List.length_cons, Nat.succ_le_succ_iff, inductionHypothesis,
          Nat.div_lt_iff_lt_mul (by decide)]
        rfl

theorem lt_pow_length_varint (number : Nat) : number < 128 ^ (varint number).length := by
  obtain ⟨more, same⟩ := Nat.exists_eq_succ_of_ne_zero (Nat.ne_of_gt (length_varint_pos number))
  rw [same]
  exact length_varint_le_iff.mp (Nat.le_of_eq same)

theorem length_varint_le_of_lt_pow
    {number length : Nat}
    (positive : 0 < length)
    (fits : number < 128 ^ length) :
    (varint number).length ≤ length := by
  obtain ⟨more, rfl⟩ := Nat.exists_eq_succ_of_ne_zero (Nat.ne_of_gt positive)
  exact length_varint_le_iff.mpr fits

theorem length_varint_mono
    {less more : Nat}
    (order : less ≤ more) :
    (varint less).length ≤ (varint more).length :=
  length_varint_le_of_lt_pow (length_varint_pos more)
    (Nat.lt_of_le_of_lt order (lt_pow_length_varint more))

/-- A sum takes no more bytes than its parts do. -/
theorem length_varint_add_le (left right : Nat) :
    (varint (left + right)).length ≤ (varint left).length + (varint right).length := by
  have first := length_varint_pos left
  have second := length_varint_pos right
  refine length_varint_le_of_lt_pow (by omega) ?_
  calc left + right
      < 128 ^ (varint left).length + 128 ^ (varint right).length :=
        Nat.add_lt_add (lt_pow_length_varint left) (lt_pow_length_varint right)
    _ ≤ 128 ^ (varint left).length * 128 ^ (varint right).length :=
        Nat.add_le_mul (Nat.le_trans (by decide) (Nat.le_self_pow (Nat.ne_of_gt first) 128))
          (Nat.le_trans (by decide) (Nat.le_self_pow (Nat.ne_of_gt second) 128))
    _ = 128 ^ ((varint left).length + (varint right).length) := (Nat.pow_add _ _ _).symm

/-! ## What readers take -/

/-- What one step after another gives, each of them gives. -/
theorem exists_of_bind_eq_ok
    {Fault First Second : Type}
    {first : Except Fault First}
    {second : First -> Except Fault Second}
    {result : Second}
    (succeeds : first >>= second = .ok result) :
    ∃ between, first = .ok between ∧ second between = .ok result := by
  cases first with
  | error fault => cases succeeds
  | ok between => exact ⟨between, rfl, succeeds⟩

theorem eq_ok_of_mapError
    {Fault Other Result : Type}
    {attempt : Except Fault Result}
    {change : Fault -> Other}
    {result : Result}
    (succeeds : attempt.mapError change = .ok result) :
    attempt = .ok result := by
  cases attempt with
  | error fault => cases succeeds
  | ok same =>
      cases succeeds
      rfl

/-- A number has no more bytes as a varint than were read for it. -/
theorem length_varint_of_readVarintAfter
    {more shift sum number : Nat}
    {cursor rest : Cursor}
    (read : readVarintAfter shift sum more cursor = .ok (number, rest)) :
    ∃ value, number = sum + value <<< shift ∧
      (varint value).length + rest.left ≤ cursor.left := by
  induction more generalizing shift sum cursor with
  | zero => cases read
  | succ more inductionHypothesis =>
      obtain ⟨bytes, left, rfl⟩ := cursor
      cases bytes with
      | nil => cases read
      | cons byte bytes =>
          simp only [readVarintAfter, Cursor.next?] at read
          split at read
          · next small =>
              split at read
              · cases read
              · cases read
                exact ⟨byte.toNat, rfl, by simp [varint_of_lt small]; omega⟩
          · next large =>
              obtain ⟨value, rfl, length⟩ := inductionHypothesis read
              refine ⟨(byte.toNat - 128) + 128 * value, ?_, ?_⟩
              · simp only [Nat.shiftLeft_eq]
                ring
              · have low : byte.toNat - 128 < 128 := by
                  have bounded := byte.toNat_lt
                  omega
                have fits : byte.toNat - 128 + 128 * value < 128 ^ ((varint value).length + 1) := by
                  have high := lt_pow_length_varint value
                  rw [Nat.pow_succ]
                  omega
                have longer := length_varint_le_of_lt_pow (Nat.succ_pos _) fits
                simp only [List.length_cons] at length ⊢
                omega

theorem length_varint_of_readVarint
    {number : Nat}
    {cursor rest : Cursor}
    (read : readVarint cursor = .ok (number, rest)) :
    (varint number).length + rest.left ≤ cursor.left := by
  obtain ⟨value, rfl, length⟩ := length_varint_of_readVarintAfter read
  simpa using length

theorem left_le_of_readVarint
    {number : Nat}
    {cursor rest : Cursor}
    (read : readVarint cursor = .ok (number, rest)) :
    rest.left ≤ cursor.left :=
  Nat.le_of_add_left_le (length_varint_of_readVarint read)

theorem exists_of_map_eq_ok
    {Fault First Result : Type}
    {attempt : Except Fault First}
    {change : First -> Result}
    {result : Result}
    (succeeds : attempt.map change = .ok result) :
    ∃ first, attempt = .ok first ∧ change first = result := by
  cases attempt with
  | error fault => cases succeeds
  | ok first => exact ⟨first, rfl, Except.ok.inj succeeds⟩

theorem WireType.number_of_ofNumber?
    {number : Nat}
    {wireType : WireType}
    (found : WireType.ofNumber? number = some wireType) :
    wireType.number = number := by
  unfold ofNumber? at found
  split at found
  case h_7 => cases found
  all_goals
    cases found
    rfl

theorem length_key_of_readKey
    {tag : Nat}
    {wireType : WireType}
    {cursor rest : Cursor}
    (read : readKey cursor = .ok ((tag, wireType), rest)) :
    (key tag wireType).length + rest.left ≤ cursor.left := by
  obtain ⟨⟨value, after⟩, number, read⟩ := exists_of_bind_eq_ok read
  have length := length_varint_of_readVarint number
  simp only [bind, Except.bind, pure, Except.pure, throw, throwThe, MonadExceptOf.throw] at read
  split at read
  · cases read
  · split at read
    · cases read
    · next found =>
        split at read
        · cases read
        · cases read
          have same : 8 * (value / 8) + wireType.number = value := by
            rw [WireType.number_of_ofNumber? found]
            exact Nat.div_add_mod value 8
          rw [key, same]
          exact length

theorem length_of_readLength
    {length : Nat}
    {cursor rest : Cursor}
    (read : readLength cursor = .ok (length, rest)) :
    (varint length).length + rest.left ≤ cursor.left ∧ length ≤ rest.left := by
  obtain ⟨⟨value, after⟩, number, read⟩ := exists_of_bind_eq_ok read
  simp only [bind, Except.bind, pure, Except.pure, throw, throwThe, MonadExceptOf.throw] at read
  split at read
  · cases read
  · next there =>
      cases read
      exact ⟨length_varint_of_readVarint number, Nat.not_lt.mp there⟩

theorem length_of_readText
    {text : String}
    {cursor rest : Cursor}
    (read : readText cursor = .ok (text, rest)) :
    (delimited (Utf8.encode text)).length + rest.left ≤ cursor.left := by
  obtain ⟨⟨length, after⟩, taken, read⟩ := exists_of_bind_eq_ok read
  obtain ⟨shorter, there⟩ := length_of_readLength taken
  simp only [Cursor.take] at read
  split at read
  · next decoded =>
      cases read
      have count : (Utf8.encode text).length = length := by
        rw [Utf8.encode_of_decode decoded, List.length_take, ← after.left_eq]
        exact Nat.min_eq_left there
      rw [delimited, List.length_append, count]
      simp only
      omega
  · cases read

/-! ## Fields that nobody knows -/

theorem left_le_of_skipBytes
    {count : Nat}
    {cursor rest : Cursor}
    (skipped : skipBytes count cursor = .ok rest) :
    rest.left ≤ cursor.left := by
  unfold skipBytes at skipped
  split at skipped
  · cases skipped
  · cases skipped
    exact Nat.sub_le _ _

theorem left_le_of_skipGroup
    {skip : WireType -> Nat -> Cursor -> Except WireFault Cursor}
    (shrinks : ∀ wireType tag cursor rest, skip wireType tag cursor = .ok rest ->
      rest.left ≤ cursor.left)
    {tag fuel : Nat}
    {cursor rest : Cursor}
    (skipped : skipGroup skip tag fuel cursor = .ok rest) :
    rest.left ≤ cursor.left := by
  induction fuel generalizing cursor with
  | zero => cases skipped
  | succ fuel inductionHypothesis =>
      obtain ⟨⟨⟨inner, wireType⟩, after⟩, keyed, skipped⟩ := exists_of_bind_eq_ok skipped
      have started := Nat.le_of_add_left_le (length_key_of_readKey keyed)
      simp only at skipped
      split at skipped
      · split at skipped
        · cases skipped
          exact started
        · cases skipped
      · obtain ⟨between, passed, skipped⟩ := exists_of_bind_eq_ok skipped
        exact Nat.le_trans (inductionHypothesis skipped)
          (Nat.le_trans (shrinks _ _ _ _ passed) started)

theorem left_le_of_skipField
    {depth tag : Nat}
    {wireType : WireType}
    {cursor rest : Cursor}
    (skipped : skipField depth wireType tag cursor = .ok rest) :
    rest.left ≤ cursor.left := by
  induction depth generalizing wireType tag cursor rest with
  | zero => cases skipped
  | succ depth inductionHypothesis =>
      cases wireType with
      | varint =>
          obtain ⟨⟨number, after⟩, read, rfl⟩ := exists_of_map_eq_ok skipped
          exact left_le_of_readVarint read
      | thirtyTwoBit => exact left_le_of_skipBytes skipped
      | sixtyFourBit => exact left_le_of_skipBytes skipped
      | lengthDelimited =>
          obtain ⟨⟨length, after⟩, read, skipped⟩ := exists_of_bind_eq_ok skipped
          exact Nat.le_trans (left_le_of_skipBytes skipped) (left_le_of_readVarint read)
      | startGroup =>
          exact left_le_of_skipGroup (fun _ _ _ _ => inductionHypothesis) skipped
      | endGroup => cases skipped

/-! ## Scalars -/

theorem toNat_extended
    {word : UInt32}
    (small : word.toNat < 2 ^ 31) :
    (Int32.toInt64 word.toInt32).toUInt64.toNat = word.toNat := by
  have extended : (Int32.toInt64 word.toInt32).toUInt64.toNat =
      (word.toBitVec.signExtend 64).toNat := rfl
  have unsigned : word.toBitVec.msb = false := by
    rw [BitVec.msb_eq_decide, decide_eq_false_iff_not]
    exact Nat.not_le.mpr small
  rw [extended, BitVec.toNat_signExtend, unsigned]
  simp

/-- A number cut to 32 bits and extended again has twice the bytes at most: ten if it is
negative, for which five were read at least. -/
theorem length_encode_int32 (number : Nat) :
    (Scalar.int32.encode (UInt32.ofNat number).toInt32).length ≤ 2 * (varint number).length := by
  have cut : (UInt32.ofNat number).toNat ≤ number := by simpa using Nat.mod_le _ _
  by_cases small : (UInt32.ofNat number).toNat < 2 ^ 31
  · have shorter := length_varint_mono cut
    simp only [Scalar.encode, toNat_extended small]
    omega
  · have ten : (Scalar.int32.encode (UInt32.ofNat number).toInt32).length ≤ 10 :=
      length_varint_le_iff.mpr (Nat.lt_trans (UInt64.toNat_lt _) (by decide))
    have five : ¬ (varint number).length ≤ 4 := by
      rw [length_varint_le_iff]
      omega
    omega

namespace Scalar

theorem length_of_read
    {scalar : Scalar}
    {value : scalar.Value}
    {cursor rest : Cursor}
    (read : scalar.read cursor = .ok (value, rest)) :
    (scalar.encode value).length + 2 * rest.left ≤ 2 * cursor.left := by
  cases scalar with
  | uint32 =>
      obtain ⟨⟨number, after⟩, taken, read⟩ := exists_of_bind_eq_ok read
      cases read
      have length := length_varint_of_readVarint taken
      have cut : (varint (UInt32.toNat (UInt32.ofNat number))).length ≤ (varint number).length :=
        length_varint_mono (by simpa using Nat.mod_le _ _)
      simp only [encode]
      omega
  | int32 =>
      obtain ⟨⟨number, after⟩, taken, read⟩ := exists_of_bind_eq_ok read
      cases read
      have length := length_varint_of_readVarint taken
      have extended := length_encode_int32 number
      omega
  | int64 =>
      obtain ⟨⟨number, after⟩, taken, read⟩ := exists_of_bind_eq_ok read
      cases read
      have length := length_varint_of_readVarint taken
      have cut : (varint (Int64.toUInt64 (UInt64.ofNat number).toInt64).toNat).length ≤
          (varint number).length :=
        length_varint_mono (by simpa using Nat.mod_le _ _)
      simp only [encode]
      omega
  | bool =>
      obtain ⟨⟨number, after⟩, taken, read⟩ := exists_of_bind_eq_ok read
      cases read
      have length := length_varint_of_readVarint taken
      have positive := length_varint_pos number
      have short : (varint (Bool.toNat (number != 0))).length ≤ 1 :=
        length_varint_le_iff.mpr (Nat.lt_of_le_of_lt (Bool.toNat_le _) (by decide))
      simp only [encode]
      omega
  | float =>
      simp only [Scalar.read] at read
      split at read
      · cases read
      · next there =>
          cases read
          simp only [encode, littleEndian, Cursor.take, List.length_cons, List.length_nil]
          omega
  | text =>
      have length := length_of_readText read
      simp only [encode]
      omega

end Scalar

/-! ## Fields and messages -/

theorem Kind.encode_empty (kind : Kind) (tag : Nat) : kind.encode tag kind.empty = [] := by
  cases kind with
  | scalar leaf =>
      have isEmpty : leaf.isEmpty leaf.empty = true := by
        cases leaf with
        | _ => rfl
      exact if_pos isEmpty
  | message name shape => rfl
  | texts => rfl
  | messages name shape => rfl

theorem Shape.encode_empty : (shape : Shape) -> shape.encode shape.empty = []
  | .done => rfl
  | .field _ tag kind rest => by
      rw [Shape.encode, Shape.empty, Kind.encode_empty, Shape.encode_empty rest, List.nil_append]

/-- Whatever a step takes in, no more than twice the bytes are written for it. -/
def Thrifty {Content : Type} (length : Content -> Nat)
    (step : Content -> Cursor -> Except WireError (Content × Cursor)) : Prop :=
  ∀ ⦃content cursor after rest⦄, step content cursor = .ok (after, rest) ->
    length after + 2 * rest.left ≤ length content + 2 * cursor.left

/-- A reader of fields for which no more than twice the bytes of a field, its key included,
are written. -/
def FieldReader.Thrifty {Content : Type} (length : Content -> Nat)
    (reader : FieldReader Content) : Prop :=
  ∀ ⦃tag wireType content cursor after rest⦄,
    reader tag wireType content cursor = .ok (after, rest) ->
      length after + 2 * rest.left ≤
        length content + 2 * ((key tag wireType).length + cursor.left)

section Entries

variable {Content : Type} {step : Content -> Cursor -> Except WireError (Content × Cursor)}
variable {length : Content -> Nat} {content after : Content} {cursor rest : Cursor}

theorem Thrifty.mergeWhile
    (thrifty : Thrifty length step)
    (limit fuel : Nat) :
    Thrifty length (mergeWhile step limit fuel) := by
  intro content cursor after rest merged
  induction fuel generalizing content cursor with
  | zero =>
      cases merged
      exact Nat.le_refl _
  | succ fuel inductionHypothesis =>
      unfold Message.mergeWhile at merged
      split at merged
      · cases merged
        exact Nat.le_refl _
      · obtain ⟨⟨between, left⟩, taken, others⟩ := exists_of_bind_eq_ok merged
        exact Nat.le_trans (inductionHypothesis others) (thrifty taken)

theorem Thrifty.mergeEntry
    {reader : FieldReader Content}
    (thrifty : reader.Thrifty length) :
    Thrifty length (mergeEntry reader) := by
  intro content cursor after rest merged
  obtain ⟨⟨⟨tag, wireType⟩, start⟩, read, taken⟩ := exists_of_bind_eq_ok merged
  have keyed := length_key_of_readKey (eq_ok_of_mapError read)
  have grown := thrifty taken
  omega

/-- A nested message takes the bytes of its length, and those that the length tells. -/
theorem Thrifty.mergeDelimited
    (thrifty : Thrifty length step)
    (merged : mergeDelimited step content cursor = .ok (after, rest)) :
    ∃ told, (varint told).length + told + rest.left ≤ cursor.left ∧
      length after ≤ length content + 2 * told := by
  obtain ⟨⟨told, start⟩, read, entered⟩ := exists_of_bind_eq_ok merged
  obtain ⟨shorter, there⟩ := length_of_readLength (eq_ok_of_mapError read)
  obtain ⟨⟨result, left⟩, within, ended⟩ := exists_of_bind_eq_ok entered
  have grown := thrifty.mergeWhile _ _ within
  simp only [bind, Except.bind, pure, Except.pure, throw, throwThe, MonadExceptOf.throw] at ended
  split at ended
  · cases ended
  · next stopped =>
      cases ended
      rw [ne_eq, not_not] at stopped
      exact ⟨told, by omega, by omega⟩

end Entries

/-- A content whose growth is bounded by its entry is written in bounded space, its length
included. -/
theorem length_delimited_le
    {before after : Bytes}
    {told : Nat}
    (grown : after.length ≤ before.length + 2 * told) :
    (delimited after).length ≤ (delimited before).length + 2 * ((varint told).length + told) := by
  have longer := length_varint_mono grown
  have first := length_varint_add_le before.length (2 * told)
  have second := length_varint_add_le told told
  rw [← Nat.two_mul] at second
  simp only [delimited, List.length_append]
  omega

theorem eq_of_expectWireType
    {found expected : WireType}
    {done : Unit}
    (met : expectWireType found expected = .ok done) :
    found = expected := by
  unfold expectWireType at met
  split at met
  · assumption
  · cases met

/-- A message that begins with no field is written in bounded space, its key and its length
included. -/
theorem length_entry_le
    {shape : Shape}
    {content : shape.Value}
    {told : Nat}
    (grown : (shape.encode content).length ≤ (shape.encode shape.empty).length + 2 * told)
    (tag : Nat)
    (wireType : WireType) :
    (key tag wireType).length + (delimited (shape.encode content)).length ≤
      2 * ((key tag wireType).length + (varint told).length + told) := by
  have longer := length_delimited_le grown
  have keyed : 0 < (key tag wireType).length := length_varint_pos _
  have start : (delimited (shape.encode shape.empty)).length = 1 := by
    rw [Shape.encode_empty, delimited, List.append_nil, List.length_nil, varint_of_lt (by decide)]
    rfl
  omega

mutual

/-- An entry of a field adds no more than twice its own bytes to what is written of it. -/
theorem Kind.length_of_merge :
    (kind : Kind) -> (depth tag : Nat) -> (wireType : WireType) -> (value after : kind.Value) ->
      (cursor rest : Cursor) -> kind.merge depth wireType value cursor = .ok (after, rest) ->
        (kind.encode tag after).length + 2 * rest.left ≤
          (kind.encode tag value).length + 2 * ((key tag wireType).length + cursor.left)
  | .scalar leaf, depth, tag, wireType, value, after, cursor, rest, merged => by
      obtain ⟨done, met, read⟩ := exists_of_bind_eq_ok (eq_ok_of_mapError merged)
      have length := Scalar.length_of_read read
      rw [eq_of_expectWireType met]
      simp only [Kind.encode]
      split
      · simp only [List.length_nil]
        omega
      · rw [List.length_append]
        omega
  | .message name shape, depth, tag, wireType, value, after, cursor, rest, merged => by
      obtain ⟨done, met, entered⟩ := exists_of_bind_eq_ok merged
      obtain ⟨⟨content, left⟩, nested, ended⟩ := exists_of_bind_eq_ok entered
      cases ended
      rw [eq_of_expectWireType (eq_ok_of_mapError met)]
      obtain ⟨told, taken, grown⟩ :=
        (Thrifty.mergeEntry (Shape.thrifty shape name (depth - 1))).mergeDelimited nested
      cases value with
      | none =>
          have entry := length_entry_le grown tag .lengthDelimited
          simp only [Kind.encode, List.length_append, List.length_nil]
          omega
      | some before =>
          have longer := length_delimited_le grown
          simp only [Kind.encode, List.length_append, Option.getD_some] at longer ⊢
          omega
  | .texts, depth, tag, wireType, value, after, cursor, rest, merged => by
      obtain ⟨done, met, read⟩ := exists_of_bind_eq_ok (eq_ok_of_mapError merged)
      obtain ⟨⟨text, left⟩, read, merged⟩ := exists_of_bind_eq_ok read
      cases merged
      have length := length_of_readText read
      rw [eq_of_expectWireType met]
      simp only [Kind.encode, List.append_eq, List.flatMap_append, List.flatMap_singleton,
        List.length_append]
      omega
  | .messages name shape, depth, tag, wireType, value, after, cursor, rest, merged => by
      obtain ⟨done, met, entered⟩ := exists_of_bind_eq_ok merged
      obtain ⟨⟨content, left⟩, nested, ended⟩ := exists_of_bind_eq_ok entered
      cases ended
      rw [eq_of_expectWireType (eq_ok_of_mapError met)]
      obtain ⟨told, taken, grown⟩ :=
        (Thrifty.mergeEntry (Shape.thrifty shape name (depth - 1))).mergeDelimited nested
      have entry := length_entry_le grown tag .lengthDelimited
      simp only [Kind.encode, List.append_eq, List.flatMap_append, List.flatMap_singleton,
        List.length_append]
      omega

theorem Shape.thrifty :
    (shape : Shape) -> (owner : String) -> (depth : Nat) ->
      (shape.reader owner depth).Thrifty fun value => (shape.encode value).length
  | .done, owner, depth => by
      intro tag wireType value cursor after rest merged
      obtain ⟨passed, skipped, same⟩ := exists_of_map_eq_ok (eq_ok_of_mapError merged)
      cases same
      have shrunk := left_le_of_skipField skipped
      omega
  | .field name expected kind others, owner, depth => by
      intro tag wireType value cursor after rest merged
      simp only [Shape.reader, Shape.mergeField] at merged
      simp only [Shape.encode, List.length_append]
      split at merged
      · next same =>
          subst same
          split at merged
          · next content left read =>
              cases merged
              have length := Kind.length_of_merge kind depth tag wireType _ _ _ _ read
              dsimp only
              omega
          · cases merged
      · split at merged
        · next content left read =>
            cases merged
            have length := Shape.thrifty others owner depth read
            dsimp only at length ⊢
            omega
        · cases merged

end

/-- What was read has no more than twice the bytes that it was read from. -/
theorem Shape.length_encode_of_decode
    {shape : Shape}
    {name : String}
    {bytes : Bytes}
    {value : shape.Value}
    (read : shape.decode name bytes = .ok value) :
    (shape.encode value).length ≤ 2 * bytes.length := by
  obtain ⟨⟨content, left⟩, merged, rfl⟩ := exists_of_map_eq_ok read
  have grown := (Thrifty.mergeEntry (Shape.thrifty shape name greatestDepth)).mergeWhile _ _ merged
  simp only [Shape.encode_empty, List.length_nil, Cursor.left_ofBytes] at grown
  dsimp only
  omega

/-- Every message of the mall, with every value whose bytes have a length that 64 bits can
tell, is read from its bytes as it is, but for the sign of its zeros.  So is what was read
from any bytes of a memory, when it is written again. -/
theorem MessageType.roundTrip (type : MessageType) :
    (∀ value : type.Value, (type.shape.encode value).length < 2 ^ 64 ->
      type.shape.decode type.name (type.shape.encode value) = .ok (type.shape.unsignZero value)) ∧
    ∀ (bytes : Bytes) (value : type.Value), bytes.length < 2 ^ 63 ->
      type.shape.decode type.name bytes = .ok value ->
        type.shape.decode type.name (type.shape.encode value) =
          .ok (type.shape.unsignZero value) := by
  refine ⟨fun value fits => type.decode_encode fits, fun bytes value bounded read => ?_⟩
  have shorter := Shape.length_encode_of_decode read
  exact type.decode_encode (by omega)

/-- An order of an item that is given back and costs a negative zero, and of one that costs
no number, to an address without any text. -/
def returned (cost : Single) : MessageType.order.Value :=
  ([(some (3, -2, ()), cost, ()), (none, ⟨0x7FC00000⟩, ())],
    "ord-é", 4294967295, "", some ("", "", "", "", "", ()), "", -1, ())

/-- The order comes back with a positive zero.  A cart is read from bytes that tell its user
twice, the second time in a longer form, and something unknown between; it comes back from
its own bytes. -/
theorem roundTrip_returned :
    MessageType.order.shape.decode "Order"
        (MessageType.order.shape.encode (returned ⟨0x80000000⟩)) = .ok (returned Single.zero) ∧
      MessageType.cart.shape.decode "Cart" [0x08, 5, 0x40, 1, 0x08, 0x87, 0] = .ok (7, [], ()) ∧
        MessageType.cart.shape.decode "Cart"
          (MessageType.cart.shape.encode ((7, [], ()) : MessageType.cart.Value)) =
            .ok (7, [], ()) := by
  have again : MessageType.cart.shape.decode "Cart" [0x08, 5, 0x40, 1, 0x08, 0x87, 0] =
      .ok (7, [], ()) := rfl
  exact ⟨MessageType.order.roundTrip.1 (returned ⟨0x80000000⟩) (by decide +kernel), again,
    MessageType.cart.roundTrip.2 _ (7, [], ()) (by decide) again⟩

end MallFabric.Message
