import MallFabric.Message.Catalogue
import MallFabric.Proofs.Message.Wire

/-!
# Messages are read back

The bytes of a message are read as the message, but for the sign of its zeros.  A field
that has the value of one that is not given is not written, and every other one is
written as entries, each of which is taken in as it was meant.
-/

namespace MallFabric.Message

open Cursor (ofBytes)

/-! ## Scalars -/

theorem wordOfBytes_littleEndian (word : UInt32) : wordOfBytes (littleEndian word) = word := by
  apply UInt32.toNat_inj.mp
  have bounded := word.toNat_lt
  simp [wordOfBytes, littleEndian, Nat.shiftRight_eq_div_pow]
  omega

/-- A number that was extended to 64 bits is cut to what it was. -/
theorem toInt32_cut (value : Int32) :
    (UInt32.ofNat value.toInt64.toUInt64.toNat).toInt32 = value := by
  apply Int32.toBitVec_inj.mp
  ext place inside
  simp [BitVec.getLsbD_signExtend, inside]
  exact fun _ => Nat.lt_trans inside (by decide)

namespace Scalar

/-- Only the sign of a zero is lost of a value that is not written. -/
theorem empty_eq_of_isEmpty
    {scalar : Scalar}
    {value : scalar.Value}
    (isEmpty : scalar.isEmpty value = true) :
    scalar.empty = scalar.unsignZero value := by
  cases scalar with
  | uint32 => exact (eq_of_beq isEmpty).symm
  | int32 => exact (eq_of_beq isEmpty).symm
  | int64 => exact (eq_of_beq isEmpty).symm
  | bool =>
      cases value with
      | false => rfl
      | true => cases isEmpty
  | float => exact (if_pos isEmpty).symm
  | text => exact (eq_of_beq isEmpty).symm

/-- Nothing is lost of a value that is written. -/
theorem unsignZero_of_not_isEmpty
    {scalar : Scalar}
    {value : scalar.Value}
    (given : scalar.isEmpty value = false) :
    scalar.unsignZero value = value := by
  cases scalar with
  | float => exact if_neg (by simpa [isEmpty] using given)
  | _ => rfl

theorem read_float
    (number : Single)
    (rest : Bytes) :
    Scalar.read .float (ofBytes (littleEndian number.bits ++ rest)) =
      .ok (number, ofBytes rest) := by
  have there : ¬ (ofBytes (littleEndian number.bits ++ rest)).left < 4 := by simp [littleEndian]
  have front : (ofBytes (littleEndian number.bits ++ rest)).take 4 =
      (littleEndian number.bits, ofBytes rest) :=
    Cursor.take_ofBytes_append (littleEndian number.bits) rest
  rw [Scalar.read, if_neg there]
  simp only [front, wordOfBytes_littleEndian]

/-- A scalar is read back. -/
theorem read_encode
    {scalar : Scalar}
    {value : scalar.Value}
    (fits : (scalar.encode value).length < 2 ^ 64)
    (rest : Bytes) :
    scalar.read (ofBytes (scalar.encode value ++ rest)) = .ok (value, ofBytes rest) := by
  cases scalar with
  | uint32 =>
      have read := readVarint_varint (Nat.lt_trans (UInt32.toNat_lt value) (by decide)) rest
      simp only [Scalar.read, Scalar.encode, read, bind, Except.bind, UInt32.ofNat_toNat]
      rfl
  | int32 =>
      have read := readVarint_varint (Int32.toInt64 value).toUInt64.toNat_lt rest
      simp only [Scalar.read, Scalar.encode, read, bind, Except.bind, toInt32_cut]
      rfl
  | int64 =>
      have read := readVarint_varint (Int64.toUInt64 value).toNat_lt rest
      have cut : (UInt64.ofNat (Int64.toUInt64 value).toNat).toInt64 = value := by simp
      simp only [Scalar.read, Scalar.encode, read, bind, Except.bind, cut]
      rfl
  | bool =>
      have small : Bool.toNat value < 2 ^ 64 :=
        Nat.lt_of_le_of_lt (Bool.toNat_le value) (by decide)
      have read := readVarint_varint small rest
      have same : (Bool.toNat value != 0) = value := by
        cases value with
        | _ => rfl
      simp only [Scalar.read, Scalar.encode, read, bind, Except.bind, same]
      rfl
  | float => exact read_float value rest
  | text =>
      have inner : (Utf8.encode value).length < 2 ^ 64 := by
        simp only [Scalar.encode, delimited, List.length_append] at fits
        omega
      exact readText_delimited inner rest

end Scalar

/-! ## Entries -/

/-- How the entries of a message are taken in. -/
abbrev FieldReader (Content : Type) : Type :=
  Nat -> WireType -> Content -> Cursor -> Except WireError (Content × Cursor)

/-- Bytes are entries of the given tags, and a reader that takes them in one after the
other turns one content into another, whatever follows. -/
inductive Takes {Content : Type} (reader : FieldReader Content) (tags : List Nat) :
    Bytes -> Content -> Content -> Prop where
  | none {content} : Takes reader tags [] content content
  | entry {tag wireType payload bytes before middle after}
      (listed : tag ∈ tags)
      (reads : ∀ rest,
        reader tag wireType before (ofBytes (payload ++ rest)) = .ok (middle, ofBytes rest))
      (more : Takes reader tags bytes middle after) :
      Takes reader tags (key tag wireType ++ payload ++ bytes) before after

namespace Takes

variable {Content Other : Type} {reader : FieldReader Content} {other : FieldReader Other}
variable {tags more : List Nat} {bytes others : Bytes} {before middle after : Content}

/-- One entry is taken in. -/
theorem one
    {tag : Nat}
    {wireType : WireType}
    {payload : Bytes}
    (listed : tag ∈ tags)
    (reads : ∀ rest,
      reader tag wireType before (ofBytes (payload ++ rest)) = .ok (after, ofBytes rest)) :
    Takes reader tags (key tag wireType ++ payload) before after := by
  have takes : Takes reader tags (key tag wireType ++ payload ++ []) before after :=
    .entry listed reads .none
  rwa [List.append_nil] at takes

theorem append
    (first : Takes reader tags bytes before middle)
    (second : Takes reader tags others middle after) :
    Takes reader tags (bytes ++ others) before after := by
  induction first with
  | none => exact second
  | entry listed reads rest inductionHypothesis =>
      rw [List.append_assoc]
      exact .entry listed reads (inductionHypothesis second)

/-- What one reader takes in, another one does that treats its tags in the same way. -/
theorem map
    (takes : Takes reader tags bytes before after)
    (within : Content -> Other)
    (listed : tags ⊆ more)
    (same : ∀ tag ∈ tags, ∀ wireType content cursor result rest,
      reader tag wireType content cursor = .ok (result, rest) ->
        other tag wireType (within content) cursor = .ok (within result, rest)) :
    Takes other more bytes (within before) (within after) := by
  induction takes with
  | none => exact .none
  | entry known reads rest inductionHypothesis =>
      exact .entry (listed known) (fun rest => same _ known _ _ _ _ _ (reads rest))
        inductionHypothesis

/-- A loop that reads entries takes all of them in, and has fuel for what follows. -/
theorem mergeWhile_append
    (takes : Takes reader tags bytes before after)
    (sound : ∀ tag ∈ tags, 0 < tag ∧ tag < 2 ^ 29)
    {limit fuel : Nat}
    (enough : bytes.length ≤ fuel)
    {rest : Bytes}
    (within : limit ≤ rest.length) :
    ∃ left, mergeWhile (mergeEntry reader) limit fuel before (ofBytes (bytes ++ rest)) =
      mergeWhile (mergeEntry reader) limit left after (ofBytes rest) := by
  induction takes generalizing fuel with
  | none => exact ⟨fuel, rfl⟩
  | @entry tag wireType payload bytes before middle after listed reads more inductionHypothesis =>
      have keyed : 0 < (key tag wireType).length := List.length_pos_iff.mpr (varint_ne_nil _)
      simp only [List.length_append] at enough
      cases fuel with
      | zero => omega
      | succ fuel =>
          have ahead : ¬ (ofBytes (key tag wireType ++ payload ++ bytes ++ rest)).left ≤ limit := by
            simp only [Cursor.left_ofBytes, List.length_append]
            omega
          have read := readKey_key (sound tag listed).1 (sound tag listed).2 wireType
            (payload ++ (bytes ++ rest))
          obtain ⟨left, others⟩ := inductionHypothesis (by omega : bytes.length ≤ fuel)
          refine ⟨left, ?_⟩
          rw [mergeWhile, if_neg ahead, mergeEntry, List.append_assoc, List.append_assoc, read]
          simp only [bind, Except.bind, Except.mapError, reads]
          exact others

/-- A loop that has come to its limit stops. -/
theorem mergeWhile_of_le
    {step : Content -> Cursor -> Except WireError (Content × Cursor)}
    {limit : Nat}
    {cursor : Cursor}
    (there : cursor.left ≤ limit)
    (fuel : Nat)
    (content : Content) :
    mergeWhile step limit fuel content cursor = .ok (content, cursor) := by
  cases fuel with
  | zero => rfl
  | succ fuel => rw [mergeWhile, if_pos there]

/-- A nested message is taken in as its entries are. -/
theorem mergeDelimited_append
    (takes : Takes reader tags bytes before after)
    (sound : ∀ tag ∈ tags, 0 < tag ∧ tag < 2 ^ 29)
    (fits : bytes.length < 2 ^ 64)
    (rest : Bytes) :
    mergeDelimited (mergeEntry reader) before (ofBytes (delimited bytes ++ rest)) =
      .ok (after, ofBytes rest) := by
  have there : bytes.length ≤ (bytes ++ rest).length := by simp
  have length := readLength_varint fits there
  obtain ⟨left, read⟩ := takes.mergeWhile_append sound (Nat.le_refl _) (Nat.le_refl rest.length)
  have stops : mergeWhile (mergeEntry reader) rest.length left after (ofBytes rest) =
      .ok (after, ofBytes rest) :=
    mergeWhile_of_le (show (ofBytes rest).left ≤ rest.length from Nat.le_refl _) left after
  have limit : (bytes ++ rest).length - bytes.length = rest.length := by simp
  rw [mergeDelimited, delimited, List.append_assoc, length]
  simp only [bind, Except.bind, Except.mapError, Cursor.left_ofBytes, limit, read, stops, ne_eq,
    not_true_eq_false, if_false]
  rfl

end Takes

/-! ## Fields and messages -/

/-- The reader of one field. -/
def Kind.reader (kind : Kind) (depth : Nat) : FieldReader kind.Value :=
  fun _ wireType content cursor => kind.merge depth wireType content cursor

/-- The reader of the fields of a message. -/
def Shape.reader (shape : Shape) (owner : String) (depth : Nat) : FieldReader shape.Value :=
  fun tag wireType content cursor => shape.mergeField owner depth tag wireType content cursor

/-- The tags of a sound message are within the range of keys. -/
theorem Shape.tag_bounds
    {shape : Shape}
    (sound : shape.sound = true) :
    ∀ tag ∈ shape.tags, 0 < tag ∧ tag < 2 ^ 29 := by
  cases shape with
  | done => exact fun tag present => absurd present List.not_mem_nil
  | field name first kind rest =>
      simp only [Shape.sound, Bool.and_eq_true, decide_eq_true_eq] at sound
      intro tag present
      rcases List.mem_cons.mp present with rfl | later
      · exact ⟨sound.1.1.1.2, by simpa using sound.1.1.2⟩
      · exact Shape.tag_bounds sound.2 tag later

/-- A text is taken in behind those that are there. -/
theorem reader_texts
    (depth tag : Nat)
    (seen : List String)
    {text : String}
    (fits : (Utf8.encode text).length < 2 ^ 64)
    (rest : Bytes) :
    Kind.texts.reader depth tag .lengthDelimited seen
        (ofBytes (delimited (Utf8.encode text) ++ rest)) =
      .ok (seen ++ [text], ofBytes rest) := by
  simp only [Kind.reader, Kind.merge, expectWireType, if_true, bind, Except.bind,
    readText_delimited fits rest]
  rfl

/-- The texts of a field are taken in. -/
theorem takes_texts
    (depth tag : Nat)
    (texts seen : List String)
    (fits : (Kind.texts.encode tag texts).length < 2 ^ 64) :
    Takes (Kind.texts.reader depth) [tag] (Kind.texts.encode tag texts) seen (seen ++ texts) := by
  induction texts generalizing seen with
  | nil =>
      rw [List.append_nil]
      exact .none
  | cons text texts inductionHypothesis =>
      simp only [Kind.encode, List.flatMap_cons, List.length_append, delimited] at fits
      have inner : (Utf8.encode text).length < 2 ^ 64 := by omega
      have later : (Kind.texts.encode tag texts).length < 2 ^ 64 := by
        simp only [Kind.encode, delimited]
        omega
      have others := inductionHypothesis (seen ++ [text]) later
      rw [List.append_assoc, List.singleton_append] at others
      exact Takes.append (.one List.mem_cons_self (reader_texts depth tag seen inner)) others

section Nested

variable {shape : Shape} {name : String} {depth : Nat}

/-- A message of a field is taken in if its own entries are. -/
theorem reader_message
    (sound : shape.sound = true)
    {content : shape.Value}
    (takes : Takes (shape.reader name (depth - 1)) shape.tags (shape.encode content) shape.empty
      (shape.unsignZero content))
    (fits : (shape.encode content).length < 2 ^ 64)
    (tag : Nat)
    (rest : Bytes) :
    (Kind.message name shape).reader depth tag .lengthDelimited none
        (ofBytes (delimited (shape.encode content) ++ rest)) =
      .ok (some (shape.unsignZero content), ofBytes rest) := by
  have nested := takes.mergeDelimited_append (Shape.tag_bounds sound) fits rest
  unfold Shape.reader at nested
  simp only [Kind.reader, Kind.merge, expectWireType, if_true, bind, Except.bind,
    Except.mapError, Option.getD_none, nested]
  rfl

/-- The messages of a field are taken in if the entries of each are. -/
theorem takes_messages
    (sound : shape.sound = true)
    (each : ∀ content, (shape.encode content).length < 2 ^ 64 ->
      Takes (shape.reader name (depth - 1)) shape.tags (shape.encode content) shape.empty
        (shape.unsignZero content))
    (tag : Nat)
    (contents seen : List shape.Value)
    (fits : ((Kind.messages name shape).encode tag contents).length < 2 ^ 64) :
    Takes ((Kind.messages name shape).reader depth) [tag]
      ((Kind.messages name shape).encode tag contents) seen
      (seen ++ contents.map shape.unsignZero) := by
  induction contents generalizing seen with
  | nil =>
      rw [List.map_nil, List.append_nil]
      exact .none
  | cons content contents inductionHypothesis =>
      simp only [Kind.encode, List.flatMap_cons, List.length_append, delimited] at fits
      have inner : (shape.encode content).length < 2 ^ 64 := by omega
      have later : ((Kind.messages name shape).encode tag contents).length < 2 ^ 64 := by
        simp only [Kind.encode, delimited]
        omega
      have others := inductionHypothesis (seen ++ [shape.unsignZero content]) later
      rw [List.append_assoc, List.singleton_append] at others
      refine Takes.append (.one List.mem_cons_self fun rest => ?_) others
      have nested := (each content inner).mergeDelimited_append (Shape.tag_bounds sound) inner rest
      unfold Shape.reader at nested
      simp only [Kind.reader, Kind.merge, expectWireType, if_true, bind, Except.bind,
        Except.mapError, nested]
      rfl

end Nested

mutual

/-- The entries of a field are taken in as its value. -/
theorem Kind.takes :
    (kind : Kind) -> kind.sound = true -> (depth tag : Nat) -> (value : kind.Value) ->
      (kind.encode tag value).length < 2 ^ 64 ->
        Takes (kind.reader depth) [tag] (kind.encode tag value) kind.empty (kind.unsignZero value)
  | .scalar leaf, _, depth, tag, value, fits => by
      cases given : leaf.isEmpty value with
      | true =>
          rw [Kind.encode, if_pos given, Kind.empty, Scalar.empty_eq_of_isEmpty given]
          exact .none
      | false =>
          rw [Kind.encode, if_neg (by simp [given])] at fits ⊢
          rw [Kind.unsignZero, Scalar.unsignZero_of_not_isEmpty given]
          refine .one List.mem_cons_self fun rest => ?_
          rw [List.length_append] at fits
          have read := Scalar.read_encode (by omega : (leaf.encode value).length < 2 ^ 64) rest
          simp only [Kind.reader, Kind.merge, expectWireType, if_true, bind, Except.bind, read]
          rfl
  | .message name shape, sound, depth, tag, value, fits => by
      cases value with
      | none => exact .none
      | some content =>
          simp only [Kind.encode, List.length_append, delimited] at fits
          have inner : (shape.encode content).length < 2 ^ 64 := by omega
          have takes := Shape.takes shape sound name (depth - 1) content inner
          exact .one List.mem_cons_self (reader_message sound takes inner tag)
  | .texts, _, depth, tag, value, fits => takes_texts depth tag value [] fits
  | .messages name shape, sound, depth, tag, value, fits =>
      takes_messages sound (fun content inner => Shape.takes shape sound name (depth - 1) content inner)
        tag value [] fits

/-- The entries of a message are taken in as the message. -/
theorem Shape.takes :
    (shape : Shape) -> shape.sound = true -> (owner : String) -> (depth : Nat) ->
      (value : shape.Value) -> (shape.encode value).length < 2 ^ 64 ->
        Takes (shape.reader owner depth) shape.tags (shape.encode value) shape.empty
          (shape.unsignZero value)
  | .done, _, owner, depth, value, fits => .none
  | .field name tag kind rest, sound, owner, depth, value, fits => by
      simp only [Shape.sound, Bool.and_eq_true] at sound
      have absent : tag ∉ rest.tags := by simpa using sound.1.1.1.1.2
      rw [Shape.encode, List.length_append] at fits
      have first := Kind.takes kind sound.1.2 depth tag value.1 (by omega)
      have others := Shape.takes rest sound.2 owner depth value.2 (by omega)
      have single : [tag] ⊆ (Shape.field name tag kind rest).tags := by simp [Shape.tags]
      have remaining : rest.tags ⊆ (Shape.field name tag kind rest).tags :=
        List.subset_cons_self tag rest.tags
      rw [Shape.encode]
      refine Takes.append (first.map (fun content => (content, rest.empty)) single ?_)
        (others.map (fun content => (kind.unsignZero value.1, content)) remaining ?_)
      · intro known present wireType content cursor result after read
        rw [List.mem_singleton.mp present]
        simp only [Kind.reader] at read
        simp only [Shape.reader, Shape.mergeField, if_true, read]
      · intro known present wireType content cursor result after read
        have apart : known ≠ tag := by
          rintro rfl
          exact absent present
        simp only [Shape.reader] at read
        simp only [Shape.reader, Shape.mergeField, apart, if_false, read]

end

/-- A message is read from its bytes, but for the sign of its zeros. -/
theorem Shape.decode_encode
    {shape : Shape}
    (sound : shape.sound = true)
    (name : String)
    {value : shape.Value}
    (fits : (shape.encode value).length < 2 ^ 64) :
    shape.decode name (shape.encode value) = .ok (shape.unsignZero value) := by
  have takes := Shape.takes shape sound name greatestDepth value fits
  obtain ⟨left, read⟩ := takes.mergeWhile_append (Shape.tag_bounds sound)
    (Nat.le_refl (shape.encode value).length) (Nat.zero_le ([] : Bytes).length)
  have stops : mergeWhile (mergeEntry (shape.reader name greatestDepth)) 0 left
      (shape.unsignZero value) (ofBytes []) = .ok (shape.unsignZero value, ofBytes []) :=
    Takes.mergeWhile_of_le (show (ofBytes []).left ≤ 0 from Nat.le_refl _) left _
  rw [List.append_nil, stops] at read
  exact congrArg (Except.map Prod.fst) read

/-- Every message of the mall is read from its bytes. -/
theorem MessageType.decode_encode
    (type : MessageType)
    {value : type.Value}
    (fits : (type.shape.encode value).length < 2 ^ 64) :
    type.shape.decode type.name (type.shape.encode value) = .ok (type.shape.unsignZero value) :=
  Shape.decode_encode type.sound_shape type.name fits

end MallFabric.Message
