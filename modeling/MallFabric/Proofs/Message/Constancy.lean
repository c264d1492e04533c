import MallFabric.Proofs.Message.Reencoding

/-!
# No other message is read

Where the bytes of a message stand, the message is read or nothing at all, whatever its
length: a part that is too long for its length to be told makes reading fail, and does
not turn the message into another one.
-/

namespace MallFabric.Message

open Cursor (ofBytes)

/-- Where some bytes stand a reader gives one value, if any, and leaves what follows them. -/
def Reads {Fault Result : Type} (read : Cursor -> Except Fault (Result × Cursor)) (bytes : Bytes)
    (value : Result) : Prop :=
  ∀ rest result, read (ofBytes (bytes ++ rest)) = .ok result -> result = (value, ofBytes rest)

/-! ## Numbers, lengths and texts -/

theorem Reads.of_eq
    {Fault Result : Type}
    {read : Cursor -> Except Fault (Result × Cursor)}
    {bytes : Bytes}
    {value : Result}
    (reads : ∀ rest, read (ofBytes (bytes ++ rest)) = .ok (value, ofBytes rest)) :
    Reads read bytes value :=
  fun rest _ given => (Except.ok.inj ((reads rest).symm.trans given)).symm

/-- A number of whatever size is read as itself, or not at all. -/
theorem eq_of_readVarintAfter
    {more shift sum number : Nat}
    {rest : Bytes}
    {result : Nat × Cursor}
    (read : readVarintAfter shift sum more (ofBytes (varint number ++ rest)) = .ok result) :
    result = (sum + number <<< shift, ofBytes rest) := by
  induction more generalizing number shift sum with
  | zero => cases read
  | succ more inductionHypothesis =>
      by_cases small : number < 128
      · have byte : (UInt8.ofNat number).toNat = number := by simp; omega
        rw [varint_of_lt small, List.singleton_append, readVarintAfter,
          Cursor.next?_ofBytes_cons] at read
        simp only [byte, small, if_true] at read
        split at read
        · cases read
        · exact (Except.ok.inj read).symm
      · have byte : (UInt8.ofNat (number % 128 + 128)).toNat = number % 128 + 128 := by
          simp
          omega
        rw [varint_of_not_lt small, List.cons_append, readVarintAfter,
          Cursor.next?_ofBytes_cons] at read
        simp only [byte] at read
        rw [if_neg (by omega), Nat.add_sub_cancel] at read
        rw [inductionHypothesis read, add_groups]

theorem reads_varint (number : Nat) : Reads readVarint (varint number) number := by
  intro rest result read
  simpa using eq_of_readVarintAfter read

theorem reads_length (length : Nat) : Reads readLength (varint length) length := by
  intro rest result read
  obtain ⟨number, there, checked⟩ := exists_of_bind_eq_ok read
  obtain rfl := reads_varint length rest _ there
  simp only [bind, Except.bind, pure, Except.pure, throw, throwThe, MonadExceptOf.throw] at checked
  split at checked
  · cases checked
  · exact (Except.ok.inj checked).symm

theorem reads_text (text : String) : Reads readText (delimited (Utf8.encode text)) text := by
  intro rest result read
  rw [delimited, List.append_assoc] at read
  obtain ⟨length, there, decoded⟩ := exists_of_bind_eq_ok read
  obtain rfl := reads_length _ _ _ there
  simp only [Cursor.take_ofBytes_append, Utf8.decode_encode] at decoded
  exact (Except.ok.inj decoded).symm

/-- What is made of a number is made of the number that stands there. -/
theorem reads_number
    {Value : Type}
    (write : Nat -> Value)
    {number : Nat}
    {value : Value}
    (same : write number = value) :
    Reads (fun cursor => do
      let (number, rest) ← readVarint cursor
      return (write number, rest)) (varint number) value := by
  intro rest result read
  obtain ⟨found, there, made⟩ := exists_of_bind_eq_ok read
  obtain rfl := reads_varint number rest _ there
  rw [← same]
  exact (Except.ok.inj made).symm

/-- A scalar is read as itself, or not at all. -/
theorem Scalar.reads (scalar : Scalar) (value : scalar.Value) :
    Reads scalar.read (scalar.encode value) value := by
  cases scalar with
  | uint32 => exact reads_number UInt32.ofNat UInt32.ofNat_toNat
  | int32 => exact reads_number (fun number => (UInt32.ofNat number).toInt32) (toInt32_cut value)
  | int64 =>
      have cut : (UInt64.ofNat (Int64.toUInt64 value).toNat).toInt64 = value := by simp
      exact reads_number (fun number => (UInt64.ofNat number).toInt64) cut
  | bool =>
      have same : (Bool.toNat value != 0) = value := by
        cases value with
        | _ => rfl
      exact reads_number (· != 0) same
  | float => exact .of_eq (read_float value)
  | text => exact reads_text value

/-! ## Entries -/

/-- Bytes are entries of the given tags, and a reader that takes them in one after the other,
if it does, turns one content into another. -/
inductive Yields {Content : Type} (reader : FieldReader Content) (tags : List Nat) :
    Bytes -> Content -> Content -> Prop where
  | none {content} : Yields reader tags [] content content
  | entry {tag wireType payload bytes before middle after}
      (listed : tag ∈ tags)
      (reads : Reads (reader tag wireType before) payload middle)
      (more : Yields reader tags bytes middle after) :
      Yields reader tags (key tag wireType ++ payload ++ bytes) before after

namespace Yields

variable {Content Other : Type} {reader : FieldReader Content} {other : FieldReader Other}
variable {tags more : List Nat} {bytes others : Bytes} {before middle after : Content}

theorem one
    {tag : Nat}
    {wireType : WireType}
    {payload : Bytes}
    (listed : tag ∈ tags)
    (reads : Reads (reader tag wireType before) payload after) :
    Yields reader tags (key tag wireType ++ payload) before after := by
  have yields : Yields reader tags (key tag wireType ++ payload ++ []) before after :=
    .entry listed reads .none
  rwa [List.append_nil] at yields

theorem append
    (first : Yields reader tags bytes before middle)
    (second : Yields reader tags others middle after) :
    Yields reader tags (bytes ++ others) before after := by
  induction first with
  | none => exact second
  | entry listed reads rest inductionHypothesis =>
      rw [List.append_assoc]
      exact .entry listed reads (inductionHypothesis second)

/-- What holds of one reader holds of another one that gives nothing else for its tags. -/
theorem map
    (yields : Yields reader tags bytes before after)
    (within : Content -> Other)
    (listed : tags ⊆ more)
    (same : ∀ tag ∈ tags, ∀ wireType content cursor result,
      other tag wireType (within content) cursor = .ok result ->
        ∃ taken, reader tag wireType content cursor = .ok taken ∧
          result = (within taken.1, taken.2)) :
    Yields other more bytes (within before) (within after) := by
  induction yields with
  | none => exact .none
  | entry known reads rest inductionHypothesis =>
      refine .entry (listed known) (fun rest result read => ?_) inductionHypothesis
      obtain ⟨taken, there, rfl⟩ := same _ known _ _ _ _ read
      rw [reads rest taken there]

/-- A loop that reads entries and comes to a result has taken all of them in. -/
theorem mergeWhile_append
    (yields : Yields reader tags bytes before after)
    (sound : ∀ tag ∈ tags, 0 < tag ∧ tag < 2 ^ 29)
    {limit fuel : Nat}
    (enough : bytes.length ≤ fuel)
    {rest : Bytes}
    (within : limit ≤ rest.length)
    {result : Content × Cursor}
    (read : mergeWhile (mergeEntry reader) limit fuel before (ofBytes (bytes ++ rest)) =
      .ok result) :
    ∃ left, mergeWhile (mergeEntry reader) limit left after (ofBytes rest) = .ok result := by
  induction yields generalizing fuel with
  | none => exact ⟨fuel, read⟩
  | @entry tag wireType payload bytes before middle after listed reads more inductionHypothesis =>
      have keyed : 0 < (key tag wireType).length := length_varint_pos _
      simp only [List.length_append] at enough
      cases fuel with
      | zero => omega
      | succ fuel =>
          have ahead : ¬ (ofBytes (key tag wireType ++ payload ++ bytes ++ rest)).left ≤ limit := by
            simp only [Cursor.left_ofBytes, List.length_append]
            omega
          have keyRead := readKey_key (sound tag listed).1 (sound tag listed).2 wireType
            (payload ++ (bytes ++ rest))
          rw [mergeWhile, if_neg ahead, List.append_assoc, List.append_assoc] at read
          obtain ⟨taken, entered, later⟩ := exists_of_bind_eq_ok read
          rw [mergeEntry, keyRead] at entered
          obtain rfl := reads _ _ entered
          exact inductionHypothesis (by omega) later

/-- A nested message is taken in as its entries are, or not at all. -/
theorem mergeDelimited_append
    (yields : Yields reader tags bytes before after)
    (sound : ∀ tag ∈ tags, 0 < tag ∧ tag < 2 ^ 29) :
    Reads (mergeDelimited (mergeEntry reader) before) (delimited bytes) after := by
  intro rest result read
  rw [delimited, List.append_assoc] at read
  obtain ⟨length, told, entered⟩ := exists_of_bind_eq_ok read
  obtain rfl := reads_length _ _ _ (eq_ok_of_mapError told)
  have limit : (bytes ++ rest).length - bytes.length = rest.length := by simp
  simp only [Cursor.left_ofBytes, limit] at entered
  obtain ⟨content, merged, stopped⟩ := exists_of_bind_eq_ok entered
  obtain ⟨left, last⟩ := yields.mergeWhile_append sound (Nat.le_refl _)
    (Nat.le_refl rest.length) merged
  have stops : mergeWhile (mergeEntry reader) rest.length left after (ofBytes rest) =
      .ok (after, ofBytes rest) :=
    Takes.mergeWhile_of_le (show (ofBytes rest).left ≤ rest.length from Nat.le_refl _) left after
  obtain rfl := Except.ok.inj (stops.symm.trans last)
  simp only [Cursor.left_ofBytes, ne_eq, not_true_eq_false, if_false] at stopped
  exact (Except.ok.inj stopped).symm

end Yields

/-! ## Fields and messages -/

/-- A text is taken in behind those that are there, or not at all. -/
theorem reads_texts
    (depth tag : Nat)
    (seen : List String)
    (text : String) :
    Reads (Kind.texts.reader depth tag .lengthDelimited seen) (delimited (Utf8.encode text))
      (seen ++ [text]) := by
  intro rest result read
  obtain ⟨done, -, entered⟩ := exists_of_bind_eq_ok (eq_ok_of_mapError read)
  obtain ⟨taken, there, added⟩ := exists_of_bind_eq_ok entered
  obtain rfl := reads_text text rest taken there
  exact (Except.ok.inj added).symm

theorem yields_texts
    (depth tag : Nat)
    (texts seen : List String) :
    Yields (Kind.texts.reader depth) [tag] (Kind.texts.encode tag texts) seen (seen ++ texts) := by
  induction texts generalizing seen with
  | nil =>
      rw [List.append_nil]
      exact .none
  | cons text texts inductionHypothesis =>
      have others := inductionHypothesis (seen ++ [text])
      rw [List.append_assoc, List.singleton_append] at others
      exact Yields.append (.one List.mem_cons_self (reads_texts depth tag seen text)) others

section Nested

variable {shape : Shape} {name : String} {depth : Nat}

/-- A message of a field is taken in if its own entries are, or not at all. -/
theorem reads_message
    (sound : shape.sound = true)
    {content : shape.Value}
    (yields : Yields (shape.reader name (depth - 1)) shape.tags (shape.encode content) shape.empty
      (shape.unsignZero content))
    (tag : Nat) :
    Reads ((Kind.message name shape).reader depth tag .lengthDelimited none)
      (delimited (shape.encode content)) (some (shape.unsignZero content)) := by
  intro rest result read
  obtain ⟨done, -, entered⟩ := exists_of_bind_eq_ok read
  obtain ⟨taken, there, added⟩ := exists_of_bind_eq_ok entered
  obtain rfl := yields.mergeDelimited_append (Shape.tag_bounds sound) rest taken there
  exact (Except.ok.inj added).symm

/-- The messages of a field are taken in behind those that are there, or not at all. -/
theorem yields_messages
    (sound : shape.sound = true)
    (each : ∀ content, Yields (shape.reader name (depth - 1)) shape.tags (shape.encode content)
      shape.empty (shape.unsignZero content))
    (tag : Nat)
    (contents seen : List shape.Value) :
    Yields ((Kind.messages name shape).reader depth) [tag]
      ((Kind.messages name shape).encode tag contents) seen
      (seen ++ contents.map shape.unsignZero) := by
  induction contents generalizing seen with
  | nil =>
      rw [List.map_nil, List.append_nil]
      exact .none
  | cons content contents inductionHypothesis =>
      have others := inductionHypothesis (seen ++ [shape.unsignZero content])
      rw [List.append_assoc, List.singleton_append] at others
      refine Yields.append (.one List.mem_cons_self fun rest result read => ?_) others
      obtain ⟨done, -, entered⟩ := exists_of_bind_eq_ok read
      obtain ⟨taken, there, added⟩ := exists_of_bind_eq_ok entered
      obtain rfl := (each content).mergeDelimited_append (Shape.tag_bounds sound) rest taken there
      exact (Except.ok.inj added).symm

end Nested

mutual

/-- The entries of a field are taken in as its value, or not at all. -/
theorem Kind.yields :
    (kind : Kind) -> kind.sound = true -> (depth tag : Nat) -> (value : kind.Value) ->
      Yields (kind.reader depth) [tag] (kind.encode tag value) kind.empty (kind.unsignZero value)
  | .scalar leaf, _, depth, tag, value => by
      cases given : leaf.isEmpty value with
      | true =>
          rw [Kind.encode, if_pos given, Kind.empty, Scalar.empty_eq_of_isEmpty given]
          exact .none
      | false =>
          rw [Kind.encode, if_neg (by simp [given])]
          rw [Kind.unsignZero, Scalar.unsignZero_of_not_isEmpty given]
          refine .one List.mem_cons_self fun rest result read => ?_
          obtain ⟨done, -, there⟩ := exists_of_bind_eq_ok (eq_ok_of_mapError read)
          exact leaf.reads value rest result there
  | .message name shape, sound, depth, tag, value => by
      cases value with
      | none => exact .none
      | some content =>
          exact .one List.mem_cons_self
            (reads_message sound (Shape.yields shape sound name (depth - 1) content) tag)
  | .texts, _, depth, tag, value => yields_texts depth tag value []
  | .messages name shape, sound, depth, tag, value =>
      yields_messages sound (fun content => Shape.yields shape sound name (depth - 1) content) tag
        value []

/-- The entries of a message are taken in as the message, or not at all. -/
theorem Shape.yields :
    (shape : Shape) -> shape.sound = true -> (owner : String) -> (depth : Nat) ->
      (value : shape.Value) ->
        Yields (shape.reader owner depth) shape.tags (shape.encode value) shape.empty
          (shape.unsignZero value)
  | .done, _, owner, depth, value => .none
  | .field name tag kind rest, sound, owner, depth, value => by
      simp only [Shape.sound, Bool.and_eq_true] at sound
      have absent : tag ∉ rest.tags := by simpa using sound.1.1.1.1.2
      have first := Kind.yields kind sound.1.2 depth tag value.1
      have others := Shape.yields rest sound.2 owner depth value.2
      have single : [tag] ⊆ (Shape.field name tag kind rest).tags := by simp [Shape.tags]
      have remaining : rest.tags ⊆ (Shape.field name tag kind rest).tags :=
        List.subset_cons_self tag rest.tags
      rw [Shape.encode]
      refine Yields.append (first.map (fun content => (content, rest.empty)) single ?_)
        (others.map (fun content => (kind.unsignZero value.1, content)) remaining ?_)
      · intro known present wireType content cursor result read
        rw [List.mem_singleton.mp present] at read
        simp only [Shape.reader, Shape.mergeField, if_true] at read
        split at read
        · next taken after there =>
            exact ⟨(taken, after), there, (Except.ok.inj read).symm⟩
        · cases read
      · intro known present wireType content cursor result read
        have apart : known ≠ tag := by
          rintro rfl
          exact absent present
        simp only [Shape.reader, Shape.mergeField, apart, if_false] at read
        split at read
        · next taken after there =>
            exact ⟨(taken, after), there, (Except.ok.inj read).symm⟩
        · cases read

end

/-- What is read from the bytes of a message is the message, but for the sign of its zeros. -/
theorem Shape.eq_of_decode_encode
    {shape : Shape}
    (sound : shape.sound = true)
    {name : String}
    {value result : shape.Value}
    (read : shape.decode name (shape.encode value) = .ok result) :
    result = shape.unsignZero value := by
  obtain ⟨⟨content, after⟩, merged, rfl⟩ := exists_of_map_eq_ok read
  rw [← List.append_nil (shape.encode value)] at merged
  obtain ⟨left, last⟩ := (Shape.yields shape sound name greatestDepth value).mergeWhile_append
    (Shape.tag_bounds sound) (by simp) (Nat.zero_le ([] : Bytes).length) merged
  have stops : mergeWhile (mergeEntry (shape.reader name greatestDepth)) 0 left
      (shape.unsignZero value) (ofBytes []) = .ok (shape.unsignZero value, ofBytes []) :=
    Takes.mergeWhile_of_le (show (ofBytes []).left ≤ 0 from Nat.le_refl _) left _
  exact congrArg Prod.fst (Except.ok.inj (last.symm.trans stops))

end MallFabric.Message
