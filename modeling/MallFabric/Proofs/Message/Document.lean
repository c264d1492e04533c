import MallFabric.Message.Catalogue
import MallFabric.Message.Document
import MallFabric.Proofs.Json.Text

/-!
# Messages are read from their documents

A field is read from the members of its name: from none as its default, from one as what
the member holds, and from more not at all.  So a message is read from the object that it
is written as, if each of its singles is read from its own digits.
-/

namespace MallFabric

open Json (membersNamed)

/-- A number is read from the digits that it is written with. -/
def Single.ReadsBack (number : Single) : Prop :=
  number.isFinite = true ∧ (Numeral.ofSingle number).toSingle? = some number

theorem Single.readsBack_zero : Single.zero.ReadsBack :=
  ⟨rfl, by decide +kernel⟩

namespace Message

/-- The members of an object. -/
abbrev Members : Type := List (Option String × Json)

/-! ## Scalars -/

/-- The single that a scalar is, if it is one. -/
def Scalar.singles : (scalar : Scalar) -> scalar.Value -> List Single
  | float, value => [value]
  | uint32, _ => []
  | int32, _ => []
  | int64, _ => []
  | bool, _ => []
  | text, _ => []

theorem boundedInt?_int
    {least greatest number : Int}
    (above : least ≤ number)
    (below : number ≤ greatest) :
    boundedInt? least greatest (Json.int number) = some number := by
  simp only [boundedInt?, Json.int, Numeral.toInt?_ofInt, above, below, and_self, if_true]

theorem Scalar.ofJson?_toJson
    {scalar : Scalar}
    {value : scalar.Value}
    (exact : ∀ number ∈ scalar.singles value, number.ReadsBack) :
    scalar.ofJson? (scalar.toJson value) = some value := by
  cases scalar with
  | uint32 =>
      have bounded := UInt32.toNat_lt value
      have read : boundedInt? 0 (UInt32.size - 1) (Json.nat (UInt32.toNat value)) =
          some (UInt32.toNat value : Int) :=
        boundedInt?_int (by omega) (by rw [UInt32.size]; omega)
      simp only [toJson, ofJson?, read, Option.map_some, Int.toNat_natCast, UInt32.ofNat_toNat]
  | int32 =>
      have read := boundedInt?_int (Int32.minValue_le_toInt value) (Int32.toInt_le value)
      simp only [toJson, ofJson?, read, Option.map_some, Int32.ofInt_toInt]
  | int64 =>
      have read := boundedInt?_int (Int64.minValue_le_toInt value) (Int64.toInt_le value)
      simp only [toJson, ofJson?, read, Option.map_some, Int64.ofInt_toInt]
  | bool => rfl
  | float =>
      obtain ⟨finite, back⟩ := exact value List.mem_cons_self
      simp only [toJson, Json.single, finite, if_true, ofJson?, back]
  | text => rfl

theorem Scalar.proper_toJson
    (scalar : Scalar)
    (value : scalar.Value) :
    (scalar.toJson value).Proper := by
  cases scalar with
  | uint32 => exact Numeral.proper_ofInt _
  | int32 => exact Numeral.proper_ofInt _
  | int64 => exact Numeral.proper_ofInt _
  | bool => trivial
  | float =>
      show (if Single.isFinite value then Json.number (Numeral.ofSingle value) else .null).Proper
      split
      · exact Numeral.proper_ofSingle value
      · trivial
  | text => trivial

/-! ## Fields and messages -/

mutual

/-- The singles within a field. -/
def Kind.singles : (kind : Kind) -> kind.Value -> List Single
  | .scalar leaf, value => leaf.singles value
  | .message _ shape, value => (Option.toList value).flatMap (Shape.singles shape)
  | .texts, _ => []
  | .messages _ shape, value => List.flatMap (Shape.singles shape) value

/-- The singles within a message. -/
def Shape.singles : (shape : Shape) -> shape.Value -> List Single
  | .done, _ => []
  | .field _ _ kind rest, value => Kind.singles kind value.1 ++ Shape.singles rest value.2

end

/-- The names of the fields and what they hold, in order. -/
def Shape.fields : Shape -> List (String × Kind)
  | .done => []
  | .field name _ kind rest => (name, kind) :: rest.fields

theorem Shape.mem_names_of_mem_fields
    {shape : Shape}
    {name : String}
    {kind : Kind}
    (listed : (name, kind) ∈ shape.fields) :
    name ∈ shape.names := by
  cases shape with
  | done => exact absurd listed List.not_mem_nil
  | field first tag held rest =>
      rcases List.mem_cons.mp listed with same | later
      · cases same
        exact List.mem_cons_self
      · exact List.mem_cons_of_mem _ (mem_names_of_mem_fields later)

/-- A field of a sound message has a name of its own, and it is sound as the others are. -/
theorem Shape.sound_field
    {name : String}
    {tag : Nat}
    {kind : Kind}
    {rest : Shape}
    (sound : (Shape.field name tag kind rest).sound = true) :
    name ∉ rest.names ∧ kind.sound = true ∧ rest.sound = true := by
  simp only [Shape.sound, Bool.and_eq_true] at sound
  exact ⟨by simpa using sound.1.1.1.1.1, sound.1.2, sound.2⟩

/-- What a field is, by the members of its name. -/
def Kind.ofNamed? (kind : Kind) : List Json -> Option kind.Value
  | [] => some kind.empty
  | [value] => kind.ofJson? value
  | _ => none

theorem Shape.ofMembers?_field
    (name : String)
    (tag : Nat)
    (kind : Kind)
    (rest : Shape)
    (members : Members) :
    (Shape.field name tag kind rest).ofMembers? members =
      (kind.ofNamed? (membersNamed members name)).bind fun content =>
        (rest.ofMembers? members).map fun others => (content, others) := by
  rw [Shape.ofMembers?]
  split
  · next none =>
      rw [none, Kind.ofNamed?, Option.bind_some]
      cases rest.ofMembers? members with
      | _ => rfl
  · next value one =>
      rw [one, Kind.ofNamed?]
      cases kind.ofJson? value with
      | none => rfl
      | some content =>
          cases rest.ofMembers? members with
          | _ => rfl
  · next more =>
      rw [more]
      rfl

/-- Members from which every field is read as from others make the same message. -/
theorem Shape.ofMembers?_mono
    {shape : Shape}
    {before after : Members}
    (fields : ∀ name kind content, (name, kind) ∈ shape.fields ->
      Kind.ofNamed? kind (membersNamed before name) = some content ->
        Kind.ofNamed? kind (membersNamed after name) = some content)
    {value : shape.Value}
    (read : shape.ofMembers? before = some value) :
    shape.ofMembers? after = some value := by
  cases shape with
  | done => exact read
  | field name tag kind rest =>
      rw [ofMembers?_field] at read ⊢
      obtain ⟨content, first, others⟩ := Option.bind_eq_some_iff.mp read
      obtain ⟨values, remaining, rfl⟩ := Option.map_eq_some_iff.mp others
      have same := fields name kind content List.mem_cons_self first
      have later := ofMembers?_mono
        (fun name kind content listed => fields name kind content (List.mem_cons_of_mem _ listed))
        remaining
      rw [same, later]
      rfl

/-- A member of another name is not among those of a name. -/
theorem membersNamed_cons_of_ne
    {name other : String}
    (different : other ≠ name)
    (value : Json)
    (members : Members) :
    membersNamed ((some other, value) :: members) name = membersNamed members name := by
  have apart : some other ≠ some name := fun same => different (Option.some.inj same)
  simp only [membersNamed, List.filterMap_cons, apart, if_false]

theorem membersNamed_cons_self
    (name : String)
    (value : Json)
    (members : Members) :
    membersNamed ((some name, value) :: members) name = value :: membersNamed members name := by
  simp only [membersNamed, List.filterMap_cons, if_true]

theorem Shape.membersNamed_members
    {shape : Shape}
    {name : String}
    (absent : name ∉ shape.names)
    (value : shape.Value) :
    membersNamed (shape.members value) name = [] := by
  cases shape with
  | done => rfl
  | field first tag kind rest =>
      simp only [Shape.names, List.mem_cons, not_or] at absent
      rw [Shape.members, membersNamed_cons_of_ne (Ne.symm absent.1)]
      exact rest.membersNamed_members absent.2 value.2

theorem Shape.all_isSome_members
    (shape : Shape)
    (value : shape.Value) :
    ((shape.members value).all fun member => member.1.isSome) = true := by
  cases shape with
  | done => rfl
  | field name tag kind rest =>
      rw [Shape.members, List.all_cons]
      exact rest.all_isSome_members value.2

/-- An object is read as its members are, if all of them have names. -/
theorem Shape.ofJson?_object
    (shape : Shape)
    {members : Members}
    (named : (members.all fun member => member.1.isSome) = true) :
    shape.ofJson? (.object members) = shape.ofMembers? members := by
  rw [Shape.ofJson?, if_pos named]

theorem Kind.ofJson?_message
    (owner : String)
    (shape : Shape)
    (members : Members) :
    (Kind.message owner shape).ofJson? (.object members) =
      (shape.ofJson? (.object members)).map some := by
  rw [Kind.ofJson?, Shape.ofJson?]
  split
  · rfl
  · rfl

theorem Kind.ofJson?_messages
    (owner : String)
    (shape : Shape)
    (items : List Json) :
    (Kind.messages owner shape).ofJson? (.array items) = items.mapM shape.ofJson? := by
  rw [Kind.ofJson?]
  rfl

theorem mapM_map_of_some
    {Given Value : Type}
    {write : Value -> Given}
    {read : Given -> Option Value}
    {values : List Value}
    (back : ∀ value ∈ values, read (write value) = some value) :
    (values.map write).mapM read = some values := by
  induction values with
  | nil => rfl
  | cons value values inductionHypothesis =>
      have later := inductionHypothesis fun value present => back value (List.mem_cons_of_mem _ present)
      rw [List.map_cons, List.mapM_cons, back value List.mem_cons_self, later]
      rfl

mutual

/-- A field is read from what it is written as. -/
theorem Kind.ofJson?_toJson :
    (kind : Kind) -> kind.sound = true -> (value : kind.Value) ->
      (∀ number ∈ kind.singles value, number.ReadsBack) ->
        kind.ofJson? (kind.toJson value) = some value
  | .scalar leaf, _, value, exact => by
      rw [Kind.ofJson?]
      exact Scalar.ofJson?_toJson exact
  | .message name shape, sound, value, exact => by
      cases value with
      | none => rfl
      | some content =>
          have within : ∀ number ∈ shape.singles content, number.ReadsBack := by
            intro number present
            exact exact number (List.mem_flatMap_of_mem (List.mem_singleton_self _) present)
          have read := Shape.ofMembers?_members shape sound content within
          rw [Kind.toJson, Kind.ofJson?_message,
            shape.ofJson?_object (shape.all_isSome_members content), read]
          rfl
  | .texts, _, value, exact => mapM_map_of_some fun text present => rfl
  | .messages name shape, sound, value, exact => by
      rw [Kind.toJson, Kind.ofJson?_messages]
      refine mapM_map_of_some fun content present => ?_
      have within : ∀ number ∈ shape.singles content, number.ReadsBack :=
        fun number inside => exact number (List.mem_flatMap_of_mem present inside)
      rw [shape.ofJson?_object (shape.all_isSome_members content)]
      exact Shape.ofMembers?_members shape sound content within

/-- A message is read from the members that it is written as. -/
theorem Shape.ofMembers?_members :
    (shape : Shape) -> shape.sound = true -> (value : shape.Value) ->
      (∀ number ∈ shape.singles value, number.ReadsBack) ->
        shape.ofMembers? (shape.members value) = some value
  | .done, _, value, exact => rfl
  | .field name tag kind rest, sound, value, exact => by
      obtain ⟨absent, held, remaining⟩ := Shape.sound_field sound
      have first := Kind.ofJson?_toJson kind held value.1
        fun number present => exact number (List.mem_append_left _ present)
      have others := Shape.ofMembers?_members rest remaining value.2
        fun number present => exact number (List.mem_append_right _ present)
      have kept : rest.ofMembers? ((some name, kind.toJson value.1) :: rest.members value.2) =
          some value.2 := by
        refine Shape.ofMembers?_mono (fun other held content listed named => ?_) others
        have different : name ≠ other := by
          rintro rfl
          exact absent (Shape.mem_names_of_mem_fields listed)
        rw [membersNamed_cons_of_ne different]
        exact named
      rw [Shape.ofMembers?_field, Shape.members, membersNamed_cons_self,
        Shape.membersNamed_members absent, Kind.ofNamed?, first, kept]
      rfl

end

/-- A message is read from the object that it is written as. -/
theorem Shape.ofJson?_toJson
    {shape : Shape}
    (sound : shape.sound = true)
    {value : shape.Value}
    (exact : ∀ number ∈ shape.singles value, number.ReadsBack) :
    shape.ofJson? (shape.toJson value) = some value := by
  rw [Shape.toJson, shape.ofJson?_object (shape.all_isSome_members value)]
  exact shape.ofMembers?_members sound value exact

/-! ## Documents as texts -/

mutual

/-- Every number within a field is written as a number may be. -/
theorem Kind.proper_toJson :
    (kind : Kind) -> (value : kind.Value) -> (kind.toJson value).Proper
  | .scalar leaf, value => by
      rw [Kind.toJson]
      exact leaf.proper_toJson value
  | .message name shape, value => by
      cases value with
      | none => trivial
      | some content => exact Shape.proper_members shape content
  | .texts, value => by
      refine Json.itemsProper_of_forall fun item present => ?_
      obtain ⟨text, -, rfl⟩ := List.mem_map.mp present
      trivial
  | .messages name shape, value => by
      refine Json.itemsProper_of_forall fun item present => ?_
      obtain ⟨content, -, rfl⟩ := List.mem_map.mp present
      exact Shape.proper_members shape content

theorem Shape.proper_members :
    (shape : Shape) -> (value : shape.Value) -> Json.MembersProper (shape.members value)
  | .done, _ => trivial
  | .field _ _ kind rest, value =>
      ⟨Kind.proper_toJson kind value.1, Shape.proper_members rest value.2⟩

end

end Message

end MallFabric
