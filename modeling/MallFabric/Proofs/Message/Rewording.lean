import MallFabric.Proofs.Message.Document
import Mathlib.Logic.Relation

/-!
# Documents that say the same

The members of an object may come in any order, a member that has the default of its field
may be left out, and members that no field knows may be added with any value.  Each such
step, at any level of a document, leaves the message that is read from it.  So a message is
read from every text of every document that such steps make of the one it is written as.
-/

namespace MallFabric.Message

open Json (membersNamed)

/-! ## Steps -/

/-- One step from the members of an object to others that say the same message. -/
inductive Shape.Rewords : Shape -> Members -> Members -> Prop where
  | permuted {shape before after}
      (permutes : before.Perm after) :
      Rewords shape before after
  | omitted {shape name kind front back}
      (listed : (name, kind) ∈ shape.fields) :
      Rewords shape (front ++ (some name, kind.toJson kind.empty) :: back) (front ++ back)
  | added {shape name value front back}
      (unknown : name ∉ shape.names) :
      Rewords shape (front ++ back) (front ++ (some name, value) :: back)
  /-- A step within the message of a field. -/
  | message {shape name owner inner front back before after}
      (listed : (name, .message owner inner) ∈ shape.fields)
      (within : Rewords inner before after) :
      Rewords shape (front ++ (some name, .object before) :: back)
        (front ++ (some name, .object after) :: back)
  /-- A step within one of the messages of a field. -/
  | item {shape name owner inner front back items more before after}
      (listed : (name, .messages owner inner) ∈ shape.fields)
      (within : Rewords inner before after) :
      Rewords shape (front ++ (some name, .array (items ++ .object before :: more)) :: back)
        (front ++ (some name, .array (items ++ .object after :: more)) :: back)

/-- Any number of steps. -/
abbrev Shape.Reworded (shape : Shape) : Members -> Members -> Prop :=
  Relation.ReflTransGen shape.Rewords

/-! ## Fields of a sound message -/

theorem Shape.sound_of_mem_fields
    {shape : Shape}
    (sound : shape.sound = true)
    {name : String}
    {kind : Kind}
    (listed : (name, kind) ∈ shape.fields) :
    kind.sound = true := by
  cases shape with
  | done => exact absurd listed List.not_mem_nil
  | field first tag held rest =>
      obtain ⟨-, first, others⟩ := sound_field sound
      rcases List.mem_cons.mp listed with same | later
      · cases same
        exact first
      · exact sound_of_mem_fields others later

/-- A name is that of one field. -/
theorem Shape.kind_unique
    {shape : Shape}
    (sound : shape.sound = true)
    {name : String}
    {kind other : Kind}
    (listed : (name, kind) ∈ shape.fields)
    (again : (name, other) ∈ shape.fields) :
    kind = other := by
  cases shape with
  | done => exact absurd listed List.not_mem_nil
  | field first tag held rest =>
      obtain ⟨absent, -, others⟩ := sound_field sound
      rcases List.mem_cons.mp listed with same | later
      · cases same
        rcases List.mem_cons.mp again with same | later
        · cases same
          rfl
        · exact absurd (mem_names_of_mem_fields later) absent
      · rcases List.mem_cons.mp again with same | other
        · cases same
          exact absurd (mem_names_of_mem_fields later) absent
        · exact kind_unique others later other

/-- A field is read from what its default is written as. -/
theorem Kind.ofJson?_empty
    {kind : Kind}
    (sound : kind.sound = true) :
    kind.ofJson? (kind.toJson kind.empty) = some kind.empty := by
  refine kind.ofJson?_toJson sound kind.empty fun number present => ?_
  cases kind with
  | scalar leaf =>
      cases leaf with
      | float =>
          obtain rfl := List.mem_singleton.mp present
          exact Single.readsBack_zero
      | _ => exact absurd present List.not_mem_nil
  | message name shape => exact absurd present List.not_mem_nil
  | texts => exact absurd present List.not_mem_nil
  | messages name shape => exact absurd present List.not_mem_nil

/-! ## Members of a name -/

theorem membersNamed_append
    (front back : Members)
    (name : String) :
    membersNamed (front ++ back) name = membersNamed front name ++ membersNamed back name :=
  List.filterMap_append

/-- A field that is read from a member among others is read from it alone. -/
theorem Kind.ofNamed?_append_cons
    {kind : Kind}
    {front back : List Json}
    {value : Json}
    {content : kind.Value}
    (read : kind.ofNamed? (front ++ value :: back) = some content) :
    front = [] ∧ back = [] ∧ kind.ofJson? value = some content := by
  cases front with
  | nil =>
      cases back with
      | nil => exact ⟨rfl, rfl, read⟩
      | cons second back => cases read
  | cons first front =>
      cases front with
      | nil => cases read
      | cons second front => cases read

theorem Kind.ofNamed?_perm
    {kind : Kind}
    {before after : List Json}
    (permutes : before.Perm after)
    {content : kind.Value}
    (read : kind.ofNamed? before = some content) :
    kind.ofNamed? after = some content := by
  cases before with
  | nil =>
      obtain rfl := permutes.nil_eq
      exact read
  | cons value others =>
      cases others with
      | nil =>
          obtain rfl := List.singleton_perm.mp permutes
          exact read
      | cons second others => cases read

/-! ## What steps leave -/

theorem Shape.ofJson?_object_iff
    {shape : Shape}
    {members : Members}
    {value : shape.Value} :
    shape.ofJson? (.object members) = some value ↔
      (members.all fun member => member.1.isSome) = true ∧
        shape.ofMembers? members = some value := by
  rw [Shape.ofJson?]
  split
  · next named => exact (and_iff_right named).symm
  · next unnamed =>
      refine ⟨fun read => ?_, fun both => absurd both.1 unnamed⟩
      cases read

/-- What holds a member of a known name may be exchanged for anything from which the field
is read as before. -/
theorem Shape.ofJson?_exchange
    {shape : Shape}
    (sound : shape.sound = true)
    {name : String}
    {kind : Kind}
    (listed : (name, kind) ∈ shape.fields)
    {before after : Json}
    (same : ∀ content, kind.ofJson? before = some content -> kind.ofJson? after = some content)
    {front back : Members}
    {value : shape.Value}
    (read : shape.ofJson? (.object (front ++ (some name, before) :: back)) = some value) :
    shape.ofJson? (.object (front ++ (some name, after) :: back)) = some value := by
  obtain ⟨named, read⟩ := ofJson?_object_iff.mp read
  refine ofJson?_object_iff.mpr ⟨by simpa using named, ?_⟩
  refine ofMembers?_mono (fun other held content known found => ?_) read
  rw [membersNamed_append] at found ⊢
  by_cases equal : name = other
  · subst equal
    obtain rfl := kind_unique sound listed known
    rw [membersNamed_cons_self] at found ⊢
    obtain ⟨nothing, none, found⟩ := Kind.ofNamed?_append_cons found
    rw [nothing, none]
    exact same content found
  · rw [membersNamed_cons_of_ne equal] at found ⊢
    exact found

theorem mapM_exchange
    {Value : Type}
    {read : Json -> Option Value}
    {before after : Json}
    (same : ∀ value, read before = some value -> read after = some value)
    {items more : List Json}
    {values : List Value}
    (found : (items ++ before :: more).mapM read = some values) :
    (items ++ after :: more).mapM read = some values := by
  induction items generalizing values with
  | nil =>
      rw [List.nil_append, List.mapM_cons] at found ⊢
      obtain ⟨value, first, others⟩ := Option.bind_eq_some_iff.mp found
      rw [same value first]
      exact others
  | cons item items inductionHypothesis =>
      rw [List.cons_append, List.mapM_cons] at found ⊢
      obtain ⟨value, first, others⟩ := Option.bind_eq_some_iff.mp found
      obtain ⟨rest, later, built⟩ := Option.bind_eq_some_iff.mp others
      rw [first, inductionHypothesis later]
      exact built

/-- A step leaves the message that is read from an object. -/
theorem Shape.Rewords.ofJson?
    {shape : Shape}
    {before after : Members}
    (rewords : shape.Rewords before after)
    (sound : shape.sound = true)
    {value : shape.Value}
    (read : shape.ofJson? (.object before) = some value) :
    shape.ofJson? (.object after) = some value := by
  induction rewords with
  | permuted permutes =>
      obtain ⟨named, read⟩ := ofJson?_object_iff.mp read
      refine ofJson?_object_iff.mpr ⟨permutes.all_eq ▸ named, ?_⟩
      refine ofMembers?_mono (fun name kind content known found => ?_) read
      exact Kind.ofNamed?_perm (permutes.filterMap _) found
  | @omitted shape name kind front back listed =>
      obtain ⟨named, read⟩ := ofJson?_object_iff.mp read
      refine ofJson?_object_iff.mpr ⟨by simpa using named, ?_⟩
      refine ofMembers?_mono (fun other held content known found => ?_) read
      rw [membersNamed_append] at found ⊢
      by_cases equal : name = other
      · subst equal
        obtain rfl := kind_unique sound listed known
        rw [membersNamed_cons_self] at found
        obtain ⟨nothing, none, found⟩ := Kind.ofNamed?_append_cons found
        rw [Kind.ofJson?_empty (sound_of_mem_fields sound listed)] at found
        rw [nothing, none]
        exact found
      · rw [membersNamed_cons_of_ne equal] at found
        exact found
  | @added shape name junk front back unknown =>
      obtain ⟨named, read⟩ := ofJson?_object_iff.mp read
      refine ofJson?_object_iff.mpr ⟨by simpa using named, ?_⟩
      refine ofMembers?_mono (fun other held content known found => ?_) read
      have different : name ≠ other := by
        rintro rfl
        exact unknown (mem_names_of_mem_fields known)
      rw [membersNamed_append] at found ⊢
      rw [membersNamed_cons_of_ne different]
      exact found
  | @message shape name owner inner front back before after listed within inductionHypothesis =>
      refine ofJson?_exchange sound listed (fun content found => ?_) read
      rw [Kind.ofJson?_message] at found ⊢
      obtain ⟨given, inside, rfl⟩ := Option.map_eq_some_iff.mp found
      rw [inductionHypothesis (sound_of_mem_fields sound listed) inside]
      rfl
  | @item shape name owner inner front back items more before after listed within
      inductionHypothesis =>
      refine ofJson?_exchange sound listed (fun contents found => ?_) read
      rw [Kind.ofJson?_messages] at found ⊢
      exact mapM_exchange
        (fun given => inductionHypothesis (sound_of_mem_fields sound listed)) found

/-- So do any number of steps. -/
theorem Shape.Reworded.ofJson?
    {shape : Shape}
    {before after : Members}
    (reworded : shape.Reworded before after)
    (sound : shape.sound = true)
    {value : shape.Value}
    (read : shape.ofJson? (.object before) = some value) :
    shape.ofJson? (.object after) = some value := by
  induction reworded with
  | refl => exact read
  | tail earlier last inductionHypothesis => exact last.ofJson? sound inductionHypothesis

/-- Every message of the mall whose singles are finite, and read from their shortest digits,
is read from the text that it is written as.  It is also read from every text of every
object that steps make of its own: in another order, without defaults, with other members. -/
theorem MessageType.jsonRoundTrip
    (type : MessageType)
    (value : type.Value)
    (finite : ∀ number ∈ type.shape.singles value, number.isFinite = true)
    (shortest : ∀ number ∈ type.shape.singles value,
      (Numeral.ofSingle number).toSingle? = some number) :
    (Json.parse (type.shape.toJson value).print).bind type.shape.ofJson? = some value ∧
      ∀ members text, type.shape.Reworded (type.shape.members value) members ->
        (Json.object members).Writes text ->
          (Json.parse text).bind type.shape.ofJson? = some value := by
  have sound := type.sound_shape
  have read : type.shape.ofJson? (type.shape.toJson value) = some value :=
    Shape.ofJson?_toJson sound fun number present => ⟨finite number present, shortest number present⟩
  refine ⟨?_, fun members text reworded writes => ?_⟩
  · have proper : (type.shape.toJson value).Proper := type.shape.proper_members value
    rw [Json.parse_of_writes (Json.writes_print proper), Option.bind_some, read]
  · rw [Json.parse_of_writes writes, Option.bind_some]
    exact Shape.Reworded.ofJson? reworded sound read

/-! ## An item of an order -/

/-- An item without pieces that costs nine and a half. -/
def soldOut : MessageType.orderItem.Value := (some (7, 0, ()), ⟨0x41180000⟩, ())

/-- The members of the item in another order, without the number of its pieces, and with a
note that nobody reads. -/
def noted : Members := [
  (some "note", .array [.object [(some "cost", .string none)], .null]),
  (some "cost", .single ⟨0x41180000⟩),
  (some "item", .object [(some "product_id", .int 7)])]

theorem reworded_noted :
    Shapes.orderItem.Reworded (Shapes.orderItem.members soldOut) noted := by
  have first : Shapes.orderItem.Rewords (Shapes.orderItem.members soldOut)
      [(some "item", .object [(some "product_id", .int 7)]), (some "cost", .single ⟨0x41180000⟩)] :=
    @Shape.Rewords.message Shapes.orderItem "item" "CartItem" Shapes.cartItem []
      [(some "cost", .single ⟨0x41180000⟩)] _ _ List.mem_cons_self
      (@Shape.Rewords.omitted Shapes.cartItem "quantity" (.scalar .int32)
        [(some "product_id", .int 7)] [] (List.mem_cons_of_mem _ List.mem_cons_self))
  have second : Shapes.orderItem.Rewords _
      [(some "cost", .single ⟨0x41180000⟩), (some "item", .object [(some "product_id", .int 7)])] :=
    .permuted (.swap _ _ [])
  have third : Shapes.orderItem.Rewords _ noted :=
    @Shape.Rewords.added Shapes.orderItem "note" _ [] _ (by decide)
  exact .tail (.tail (.single first) second) third

theorem jsonRoundTrip_soldOut :
    (Json.parse "\x7b\"item\":\x7b\"product_id\":7,\"quantity\":0\x7d,\"cost\":9.5\x7d").bind
        Shapes.orderItem.ofJson? = some soldOut ∧
      (Json.parse ("\x7b\"note\":[\x7b\"cost\":\"\\ud800\"\x7d,null],\"cost\":9.5," ++
          "\"item\":\x7b\"product_id\":7\x7d\x7d")).bind
        Shapes.orderItem.ofJson? = some soldOut := by
  have roundTrip := MessageType.orderItem.jsonRoundTrip soldOut (by decide +kernel)
    (by decide +kernel)
  have plain : (Shapes.orderItem.toJson soldOut).print =
      "\x7b\"item\":\x7b\"product_id\":7,\"quantity\":0\x7d,\"cost\":9.5\x7d" := by
    decide +kernel
  have other : (Json.object noted).print =
      "\x7b\"note\":[\x7b\"cost\":\"\\ud800\"\x7d,null],\"cost\":9.5," ++
        "\"item\":\x7b\"product_id\":7\x7d\x7d" := by
    decide +kernel
  have proper : (Json.object noted).Proper :=
    ⟨⟨⟨trivial, trivial⟩, trivial, trivial⟩, Scalar.proper_toJson .float _,
      ⟨Numeral.proper_ofInt 7, trivial⟩, trivial⟩
  rw [← plain, ← other]
  exact ⟨roundTrip.1, roundTrip.2 noted _ reworded_noted (Json.writes_print proper)⟩

end MallFabric.Message
