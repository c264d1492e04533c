import MallFabric.Proofs.Json.Grammar

/-!
# JSON values and their texts

A value has one sequence of lexemes, and its texts are the ways to write them.  The reader
gives the value back from every one of its texts, and the writer writes one of them.
-/

namespace MallFabric.Json

/-! ## The lexemes of a value -/

/-- Parts that follow others, each after a comma. -/
def continued (parts : List (List Lexeme)) : List Lexeme :=
  parts.flatMap (.comma :: ·)

/-- Parts with a comma between each two. -/
def joined : List (List Lexeme) -> List Lexeme
  | [] => []
  | first :: rest => first ++ continued rest

mutual

/-- The lexemes of a value. -/
def lexemes : Json -> List Lexeme
  | null => [.scalar .null]
  | bool value => [.scalar (.bool value)]
  | number numeral => [.scalar (.number numeral)]
  | string text => [.string text]
  | array items => .openArray :: (joined (itemLexemes items) ++ [.closeArray])
  | object members => .openObject :: (joined (memberLexemes members) ++ [.closeObject])

def itemLexemes : List Json -> List (List Lexeme)
  | [] => []
  | item :: rest => lexemes item :: itemLexemes rest

def memberLexemes : List (Option String × Json) -> List (List Lexeme)
  | [] => []
  | (name, value) :: rest => (.string name :: .colon :: lexemes value) :: memberLexemes rest

end

/-- A text writes a value if it writes the lexemes of the value. -/
def Writes (value : Json) (text : String) : Prop :=
  Written (lexemes value) text.toList

/-! ## Reading -/

open Reading (run accept)

/-- Where an array may end at once, its first item is read as any other. -/
theorem run_firstItem
    (items : List Json)
    (outer : List Frame)
    (value : Json)
    (rest : List Lexeme) :
    run ⟨.array items :: outer, .firstItem⟩ (lexemes value ++ rest) =
      run ⟨.array items :: outer, .value⟩ (lexemes value ++ rest) := by
  cases value with
  | _ =>
      unfold lexemes
      rfl

mutual

/-- From the lexemes of a value the reader gets the value. -/
theorem run_value :
    (value : Json) -> (frames : List Frame) -> (rest : List Lexeme) ->
      run ⟨frames, .value⟩ (lexemes value ++ rest) = run (accept frames value) rest
  | null, frames, rest => by rw [lexemes]; rfl
  | bool value, frames, rest => by rw [lexemes]; rfl
  | number numeral, frames, rest => by rw [lexemes]; rfl
  | string text, frames, rest => by rw [lexemes]; rfl
  | array [], frames, rest => by rw [lexemes, itemLexemes]; rfl
  | array (item :: items), frames, rest => by
      rw [lexemes, itemLexemes, joined, List.cons_append, List.append_assoc, List.append_assoc,
        List.singleton_append]
      show run ⟨.array [] :: frames, .firstItem⟩
        (lexemes item ++ (continued (itemLexemes items) ++ .closeArray :: rest)) = _
      rw [run_firstItem, run_value item]
      exact run_items items [item] frames rest
  | object [], frames, rest => by rw [lexemes, memberLexemes]; rfl
  | object ((name, value) :: members), frames, rest => by
      rw [lexemes, memberLexemes, joined, List.cons_append, List.append_assoc, List.append_assoc,
        List.singleton_append]
      show run ⟨.object [] name :: frames, .value⟩
        (lexemes value ++ (continued (memberLexemes members) ++ .closeObject :: rest)) = _
      rw [run_value value]
      exact run_members members [(name, value)] frames rest

/-- The items that follow others are read behind them. -/
theorem run_items :
    (items reversed : List Json) -> (outer : List Frame) -> (rest : List Lexeme) ->
      run ⟨.array reversed :: outer, .separator⟩
          (continued (itemLexemes items) ++ .closeArray :: rest) =
        run (accept outer (.array (reversed.reverse ++ items))) rest
  | [], reversed, outer, rest => by
      rw [List.append_nil]
      rfl
  | item :: items, reversed, outer, rest => by
      have others := run_items items (item :: reversed) outer rest
      rw [List.reverse_cons, List.append_assoc, List.singleton_append] at others
      rw [itemLexemes, continued, List.flatMap_cons, List.append_assoc, List.cons_append]
      show run ⟨.array reversed :: outer, .value⟩
        (lexemes item ++ (continued (itemLexemes items) ++ .closeArray :: rest)) = _
      rw [run_value item]
      exact others

/-- The members that follow others are read behind them. -/
theorem run_members :
    (members reversed : List (Option String × Json)) -> (outer : List Frame) ->
      (rest : List Lexeme) ->
        run ⟨.object reversed none :: outer, .separator⟩
            (continued (memberLexemes members) ++ .closeObject :: rest) =
          run (accept outer (.object (reversed.reverse ++ members))) rest
  | [], reversed, outer, rest => by
      rw [List.append_nil]
      rfl
  | (name, value) :: members, reversed, outer, rest => by
      have others := run_members members ((name, value) :: reversed) outer rest
      rw [List.reverse_cons, List.append_assoc, List.singleton_append] at others
      rw [memberLexemes, continued, List.flatMap_cons, List.append_assoc, List.cons_append]
      show run ⟨.object reversed name :: outer, .value⟩
        (lexemes value ++ (continued (memberLexemes members) ++ .closeObject :: rest)) = _
      rw [run_value value]
      exact others

end

theorem ofLexemes_lexemes (value : Json) : ofLexemes (lexemes value) = some value := by
  have read := run_value value [] []
  rw [List.append_nil] at read
  rw [ofLexemes, Reading.start, read]
  rfl

/-- A comma or the end stands behind each part. -/
theorem followsNumber_continued
    (parts : List (List Lexeme))
    {close : Lexeme}
    (closes : close = .closeArray ∨ close = .closeObject)
    (rest : List Lexeme) :
    FollowsNumber (continued parts ++ close :: rest) := by
  cases parts with
  | nil =>
      rintro lexeme ⟨⟩
      exact .inr closes
  | cons first others =>
      rintro lexeme ⟨⟩
      exact .inl rfl

mutual

/-- Among the lexemes of a value no two numbers stand side by side. -/
theorem apart_value :
    (value : Json) -> (rest : List Lexeme) -> FollowsNumber rest -> Apart rest ->
      Apart (lexemes value ++ rest)
  | null, rest, follows, apart => by
      rw [lexemes]
      exact ⟨nofun, apart⟩
  | bool value, rest, follows, apart => by
      rw [lexemes]
      exact ⟨nofun, apart⟩
  | number numeral, rest, follows, apart => by
      rw [lexemes]
      exact ⟨fun _ => follows, apart⟩
  | string text, rest, follows, apart => by
      rw [lexemes]
      exact ⟨nofun, apart⟩
  | array [], rest, follows, apart => by
      rw [lexemes]
      exact ⟨nofun, nofun, apart⟩
  | array (item :: items), rest, follows, apart => by
      rw [lexemes, itemLexemes, joined, List.cons_append, List.append_assoc, List.append_assoc,
        List.singleton_append]
      exact ⟨nofun, apart_value item _ (followsNumber_continued _ (.inl rfl) _)
        (apart_items items rest apart)⟩
  | object [], rest, follows, apart => by
      rw [lexemes]
      exact ⟨nofun, nofun, apart⟩
  | object ((name, value) :: members), rest, follows, apart => by
      rw [lexemes, memberLexemes, joined, List.cons_append, List.append_assoc, List.append_assoc,
        List.singleton_append]
      exact ⟨nofun, nofun, nofun, apart_value value _ (followsNumber_continued _ (.inr rfl) _)
        (apart_members members rest apart)⟩

/-- Nor do they among the lexemes of the items that follow others. -/
theorem apart_items :
    (items : List Json) -> (rest : List Lexeme) -> Apart rest ->
      Apart (continued (itemLexemes items) ++ .closeArray :: rest)
  | [], rest, apart => ⟨nofun, apart⟩
  | item :: items, rest, apart => by
      rw [itemLexemes, continued, List.flatMap_cons, List.append_assoc, List.cons_append]
      exact ⟨nofun, apart_value item _ (followsNumber_continued _ (.inl rfl) _)
        (apart_items items rest apart)⟩

theorem apart_members :
    (members : List (Option String × Json)) -> (rest : List Lexeme) -> Apart rest ->
      Apart (continued (memberLexemes members) ++ .closeObject :: rest)
  | [], rest, apart => ⟨nofun, apart⟩
  | (name, value) :: members, rest, apart => by
      rw [memberLexemes, continued, List.flatMap_cons, List.append_assoc, List.cons_append]
      exact ⟨nofun, nofun, nofun, apart_value value _ (followsNumber_continued _ (.inr rfl) _)
        (apart_members members rest apart)⟩

end

/-- From every text of a value the reader gets the value. -/
theorem parse_of_writes
    {value : Json}
    {text : String}
    (writes : value.Writes text) :
    parse text = some value := by
  have apart := apart_value value [] nofun trivial
  rw [List.append_nil] at apart
  rw [parse, lex_of_written writes apart]
  exact ofLexemes_lexemes value

/-! ## Writing -/

mutual

/-- Every number within a value has a numeral that it may be written with. -/
def Proper : Json -> Prop
  | number numeral => numeral.Proper
  | array items => ItemsProper items
  | object members => MembersProper members
  | _ => True

def ItemsProper : List Json -> Prop
  | [] => True
  | item :: rest => item.Proper ∧ ItemsProper rest

def MembersProper : List (Option String × Json) -> Prop
  | [] => True
  | (_, value) :: rest => value.Proper ∧ MembersProper rest

end

theorem itemsProper_of_forall
    {items : List Json}
    (each : ∀ item ∈ items, item.Proper) :
    ItemsProper items := by
  induction items with
  | nil => trivial
  | cons item items inductionHypothesis =>
      exact ⟨each item List.mem_cons_self,
        inductionHypothesis fun item present => each item (List.mem_cons_of_mem _ present)⟩

/-- A control character is its code in four digits. -/
theorem written_controlEscape
    {char : Char}
    (control : char.toNat < 0x20) :
    Unit16.Written (.char char) (controlEscape char) := by
  have high := Hex.digitValue?_digit (char.toNat / 16) (by omega)
  have low := Hex.digitValue?_digit (char.toNat % 16) (by omega)
  have zero : Hex.digitValue? '0' = some 0 := rfl
  have whole : ((0 * 16 + 0) * 16 + char.toNat / 16) * 16 + char.toNat % 16 = char.toNat := by
    omega
  have digits : hexWord? '0' '0' (Hex.digit (char.toNat / 16)) (Hex.digit (char.toNat % 16)) =
      some char.toNat := by
    simp only [hexWord?, zero, high, low, whole]
  have unit : unitOfWord char.toNat = .char char := by
    rw [unitOfWord, if_neg (by omega), if_neg (by omega), Char.ofNat_toNat]
  have written := Unit16.Written.word digits
  rw [unit] at written
  exact written

/-- Every character of a string is written as itself or as an escape. -/
theorem written_escape (char : Char) : Unit16.Written (.char char) (escape char) := by
  unfold escape
  split_ifs with quote backslash newline back tab backspace feed control
  · exact .short (by rw [quote]; rfl)
  · exact .short (by rw [backslash]; rfl)
  · exact .short (by rw [newline]; rfl)
  · exact .short (by rw [back]; rfl)
  · exact .short (by rw [tab]; rfl)
  · exact .short (by rw [← Char.ofNat_toNat char, backspace]; rfl)
  · exact .short (by rw [← Char.ofNat_toNat char, feed]; rfl)
  · exact written_controlEscape control
  · exact .plain quote backslash (Nat.not_lt.mp control)

theorem unitsWritten_flatMap_escape (chars : List Char) :
    UnitsWritten (chars.map .char) (chars.flatMap escape) := by
  induction chars with
  | nil => exact .nil
  | cons char chars inductionHypothesis =>
      rw [List.map_cons, List.flatMap_cons]
      exact .cons (written_escape char) inductionHypothesis

theorem joinUnits_chars (reversed chars : List Char) :
    joinUnits reversed (chars.map .char) = some (reversed.reverse ++ chars) := by
  induction chars generalizing reversed with
  | nil => rw [List.map_nil, joinUnits, List.append_nil]
  | cons char chars inductionHypothesis =>
      rw [List.map_cons, joinUnits, inductionHypothesis, List.reverse_cons, List.append_assoc,
        List.singleton_append]

/-- A quoted string is one way to write the string. -/
theorem written_quoted (text : Option String) : (Lexeme.string text).Written (quoted text) := by
  cases text with
  | none =>
      have half : hexWord? 'd' '8' '0' '0' = some 0xD800 := rfl
      exact .string (.cons (.word half) .nil)
  | some text =>
      have written := Lexeme.Written.string (unitsWritten_flatMap_escape text.toList)
      rw [textOfUnits, joinUnits_chars] at written
      simp only [List.reverse_nil, List.nil_append, Option.map_some, String.ofList_toList] at written
      exact written

/-- Parts of a text that follow others, each after a comma. -/
def continuedChars (parts : List (List Char)) : List Char :=
  parts.flatMap (',' :: ·)

theorem separated_cons (first : List Char) (rest : List (List Char)) :
    separated (first :: rest) = first ++ continuedChars rest := by
  induction rest generalizing first with
  | nil => simp [separated, continuedChars]
  | cons second rest inductionHypothesis =>
      have later := inductionHypothesis second
      rw [separated] at later
      rw [separated, List.intersperse_cons_cons, List.flatten_cons, List.flatten_cons, later]
      rfl

/-- A lexeme of one character is written before others. -/
theorem Written.single
    {lexeme : Lexeme}
    {char : Char}
    {lexemes : List Lexeme}
    {chars : List Char}
    (first : lexeme.Written [char])
    (rest : Written lexemes chars) :
    Written (lexeme :: lexemes) (char :: chars) :=
  .lexeme first rest

mutual

/-- The characters of a value write its lexemes, whatever is written after them. -/
theorem written_value :
    (value : Json) -> value.Proper -> (after : List Lexeme) -> (rest : List Char) ->
      Written after rest -> Written (lexemes value ++ after) (chars value ++ rest)
  | null, proper, after, rest, written => by
      rw [lexemes, chars]
      exact .lexeme .null written
  | bool true, proper, after, rest, written => by
      rw [lexemes, chars]
      exact .lexeme .true written
  | bool false, proper, after, rest, written => by
      rw [lexemes, chars]
      exact .lexeme .false written
  | number numeral, proper, after, rest, written => by
      rw [Proper] at proper
      rw [lexemes, chars]
      exact .lexeme (.number proper.written) written
  | string text, proper, after, rest, written => by
      rw [lexemes, chars]
      exact .lexeme (written_quoted text) written
  | array [], proper, after, rest, written => by
      rw [lexemes, chars]
      exact .single .openArray (.single .closeArray written)
  | array (item :: items), proper, after, rest, written => by
      rw [Proper, ItemsProper] at proper
      rw [lexemes, itemLexemes, joined, chars, itemChars, separated_cons]
      simp only [List.cons_append, List.append_assoc, List.nil_append]
      exact .single .openArray (written_value item proper.1 _ _
        (written_items items proper.2 _ _ (.single .closeArray written)))
  | object [], proper, after, rest, written => by
      rw [lexemes, chars]
      exact .single .openObject (.single .closeObject written)
  | object ((name, value) :: members), proper, after, rest, written => by
      rw [Proper, MembersProper] at proper
      rw [lexemes, memberLexemes, joined, chars, memberChars, separated_cons]
      simp only [List.cons_append, List.append_assoc, List.nil_append]
      exact .single .openObject (.lexeme (written_quoted name) (.single .colon
        (written_value value proper.1 _ _
          (written_members members proper.2 _ _ (.single .closeObject written)))))

theorem written_items :
    (items : List Json) -> ItemsProper items -> (after : List Lexeme) -> (rest : List Char) ->
      Written after rest ->
        Written (continued (itemLexemes items) ++ after) (continuedChars (itemChars items) ++ rest)
  | [], proper, after, rest, written => written
  | item :: items, proper, after, rest, written => by
      rw [ItemsProper] at proper
      rw [itemLexemes, itemChars, continued, continuedChars, List.flatMap_cons, List.flatMap_cons]
      simp only [List.cons_append, List.append_assoc]
      exact .single .comma (written_value item proper.1 _ _
        (written_items items proper.2 _ _ written))

theorem written_members :
    (members : List (Option String × Json)) -> MembersProper members ->
      (after : List Lexeme) -> (rest : List Char) -> Written after rest ->
        Written (continued (memberLexemes members) ++ after)
          (continuedChars (memberChars members) ++ rest)
  | [], proper, after, rest, written => written
  | (name, value) :: members, proper, after, rest, written => by
      rw [MembersProper] at proper
      rw [memberLexemes, memberChars, continued, continuedChars, List.flatMap_cons,
        List.flatMap_cons]
      simp only [List.cons_append, List.append_assoc]
      exact .single .comma (.lexeme (written_quoted name) (.single .colon
        (written_value value proper.1 _ _ (written_members members proper.2 _ _ written))))

end

/-- The writer writes one of the texts of a value. -/
theorem writes_print
    {value : Json}
    (proper : value.Proper) :
    value.Writes (print value) := by
  have written := written_value value proper [] [] .done
  rw [List.append_nil, List.append_nil] at written
  rw [Writes, print, String.toList_ofList]
  exact written

end MallFabric.Json
