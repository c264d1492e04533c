import MallFabric.Grpc.Metadata
import MallFabric.Proofs.Number.Numeral
import MallFabric.Proofs.Text.Utf8
import Mathlib.Data.List.Induction
import Mathlib.Data.Nat.Digits.Defs

/-!
# The time that a caller waits

The header of a call says how long its caller waits: digits, eight at most, and the letter of
a unit.  A text of this form is read as exactly the time that it writes, and no other text is
read, but for one kind: a plus sign is taken in the place of the first digit.  A text that ends
in a character of several bytes is cut within it, which aborts; no header that is text does.
-/

namespace MallFabric

/-- The number that digits write has them as its digits, the last one first. -/
theorem Digit.number_eq_ofDigits (digits : List Digit) :
    number digits = Nat.ofDigits 10 (digits.map Fin.val).reverse := by
  induction digits using List.reverseRecOn with
  | nil => rfl
  | append_singleton digits last inductionHypothesis =>
      rw [number_append_singleton, inductionHypothesis, List.map_append, List.reverse_append,
        List.map_singleton, List.reverse_singleton, List.singleton_append, Nat.ofDigits_cons]
      omega

/-- Digits write a number that has no more of them. -/
theorem Digit.number_lt (digits : List Digit) : number digits < 10 ^ digits.length := by
  rw [number_eq_ofDigits]
  have below : ∀ value ∈ (digits.map Fin.val).reverse, value < 10 := by
    intro value present
    obtain ⟨digit, -, rfl⟩ := List.mem_map.mp (List.mem_reverse.mp present)
    exact digit.isLt
  simpa using Nat.ofDigits_lt_base_pow_length (by decide) below

namespace Grpc

/-- The letters of the units of time, and how many nanoseconds each has. -/
inductive IsUnit : Char -> Duration -> Prop where
  | hour : IsUnit 'H' (3600 * 10 ^ 9)
  | minute : IsUnit 'M' (60 * 10 ^ 9)
  | second : IsUnit 'S' (10 ^ 9)
  | millisecond : IsUnit 'm' (10 ^ 6)
  | microsecond : IsUnit 'u' (10 ^ 3)
  | nanosecond : IsUnit 'n' 1

/-- A time is written with some digits, `most` of them at most, and the letter of a unit: it
is the decimal value of the digits in this unit. -/
inductive Written (most : Nat) : List Char -> Duration -> Prop where
  | intro {digits : List Digit} {letter : Char} {unit : Duration}
      (nonempty : digits ≠ [])
      (few : digits.length ≤ most)
      (measure : IsUnit letter unit) :
      Written most (digits.map Digit.toChar ++ [letter])
        (Nat.ofDigits 10 (digits.map Fin.val).reverse * unit)

theorem one_lt_utf8Size_iff {char : Char} : 1 < char.utf8Size ↔ 0x80 ≤ char.toNat := by
  have positive := char.utf8Size_pos
  have single : char.utf8Size = 1 ↔ char.toNat ≤ 127 :=
    Char.utf8Size_eq_one_iff.trans UInt32.le_iff_toNat_le
  omega

theorem unitLength?_eq_some_iff
    {letter : Char}
    {unit : Duration} :
    unitLength? letter = some unit ↔ IsUnit letter unit := by
  constructor
  · intro measured
    unfold unitLength? at measured
    split at measured
    all_goals cases measured
    · exact .hour
    · exact .minute
    · exact .second
    · exact .millisecond
    · exact .microsecond
    · exact .nanosecond
  · rintro (_ | _ | _ | _ | _ | _) <;> rfl

theorem written_concat_iff
    {most : Nat}
    {chars : List Char}
    {letter : Char}
    {span : Duration} :
    Written most (chars ++ [letter]) span ↔
      ∃ digits unit, chars = digits.map Digit.toChar ∧ digits ≠ [] ∧ digits.length ≤ most ∧
        IsUnit letter unit ∧ Digit.number digits * unit = span := by
  constructor
  · intro written
    generalize ends : chars ++ [letter] = all at written
    obtain ⟨nonempty, few, measure⟩ := written
    obtain ⟨rfl, same⟩ := List.append_inj' ends rfl
    cases same
    exact ⟨_, _, rfl, nonempty, few, measure, by rw [Digit.number_eq_ofDigits]⟩
  · rintro ⟨digits, unit, rfl, nonempty, few, measure, rfl⟩
    rw [Digit.number_eq_ofDigits]
    exact .intro nonempty few measure

theorem not_written_nil
    {most : Nat}
    {span : Duration} :
    ¬ Written most [] span := by
  intro written
  generalize empty : [] = all at written
  obtain ⟨nonempty, few, measure⟩ := written
  exact absurd empty (by simp)

/-- A time is written with digits from its first character on. -/
theorem Written.head?_ne
    {most : Nat}
    {chars : List Char}
    {span : Duration}
    (written : Written most chars span) :
    chars.head? ≠ some '+' := by
  obtain ⟨nonempty, -, -⟩ := written
  next digits letter unit =>
    cases digits with
    | nil => exact absurd rfl nonempty
    | cons digit digits => simp [(Digit.toChar_ne_sign digit).2]

theorem IsUnit.le
    {letter : Char}
    {unit : Duration}
    (measure : IsUnit letter unit) :
    unit ≤ 3600 * 10 ^ 9 := by
  cases measure <;> decide

/-- The longest times are those of eight digits in hours. -/
theorem Written.lt
    {most : Nat}
    {chars : List Char}
    {span : Duration}
    (written : Written most chars span)
    (few : most ≤ 8) :
    span < 10 ^ 8 * (3600 * 10 ^ 9) := by
  obtain ⟨-, fewer, measure⟩ := written
  next digits letter unit =>
    rw [← Digit.number_eq_ofDigits]
    have count : Digit.number digits < 10 ^ 8 :=
      (Digit.number_lt digits).trans_le (Nat.pow_le_pow_right (by decide) (fewer.trans few))
    calc
      Digit.number digits * unit ≤ Digit.number digits * (3600 * 10 ^ 9) :=
        Nat.mul_le_mul_left _ measure.le
      _ < 10 ^ 8 * (3600 * 10 ^ 9) := Nat.mul_lt_mul_of_pos_right count (by decide)

/-! ## Reading -/

/-- Characters are read as a number exactly if they are digits that write it. -/
theorem readDigits_eq_some_iff
    {chars : List Char}
    {count : Nat} :
    (if chars = [] then none else (chars.mapM Digit.ofChar?).map Digit.number) = some count ↔
      ∃ digits, chars = digits.map Digit.toChar ∧ digits ≠ [] ∧ Digit.number digits = count := by
  split
  · next empty => simp [empty]
  · next filled =>
      simp only [Option.map_eq_some_iff, Digit.mapM_ofChar?_eq_some_iff]
      constructor
      · rintro ⟨digits, rfl, number⟩
        exact ⟨digits, rfl, by simpa using filled, number⟩
      · rintro ⟨digits, rfl, -, number⟩
        exact ⟨digits, rfl, number⟩

/-- A number without a plus sign is read from its digits. -/
theorem readCount?_eq_some_iff
    {chars : List Char}
    {count : Nat}
    (unsigned : chars.head? ≠ some '+') :
    readCount? chars = some count ↔
      ∃ digits, chars = digits.map Digit.toChar ∧ digits ≠ [] ∧ Digit.number digits = count := by
  have same : readCount? chars =
      if chars = [] then none else (chars.mapM Digit.ofChar?).map Digit.number := by
    simp only [readCount?]
    split
    · exact absurd rfl unsigned
    · rfl
  rw [same]
  exact readDigits_eq_some_iff

/-- A plus sign before a number is passed over. -/
theorem readCount?_plus_eq_some_iff
    {chars : List Char}
    {count : Nat} :
    readCount? ('+' :: chars) = some count ↔
      ∃ digits, chars = digits.map Digit.toChar ∧ digits ≠ [] ∧ Digit.number digits = count :=
  readDigits_eq_some_iff

/-- A number is read from single bytes. -/
theorem single_of_readCount?
    {chars : List Char}
    {count : Nat}
    (counted : readCount? chars = some count) :
    ∀ char ∈ chars, char.utf8Size = 1 := by
  have digitsSingle : ∀ digits : List Digit, ∀ char ∈ digits.map Digit.toChar,
      char.utf8Size = 1 := by
    intro digits
    have each : ∀ digit : Digit, digit.toChar.utf8Size = 1 := by decide
    exact List.forall_mem_map.mpr fun digit _ => each digit
  by_cases sign : chars.head? = some '+'
  · obtain ⟨rest, rfl⟩ := List.head?_eq_some_iff.mp sign
    obtain ⟨digits, rfl, -, -⟩ := readCount?_plus_eq_some_iff.mp counted
    exact List.forall_mem_cons.mpr ⟨rfl, digitsSingle digits⟩
  · obtain ⟨digits, rfl, -, -⟩ := (readCount?_eq_some_iff sign).mp counted
    exact digitsSingle digits

theorem IsUnit.utf8Size_eq
    {letter : Char}
    {unit : Duration}
    (measure : IsUnit letter unit) :
    letter.utf8Size = 1 := by
  cases measure <;> rfl

theorem readTimeout_of_empty
    {text : String}
    (empty : text.toList = []) :
    readTimeout text = .ended none := by
  obtain rfl := String.toList_eq_nil_iff.mp empty
  rfl

/-- A number and the letter of a unit are as many bytes as characters. -/
theorem size_of_readCount?
    {text : String}
    {chars : List Char}
    {letter : Char}
    {count : Nat}
    {unit : Duration}
    (ends : text.toList = chars ++ [letter])
    (counted : readCount? chars = some count)
    (measure : IsUnit letter unit) :
    text.utf8ByteSize = chars.length + 1 := by
  have single : ∀ char ∈ text.toList, char.utf8Size = 1 := by
    rw [ends, List.forall_mem_append, List.forall_mem_singleton]
    exact ⟨single_of_readCount? counted, measure.utf8Size_eq⟩
  rw [Utf8.size_eq_length single, ends, List.length_append, List.length_singleton]

/-- A time is read from eight characters at most that write a number, and the letter of
a unit. -/
theorem readTimeout_eq_span_iff
    {text : String}
    {chars : List Char}
    {letter : Char}
    {span : Duration}
    (ends : text.toList = chars ++ [letter]) :
    readTimeout text = .ended (some span) ↔
      chars.length ≤ 8 ∧
        ∃ count unit, readCount? chars = some count ∧ IsUnit letter unit ∧ count * unit = span := by
  have front : text.toList.dropLast = chars := by simp [ends]
  have last : text.toList.getLast? = some letter := by simp [ends]
  simp only [readTimeout, front, last, Option.bind_some, Option.any_some, decide_eq_true_eq]
  constructor
  · intro read
    split at read
    · cases read
    · next bounds =>
        split at read
        · cases read
        · split at read
          · next counted measured =>
              cases read
              have measure := unitLength?_eq_some_iff.mp measured
              have bytes := size_of_readCount? ends counted measure
              exact ⟨by omega, _, _, counted, measure, rfl⟩
          · cases read
  · rintro ⟨few, count, unit, counted, measure, rfl⟩
    have filled : chars ≠ [] := by
      rintro rfl
      cases counted
    have positive := List.length_pos_iff.mpr filled
    have bytes := size_of_readCount? ends counted measure
    rw [if_neg (by omega), if_neg (by rw [measure.utf8Size_eq]; decide), counted,
      unitLength?_eq_some_iff.mpr measure]

theorem parseTimeout?_eq_some_iff
    {text : String}
    {span : Duration} :
    parseTimeout? text = some span ↔ readTimeout text = .ended (some span) := by
  unfold parseTimeout?
  cases readTimeout text with
  | aborted => simp
  | ended read => simp

/-- A text is cut within its last character if it has two to nine bytes and this character is
more than one of them. -/
theorem readTimeout_eq_aborted_iff {text : String} :
    readTimeout text = .aborted ↔
      2 ≤ text.utf8ByteSize ∧ text.utf8ByteSize ≤ 9 ∧
        ∃ letter ∈ text.toList.getLast?, 0x80 ≤ letter.toNat := by
  have wide : (text.toList.getLast?.any fun char => 1 < char.utf8Size) = true ↔
      ∃ letter ∈ text.toList.getLast?, 0x80 ≤ letter.toNat := by
    simp only [Option.any_eq_true, Option.mem_def, decide_eq_true_eq, one_lt_utf8Size_iff]
  rw [← wide]
  simp only [readTimeout]
  split
  · next outside =>
      constructor
      · intro read
        cases read
      · rintro ⟨least, most, -⟩
        omega
  · next inside =>
      split
      · next cut => exact ⟨fun _ => ⟨by omega, by omega, cut⟩, fun _ => rfl⟩
      · next whole =>
          constructor
          · intro read
            split at read <;> cases read
          · rintro ⟨-, -, cut⟩
            exact absurd cut whole

/-- What is read as text in a header has single bytes only, so that reading it as a time does
not abort. -/
theorem readTimeout_ne_aborted
    {headers : Headers}
    {name text : String}
    (told : headers.text? name = some text) :
    readTimeout text ≠ .aborted := by
  intro aborted
  obtain ⟨-, -, letter, last, wide⟩ := readTimeout_eq_aborted_iff.mp aborted
  obtain ⟨value, -, visible⟩ := Option.bind_eq_some_iff.mp told
  obtain ⟨allVisible, same⟩ := Option.ite_none_right_eq_some.mp visible
  cases same
  have seen := List.all_eq_true.mp allVisible letter (List.mem_of_getLast? last)
  simp only [Headers.isVisible, Bool.or_eq_true, Bool.and_eq_true, decide_eq_true_eq] at seen
  rcases seen with rfl | ⟨-, below⟩
  · exact absurd wide (by decide)
  · omega

/-- With nothing or a sign before the digits, a time is read exactly if it is written with as
many digits as there is room for behind the sign. -/
theorem parseTimeout?_iff_written
    {text : String}
    {chars : List Char}
    {letter : Char}
    {span : Duration}
    (sign : List Char)
    (ends : text.toList = sign ++ chars ++ [letter])
    (reads : ∀ count, readCount? (sign ++ chars) = some count ↔
      ∃ digits, chars = digits.map Digit.toChar ∧ digits ≠ [] ∧ Digit.number digits = count)
    (short : sign.length ≤ 8) :
    parseTimeout? text = some span ↔ Written (8 - sign.length) (chars ++ [letter]) span := by
  rw [parseTimeout?_eq_some_iff, readTimeout_eq_span_iff ends, written_concat_iff,
    List.length_append]
  constructor
  · rintro ⟨few, count, unit, counted, measure, rfl⟩
    obtain ⟨digits, rfl, nonempty, rfl⟩ := (reads count).mp counted
    rw [List.length_map] at few
    exact ⟨digits, unit, rfl, nonempty, by omega, measure, rfl⟩
  · rintro ⟨digits, unit, rfl, nonempty, few, measure, rfl⟩
    refine ⟨?_, _, unit, (reads _).mpr ⟨digits, rfl, nonempty, rfl⟩, measure, rfl⟩
    rw [List.length_map]
    omega

theorem parseTimeout?_unsigned
    {text : String}
    (unsigned : text.toList.head? ≠ some '+')
    (span : Duration) :
    parseTimeout? text = some span ↔ Written 8 text.toList span := by
  rcases List.eq_nil_or_concat text.toList with empty | ⟨chars, letter, ends⟩
  · rw [parseTimeout?_eq_some_iff, readTimeout_of_empty empty, empty]
    simp [not_written_nil]
  · rw [List.concat_eq_append] at ends
    have plain : chars.head? ≠ some '+' := by
      intro sign
      rw [ends, List.head?_append, sign] at unsigned
      exact unsigned rfl
    rw [ends]
    exact parseTimeout?_iff_written [] ends (fun count => readCount?_eq_some_iff plain)
      (Nat.zero_le _)

theorem parseTimeout?_signed
    {text : String}
    {rest : List Char}
    (signed : text.toList = '+' :: rest)
    (span : Duration) :
    parseTimeout? text = some span ↔ Written 7 rest span := by
  rcases List.eq_nil_or_concat rest with empty | ⟨chars, letter, ends⟩
  · subst empty
    rw [parseTimeout?_eq_some_iff, @readTimeout_eq_span_iff _ [] _ _ signed]
    constructor
    · rintro ⟨-, count, unit, counted, -⟩
      cases counted
    · exact fun written => absurd written not_written_nil
  · rw [List.concat_eq_append] at ends
    rw [ends] at signed ⊢
    exact parseTimeout?_iff_written ['+'] signed
      (fun count => readCount?_plus_eq_some_iff) (by decide)

/-- The deadline of a call is set by the time that its caller waits, if the headers tell it. -/
theorem deadline_of_headers (now : Instant) (headers : Headers) :
    (contextOfHeaders now headers).deadline =
      ((headers.text? timeoutHeader).bind parseTimeout?).map fun span => now + span := by
  unfold contextOfHeaders
  cases (headers.text? timeoutHeader).bind parseTimeout? with
  | none => cases headers.text? requestIdHeader <;> rfl
  | some span => cases headers.text? requestIdHeader <;> rfl

/-- How a text is read as the time that a caller waits. -/
structure ReadsTime (text : String) : Prop where
  /-- Without a plus sign before it a time is read exactly as it is written. -/
  plain : text.toList.head? ≠ some '+' -> ∀ span,
    parseTimeout? text = some span ↔ Written 8 text.toList span
  /-- Behind a plus sign it is read as well, if there is room for it. -/
  signed : ∀ rest, text.toList = '+' :: rest -> ∀ span,
    parseTimeout? text = some span ↔ Written 7 rest span
  /-- The seconds of the time are a 64-bit number. -/
  fits : ∀ span, parseTimeout? text = some span -> span.seconds < UInt64.size
  /-- Reading aborts exactly on two to nine bytes of which the last is not a character. -/
  aborts : readTimeout text = .aborted ↔
    2 ≤ text.utf8ByteSize ∧ text.utf8ByteSize ≤ 9 ∧
      ∃ letter ∈ text.toList.getLast?, 0x80 ≤ letter.toNat
  /-- A header that is text is never such. -/
  ends : ∀ (headers : Headers) (name : String), headers.text? name = some text ->
    readTimeout text ≠ .aborted
  /-- A call with this text in its header has its deadline after the time that is read, and
  none if none is read. -/
  deadline : ∀ now (headers : Headers), headers.text? timeoutHeader = some text ->
    (contextOfHeaders now headers).deadline = (parseTimeout? text).map fun span => now + span

/-- Every text is read so. -/
theorem readsTime (text : String) : ReadsTime text where
  plain := parseTimeout?_unsigned
  signed := fun _ => parseTimeout?_signed
  fits := by
    intro span read
    have bound : span < 10 ^ 8 * (3600 * 10 ^ 9) := by
      by_cases sign : text.toList.head? = some '+'
      · obtain ⟨rest, signed⟩ := List.head?_eq_some_iff.mp sign
        exact ((parseTimeout?_signed signed span).mp read).lt (by decide)
      · exact ((parseTimeout?_unsigned sign span).mp read).lt (Nat.le_refl 8)
    exact Nat.div_lt_of_lt_mul (bound.trans_le (by decide))
  aborts := readTimeout_eq_aborted_iff
  ends := fun _ _ => readTimeout_ne_aborted
  deadline := by
    intro now headers told
    rw [deadline_of_headers, told, Option.bind_some]

/-- Five seconds behind a plus sign are read, but not written as a time. -/
theorem not_written_of_read :
    ¬ ∀ (text : String) (span : Duration),
      parseTimeout? text = some span ↔ Written 8 text.toList span := by
  intro agrees
  have read : parseTimeout? "+5S" = some (Duration.ofSeconds 5) := by decide +kernel
  exact ((agrees _ _).mp read).head?_ne (by decide +kernel)

end Grpc
end MallFabric
