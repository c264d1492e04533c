import MallFabric.Json.Printer
import MallFabric.Proofs.Number.Numeral

/-!
# The grammar of JSON texts

A JSON text is a sequence of lexemes with blanks before, between and after them.  A lexeme
may be written in more than one way: a character of a string as itself or as one of its
escapes, an exponent with either letter and with a plus sign.  Whatever way is taken, the
lexemes are cut off the text as they were meant, as long as no two numbers stand side by
side.
-/

namespace MallFabric

/-! ## Numbers -/

/-- The signs that an exponent may have. -/
def Exponent.signs : Bool -> List (List Char)
  | true => [['-']]
  | false => [[], ['+']]

/-- How the exponent of a number may be written. -/
inductive Exponent.Written : Option Exponent -> List Char -> Prop where
  | absent : Written none []
  | given {mark negative sign digits}
      (marks : mark = 'e' ∨ mark = 'E')
      (signs : sign ∈ signs negative)
      (present : digits ≠ []) :
      Written (some ⟨negative, digits⟩) (mark :: (sign ++ digits.map Digit.toChar))

namespace Numeral

/-- The digits after the point, and the point. -/
def fractionChars : List Digit -> List Char
  | [] => []
  | first :: rest => '.' :: (first :: rest).map Digit.toChar

/-- How a number may be written. -/
inductive Written : Numeral -> List Char -> Prop where
  | intro {negative whole fraction exponent tail}
      (leads : Digit.Leads whole)
      (exponents : Exponent.Written exponent tail) :
      Written ⟨negative, whole, fraction, exponent⟩
        ((if negative then ['-'] else []) ++
          (whole.map Digit.toChar ++ (fractionChars fraction ++ tail)))

/-- The sign and the digits of an exponent, and its letter. -/
def exponentChars : Option Exponent -> List Char
  | none => []
  | some ⟨negative, digits⟩ =>
      'e' :: ((if negative then ['-'] else []) ++ digits.map Digit.toChar)

theorem chars_eq (numeral : Numeral) :
    numeral.chars = (if numeral.negative then ['-'] else []) ++
      (numeral.whole.map Digit.toChar ++
        (fractionChars numeral.fraction ++ exponentChars numeral.exponent)) := by
  obtain ⟨negative, whole, fraction, exponent⟩ := numeral
  have fractions : (if fraction = [] then [] else '.' :: fraction.map Digit.toChar) =
      fractionChars fraction := by
    cases fraction with
    | nil => rfl
    | cons first rest => rfl
  have signed : ∀ chars : List Char,
      (if negative then '-' :: chars else chars) = (if negative then ['-'] else []) ++ chars := by
    intro chars
    cases negative with
    | true => rfl
    | false => rfl
  rw [chars, unsignedChars, signed, List.append_assoc, fractions]
  cases exponent with
  | none => rfl
  | some exponent => rfl

/-- A numeral as text is one way to write the number. -/
theorem Proper.written
    {numeral : Numeral}
    (proper : numeral.Proper) :
    Written numeral numeral.chars := by
  rw [chars_eq]
  refine .intro proper.whole ?_
  cases given : numeral.exponent with
  | none => exact .absent
  | some exponent =>
      refine .given (.inl rfl) ?_ (proper.exponent exponent given)
      cases exponent.negative with
      | true => exact List.mem_cons_self
      | false => exact List.mem_cons_self

end Numeral

namespace Json

/-! ## Strings -/

/-- How an element of a string may be written. -/
inductive Unit16.Written : Unit16 -> List Char -> Prop where
  | plain {char}
      (quote : char ≠ '"')
      (backslash : char ≠ '\\')
      (visible : 0x20 ≤ char.toNat) :
      Written (.char char) [char]
  | short {escaped char}
      (escapes : shortEscape? escaped = some char) :
      Written (.char char) ['\\', escaped]
  | word {a b c d word}
      (digits : hexWord? a b c d = some word) :
      Written (unitOfWord word) ['\\', 'u', a, b, c, d]

/-- How the elements of a string may be written. -/
inductive UnitsWritten : List Unit16 -> List Char -> Prop where
  | nil : UnitsWritten [] []
  | cons {unit chars units more}
      (first : Unit16.Written unit chars)
      (rest : UnitsWritten units more) :
      UnitsWritten (unit :: units) (chars ++ more)

/-- The text of a string of the given elements. -/
def textOfUnits (units : List Unit16) : Option String :=
  (joinUnits [] units).map String.ofList

/-! ## Lexemes and texts -/

/-- How a lexeme may be written. -/
inductive Lexeme.Written : Lexeme -> List Char -> Prop where
  | openArray : Written .openArray ['[']
  | closeArray : Written .closeArray [']']
  | openObject : Written .openObject ['\x7b']
  | closeObject : Written .closeObject ['\x7d']
  | comma : Written .comma [',']
  | colon : Written .colon [':']
  | null : Written (.scalar .null) ['n', 'u', 'l', 'l']
  | true : Written (.scalar (.bool true)) ['t', 'r', 'u', 'e']
  | false : Written (.scalar (.bool false)) ['f', 'a', 'l', 's', 'e']
  | number {numeral chars}
      (written : Numeral.Written numeral chars) :
      Written (.scalar (.number numeral)) chars
  | string {units chars}
      (written : UnitsWritten units chars) :
      Written (.string (textOfUnits units)) ('"' :: (chars ++ ['"']))

/-- How a sequence of lexemes may be written. -/
inductive Written : List Lexeme -> List Char -> Prop where
  | done : Written [] []
  | blank {char lexemes chars}
      (between : isBlank char = true)
      (rest : Written lexemes chars) :
      Written lexemes (char :: chars)
  | lexeme {lexeme chars lexemes more}
      (first : lexeme.Written chars)
      (rest : Written lexemes more) :
      Written (lexeme :: lexemes) (chars ++ more)

/-! ## Where a number ends -/

/-- A text that does not go on with a digit. -/
def NoDigit (chars : List Char) : Prop :=
  ∀ char ∈ chars.head?, Digit.ofChar? char = none

/-- A text before which a number may end: it is at its own end, or goes on with a blank, a
comma or the end of an array or object. -/
def Ends (chars : List Char) : Prop :=
  ∀ char ∈ chars.head?, isBlank char = true ∨ char = ',' ∨ char = ']' ∨ char = '\x7d'

theorem takeDigitsAfter_append
    (reversed digits : List Digit)
    {rest : List Char}
    (stops : NoDigit rest) :
    takeDigitsAfter reversed (digits.map Digit.toChar ++ rest) =
      (reversed.reverse ++ digits, rest) := by
  induction digits generalizing reversed with
  | nil =>
      rw [List.append_nil, List.map_nil, List.nil_append]
      cases rest with
      | nil => rfl
      | cons char rest => rw [takeDigitsAfter, stops char rfl]
  | cons digit digits inductionHypothesis =>
      rw [List.map_cons, List.cons_append, takeDigitsAfter, Digit.ofChar?_toChar]
      simp only
      rw [inductionHypothesis, List.reverse_cons, List.append_assoc, List.singleton_append]

theorem takeDigits_append
    (digits : List Digit)
    {rest : List Char}
    (stops : NoDigit rest) :
    takeDigits (digits.map Digit.toChar ++ rest) = (digits, rest) :=
  takeDigitsAfter_append [] digits stops

theorem takeWhole_append
    {whole : List Digit}
    (leads : Digit.Leads whole)
    {rest : List Char}
    (stops : NoDigit rest) :
    takeWhole (whole.map Digit.toChar ++ rest) = some (whole, rest) := by
  cases whole with
  | nil => cases leads
  | cons first others =>
      by_cases zero : first = 0
      · obtain ⟨alone⟩ := leads
        obtain rfl := alone zero
        subst zero
        rfl
      · have taken := takeDigits_append (first :: others) stops
        unfold takeWhole
        split
        · next same =>
            exact absurd (List.cons.inj same).1 (Digit.toChar_ne_zero first zero)
        · rw [taken]

/-- What may follow the digits of the fraction. -/
structure NoFraction (chars : List Char) : Prop where
  digit : NoDigit chars
  point : chars.head? ≠ some '.'

theorem takeFraction_append
    (fraction : List Digit)
    {rest : List Char}
    (stops : NoFraction rest) :
    takeFraction (Numeral.fractionChars fraction ++ rest) = some (fraction, rest) := by
  cases fraction with
  | nil =>
      unfold Numeral.fractionChars takeFraction
      split
      · next same =>
          rw [List.nil_append] at same
          exact absurd (by rw [same]; rfl) stops.point
      · rfl
  | cons first others =>
      have taken := takeDigits_append (first :: others) stops.digit
      rw [Numeral.fractionChars, List.cons_append, takeFraction, taken]

namespace Ends

variable {rest : List Char}

theorem noDigit
    (ends : Ends rest) :
    NoDigit rest := by
  intro char first
  have others := ends char first
  simp only [isBlank, Bool.or_eq_true, decide_eq_true_eq] at others
  rcases others with (((rfl | rfl) | rfl) | rfl) | rfl | rfl | rfl
  all_goals rfl

theorem head?_ne
    (ends : Ends rest)
    {char : Char}
    (inside : char = '.' ∨ char = 'e' ∨ char = 'E') :
    rest.head? ≠ some char := by
  intro first
  have others := ends char first
  rcases inside with rfl | rfl | rfl
  all_goals revert others; decide

end Ends

theorem takeSign_append
    {negative : Bool}
    {sign : List Char}
    (signs : sign ∈ Exponent.signs negative)
    {digits : List Digit}
    (present : digits ≠ [])
    (rest : List Char) :
    takeSign (sign ++ (digits.map Digit.toChar ++ rest)) =
      (negative, digits.map Digit.toChar ++ rest) := by
  cases negative with
  | true =>
      obtain rfl := List.mem_singleton.mp signs
      rfl
  | false =>
      rcases List.mem_cons.mp signs with rfl | plus
      · cases digits with
        | nil => exact absurd rfl present
        | cons first others =>
            obtain ⟨minus, plus⟩ := Digit.toChar_ne_sign first
            unfold takeSign
            split
            · next same => exact absurd (List.cons.inj same).1 minus
            · next same => exact absurd (List.cons.inj same).1 plus
            · rfl
      · obtain rfl := List.mem_singleton.mp plus
        rfl

theorem takeExponent_append
    {exponent : Option Exponent}
    {tail rest : List Char}
    (written : Exponent.Written exponent tail)
    (ends : Ends rest) :
    takeExponent (tail ++ rest) = some (exponent, rest) := by
  cases written with
  | absent =>
      cases rest with
      | nil => rfl
      | cons char rest =>
          have other : ¬ (char = 'e' ∨ char = 'E') := by
            rintro (rfl | rfl)
            · exact ends.head?_ne (.inr (.inl rfl)) rfl
            · exact ends.head?_ne (.inr (.inr rfl)) rfl
          rw [List.nil_append, takeExponent, if_neg other]
  | @given mark negative sign digits marks signs present =>
      have taken := takeDigits_append digits ends.noDigit
      rw [List.cons_append, takeExponent, if_pos marks, List.append_assoc]
      simp only [takeSign_append signs present, taken]

theorem noFraction_append
    {exponent : Option Exponent}
    {tail rest : List Char}
    (written : Exponent.Written exponent tail)
    (ends : Ends rest) :
    NoFraction (tail ++ rest) := by
  cases written with
  | absent => exact ⟨ends.noDigit, ends.head?_ne (.inl rfl)⟩
  | given marks signs present =>
      refine ⟨?_, ?_⟩
      · rintro char ⟨⟩
        rcases marks with rfl | rfl
        · rfl
        · rfl
      · rcases marks with rfl | rfl
        · exact nofun
        · exact nofun

theorem noDigit_append
    (fraction : List Digit)
    {rest : List Char}
    (stops : NoFraction rest) :
    NoDigit (Numeral.fractionChars fraction ++ rest) := by
  cases fraction with
  | nil => exact stops.digit
  | cons first others =>
      rintro char ⟨⟩
      rfl

/-- A number is taken off the front of a text, whatever way it is written. -/
theorem takeNumeral_append
    {numeral : Numeral}
    {chars : List Char}
    (written : numeral.Written chars)
    {rest : List Char}
    (ends : Ends rest) :
    takeNumeral (chars ++ rest) = some (numeral, rest) := by
  obtain @⟨negative, whole, fraction, exponent, tail, leads, exponents⟩ := written
  have stops := noFraction_append exponents ends
  have wholes := takeWhole_append leads (noDigit_append fraction stops)
  have fractions := takeFraction_append fraction stops
  have last := takeExponent_append exponents ends
  simp only [List.append_assoc]
  unfold takeNumeral
  extract_lets signed
  have sign : signed = (negative,
      whole.map Digit.toChar ++ (Numeral.fractionChars fraction ++ (tail ++ rest))) := by
    unfold signed
    cases negative with
    | true => rfl
    | false =>
        cases whole with
        | nil => cases leads
        | cons first others =>
            split
            · next same => exact absurd (List.cons.inj same).1 (Digit.toChar_ne_sign first).1
            · rfl
  simp only [sign, wholes, fractions, last]

/-! ## Cutting a text into lexemes -/

/-- The elements of a string are taken up to the closing quote, whatever way they are
written. -/
theorem takeUnits_append
    {units : List Unit16}
    {chars : List Char}
    (written : UnitsWritten units chars)
    (reversed : List Unit16)
    (rest : List Char) :
    takeUnits reversed (chars ++ '"' :: rest) = some (reversed.reverse ++ units, rest) := by
  induction written generalizing reversed with
  | nil =>
      rw [List.append_nil, List.nil_append, takeUnits]
  | @cons unit spelled units more first others inductionHypothesis =>
      have later := inductionHypothesis (unit :: reversed)
      rw [List.reverse_cons, List.append_assoc, List.singleton_append] at later
      rw [List.append_assoc]
      cases first with
      | plain quote backslash visible =>
          rw [List.singleton_append, takeUnits, if_neg (not_or.mpr ⟨backslash, Nat.not_lt.mpr visible⟩)]
          · exact later
          · exact quote
          · exact fun _ _ _ _ _ same => absurd same backslash
          · exact fun _ _ same => absurd same backslash
      | @short escaped char escapes =>
          have long : escaped ≠ 'u' := by
            rintro rfl
            cases escapes
          rw [List.cons_append, List.singleton_append, takeUnits, escapes]
          · exact later
          · exact fun _ _ _ _ _ same => absurd same long
      | word digits =>
          simp only [List.cons_append, List.nil_append, takeUnits, digits]
          exact later

theorem takeString_append
    {units : List Unit16}
    {chars : List Char}
    (written : UnitsWritten units chars)
    (rest : List Char) :
    takeString (chars ++ '"' :: rest) = some (textOfUnits units, rest) := by
  rw [takeString, takeUnits_append written]
  rfl

/-- Whether a number may start with a character. -/
def startsNumber (char : Char) : Bool :=
  char = '-' || (Digit.ofChar? char).isSome

theorem exists_cons_of_number
    {numeral : Numeral}
    {chars : List Char}
    (written : numeral.Written chars) :
    ∃ first rest, chars = first :: rest ∧ startsNumber first = true := by
  obtain @⟨negative, whole, fraction, exponent, tail, leads, exponents⟩ := written
  cases negative with
  | true => exact ⟨_, _, rfl, rfl⟩
  | false =>
      cases whole with
      | nil => cases leads
      | cons first others =>
          refine ⟨_, _, rfl, ?_⟩
          rw [startsNumber, Digit.ofChar?_toChar, Option.isSome_some, Bool.or_true]

/-- Where no other lexeme starts, a number is taken. -/
theorem takeLexeme_of_startsNumber
    {first : Char}
    (starts : startsNumber first = true)
    (rest : List Char) :
    takeLexeme (first :: rest) =
      (takeNumeral (first :: rest)).map fun taken => (.scalar (.number taken.1), taken.2) := by
  rw [takeLexeme.eq_def]
  split
  case h_11 => rfl
  all_goals
    next same =>
      obtain ⟨rfl, -⟩ := List.cons.inj same
      exact absurd starts (by decide)

/-- A lexeme is a number. -/
def Lexeme.IsNumber : Lexeme -> Prop
  | .scalar (.number _) => True
  | _ => False

/-- A lexeme is taken off the front of a text, if the text goes on as it may after a
number. -/
theorem takeLexeme_append
    {lexeme : Lexeme}
    {chars : List Char}
    (written : lexeme.Written chars)
    {rest : List Char}
    (ends : lexeme.IsNumber -> Ends rest) :
    takeLexeme (chars ++ rest) = some (lexeme, rest) := by
  cases written with
  | @number numeral chars written =>
      have taken := takeNumeral_append written (ends trivial)
      obtain ⟨first, others, rfl, starts⟩ := exists_cons_of_number written
      rw [List.cons_append] at taken ⊢
      rw [takeLexeme_of_startsNumber starts, taken]
      rfl
  | @string units chars written =>
      rw [List.cons_append, List.append_assoc, List.singleton_append, takeLexeme,
        takeString_append written]
      rfl
  | _ => rfl

/-- A written lexeme starts with no blank. -/
theorem Lexeme.Written.exists_cons
    {lexeme : Lexeme}
    {chars : List Char}
    (written : lexeme.Written chars) :
    ∃ first rest, chars = first :: rest ∧ isBlank first = Bool.false := by
  cases written with
  | number written =>
      obtain ⟨first, rest, rfl, starts⟩ := exists_cons_of_number written
      refine ⟨first, rest, rfl, ?_⟩
      by_contra blank
      simp only [isBlank, Bool.not_eq_false, Bool.or_eq_true, decide_eq_true_eq] at blank
      rcases blank with ((rfl | rfl) | rfl) | rfl
      all_goals exact absurd starts (by decide)
  | string written => exact ⟨_, _, rfl, rfl⟩
  | _ => exact ⟨_, _, rfl, rfl⟩

/-- What may follow a number among the lexemes of a text: a comma, the end of an array or
object, or nothing. -/
def FollowsNumber (lexemes : List Lexeme) : Prop :=
  ∀ lexeme ∈ lexemes.head?, lexeme = .comma ∨ lexeme = .closeArray ∨ lexeme = .closeObject

/-- No two numbers stand side by side. -/
def Apart : List Lexeme -> Prop
  | [] => True
  | lexeme :: rest => (lexeme.IsNumber -> FollowsNumber rest) ∧ Apart rest

/-- Where nothing but a comma or an end follows, the text goes on as it may after a number. -/
theorem Written.ends
    {lexemes : List Lexeme}
    {chars : List Char}
    (written : Written lexemes chars)
    (follows : FollowsNumber lexemes) :
    Ends chars := by
  cases written with
  | done => exact nofun
  | blank between rest =>
      rintro char ⟨⟩
      exact .inl between
  | lexeme first rest =>
      rcases follows _ rfl with rfl | rfl | rfl
      all_goals
        cases first
        rintro char ⟨⟩
      · exact .inr (.inl rfl)
      · exact .inr (.inr (.inl rfl))
      · exact .inr (.inr (.inr rfl))

theorem lexAfter_of_written
    {lexemes : List Lexeme}
    {chars : List Char}
    (written : Written lexemes chars)
    (apart : Apart lexemes)
    (reversed : List Lexeme)
    {fuel : Nat}
    (enough : chars.length ≤ fuel) :
    lexAfter reversed fuel chars = some (reversed.reverse ++ lexemes) := by
  induction written generalizing reversed fuel with
  | done =>
      rw [List.append_nil, lexAfter]
  | @blank char lexemes chars between rest inductionHypothesis =>
      cases fuel with
      | zero => cases enough
      | succ fuel =>
          rw [lexAfter, if_pos between]
          exact inductionHypothesis apart reversed (Nat.le_of_succ_le_succ enough)
  | @lexeme lexeme chars lexemes more first rest inductionHypothesis =>
      obtain ⟨numbers, others⟩ := apart
      have taken := takeLexeme_append first fun number => rest.ends (numbers number)
      obtain ⟨char, spelled, rfl, blank⟩ := first.exists_cons
      rw [List.cons_append] at taken enough ⊢
      cases fuel with
      | zero => cases enough
      | succ fuel =>
          have left : more.length ≤ fuel := by
            rw [List.length_cons, List.length_append] at enough
            omega
          rw [lexAfter, if_neg (by rw [blank]; exact Bool.false_ne_true), taken]
          simp only
          rw [inductionHypothesis others _ left, List.reverse_cons, List.append_assoc,
            List.singleton_append]

/-- The lexemes of a text are those that it writes. -/
theorem lex_of_written
    {lexemes : List Lexeme}
    {chars : List Char}
    (written : Written lexemes chars)
    (apart : Apart lexemes) :
    lex chars = some lexemes :=
  lexAfter_of_written written apart [] (Nat.le_refl _)

end Json

end MallFabric
