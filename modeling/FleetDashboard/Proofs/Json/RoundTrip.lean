import FleetDashboard.Json.Reader
import FleetDashboard.Json.Writer
import FleetDashboard.Proofs.Text.Digits

/-!
# JSON that is written and read

A value whose strings denote texts and whose number literals are literals of JSON reads
back from its own text.  The reader never needs more fuel than the text is long.
-/

namespace FleetDashboard

open Number Text

/-! ## Strings -/

namespace Json

/-- The piece of a string literal denotes a character, whatever pieces follow it. -/
def Piece.Denotes
    (piece : Piece)
    (character : Char) : Prop :=
  ∀ pieces, joinPieces (piece :: pieces) = (joinPieces pieces).map (character :: ·)

theorem Piece.denotes_character
    (character : Char) :
    (Piece.character character).Denotes character := by
  intro pieces
  rw [joinPieces]

/-- A code unit that is no half of a pair denotes its character also before other code
units. -/
theorem Piece.denotes_codeUnit
    {code : Nat}
    (notHigh : isHighHalf code = false)
    (notLow : isLowHalf code = false) :
    (Piece.codeUnit code).Denotes (Char.ofNat code) := by
  intro pieces
  rcases pieces with _ | ⟨character | low, pieces⟩
  · simp [joinPieces, notHigh, notLow]
  · simp [joinPieces, notHigh, notLow]
  · rw [joinPieces]
    simp [notHigh, notLow]

theorem hexDigit?_hexDigit
    {value : Nat}
    (small : value < 16) :
    hexDigit? (hexDigit value) = some value := by
  have digits : ∀ value < 16, hexDigit? (hexDigit value) = some value := by decide
  exact digits value small

theorem readPieces_letter
    {letter escaped : Char}
    (noCode : letter ≠ 'u')
    (known : escapeCharacter? letter = some escaped)
    (rest : List Char) :
    readPieces ('\\' :: letter :: rest) =
      (readPieces rest).map fun (pieces, rest) => (.character escaped :: pieces, rest) := by
  rw [readPieces, known, Option.bind_eq_bind, Option.bind_some]
  · cases readPieces rest <;> rfl
  · intro first second third fourth behind isCode
    exact absurd isCode noCode

theorem readPieces_code
    {code : Nat}
    (small : code < 256)
    (rest : List Char) :
    readPieces ('\\' :: 'u' :: '0' :: '0' :: hexDigit (code / 16) :: hexDigit (code % 16) :: rest) =
      (readPieces rest).map fun (pieces, rest) => (.codeUnit code :: pieces, rest) := by
  have quad : hexQuad? '0' '0' (hexDigit (code / 16)) (hexDigit (code % 16)) = some code := by
    have zero : hexDigit? '0' = some 0 := by decide
    rw [hexQuad?, zero, hexDigit?_hexDigit (by omega), hexDigit?_hexDigit (by omega)]
    simp only [Option.bind_eq_bind, Option.bind_some, Option.pure_def, Option.some.injEq]
    omega
  rw [readPieces, quad, Option.bind_eq_bind, Option.bind_some]
  cases readPieces rest <;> rfl

theorem readPieces_plain
    {character : Char}
    (noControl : ¬character.toNat < 0x20)
    (noQuote : character ≠ '"')
    (noEscape : character ≠ '\\')
    (rest : List Char) :
    readPieces (character :: rest) =
      (readPieces rest).map fun (pieces, rest) => (.character character :: pieces, rest) := by
  rw [readPieces, if_neg (not_or.mpr ⟨noControl, noEscape⟩)]
  · cases readPieces rest <;> rfl
  · exact noQuote
  · intro first second third fourth behind escapes
    exact absurd escapes noEscape
  · intro letter behind escapes
    exact absurd escapes noEscape

/-- What is written for a character is read as one piece that denotes it. -/
theorem readPieces_escape
    (character : Char)
    (rest : List Char) :
    ∃ piece : Piece, piece.Denotes character ∧
      readPieces (escape character ++ rest) =
        (readPieces rest).map fun (pieces, rest) => (piece :: pieces, rest) := by
  unfold escape
  split
  case h_8 noQuote noEscape _ _ _ _ _ =>
    split
    · rename_i control
      have notHigh : isHighHalf character.toNat = false := by
        simp only [isHighHalf, Bool.and_eq_false_iff, decide_eq_false_iff_not]
        omega
      have notLow : isLowHalf character.toNat = false := by
        simp only [isLowHalf, Bool.and_eq_false_iff, decide_eq_false_iff_not]
        omega
      have denotes := Piece.denotes_codeUnit notHigh notLow
      rw [Char.ofNat_toNat] at denotes
      exact ⟨_, denotes, readPieces_code (by omega) rest⟩
    · rename_i noControl
      exact ⟨_, Piece.denotes_character character,
        readPieces_plain noControl noQuote noEscape rest⟩
  all_goals exact ⟨_, Piece.denotes_character _, readPieces_letter (by decide) rfl rest⟩

/-- A text reads back from between its quotes. -/
theorem readPieces_text
    (text rest : List Char) :
    ∃ pieces, joinPieces pieces = some text ∧
      readPieces (text.flatMap escape ++ '"' :: rest) = some (pieces, rest) := by
  induction text with
  | nil => exact ⟨[], rfl, by rw [List.flatMap_nil, List.nil_append, readPieces]⟩
  | cons character text inductionHypothesis =>
      obtain ⟨pieces, joined, read⟩ := inductionHypothesis
      obtain ⟨piece, denotes, first⟩ :=
        readPieces_escape character (text.flatMap escape ++ '"' :: rest)
      refine ⟨piece :: pieces, ?_, ?_⟩
      · rw [denotes, joined, Option.map_some]
      · rw [List.flatMap_cons, List.append_assoc, first, read, Option.map_some]

theorem quoteOptional_some
    (text : String) :
    quoteOptional (some text) = '"' :: (text.toList.flatMap escape ++ ['"']) := rfl

theorem readString_quote
    (text : String)
    (rest : List Char) :
    readString (text.toList.flatMap escape ++ '"' :: rest) = some (some text, rest) := by
  obtain ⟨pieces, joined, read⟩ := readPieces_text text.toList rest
  simp only [readString, read, joined, Option.map_some, String.ofList_toList]

end Json

/-! ## Numbers -/

/-- A literal of JSON: digits without a leading zero, then the digits behind the point. -/
structure JsonNumber.IsLiteral
    (number : JsonNumber) : Prop where
  wholeDigits : ∀ character ∈ number.whole, isDigit character = true
  filled : number.whole ≠ []
  noLeadingZero : number.whole.head? = some '0' → number.whole = ['0']
  fractionDigits : ∀ character ∈ number.fraction, isDigit character = true

namespace Json

/-- What follows a value does not go on with the literal of a number. -/
def EndsValue
    (rest : List Char) : Prop :=
  EndsDigits rest ∧ ∀ character ∈ rest.head?,
    character ≠ '.' ∧ character ≠ 'e' ∧ character ≠ 'E'

theorem endsValue_nil : EndsValue [] := ⟨endsDigits_nil, nofun⟩

theorem endsValue_cons
    {character : Char}
    (closes : character ∈ [',', ']', '\x7d'])
    (rest : List Char) :
    EndsValue (character :: rest) := by
  simp only [List.mem_cons, List.not_mem_nil, or_false] at closes
  rcases closes with rfl | rfl | rfl
  all_goals
    refine ⟨endsDigits_cons (by decide) rest, ?_⟩
    rintro _ ⟨⟩
    decide

theorem readWhole_append
    {digits rest : List Char}
    (allDigits : ∀ character ∈ digits, isDigit character = true)
    (filled : digits ≠ [])
    (noLeadingZero : digits.head? = some '0' → digits = ['0'])
    (ends : EndsDigits rest) :
    readWhole (digits ++ rest) = some (digits, rest) := by
  obtain ⟨first, others, rfl⟩ := List.exists_cons_of_ne_nil filled
  by_cases zero : first = '0'
  · subst zero
    obtain ⟨_, rfl⟩ := List.cons.inj (noLeadingZero rfl)
    cases rest with
    | nil => rfl
    | cons next rest =>
        have noDigit := ends next rfl
        rw [List.singleton_append, readWhole]
        simp [noDigit]
  · have taken := takeWhile_digits_append allDigits ends
    have dropped := dropWhile_digits_append allDigits ends
    rw [List.cons_append] at taken dropped ⊢
    rw [readWhole, taken, dropped]
    · simp
    · exact fun _ same => zero (List.cons.inj same).1

theorem readPlaces_append
    {digits rest : List Char}
    (allDigits : ∀ character ∈ digits, isDigit character = true)
    (ends : EndsDigits rest)
    (noPoint : rest.head? ≠ some '.') :
    readPlaces ((if digits.isEmpty then [] else '.' :: digits) ++ rest) = some (digits, rest) := by
  cases digits with
  | nil =>
      rw [List.isEmpty_nil, if_pos rfl, List.nil_append, readPlaces]
      rintro behind rfl
      exact noPoint rfl
  | cons first others =>
      rw [List.isEmpty_cons, if_neg Bool.false_ne_true, List.cons_append, readPlaces,
        takeWhile_digits_append allDigits ends, dropWhile_digits_append allDigits ends]
      simp

theorem splitSign_intText
    (value : Int)
    (rest : List Char) :
    splitSign ((intText value).toList ++ rest) =
      (decide (value < 0), natDigits value.natAbs ++ rest) := by
  by_cases negative : value < 0
  · simp [intText, negative, splitSign]
  · obtain ⟨first, others, digits, digit⟩ := exists_cons_of_digits
      (fun _ => isDigit_of_mem_natDigits) (natDigits_ne_nil value.natAbs)
    simp only [intText, negative, if_false, natText, String.toList_ofList, digits,
      List.cons_append, decide_false]
    rw [splitSign]
    · intro behind plus
      exact absurd (List.cons.inj plus).1 (ne_of_isDigit digit (by decide))
    · intro behind minus
      exact absurd (List.cons.inj minus).1 (ne_of_isDigit digit (by decide))

theorem readPower_intText
    (exponent : Int)
    {rest : List Char}
    (ends : EndsDigits rest) :
    readPower ('e' :: ((intText exponent).toList ++ rest)) = some (some exponent, rest) := by
  have allDigits : ∀ character ∈ natDigits exponent.natAbs, isDigit character = true :=
    fun _ => isDigit_of_mem_natDigits
  simp only [readPower, splitSign_intText, takeWhile_digits_append allDigits ends,
    dropWhile_digits_append allDigits ends, digitsValue_natDigits, List.isEmpty_iff,
    natDigits_ne_nil, true_or, if_true, if_false, decide_eq_true_eq, Option.some.injEq,
    Prod.mk.injEq, and_true]
  omega

theorem readPower_of_endsValue
    {rest : List Char}
    (ends : EndsValue rest) :
    readPower rest = some (none, rest) := by
  cases rest with
  | nil => rfl
  | cons mark rest =>
      obtain ⟨_, notLower, notUpper⟩ := ends.2 mark rfl
      rw [readPower, if_neg (not_or.mpr ⟨notLower, notUpper⟩)]

/-- A literal reads back if the text behind its digits reads as its power of ten. -/
theorem readNumber_append
    {number : JsonNumber}
    (literal : number.IsLiteral)
    {power rest : List Char}
    (powerEnds : EndsDigits (power ++ rest))
    (noPoint : (power ++ rest).head? ≠ some '.')
    (powerRead : readPower (power ++ rest) = some (number.exponent, rest)) :
    readNumber ((if number.negative then ['-'] else []) ++ number.whole ++
      (if number.fraction.isEmpty then [] else '.' :: number.fraction) ++ power ++ rest) =
        some (number, rest) := by
  have places := readPlaces_append literal.fractionDigits powerEnds noPoint
  have wholeEnds : EndsDigits
      ((if number.fraction.isEmpty then [] else '.' :: number.fraction) ++ (power ++ rest)) := by
    split
    · exact powerEnds
    · exact endsDigits_cons (by decide) _
  have digits := readWhole_append literal.wholeDigits literal.filled literal.noLeadingZero wholeEnds
  obtain ⟨first, others, opens, digit⟩ := exists_cons_of_digits literal.wholeDigits literal.filled
  have unsigned : first ≠ '-' := ne_of_isDigit digit (by decide)
  obtain ⟨negative, whole, fraction, exponent⟩ := number
  dsimp only at *
  subst opens
  simp only [List.append_assoc, List.cons_append] at *
  cases negative with
  | true =>
      simp only [if_true, List.cons_append, List.nil_append, readNumber, digits, places, powerRead,
        Option.bind_eq_bind, Option.bind_some, Option.pure_def]
  | false =>
      rw [if_neg Bool.false_ne_true, List.nil_append, readNumber]
      · simp only [digits, places, powerRead, Option.bind_eq_bind, Option.bind_some,
          Option.pure_def]
      · intro behind same
        exact unsigned (List.cons.inj same).1

/-- A number literal reads back. -/
theorem readNumber_writeNumber
    {number : JsonNumber}
    (literal : number.IsLiteral)
    {rest : List Char}
    (ends : EndsValue rest) :
    readNumber (writeNumber number ++ rest) = some (number, rest) := by
  obtain ⟨negative, whole, fraction, _ | exponent⟩ := number
  · refine readNumber_append literal ends.1 ?_ (readPower_of_endsValue ends)
    intro point
    exact (ends.2 '.' point).1 rfl
  · exact readNumber_append literal (endsDigits_cons (by decide) _) (by simp)
      (readPower_intText exponent ends.1)

/-! ## Values -/

mutual

/-- Every string denotes a text and every number is a literal, so that the text of the
value denotes it. -/
def IsLegible : Json → Prop
  | .null => True
  | .bool _ => True
  | .number literal => literal.IsLiteral
  | .string text => text.isSome = true
  | .array items => AreLegible items
  | .object members => AreMembersLegible members

/-- All items are legible. -/
def AreLegible : List Json → Prop
  | [] => True
  | item :: rest => IsLegible item ∧ AreLegible rest

/-- All keys denote texts and all members' values are legible. -/
def AreMembersLegible : List (Option String × Json) → Prop
  | [] => True
  | (key, value) :: rest => key.isSome = true ∧ IsLegible value ∧ AreMembersLegible rest

end

/-- A text that begins with no white space and does not close an array. -/
def BeginsValue
    (characters : List Char) : Prop :=
  ∃ first rest, characters = first :: rest ∧ isSpace first = false ∧ first ≠ ']'

theorem BeginsValue.append
    {characters : List Char}
    (begins : BeginsValue characters)
    (rest : List Char) :
    BeginsValue (characters ++ rest) := by
  obtain ⟨first, others, rfl, noSpace, noBracket⟩ := begins
  exact ⟨first, others ++ rest, rfl, noSpace, noBracket⟩

theorem skipSpace_cons
    {character : Char}
    (noSpace : isSpace character = false)
    (rest : List Char) :
    skipSpace (character :: rest) = character :: rest := by
  simp [skipSpace, noSpace]

theorem isSpace_of_isDigit
    {character : Char}
    (digit : isDigit character = true) :
    isSpace character = false := by
  rcases Bool.eq_false_or_eq_true (isSpace character) with space | noSpace
  · simp only [isSpace, Bool.or_eq_true, beq_iff_eq] at space
    rcases space with ((rfl | rfl) | rfl) | rfl <;> exact absurd digit (by decide)
  · exact noSpace

/-- A number begins with its sign or with a digit. -/
theorem exists_cons_eq_writeNumber
    {number : JsonNumber}
    (literal : number.IsLiteral) :
    ∃ first rest, writeNumber number = first :: rest ∧
      (first = '-' ∨ isDigit first = true) := by
  obtain ⟨first, others, opens, digit⟩ := exists_cons_of_digits literal.wholeDigits literal.filled
  rw [writeNumber, opens]
  cases number.negative with
  | true => exact ⟨'-', _, rfl, .inl rfl⟩
  | false => exact ⟨first, _, rfl, .inr digit⟩

theorem beginsValue_writeCharacters
    {value : Json}
    (legible : value.IsLegible) :
    BeginsValue (writeCharacters value) := by
  cases value with
  | null => exact ⟨'n', _, rfl, by decide, by decide⟩
  | bool truth => cases truth <;> exact ⟨_, _, rfl, by decide, by decide⟩
  | number literal =>
      rw [IsLegible] at legible
      obtain ⟨first, others, written, minus | digit⟩ := exists_cons_eq_writeNumber legible
      · subst minus
        exact ⟨'-', others, written, by decide, by decide⟩
      · exact ⟨first, others, written, isSpace_of_isDigit digit,
          ne_of_isDigit digit (by decide)⟩
  | string text => cases text <;> exact ⟨'"', _, rfl, by decide, by decide⟩
  | array items => exact ⟨'[', _, rfl, by decide, by decide⟩
  | object members => exact ⟨'\x7b', _, rfl, by decide, by decide⟩

theorem writeItems_cons_cons
    (item next : Json)
    (items : List Json) :
    writeItems (item :: next :: items) =
      writeCharacters item ++ ',' :: writeItems (next :: items) := by
  rw [writeItems]
  nofun

theorem writeMembers_cons_cons
    (key : Option String)
    (value : Json)
    (next : Option String × Json)
    (members : List (Option String × Json)) :
    writeMembers ((key, value) :: next :: members) =
      quoteOptional key ++
        ':' :: (writeCharacters value ++ ',' :: writeMembers (next :: members)) := by
  rw [writeMembers]
  nofun

theorem beginsValue_writeItems
    {item : Json}
    (legible : item.IsLegible)
    (items : List Json) :
    BeginsValue (writeItems (item :: items)) := by
  cases items with
  | nil =>
      rw [writeItems]
      exact (beginsValue_writeCharacters legible).append [']']
  | cons next items =>
      rw [writeItems_cons_cons]
      exact (beginsValue_writeCharacters legible).append _

/-- Members begin with the quote of a key. -/
theorem exists_writeMembers_eq
    (member : Option String × Json)
    (members : List (Option String × Json)) :
    ∃ rest, writeMembers (member :: members) = '"' :: rest := by
  obtain ⟨key, value⟩ := member
  cases members with
  | nil => cases key <;> exact ⟨_, rfl⟩
  | cons next members => cases key <;> exact ⟨_, rfl⟩

theorem readValue_of_number
    {first : Char}
    (begins : first = '-' ∨ isDigit first = true)
    (fuel : Nat)
    (rest : List Char) :
    readValue (fuel + 1) (first :: rest) =
      (readNumber (first :: rest)).map fun (literal, rest) => (.number literal, rest) := by
  have noSpace : isSpace first = false := by
    rcases begins with rfl | digit
    · decide
    · exact isSpace_of_isDigit digit
  rw [readValue, skipSpace_cons noSpace]
  split
  case h_7 => rfl
  all_goals
    rename_i same
    obtain ⟨rfl, _⟩ := List.cons.inj same
    exact absurd begins (by decide)

theorem readValue_quote
    (fuel : Nat)
    (rest : List Char) :
    readValue (fuel + 1) ('"' :: rest) =
      (readString rest).map fun (text, rest) => (.string text, rest) := by
  have noSpace : skipSpace ('"' :: rest) = '"' :: rest := skipSpace_cons (by decide) rest
  simp only [readValue, noSpace]

theorem readValue_bracket
    {characters : List Char}
    (begins : BeginsValue characters)
    (fuel : Nat) :
    readValue (fuel + 1) ('[' :: characters) =
      (readItems fuel characters).map fun (items, rest) => (.array items, rest) := by
  obtain ⟨first, rest, rfl, noSpace, noBracket⟩ := begins
  have opens : skipSpace ('[' :: first :: rest) = '[' :: first :: rest :=
    skipSpace_cons (by decide) _
  simp only [readValue, opens, skipSpace_cons noSpace]
  split
  · rename_i closes
    exact absurd (List.cons.inj closes).1 noBracket
  · rfl

theorem readValue_brace
    (fuel : Nat)
    (rest : List Char) :
    readValue (fuel + 1) ('\x7b' :: '"' :: rest) =
      (readMembers fuel ('"' :: rest)).map fun (members, rest) => (.object members, rest) := by
  have opens : skipSpace ('\x7b' :: '"' :: rest) = '\x7b' :: '"' :: rest :=
    skipSpace_cons (by decide) _
  have noSpace : skipSpace ('"' :: rest) = '"' :: rest := skipSpace_cons (by decide) rest
  simp only [readValue, opens, noSpace]
  rfl

/-- With so much fuel, what has been written and is not longer than that reads back,
whatever follows it. -/
structure ReadsBack
    (fuel : Nat) : Prop where
  value : ∀ (value : Json) (rest : List Char), value.IsLegible → EndsValue rest →
    (writeCharacters value).length ≤ fuel →
    readValue fuel (writeCharacters value ++ rest) = some (value, rest)
  items : ∀ (item : Json) (items : List Json) (rest : List Char), AreLegible (item :: items) →
    (writeItems (item :: items)).length ≤ fuel →
    readItems fuel (writeItems (item :: items) ++ rest) = some (item :: items, rest)
  members : ∀ (member : Option String × Json) (members : List (Option String × Json))
    (rest : List Char), AreMembersLegible (member :: members) →
    (writeMembers (member :: members)).length ≤ fuel →
    readMembers fuel (writeMembers (member :: members) ++ rest) = some (member :: members, rest)

namespace ReadsBack

variable {fuel : Nat}

theorem readValue_succ
    (reads : ReadsBack fuel)
    {value : Json}
    {rest : List Char}
    (legible : value.IsLegible)
    (ends : EndsValue rest)
    (enough : (writeCharacters value).length ≤ fuel + 1) :
    readValue (fuel + 1) (writeCharacters value ++ rest) = some (value, rest) := by
  cases value with
  | null => simp [writeCharacters, readValue, skipSpace, isSpace]
  | bool truth => cases truth <;> simp [writeCharacters, readValue, skipSpace, isSpace]
  | number literal =>
      rw [IsLegible] at legible
      obtain ⟨first, others, written, begins⟩ := exists_cons_eq_writeNumber legible
      have read := readNumber_writeNumber legible ends
      rw [written, List.cons_append] at read
      rw [writeCharacters, written, List.cons_append, readValue_of_number begins, read,
        Option.map_some]
  | string text =>
      rw [IsLegible, Option.isSome_iff_exists] at legible
      obtain ⟨content, rfl⟩ := legible
      rw [writeCharacters, quoteOptional_some, List.cons_append, List.append_assoc,
        readValue_quote, List.singleton_append, readString_quote, Option.map_some]
  | array items =>
      cases items with
      | nil => simp [writeCharacters, writeItems, readValue, skipSpace, isSpace]
      | cons item items =>
          rw [IsLegible] at legible
          rw [writeCharacters, List.length_cons] at enough
          have read := reads.items item items rest legible (by omega)
          have begins : BeginsValue (writeItems (item :: items) ++ rest) :=
            (beginsValue_writeItems legible.1 items).append rest
          rw [writeCharacters, List.cons_append, readValue_bracket begins, read, Option.map_some]
  | object members =>
      cases members with
      | nil => simp [writeCharacters, writeMembers, readValue, skipSpace, isSpace]
      | cons member members =>
          rw [IsLegible] at legible
          rw [writeCharacters, List.length_cons] at enough
          have read := reads.members member members rest legible (by omega)
          obtain ⟨others, written⟩ := exists_writeMembers_eq member members
          rw [written, List.cons_append] at read
          rw [writeCharacters, written, List.cons_append, List.cons_append, readValue_brace, read,
            Option.map_some]

theorem readItems_succ
    (reads : ReadsBack fuel)
    {item : Json}
    {items : List Json}
    {rest : List Char}
    (legible : AreLegible (item :: items))
    (enough : (writeItems (item :: items)).length ≤ fuel + 1) :
    readItems (fuel + 1) (writeItems (item :: items) ++ rest) = some (item :: items, rest) := by
  cases items with
  | nil =>
      rw [writeItems, List.length_append, List.length_singleton] at enough
      have first := reads.value item (']' :: rest) legible.1 (endsValue_cons (by decide) rest)
        (by omega)
      have closes : skipSpace (']' :: rest) = ']' :: rest := skipSpace_cons (by decide) rest
      rw [writeItems, List.append_assoc, List.singleton_append]
      simp only [readItems, first, closes, Option.bind_eq_bind, Option.bind_some, Option.pure_def]
  | cons next items =>
      rw [writeItems_cons_cons, List.length_append, List.length_cons] at enough
      have first := reads.value item (',' :: (writeItems (next :: items) ++ rest)) legible.1
        (endsValue_cons (by decide) _) (by omega)
      have goesOn : skipSpace (',' :: (writeItems (next :: items) ++ rest)) =
          ',' :: (writeItems (next :: items) ++ rest) := skipSpace_cons (by decide) _
      have others := reads.items next items rest legible.2 (by omega)
      rw [writeItems_cons_cons, List.append_assoc, List.cons_append]
      simp only [readItems, first, goesOn, others, Option.bind_eq_bind, Option.bind_some,
        Option.pure_def]

theorem readMembers_succ
    (reads : ReadsBack fuel)
    {member : Option String × Json}
    {members : List (Option String × Json)}
    {rest : List Char}
    (legible : AreMembersLegible (member :: members))
    (enough : (writeMembers (member :: members)).length ≤ fuel + 1) :
    readMembers (fuel + 1) (writeMembers (member :: members) ++ rest) =
      some (member :: members, rest) := by
  obtain ⟨key, value⟩ := member
  rw [AreMembersLegible, Option.isSome_iff_exists] at legible
  obtain ⟨⟨name, rfl⟩, valueLegible, othersLegible⟩ := legible
  have quoted : ∀ behind : List Char, skipSpace ('"' :: behind) = '"' :: behind :=
    skipSpace_cons (by decide)
  have named : ∀ behind : List Char, skipSpace (':' :: behind) = ':' :: behind :=
    skipSpace_cons (by decide)
  cases members with
  | nil =>
      rw [writeMembers] at enough ⊢
      rw [List.length_append, List.length_cons, List.length_append] at enough
      have read := reads.value value ('\x7d' :: rest) valueLegible (endsValue_cons (by decide) rest)
        (by omega)
      have closes : skipSpace ('\x7d' :: rest) = '\x7d' :: rest := skipSpace_cons (by decide) rest
      simp only [quoteOptional_some, List.append_assoc, List.cons_append, List.nil_append,
        readMembers, quoted, readString_quote, named, read, closes, Option.bind_eq_bind,
        Option.bind_some, Option.pure_def]
  | cons next members =>
      rw [writeMembers_cons_cons] at enough ⊢
      rw [List.length_append, List.length_cons, List.length_append, List.length_cons] at enough
      have read := reads.value value (',' :: (writeMembers (next :: members) ++ rest)) valueLegible
        (endsValue_cons (by decide) _) (by omega)
      have goesOn : skipSpace (',' :: (writeMembers (next :: members) ++ rest)) =
          ',' :: (writeMembers (next :: members) ++ rest) := skipSpace_cons (by decide) _
      have others := reads.members next members rest othersLegible (by omega)
      simp only [quoteOptional_some, List.append_assoc, List.cons_append, List.nil_append,
        readMembers, quoted, readString_quote, named, read, goesOn, others, Option.bind_eq_bind,
        Option.bind_some, Option.pure_def]

end ReadsBack

theorem readsBack
    (fuel : Nat) :
    ReadsBack fuel := by
  -- Every call of a reader spends fuel, so values, items and members go through together.
  induction fuel with
  | zero =>
      refine ⟨?_, ?_, ?_⟩
      · intro value rest legible _ enough
        obtain ⟨first, others, written, _⟩ := beginsValue_writeCharacters legible
        rw [written] at enough
        cases enough
      · intro item items rest legible enough
        obtain ⟨first, others, written, _⟩ := beginsValue_writeItems legible.1 items
        rw [written] at enough
        cases enough
      · intro member members rest legible enough
        obtain ⟨others, written⟩ := exists_writeMembers_eq member members
        rw [written] at enough
        cases enough
  | succ fuel inductionHypothesis =>
      exact
        { value := fun _ _ => inductionHypothesis.readValue_succ
          items := fun _ _ _ => inductionHypothesis.readItems_succ
          members := fun _ _ _ => inductionHypothesis.readMembers_succ }

/-- A legible value is what its text denotes. -/
theorem read?_write
    {value : Json}
    (legible : value.IsLegible) :
    read? (write value) = some value := by
  have read := (readsBack (2 * (writeCharacters value).length + 1)).value value [] legible
    endsValue_nil (by omega)
  rw [List.append_nil] at read
  rw [read?, write, String.toList_ofList, readCharacters, read]
  rfl

end Json
end FleetDashboard
