import FleetDashboard.Http.Target
import FleetDashboard.Net.FormData
import FleetDashboard.Proofs.Text.Utf8
import Mathlib.Data.List.TakeWhile

/-!
# Form data reads back

Whatever pairs of names and values are written as form data, reading gives them back: marks
between pieces never occur in a piece, and escapes name the bytes that they stand for.
What is written may stand as it is in the query of a request target.
-/

namespace FleetDashboard
namespace Net

open Text

namespace Percent

theorem hexValue?_hexDigit
    {value : Nat}
    (digit : value < 16) :
    hexValue? (Utf8.asciiByte (hexDigit value)) = some (UInt8.ofNat value) := by
  have each : ∀ value < 16,
      hexValue? (Utf8.asciiByte (hexDigit value)) = some (UInt8.ofNat value) := by decide
  exact each value digit

/-- An escape in front of any bytes reads to the byte that it stands for. -/
theorem decode_escape_append
    (byte : UInt8)
    (rest : List UInt8) :
    decode ((escape byte).map Utf8.asciiByte ++ rest) = byte :: decode rest := by
  have bounded : byte.toNat < 256 := byte.toNat_lt
  have named : escaped? (Utf8.asciiByte (hexDigit (byte.toNat / 16)))
      (Utf8.asciiByte (hexDigit (byte.toNat % 16))) = some byte := by
    rw [escaped?, hexValue?_hexDigit (by omega), hexValue?_hexDigit (by omega)]
    refine congrArg some (UInt8.toNat_inj.mp ?_)
    rw [UInt8.toNat_add, UInt8.toNat_mul, Utf8.toNat_ofByte (by omega),
      Utf8.toNat_ofByte (by omega)]
    change (byte.toNat / 16 * 16 % 256 + byte.toNat % 16) % 256 = byte.toNat
    omega
  rw [escape]
  simp only [List.map_cons, List.map_nil, List.cons_append, List.nil_append]
  rw [decode, if_pos (by decide), named]

theorem decode_escapes_append
    (bytes rest : List UInt8) :
    decode ((bytes.flatMap escape).map Utf8.asciiByte ++ rest) = bytes ++ decode rest := by
  induction bytes with
  | nil => rfl
  | cons byte bytes inductionHypothesis =>
      rw [List.flatMap_cons, List.map_append, List.append_assoc, decode_escape_append,
        inductionHypothesis, List.cons_append]

end Percent

namespace FormData

/-! ## Characters that are written -/

/-- The written form of one character. -/
def encodeCharacter
    (character : Char) : List Char :=
  if character = ' ' then ['+'] else Percent.encode isPlain [character]

/-- A character that occurs in the written form of a name or value. -/
def IsWritten
    (character : Char) : Prop :=
  isPlain character = true ∨ character = '+' ∨ character = '%'

theorem encodeCharacter_of_plain
    {character : Char}
    (plain : isPlain character = true) :
    encodeCharacter character = [character] := by
  have notBlank : character ≠ ' ' := by
    rintro rfl
    cases plain
  rw [encodeCharacter, if_neg notBlank, Percent.encode, List.flatMap_singleton, if_pos plain]

theorem encodeCharacter_of_escaped
    {character : Char}
    (notBlank : character ≠ ' ')
    (notPlain : isPlain character = false) :
    encodeCharacter character = (Utf8.encode [character]).flatMap Percent.escape := by
  rw [encodeCharacter, if_neg notBlank, Percent.encode, List.flatMap_singleton,
    if_neg (Bool.not_eq_true _ ▸ notPlain)]

theorem isPlain_ascii
    {character : Char}
    (plain : isPlain character = true) :
    character.toNat < 128 := by
  have upper : 'Z'.val.toNat = 90 := rfl
  have lower : 'z'.val.toNat = 122 := rfl
  have digit : '9'.val.toNat = 57 := rfl
  rw [isPlain] at plain
  delta Char.isAlphanum Char.isAlpha Char.isUpper Char.isLower Char.isDigit at plain
  simp only [Bool.or_eq_true, Bool.and_eq_true, decide_eq_true_eq, beq_iff_eq, ge_iff_le,
    UInt32.le_iff_toNat_le] at plain
  rcases plain with (((((⟨_, most⟩ | ⟨_, most⟩) | ⟨_, most⟩) | rfl) | rfl) | rfl) | rfl
  · exact Nat.lt_of_le_of_lt most (by omega)
  · exact Nat.lt_of_le_of_lt most (by omega)
  · exact Nat.lt_of_le_of_lt most (by omega)
  all_goals decide

theorem isPlain_unmarked
    {character : Char}
    (plain : isPlain character = true) :
    character ≠ '+' ∧ Utf8.asciiByte character ≠ 0x25 := by
  have each : ∀ code < 128, isPlain (Char.ofNat code) = true →
      Char.ofNat code ≠ '+' ∧ Utf8.asciiByte (Char.ofNat code) ≠ 0x25 := by decide +kernel
  have ofCode := each character.toNat (isPlain_ascii plain)
  rw [Char.ofNat_toNat] at ofCode
  exact ofCode plain

namespace IsWritten

variable
  {character : Char}

theorem ascii
    (written : IsWritten character) :
    character.toNat < 128 := by
  rcases written with plain | rfl | rfl
  · exact isPlain_ascii plain
  · decide
  · decide

/-- Characters that are written can stand in a query, and are no marks between pieces. -/
theorem inQuery
    (written : IsWritten character) :
    Http.Target.isQueryCharacter character = true ∧ character ≠ '&' ∧ character ≠ '=' ∧
      character ≠ '#' := by
  have each : ∀ code < 128,
      isPlain (Char.ofNat code) = true ∨ Char.ofNat code = '+' ∨ Char.ofNat code = '%' →
      Http.Target.isQueryCharacter (Char.ofNat code) = true ∧ Char.ofNat code ≠ '&' ∧
        Char.ofNat code ≠ '=' ∧ Char.ofNat code ≠ '#' := by decide +kernel
  have ofCode := each character.toNat written.ascii
  rw [Char.ofNat_toNat] at ofCode
  exact ofCode written

end IsWritten

theorem isWritten_of_mem_escape
    {byte : UInt8}
    {character : Char}
    (listed : character ∈ Percent.escape byte) :
    IsWritten character ∧ character ≠ '+' := by
  have digits : ∀ value < 16, isPlain (Percent.hexDigit value) = true := by decide
  have bounded : byte.toNat < 256 := byte.toNat_lt
  simp only [Percent.escape, List.mem_cons, List.not_mem_nil, or_false] at listed
  rcases listed with rfl | rfl | rfl
  · exact ⟨.inr (.inr rfl), by decide⟩
  · have plain := digits (byte.toNat / 16) (by omega)
    exact ⟨.inl plain, (isPlain_unmarked plain).1⟩
  · have plain := digits (byte.toNat % 16) (by omega)
    exact ⟨.inl plain, (isPlain_unmarked plain).1⟩

theorem isWritten_of_mem_encodeCharacter
    {character other : Char}
    (listed : other ∈ encodeCharacter character) :
    IsWritten other := by
  by_cases blank : character = ' '
  · subst blank
    exact .inr (.inl (List.mem_singleton.mp listed))
  · cases plain : isPlain character with
    | true =>
        rw [encodeCharacter_of_plain plain, List.mem_singleton] at listed
        exact listed ▸ .inl plain
    | false =>
        rw [encodeCharacter_of_escaped blank plain] at listed
        obtain ⟨byte, _, escaped⟩ := List.mem_flatMap.mp listed
        exact (isWritten_of_mem_escape escaped).1

theorem isWritten_of_mem_encodeText
    {text : String}
    {character : Char}
    (listed : character ∈ encodeText text) :
    IsWritten character := by
  obtain ⟨_, _, written⟩ := List.mem_flatMap.mp listed
  exact isWritten_of_mem_encodeCharacter written

/-! ## Names and values -/

/-- A character's written form in front of any bytes reads to its bytes. -/
theorem decode_encodeCharacter_append
    (character : Char)
    (rest : List UInt8) :
    Percent.decode (((encodeCharacter character).map blankOfPlus).map Utf8.asciiByte ++ rest) =
      Utf8.encode [character] ++ Percent.decode rest := by
  by_cases blank : character = ' '
  · subst blank
    exact Percent.decode_cons_of_ne (by decide) rest
  · cases plain : isPlain character with
    | true =>
        have ascii := isPlain_ascii plain
        obtain ⟨notPlus, notMark⟩ := isPlain_unmarked plain
        rw [encodeCharacter_of_plain plain, List.map_singleton, List.map_singleton, blankOfPlus,
          if_neg notPlus, List.singleton_append, Percent.decode_cons_of_ne notMark,
          Utf8.encode_of_ascii (by simpa using ascii)]
        rfl
    | false =>
        have kept : ((Utf8.encode [character]).flatMap Percent.escape).map blankOfPlus =
            (Utf8.encode [character]).flatMap Percent.escape := by
          refine (List.map_congr_left fun other listed => ?_).trans (List.map_id _)
          obtain ⟨byte, _, escaped⟩ := List.mem_flatMap.mp listed
          exact if_neg (isWritten_of_mem_escape escaped).2
        rw [encodeCharacter_of_escaped blank plain, kept, Percent.decode_escapes_append]

theorem decode_encodeCharacters_append
    (characters : List Char)
    (rest : List UInt8) :
    Percent.decode
        (((characters.flatMap encodeCharacter).map blankOfPlus).map Utf8.asciiByte ++ rest) =
      Utf8.encode characters ++ Percent.decode rest := by
  induction characters with
  | nil => rfl
  | cons character others inductionHypothesis =>
      rw [List.flatMap_cons, List.map_append, List.map_append, List.append_assoc,
        decode_encodeCharacter_append, inductionHypothesis, ← List.append_assoc,
        ← Utf8.encode_append, List.singleton_append]

/-- A name or value reads back from its written form. -/
theorem decodeText_encodeText
    (text : String) :
    decodeText (encodeText text) = text := by
  have ascii : ∀ character ∈ (encodeText text).map blankOfPlus, character.toNat < 128 := by
    intro character listed
    obtain ⟨written, inText, rfl⟩ := List.mem_map.mp listed
    rw [blankOfPlus]
    split
    · decide
    · exact (isWritten_of_mem_encodeText inText).ascii
  have bytes := decode_encodeCharacters_append text.toList []
  rw [List.append_nil, Percent.decode_nil, List.append_nil] at bytes
  rw [decodeText, Utf8.encode_of_ascii ascii]
  change String.ofList (Utf8.decodeForgiving (Percent.decode
    (((text.toList.flatMap encodeCharacter).map blankOfPlus).map Utf8.asciiByte))) = text
  rw [bytes, Utf8.decodeForgiving_encode, String.ofList_toList]

/-! ## Pairs -/

theorem pieces_append_mark
    {mark : Char}
    {piece : List Char}
    (rest : List Char)
    (unmarked : mark ∉ piece) :
    pieces mark (piece ++ mark :: rest) = piece :: pieces mark rest := by
  induction piece with
  | nil => rw [List.nil_append, pieces, if_pos rfl]
  | cons character others inductionHypothesis =>
      rw [List.mem_cons, not_or] at unmarked
      rw [List.cons_append, pieces, if_neg (Ne.symm unmarked.1), inductionHypothesis unmarked.2]

theorem pieces_of_unmarked
    {mark : Char}
    {piece : List Char}
    (unmarked : mark ∉ piece) :
    pieces mark piece = [piece] := by
  induction piece with
  | nil => rfl
  | cons character others inductionHypothesis =>
      rw [List.mem_cons, not_or] at unmarked
      rw [pieces, if_neg (Ne.symm unmarked.1), inductionHypothesis unmarked.2]

theorem mark_not_mem_encodePair
    (pair : String × String) :
    '&' ∉ encodePair pair := by
  rw [encodePair, List.mem_append, List.mem_cons]
  rintro (inName | same | inValue)
  · exact (isWritten_of_mem_encodeText inName).inQuery.2.1 rfl
  · cases same
  · exact (isWritten_of_mem_encodeText inValue).inQuery.2.1 rfl

/-- The pieces of what is written are the written forms of the pairs. -/
theorem pieces_encode
    (pair : String × String)
    (rest : List (String × String)) :
    pieces '&' (encode (pair :: rest)) = (pair :: rest).map encodePair := by
  induction rest generalizing pair with
  | nil => exact pieces_of_unmarked (mark_not_mem_encodePair pair)
  | cons next rest inductionHypothesis =>
      rw [encode, pieces_append_mark _ (mark_not_mem_encodePair pair), inductionHypothesis]
      · rfl
      · nofun

theorem decodePair_encodePair
    (pair : String × String) :
    decodePair (encodePair pair) = pair := by
  have unmarked : ∀ character ∈ encodeText pair.1, (character != '=') = true := by
    intro character inName
    simpa using (isWritten_of_mem_encodeText inName).inQuery.2.2.1
  rw [decodePair, encodePair, List.takeWhile_append_of_pos unmarked,
    List.dropWhile_append_of_pos unmarked]
  simp [decodeText_encodeText]

/-- Whatever pairs are written read back. -/
theorem decode_encode
    (pairs : List (String × String)) :
    decode (encode pairs) = pairs := by
  cases pairs with
  | nil => rfl
  | cons pair rest =>
      have filled : ((pair :: rest).map encodePair).filter (fun piece => !piece.isEmpty) =
          (pair :: rest).map encodePair := by
        refine List.filter_eq_self.mpr fun piece listed => ?_
        obtain ⟨_, _, rfl⟩ := List.mem_map.mp listed
        simp [encodePair]
      rw [decode, pieces_encode, filled, List.map_map]
      exact List.map_id'' decodePair_encodePair _

/-- Other spellings read as well: an empty piece, a pair without a mark, a plain plus. -/
example :
    decode "a=1&&b&c=%C3%A9+x".toList = [("a", "1"), ("b", ""), ("c", "é x")] := by
  decide +kernel

/-! ## In request targets -/

theorem inQuery_of_mem_encodePair
    {pair : String × String}
    {character : Char}
    (listed : character ∈ encodePair pair) :
    Http.Target.isQueryCharacter character = true ∧ character.toNat < 128 ∧ character ≠ '#' := by
  rw [encodePair, List.mem_append, List.mem_cons] at listed
  rcases listed with inName | rfl | inValue
  · have written := isWritten_of_mem_encodeText inName
    exact ⟨written.inQuery.1, written.ascii, written.inQuery.2.2.2⟩
  · decide
  · have written := isWritten_of_mem_encodeText inValue
    exact ⟨written.inQuery.1, written.ascii, written.inQuery.2.2.2⟩

theorem inQuery_of_mem_encode
    {pairs : List (String × String)}
    {character : Char}
    (listed : character ∈ encode pairs) :
    Http.Target.isQueryCharacter character = true ∧ character.toNat < 128 ∧ character ≠ '#' := by
  induction pairs with
  | nil => cases listed
  | cons pair rest inductionHypothesis =>
      cases rest with
      | nil => exact inQuery_of_mem_encodePair listed
      | cons next rest =>
          rw [encode, List.mem_append, List.mem_cons] at listed
          · rcases listed with inFirst | rfl | inRest
            · exact inQuery_of_mem_encodePair inFirst
            · decide
            · exact inductionHypothesis inRest
          · nofun

end FormData
end Net

namespace Http
namespace Target

open Net

variable
  {path : List Char}

/-- Behind a path the query ranges up to a fragment. -/
theorem readPathAndQuery_append
    (written : List Char)
    (unmarked : ∀ character ∈ path, character ≠ '?' ∧ character ≠ '#') :
    readPathAndQuery (path ++ '?' :: written) =
      if path.all isPathCharacter && (written.takeWhile (· != '#')).all isQueryCharacter then
        some ⟨if path.isEmpty then "/" else String.ofList path,
          String.ofList (written.takeWhile (· != '#'))⟩
      else none := by
  have noFragment : ∀ character ∈ path, (character != '#') = true := by
    intro character listed
    simpa using (unmarked character listed).2
  have noQuery : ∀ character ∈ path, (character != '?') = true := by
    intro character listed
    simpa using (unmarked character listed).1
  have upToFragment : (path ++ '?' :: written).takeWhile (· != '#') =
      path ++ '?' :: written.takeWhile (· != '#') := by
    rw [List.takeWhile_append_of_pos noFragment]
    rfl
  rw [readPathAndQuery, upToFragment, List.takeWhile_append_of_pos noQuery,
    List.dropWhile_append_of_pos noQuery]
  simp

/-- The query of a target is what stands behind the path, up to a fragment. -/
theorem query_of_read
    {segments raw : String}
    {target : Target}
    (unmarked : ∀ character ∈ segments.toList, character ≠ '?' ∧ character ≠ '#')
    (reads : read? ("/" ++ segments ++ "?" ++ raw) = some target) :
    target.query.toList = raw.toList.takeWhile (· != '#') := by
  have characters : ("/" ++ segments ++ "?" ++ raw).toList =
      ('/' :: segments.toList) ++ '?' :: raw.toList := by
    simp [String.toList_append]
  have path : ∀ character ∈ '/' :: segments.toList, character ≠ '?' ∧ character ≠ '#' :=
    List.forall_mem_cons.mpr ⟨by decide, unmarked⟩
  rw [read?, characters, List.cons_append, readCharacters] at reads
  split at reads
  · cases reads
  · rw [← List.cons_append, readPathAndQuery_append _ path] at reads
    split at reads
    · cases reads
      exact String.toList_ofList
    · cases reads

/-- Written form data can be the query of a target, if it is not too long. -/
theorem read_encode
    {pairs : List (String × String)}
    (short : (FormData.encode pairs).length + 2 ≤ longest) :
    readCharacters ('/' :: '?' :: FormData.encode pairs) =
      some ⟨"/", String.ofList (FormData.encode pairs)⟩ := by
  have inQuery : ∀ character ∈ FormData.encode pairs, isQueryCharacter character = true ∧
      character.toNat < 128 ∧ character ≠ '#' := fun _ => FormData.inQuery_of_mem_encode
  have ascii : ∀ character ∈ '/' :: '?' :: FormData.encode pairs, character.toNat < 128 := by
    simp only [List.forall_mem_cons]
    exact ⟨by decide, by decide, fun character listed => (inQuery character listed).2.1⟩
  have untouched : (FormData.encode pairs).takeWhile (· != '#') = FormData.encode pairs :=
    List.takeWhile_eq_self_iff.mpr fun character listed => by
      simpa using (inQuery character listed).2.2
  have allowed : (FormData.encode pairs).all isQueryCharacter = true :=
    List.all_eq_true.mpr fun character listed => (inQuery character listed).1
  have path : ∀ character ∈ ['/'], character ≠ '?' ∧ character ≠ '#' :=
    List.forall_mem_singleton.mpr ⟨by decide, by decide⟩
  have reads := readPathAndQuery_append (FormData.encode pairs) path
  rw [untouched, allowed] at reads
  rw [readCharacters, Text.Utf8.encode_of_ascii ascii, List.length_map,
    if_neg (by rw [List.length_cons, List.length_cons]; omega)]
  exact reads

end Target
end Http
end FleetDashboard
