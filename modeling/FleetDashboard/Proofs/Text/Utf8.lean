import FleetDashboard.Text.Utf8
import Mathlib.Data.Nat.Basic

/-!
# Text as bytes and back

The bytes of a text decode to the text: a character in front of any bytes is taken off by
the scan as it is.
-/

namespace FleetDashboard
namespace Text
namespace Utf8

theorem toNat_ofByte
    {code : Nat}
    (byte : code < 256) :
    (UInt8.ofNat code).toNat = code :=
  Nat.mod_eq_of_lt byte

/-! ## First bytes -/

theorem begin_ascii
    {code : Nat}
    (most : code ≤ 127) :
    begin (UInt8.ofNat code) = ([some (Char.ofNat code)], none) := by
  rw [begin, toNat_ofByte (by omega), if_pos most]

theorem begin_two
    {lead : Nat}
    (least : 2 ≤ lead)
    (most : lead ≤ 31) :
    begin (UInt8.ofNat (lead + 192)) = ([], some ⟨0, 128, 191, lead⟩) := by
  rw [begin, toNat_ofByte (by omega), if_neg (by omega), if_pos (by omega), Nat.add_sub_cancel]

theorem begin_three
    {lead : Nat}
    (most : lead ≤ 15) :
    begin (UInt8.ofNat (lead + 224)) =
      ([], some ⟨1, if lead = 0 then 160 else 128, if lead = 13 then 159 else 191, lead⟩) := by
  rw [begin, toNat_ofByte (by omega), if_neg (by omega), if_neg (by omega)]
  by_cases lowest : lead = 0
  · subst lowest
    rfl
  · by_cases beforeSurrogates : lead = 13
    · subst beforeSurrogates
      rfl
    · rw [if_neg (by omega), if_neg (by omega), if_pos (by omega), if_neg lowest,
        if_neg beforeSurrogates, Nat.add_sub_cancel]

theorem begin_four
    {lead : Nat}
    (most : lead ≤ 4) :
    begin (UInt8.ofNat (lead + 240)) =
      ([], some ⟨2, if lead = 0 then 144 else 128, if lead = 4 then 143 else 191, lead⟩) := by
  rw [begin, toNat_ofByte (by omega), if_neg (by omega), if_neg (by omega), if_neg (by omega),
    if_neg (by omega), if_neg (by omega)]
  by_cases lowest : lead = 0
  · subst lowest
    rfl
  · by_cases highest : lead = 4
    · subst highest
      rfl
    · rw [if_neg (by omega), if_pos (by omega), if_neg lowest, if_neg highest,
        Nat.add_sub_cancel]

/-! ## Further bytes -/

theorem scan_last
    {least greatest bits low : Nat}
    (rest : List UInt8)
    (within : least ≤ low + 128 ∧ low + 128 ≤ greatest)
    (most : low < 64) :
    scan (some ⟨0, least, greatest, bits⟩) (UInt8.ofNat (low + 128) :: rest) =
      some (Char.ofNat (bits * 64 + low)) :: scan none rest := by
  rw [scan, toNat_ofByte (by omega), if_pos within, Nat.add_sub_cancel]

theorem scan_more
    {owed least greatest bits low : Nat}
    (rest : List UInt8)
    (within : least ≤ low + 128 ∧ low + 128 ≤ greatest)
    (most : low < 64) :
    scan (some ⟨owed + 1, least, greatest, bits⟩) (UInt8.ofNat (low + 128) :: rest) =
      scan (some ⟨owed, 128, 191, bits * 64 + low⟩) rest := by
  rw [scan, toNat_ofByte (by omega), if_pos within, Nat.add_sub_cancel]

/-- The bytes of a character scan to that character. -/
theorem scan_utf8EncodeChar_append
    (character : Char)
    (rest : List UInt8) :
    scan none (String.utf8EncodeChar character ++ rest) = some character :: scan none rest := by
  have valid : character.val.toNat < 0xD800 ∨
      0xDFFF < character.val.toNat ∧ character.val.toNat < 0x110000 := character.valid
  have same : Char.ofNat character.val.toNat = character := Char.ofNat_toNat character
  rw [String.utf8EncodeChar]
  suffices bytes : scan none _ = some (Char.ofNat character.val.toNat) :: scan none rest by
    rw [bytes, same]
  generalize character.val.toNat = code at valid ⊢
  split
  · rename_i ascii
    rw [List.singleton_append, scan, begin_ascii ascii]
    rfl
  · split
    · rw [List.cons_append, List.singleton_append, scan, begin_two (by omega) (by omega)]
      dsimp only
      rw [List.nil_append, scan_last rest (by omega) (by omega)]
      congr 3
      omega
    · split
      · rw [List.cons_append, List.cons_append, List.singleton_append, scan,
          begin_three (by omega)]
        dsimp only
        rw [List.nil_append, scan_more _ (by split <;> split <;> omega) (by omega),
          scan_last rest (by omega) (by omega)]
        congr 3
        omega
      · rw [List.cons_append, List.cons_append, List.cons_append, List.singleton_append, scan,
          begin_four (by omega)]
        dsimp only
        rw [List.nil_append, scan_more _ (by split <;> split <;> omega) (by omega),
          scan_more _ (by omega) (by omega), scan_last rest (by omega) (by omega)]
        congr 3
        omega

/-- The bytes of a text scan to the text, without a flaw. -/
theorem scan_encode
    (characters : List Char) :
    scan none (encode characters) = characters.map some := by
  induction characters with
  | nil => rfl
  | cons character rest inductionHypothesis =>
      rw [List.map_cons, ← inductionHypothesis, encode, List.flatMap_cons,
        scan_utf8EncodeChar_append]
      rfl

/-- Decoding takes the bytes of a text back to the text. -/
theorem decodeForgiving_encode
    (characters : List Char) :
    decodeForgiving (encode characters) = characters := by
  rw [decodeForgiving, scan_encode, List.map_map]
  exact List.map_id _

/-! ## One byte for each character -/

/-- The byte of a character below 128. -/
def asciiByte
    (character : Char) : UInt8 :=
  UInt8.ofNat character.toNat

theorem encode_of_ascii
    {characters : List Char}
    (ascii : ∀ character ∈ characters, character.toNat < 128) :
    encode characters = characters.map asciiByte := by
  induction characters with
  | nil => rfl
  | cons character rest inductionHypothesis =>
      obtain ⟨first, others⟩ := List.forall_mem_cons.mp ascii
      have small : character.val.toNat ≤ 127 := Nat.le_of_lt_succ first
      rw [List.map_cons, ← inductionHypothesis others, encode, List.flatMap_cons,
        String.utf8EncodeChar, if_pos small]
      rfl

end Utf8
end Text
end FleetDashboard
