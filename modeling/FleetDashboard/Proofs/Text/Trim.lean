import FleetDashboard.Text.Blank
import Mathlib.Data.List.TakeWhile

/-!
# Texts between blanks

Trimming leaves what stands between the blanks at both ends, and nothing else is left when
these blanks are taken away.
-/

namespace FleetDashboard
namespace Text

/-- The core is what stands between the blanks at both ends of a text: it is empty or begins
and ends with characters that are not blank. -/
structure IsBetweenBlanks
    (text core : List Char) : Prop where
  split : ∃ front back, text = front ++ core ++ back ∧
    (∀ character ∈ front, isBlank character = true) ∧
    ∀ character ∈ back, isBlank character = true
  begins : ∀ first ∈ core.head?, isBlank first = false
  ends : ∀ last ∈ core.getLast?, isBlank last = false

theorem trimFront_append_of_blank
    {front rest : List Char}
    (blank : ∀ character ∈ front, isBlank character = true) :
    trimFront (front ++ rest) = trimFront rest :=
  List.dropWhile_append_of_pos blank

theorem trimFront_eq_self
    {characters : List Char}
    (begins : ∀ first ∈ characters.head?, isBlank first = false) :
    trimFront characters = characters := by
  cases characters with
  | nil => rfl
  | cons first rest => exact trimFront_of_not_blank (begins first rfl)

theorem begins_trimFront
    (characters : List Char) :
    ∀ first ∈ (trimFront characters).head?, isBlank first = false := by
  intro first found
  have stopped := List.head?_dropWhile_not isBlank characters
  rw [trimFront] at found
  rw [found] at stopped
  exact stopped

/-- What is dropped in front is blank. -/
theorem exists_blank_front
    (characters : List Char) :
    ∃ front, characters = front ++ trimFront characters ∧
      ∀ character ∈ front, isBlank character = true :=
  ⟨characters.takeWhile isBlank, List.takeWhile_append_dropWhile.symm,
    fun _ => List.mem_takeWhile_imp⟩

theorem trimBoth_of_isBetweenBlanks
    {text core : List Char}
    (between : IsBetweenBlanks text core) :
    trimBoth text = core := by
  obtain ⟨⟨front, back, rfl, blankFront, blankBack⟩, begins, ends⟩ := between
  have fromCore : trimFront (front ++ core ++ back) = trimFront (core ++ back) := by
    rw [List.append_assoc, trimFront_append_of_blank blankFront]
  rw [trimBoth, fromCore]
  cases core with
  | nil =>
      have nothing : trimFront (back ++ []) = trimFront [] := trimFront_append_of_blank blankBack
      rw [List.append_nil] at nothing
      rw [List.nil_append, nothing]
      rfl
  | cons first rest =>
      have blankReversed : ∀ character ∈ back.reverse, isBlank character = true := by
        simpa using blankBack
      have endsReversed : ∀ last ∈ (first :: rest).reverse.head?, isBlank last = false := by
        rwa [List.head?_reverse]
      rw [List.cons_append, trimFront_of_not_blank (begins first rfl), ← List.cons_append,
        List.reverse_append, trimFront_append_of_blank blankReversed,
        trimFront_eq_self endsReversed, List.reverse_reverse]

theorem isBetweenBlanks_trimBoth
    (text : List Char) :
    IsBetweenBlanks text (trimBoth text) := by
  obtain ⟨front, textSplit, blankFront⟩ := exists_blank_front text
  obtain ⟨back, restSplit, blankBack⟩ := exists_blank_front (trimFront text).reverse
  have middle : trimFront text = trimBoth text ++ back.reverse := by
    rw [trimBoth, ← List.reverse_append, ← restSplit, List.reverse_reverse]
  refine ⟨⟨front, back.reverse, ?_, blankFront, by simpa using blankBack⟩, ?_, ?_⟩
  · rw [List.append_assoc, ← middle]
    exact textSplit
  · intro first found
    apply begins_trimFront text first
    rw [middle, List.head?_append, Option.mem_def.mp found, Option.some_or]
    rfl
  · intro last found
    rw [trimBoth, List.getLast?_reverse] at found
    exact begins_trimFront _ last found

/-- Trimming leaves exactly what stands between the blanks. -/
theorem isBetweenBlanks_iff
    {text core : List Char} :
    IsBetweenBlanks text core ↔ trimBoth text = core := by
  constructor
  · exact trimBoth_of_isBetweenBlanks
  · rintro rfl
    exact isBetweenBlanks_trimBoth text

section Padding

variable
  {front back : List Char}
  (blankFront : ∀ character ∈ front, isBlank character = true)
  (blankBack : ∀ character ∈ back, isBlank character = true)

include blankFront blankBack

theorem IsBetweenBlanks.pad
    {text core : List Char}
    (between : IsBetweenBlanks text core) :
    IsBetweenBlanks (front ++ text ++ back) core := by
  obtain ⟨⟨textFront, textBack, rfl, blankTextFront, blankTextBack⟩, begins, ends⟩ := between
  refine ⟨⟨front ++ textFront, textBack ++ back, ?_, ?_, ?_⟩, begins, ends⟩
  · simp only [List.append_assoc]
  · intro character member
    exact (List.mem_append.mp member).elim (blankFront character) (blankTextFront character)
  · intro character member
    exact (List.mem_append.mp member).elim (blankTextBack character) (blankBack character)

/-- Blanks around a text do not change what stands between its blanks. -/
theorem trimBoth_pad
    (text : List Char) :
    trimBoth (front ++ text ++ back) = trimBoth text :=
  trimBoth_of_isBetweenBlanks ((isBetweenBlanks_trimBoth text).pad blankFront blankBack)

end Padding

end Text
end FleetDashboard
