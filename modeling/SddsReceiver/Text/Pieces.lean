import SddsReceiver.Text.Blank

/-!
# Pieces of a text

A text is cut at every occurrence of a character, at the first or the last one, or into words
between blanks. Cutting at a character loses nothing but the character itself.
-/
namespace SddsReceiver.Text

/-- The pieces between the occurrences of a character. -/
def pieces (separator : Char) : List Char → List (List Char)
  | [] => [[]]
  | c :: cs =>
      if c = separator then [] :: pieces separator cs
      else match pieces separator cs with
        | [] => [[c]]
        | first :: rest => (c :: first) :: rest

/-- What follows the first occurrence of a character. -/
def afterFirst? (separator : Char) : List Char → Option (List Char)
  | [] => none
  | c :: cs => if c = separator then some cs else afterFirst? separator cs

/-- What follows the last occurrence of a character. -/
def afterLast? (separator : Char) : List Char → Option (List Char)
  | [] => none
  | c :: cs =>
      match afterLast? separator cs with
      | some rest => some rest
      | none => if c = separator then some cs else none

/-- The maximal runs of characters that are not blank, taking up after a part of a word. -/
def wordsFrom (word : List Char) : List Char → List (List Char)
  | [] => if word.isEmpty then [] else [word.reverse]
  | c :: cs =>
      if isBlank c then
        if word.isEmpty then wordsFrom [] cs else word.reverse :: wordsFrom [] cs
      else wordsFrom (c :: word) cs

/-- The maximal runs of characters that are not blank. -/
def words (text : List Char) : List (List Char) :=
  wordsFrom [] text

theorem pieces_ne_nil (separator : Char) (text : List Char) : pieces separator text ≠ [] := by
  cases text with
  | nil => simp [pieces]
  | cons c cs =>
      simp only [pieces]
      split
      · simp
      · split <;> simp

end SddsReceiver.Text
