import DesignGauge.Text.CharClass

/-!
# Pieces of a text

Stripping, cutting and searching, as functions on lists of characters. What is cut and what is
kept is said by `takeWhile` and `dropWhile`, so that their lemmas apply.
-/

namespace DesignGauge.Text

/-- Drops the characters of a class from the end. -/
def dropRightWhile (p : Char → Bool) (text : List Char) : List Char :=
  (text.reverse.dropWhile p).reverse

/-- Keeps the longest end whose characters are all in a class. -/
def takeRightWhile (p : Char → Bool) (text : List Char) : List Char :=
  (text.reverse.takeWhile p).reverse

/-- Drops blanks from both ends. -/
def strip (text : List Char) : List Char :=
  dropRightWhile isBlank (text.dropWhile isBlank)

/-- The text in front of the first separator and the text after it, empty if there is none. -/
def cut (separator : Char) (text : List Char) : List Char × List Char :=
  (text.takeWhile (· != separator), (text.dropWhile (· != separator)).drop 1)

/-- The text after the last separator, or all of it if there is none. -/
def afterLast (separator : Char) (text : List Char) : List Char :=
  takeRightWhile (· != separator) text

/-- The words of a text: its longest pieces without a blank. -/
def words (text : List Char) : List (List Char) :=
  (text.splitOnP isBlank).filter (!·.isEmpty)

/-- A text holds another one as a run of neighbouring characters. -/
def holdsPiece (piece : List Char) : List Char → Bool
  | [] => piece.isEmpty
  | c :: rest => piece.isPrefixOf (c :: rest) || holdsPiece piece rest

/-- Replaces one character by another. -/
def exchange (old new : Char) (text : List Char) : List Char :=
  text.map fun c => if c == old then new else c

/-- Texts in the order of their code points. -/
def sortTexts (texts : List String) : List String :=
  texts.mergeSort fun a b => !(b < a)

/-- Repeats a character. -/
def repeated (n : Nat) (c : Char) : String :=
  String.ofList (List.replicate n c)

end DesignGauge.Text
