/-!
# Blank characters

The characters with the property `White_Space` of Unicode, and what follows from them: trimming a
text, telling whether it is blank, and taking it apart into words.
-/

namespace GraphLedger.Text

/-- Whether a character is white space in the sense of Unicode. -/
def isBlank (c : Char) : Bool :=
  let n := c.toNat
  (9 ≤ n && n ≤ 13) || n == 0x20 || n == 0x85 || n == 0xA0 || n == 0x1680
    || (0x2000 ≤ n && n ≤ 0x200A) || n == 0x2028 || n == 0x2029 || n == 0x202F || n == 0x205F
    || n == 0x3000

/-- Drops what satisfies a test from the end of a list. -/
def dropEndWhile {α : Type} (p : α → Bool) (xs : List α) : List α :=
  (xs.reverse.dropWhile p).reverse

/-- A text without the blanks at its two ends. -/
def trim (s : String) : String :=
  String.ofList (dropEndWhile isBlank (s.toList.dropWhile isBlank))

/-- Whether a text holds nothing but blanks. -/
def allBlank (s : String) : Bool := s.toList.all isBlank

/-- The words of a list of characters, the word under way given in reverse. -/
def wordsFrom (word : List Char) : List Char → List (List Char)
  | [] => if word.isEmpty then [] else [word.reverse]
  | c :: cs =>
    if isBlank c then
      if word.isEmpty then wordsFrom [] cs else word.reverse :: wordsFrom [] cs
    else wordsFrom (c :: word) cs

/-- The words of a text: its longest parts without blanks. -/
def words (s : String) : List String := (wordsFrom [] s.toList).map String.ofList

/-- A text with every run of blanks made one space, and none at its ends. -/
def collapse (s : String) : String := " ".intercalate (words s)

/-- Takes a list apart at the first occurrence of an element, which goes to neither part. -/
def splitAtFirst {α : Type} [BEq α] (x : α) : List α → Option (List α × List α)
  | [] => none
  | y :: ys =>
    if y == x then some ([], ys)
    else (splitAtFirst x ys).map fun (before, after) => (y :: before, after)

/-- What is left of a list after a given beginning, if it begins so. -/
def afterStart? {α : Type} [BEq α] : List α → List α → Option (List α)
  | [], ys => some ys
  | _ :: _, [] => none
  | x :: xs, y :: ys => if x == y then afterStart? xs ys else none

/-- What is left of a text after a given beginning, if it begins so. -/
def stripStart? (start s : String) : Option String :=
  (afterStart? start.toList s.toList).map String.ofList

end GraphLedger.Text
