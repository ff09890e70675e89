import GraphLedger.Template.Basic
import GraphLedger.Text.Blank

/-!
# Scanning

A scanner reads a beginning of a text. It either reads something, or does not apply, in which case
another scanner may be tried at the same place, or it finds a fault, which is final. Blanks may
stand between the parts of a tag.
-/

namespace GraphLedger.Template

/-- A scanner. -/
abbrev Scan := StateT (List Char) (OptionT (Except Fault))

namespace Scan

/-- The rest of the text. -/
def rest : Scan (List Char) := get

/-- A fault that is final. -/
def fault {α : Type} (e : Fault) : Scan α := fun _ => OptionT.mk (.error e)

/-- Whether a character may stand between the parts of a tag. -/
def isSpace (c : Char) : Bool := c == ' ' || c == '\t' || c == '\n' || c == '\r'

/-- Skips blanks. -/
def space : Scan Unit := modify fun cs => cs.dropWhile isSpace

/-- Reads given characters. -/
def word (w : List Char) : Scan Unit := do
  match Text.afterStart? w (← rest) with
  | some cs => set cs
  | none => failure

/-- Reads characters if they are there; whether they were. -/
def optional (w : List Char) : Scan Bool := (do word w; return true) <|> return false

/-- Reads the longest run of characters that pass a test, which must not be empty. -/
def takeRun (p : Char → Bool) : Scan (List Char) := do
  let cs ← rest
  let taken := cs.takeWhile p
  if taken.isEmpty then failure
  set (cs.dropWhile p)
  return taken

/-- Applies if a scanner does not, and reads nothing. -/
def refuse (x : Scan Unit) : Scan Unit := do
  let cs ← rest
  let applies ← (do x; return true) <|> return false
  set cs
  if applies then failure

/-- Reads as often as a scanner applies, with blanks before each time. -/
def many {α : Type} (x : Scan α) : Nat → Scan (List α)
  | 0 => return []
  | fuel + 1 => (do
      space
      let a ← x
      let others ← many x fuel
      return a :: others) <|> return []

/-- What a scanner reads, together with the text of it. -/
def withText {α : Type} (x : Scan α) : Scan (α × List Char) := do
  let before ← rest
  let a ← x
  let after ← rest
  return (a, before.take (before.length - after.length))

end Scan

end GraphLedger.Template
