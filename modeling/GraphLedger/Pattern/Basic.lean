import GraphLedger.Pattern.CharClass

/-!
# Patterns

A regular expression with conditions on the places between characters. Expressions are kept simple:
neighbouring literals are one literal, sequences and alternatives hold no sequences and alternatives
of their own, alternatives of single characters are a class, and what all alternatives begin with
stands before them.
-/

namespace GraphLedger.Pattern

open Unicode

/-- A condition on a place between two characters. -/
inductive Place where
  | startOfText
  | endOfText
  | startOfLine
  | endOfLine
  | startOfLineOrReturn
  | endOfLineOrReturn
  | boundary (ascii : Bool)
  | noBoundary (ascii : Bool)
  | wordStart (ascii : Bool)
  | wordEnd (ascii : Bool)
  | wordStartHalf (ascii : Bool)
  | wordEndHalf (ascii : Bool)
  deriving DecidableEq, Inhabited, Repr

/-- A regular expression. Groups are numbered. The second part of a sequence may be a sequence, and
the last of some alternatives may be alternatives; so both stand for lists. -/
inductive Expr where
  | empty
  | literal (chars : List Nat)
  | oneOf (s : CharSet)
  | place (p : Place)
  | group (index : Nat) (a : Expr)
  | repeated (least : Nat) (most : Option Nat) (greedy : Bool) (a : Expr)
  | cat (a b : Expr)
  | alt (a b : Expr)
  deriving DecidableEq, Inhabited, Repr

/-! ### Places -/

/-- The characters before and after a place. -/
structure Spot where
  before : Option Nat
  after : Option Nat

/-- Whether a character belongs to a word. -/
def isWord (ascii : Bool) : Option Nat → Bool
  | none => false
  | some n => if ascii || n < 128 then CharClass.asciiWord.contains n else CharClass.word.contains n

/-- Whether a condition holds at a place. -/
def Place.holds (s : Spot) : Place → Bool
  | .startOfText => s.before.isNone
  | .endOfText => s.after.isNone
  | .startOfLine => s.before.isNone || s.before == some 10
  | .endOfLine => s.after.isNone || s.after == some 10
  | .startOfLineOrReturn =>
    s.before.isNone || s.before == some 10 || (s.before == some 13 && s.after != some 10)
  | .endOfLineOrReturn =>
    s.after.isNone || s.after == some 13 || (s.after == some 10 && s.before != some 13)
  | .boundary a => isWord a s.before != isWord a s.after
  | .noBoundary a => isWord a s.before == isWord a s.after
  | .wordStart a => !isWord a s.before && isWord a s.after
  | .wordEnd a => isWord a s.before && !isWord a s.after
  | .wordStartHalf a => !isWord a s.before
  | .wordEndHalf a => !isWord a s.after

namespace Expr

/-! ### Lengths -/

/-- The least number of characters in a match; none if there is no match. -/
def least? : Expr → Option Nat
  | .empty => some 0
  | .literal cs => some cs.length
  | .oneOf s => if s.isEmpty then none else some 1
  | .place _ => some 0
  | .group _ a => a.least?
  | .repeated n _ _ a => a.least?.map (· * n)
  | .cat a b => do return (← a.least?) + (← b.least?)
  | .alt a b => do return min (← a.least?) (← b.least?)

/-- The greatest number of characters in a match; none if there is no match or no such number. -/
def most? : Expr → Option Nat
  | .empty => some 0
  | .literal cs => some cs.length
  | .oneOf s => if s.isEmpty then none else some 1
  | .place _ => some 0
  | .group _ a => a.most?
  | .repeated _ (some n) _ a => a.most?.map (· * n)
  | .repeated _ none _ _ => none
  | .cat a b => do return (← a.most?) + (← b.most?)
  | .alt a b => do return max (← a.most?) (← b.most?)

/-- Whether every match begins at the start of the text. -/
def startsText : Expr → Bool
  | .place p => p == .startOfText
  | .group _ a => a.startsText
  | .repeated n _ _ a => n != 0 && a.startsText
  | .cat a b => a.startsText || (a.most? == some 0 && b.startsText)
  | .alt a b => a.startsText && b.startsText
  | _ => false

/-- Whether every match stops at the end of the text. -/
def endsText : Expr → Bool
  | .place p => p == .endOfText
  | .group _ a => a.endsText
  | .repeated n _ _ a => n != 0 && a.endsText
  | .cat a b => b.endsText || (b.most? == some 0 && a.endsText)
  | .alt a b => a.endsText && b.endsText
  | _ => false

/-- The number of the parts of an expression. -/
def size : Expr → Nat
  | .group _ a => a.size + 1
  | .repeated _ _ _ a => a.size + 1
  | .cat a b => a.size + b.size + 1
  | .alt a b => a.size + b.size + 1
  | _ => 1

/-! ### Classes and repetitions -/

/-- A character of a set; a literal if the set has just one. -/
def ofSet (s : CharSet) : Expr :=
  match s.single? with
  | some n => .literal [n]
  | none => .oneOf s

/-- The set of which an expression matches a single character, if it is of that kind. -/
def set? : Expr → Option CharSet
  | .literal [n] => some (.single n)
  | .oneOf s => some s
  | _ => none

/-- An expression repeated from a least to a greatest number of times. What matches the empty text
only is not repeated more than once. -/
def repeatOf (least : Nat) (most : Option Nat) (greedy : Bool) (a : Expr) : Expr :=
  let (least, most) :=
    if a.most? = some 0 then (min least 1, some ((most.map (min · 1)).getD 1)) else (least, most)
  if most = some 0 then .empty
  else if least = 1 && most = some 1 then a
  else .repeated least most greedy a

/-! ### Sequences -/

/-- The parts of a sequence. -/
def parts : Expr → List Expr
  | .empty => []
  | .cat a b => a :: b.parts
  | e => [e]

/-- The sequence of given parts. -/
def ofParts : List Expr → Expr
  | [] => .empty
  | [e] => e
  | e :: f :: es => .cat e (ofParts (f :: es))

/-- Puts a part before others, as one literal with the first of them if both are literals. -/
def consPart : Expr → List Expr → List Expr
  | .literal cs, .literal ds :: es => .literal (cs ++ ds) :: es
  | e, es => e :: es

/-- Expressions one after the other. -/
def concat (es : List Expr) : Expr := ofParts ((es.flatMap parts).foldr consPart [])

/-! ### Alternatives -/

/-- The branches of some alternatives. -/
def branches : Expr → List Expr
  | .alt a b => a :: b.branches
  | e => [e]

/-- Whether an expression is alternatives of several branches. -/
def isAlternatives : Expr → Bool
  | .alt _ _ => true
  | _ => false

/-- The alternatives of given branches. -/
def ofBranches : List Expr → Expr
  | [] => .oneOf .empty
  | [e] => e
  | e :: f :: es => .alt e (ofBranches (f :: es))

/-- What two lists begin with. -/
def commonStart : List Expr → List Expr → List Expr
  | a :: as, b :: bs => if a = b then a :: commonStart as bs else []
  | _, _ => []

/-- Whether an expression is a sequence of several parts. -/
def isSequence : Expr → Bool
  | .cat _ _ => true
  | _ => false

/-- What all of some sequences begin with; nothing if one of them is no sequence. -/
def sharedStart : List Expr → List Expr
  | [] => []
  | e :: es =>
    if (e :: es).all isSequence then es.foldl (fun start f => commonStart start f.parts) e.parts
    else []

/-- Expressions side by side, to a given depth of what they begin with. -/
def alternatives : Nat → List Expr → Expr
  | 0, es => ofBranches es
  | fuel + 1, es =>
    match es.flatMap branches with
    | [] => .oneOf .empty
    | [e] => e
    | all =>
      match all.mapM set? with
      | some ss => ofSet (.unions ss)
      | none =>
        let start := sharedStart all
        if start.isEmpty then ofBranches all
        else
          let ends := all.map fun e => concat (e.parts.drop start.length)
          concat (start ++ [alternatives fuel ends])

/-- Expressions side by side. -/
def alternation (es : List Expr) : Expr :=
  alternatives (es.foldl (fun n e => n + e.size) 1) es

end Expr

end GraphLedger.Pattern
