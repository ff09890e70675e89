import GraphLedger.Pattern.Escape

/-!
# Classes in brackets

A class in brackets holds characters, ranges, short classes, named classes and further classes in
brackets, and may take away or keep what another class holds.
-/

namespace GraphLedger.Pattern

open Unicode

/-- A class that has been read, and its depth. -/
structure ClassPart where
  set : CharSet
  depth : Nat

namespace ClassPart

/-- How two classes are combined. -/
inductive Operator where
  | inter
  | diff
  | symmDiff
  deriving DecidableEq, Inhabited, Repr

/-- The class of characters from one to another. -/
def range (lo hi : Nat) : ClassPart := ⟨.range lo hi, 0⟩

/-- The items of a class as one class. -/
def ofItems : List ClassPart → ClassPart
  | [] => ⟨.empty, 0⟩
  | [p] => p
  | p :: q :: ps =>
    let all := p :: q :: ps
    ⟨.unions (all.map ClassPart.set), (all.map ClassPart.depth).foldl max 0 + 1⟩

/-- Two classes combined. -/
def combine (f : Flags) (op : Operator) (a b : ClassPart) : ClassPart :=
  let l := Escaped.foldIf f a.set
  let r := Escaped.foldIf f b.set
  let s :=
    match op with
    | .inter => l.inter r
    | .diff => l.diff r
    | .symmDiff => l.symmDiff r
  ⟨s, max a.depth b.depth + 1⟩

/-- The items so far, combined with the class before the operator that precedes them. -/
def finish (f : Flags) (pending : Option (ClassPart × Operator)) (items : List ClassPart) :
    ClassPart :=
  match pending with
  | some (lhs, op) => combine f op lhs (ofItems items.reverse)
  | none => ofItems items.reverse

/-- A named class between colons and brackets, whether it is negated, and the text after it. -/
def named? : List Char → Option (CharSet × Bool × List Char)
  | '[' :: ':' :: cs => do
    let (negated, cs) := match cs with
      | '^' :: cs => (true, cs)
      | cs => (false, cs)
    let (name, after) ← Text.splitAtFirst ':' cs
    match after with
    | ']' :: after => some (← CharClass.ascii? (String.ofList name), negated, after)
    | _ => none
  | _ => none

/-- A set closed under changes of case and negated as it is wanted; outside of ASCII only where the
flags allow it. -/
def foldAndNegate (negated : Bool) (s : CharSet) : Reading CharSet := do
  let f ← Reading.flags
  let s := (Escaped.foldIf f s).negateIf negated
  if !f.unicode && !s.isAscii then throw .notText
  return s

/-- A character or an escape in a class. -/
def item : Reading Escaped := do
  let c ← Reading.peekOr .unclosedClass
  if c = '\\' then Escaped.read
  else
    Reading.bump
    return .char c.toNat false

/-- The character of an end of a range. -/
def endpoint : Escaped → Reading Nat
  | .char n byte => do
    if !(← Reading.flags).unicode && 128 ≤ n then throw (if byte then .notText else .badClassItem)
    return n
  | _ => throw .badRange

/-- The class of an item that is no range. -/
def ofItem : Escaped → Reading ClassPart
  | .char n byte => do
    let n ← endpoint (.char n byte)
    return range n n
  | .cls s => return ⟨s, 0⟩
  | .place _ => throw .badClassItem

/-- An item or a range of items. -/
def itemOrRange : Reading ClassPart := do
  let first ← item
  Reading.skipSpace
  let c ← Reading.peekOr .unclosedClass
  let next ← Reading.peekPast
  if c ≠ '-' || next = some ']' || next = some '-' then ofItem first
  else
    Reading.advance
    let _ ← Reading.peekOr .unclosedClass
    let last ← item
    let lo ← endpoint first
    let hi ← endpoint last
    if hi < lo then throw .badRange
    return range lo hi

/-- The hyphens at the beginning of a class. -/
def hyphens : Nat → List ClassPart → Reading (List ClassPart)
  | 0, acc => return acc
  | fuel + 1, acc => do
    if (← Reading.peekOr .unclosedClass) = '-' then
      Reading.advance
      hyphens fuel (range 45 45 :: acc)
    else return acc

mutual

/-- A class from its opening bracket on. -/
def bracket : Nat → Reading ClassPart
  | 0 => throw .tooDeep
  | fuel + 1 => do
    Reading.advance
    let negated := (← Reading.peekOr .unclosedClass) == '^'
    if negated then Reading.advance
    let start ← hyphens (← Reading.rest).length []
    let start ←
      if start.isEmpty && (← Reading.peekOr .unclosedClass) = ']' then do
        Reading.advance
        let _ ← Reading.peekOr .unclosedClass
        pure [range 93 93]
      else pure start
    let inner ← items fuel none start
    return ⟨← foldAndNegate negated inner.set, inner.depth + 1⟩

/-- The items of a class up to its closing bracket. -/
def items : Nat → Option (ClassPart × Operator) → List ClassPart → Reading ClassPart
  | 0, _, _ => throw .tooDeep
  | fuel + 1, pending, acc => do
    Reading.skipSpace
    let f ← Reading.flags
    let continueWith (op : Operator) (rest : List Char) : Reading ClassPart := do
      Reading.setRest rest
      items fuel (some (finish f pending acc, op)) []
    match ← Reading.rest with
    | [] => throw .unclosedClass
    | ']' :: rest =>
      Reading.setRest rest
      return finish f pending acc
    | '&' :: '&' :: rest => continueWith .inter rest
    | '-' :: '-' :: rest => continueWith .diff rest
    | '~' :: '~' :: rest => continueWith .symmDiff rest
    | '[' :: rest =>
      match named? ('[' :: rest) with
      | some (s, negated, after) =>
        Reading.setRest after
        items fuel pending (⟨← foldAndNegate negated s, 0⟩ :: acc)
      | none => items fuel pending ((← bracket fuel) :: acc)
    | _ => items fuel pending ((← itemOrRange) :: acc)

end

end ClassPart

end GraphLedger.Pattern
