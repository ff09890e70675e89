import GraphLedger.Pattern.Automaton
import GraphLedger.Pattern.Bracket
import GraphLedger.Pattern.Footprint
import GraphLedger.Unicode.Newest

/-!
# Reading patterns

A pattern is read as alternatives of sequences. The depth to which a pattern is nested and the room
that its automata take are limited.
-/

namespace GraphLedger.Pattern

open Unicode

/-- A part of a pattern that has been read. A change of flags is a part that cannot be repeated. -/
structure Part where
  expr : Expr
  depth : Nat
  repeatable : Bool

namespace Part

/-- The greatest depth. -/
def maxDepth : Nat := 250

/-- The part that matches the empty text. -/
def nothing : Part := ⟨.empty, 0, true⟩

/-- A change of flags. -/
def ofFlags : Part := ⟨.empty, 0, false⟩

/-- A condition on a place. -/
def ofPlace (p : Place) : Part := ⟨.place p, 0, true⟩

/-- A character of a set. -/
def ofSet (s : CharSet) : Part := ⟨.ofSet s, 0, true⟩

/-- Parts put together by an operation on expressions. -/
def join (op : List Expr → Expr) : List Part → Part
  | [] => nothing
  | [p] => { p with repeatable := true }
  | p :: q :: ps =>
    let all := p :: q :: ps
    ⟨op (all.map Part.expr), (all.map Part.depth).foldl max 0 + 1, true⟩

/-! ### Repetitions -/

/-- Whether a repetition prefers to match more, which the mark of a lazy one after it turns around.
-/
def greedy : Reading Bool := do
  let swapped := (← Reading.flags).swapGreed
  if (← Reading.peek) = some '?' then
    Reading.bump
    return swapped
  else return !swapped

/-- The least and greatest number of times in braces. -/
def counts : Reading (Nat × Option Nat) := do
  Reading.advance
  let _ ← Reading.peekOr .unclosedCount
  let least ← Reading.count
  let c ← Reading.peekOr .unclosedCount
  if c = ',' then
    Reading.advance
    if (← Reading.peekOr .unclosedCount) = '\x7d' then
      Reading.advance
      return (least, none)
    let most ← Reading.count
    if (← Reading.peekOr .unclosedCount) ≠ '\x7d' then throw .unclosedCount
    Reading.advance
    if most < least then throw .badCount
    return (least, some most)
  else if c = '\x7d' then
    Reading.advance
    return (least, some least)
  else throw .unclosedCount

/-- The numbers of times that a repetition means, which begins with the given character. -/
def bounds (c : Char) : Reading (Nat × Option Nat) := do
  if c = '\x7b' then counts
  else
    Reading.bump
    return match c with
      | '?' => (0, some 1)
      | '*' => (0, none)
      | _ => (1, none)

/-! ### Single characters -/

/-- A literal character. -/
def literal (n : Nat) (byte : Bool) : Reading Part := do
  let f ← Reading.flags
  if !f.unicode && byte && 128 ≤ n then throw .notText
  return ofSet (Escaped.foldIf f (.single n))

/-- The character that stands for any other. -/
def dot : Reading Part := do
  let f ← Reading.flags
  if !f.unicode then throw .notText
  let excluded : CharSet :=
    if f.dotAll then .empty
    else if f.returns then .ofList [10, 13]
    else .single 10
  return ofSet excluded.compl

/-- The place that `^` means. -/
def startPlace (f : Flags) : Place :=
  if f.multiLine then (if f.returns then .startOfLineOrReturn else .startOfLine) else .startOfText

/-- The place that `$` means. -/
def endPlace (f : Flags) : Place :=
  if f.multiLine then (if f.returns then .endOfLineOrReturn else .endOfLine) else .endOfText

/-- A character that is not the beginning of something larger. -/
def primitive (c : Char) : Reading Part := do
  if c = '\\' then
    match ← Escaped.read with
    | .char n byte => literal n byte
    | .cls s => return ofSet s
    | .place p => return ofPlace p
  else
    Reading.bump
    match c with
    | '.' => dot
    | '^' => return ofPlace (startPlace (← Reading.flags))
    | '$' => return ofPlace (endPlace (← Reading.flags))
    | _ => literal c.toNat false

/-! ### Groups -/

/-- Whether a character may stand in the name of a group. -/
def isNamePart (first : Bool) (c : Char) : Bool :=
  let among (s t : CharSet) : Bool := s.contains c.toNat || t.contains c.toNat
  c == '_' || among Property.alphabetic Newest.alphabetic
    || (!first && (c == '.' || c == '[' || c == ']' || among Category.number Newest.number))

/-- The name of a group up to `>`, which no other group may have. -/
def groupName : Reading Unit := do
  let p ← get
  match Text.splitAtFirst '>' p.rest with
  | some (first :: others, after) =>
    if !isNamePart true first || !others.all (isNamePart false) then throw .badGroupName
    if p.groupNames.contains (first :: others) then throw .repeatedGroupName
    set { p with rest := after, groupNames := (first :: others) :: p.groupNames }
  | _ => throw .badGroupName

/-- Flags up to a colon or a closing parenthesis; what was seen so far, and whether the last was a
hyphen. -/
def flagsFrom (seen : List Char) (dangling : Bool) (f : Flags) :
    List Char → Except Fault (Flags × List Char × List Char)
  | [] => .error .badFlags
  | c :: cs =>
    if c = ':' || c = ')' then
      if dangling then .error .badFlags else .ok (f, seen, c :: cs)
    else if seen.contains c then .error .badFlags
    else if c = '-' then flagsFrom (c :: seen) true f cs
    else
      match f.set? (!seen.contains '-') c with
      | some f' => flagsFrom (c :: seen) false f' cs
      | none => .error .badFlags

/-- Reads flags and puts them in force; whether they open a group. -/
def changeFlags : Reading Bool := do
  let p ← get
  if p.rest.isEmpty then throw .unclosedGroup
  let (f, seen, after) ← flagsFrom [] false p.flags p.rest
  let opens := after.head? = some ':'
  if !opens && seen.isEmpty then throw .nothingToRepeat
  set { p with flags := f, rest := after.drop 1 }
  return opens

/-- What an opening parenthesis begins. -/
inductive Opening where
  | flags
  | plain
  | numbered (n : Nat)

/-- Reads what follows an opening parenthesis up to the contents of the group, if there is one. -/
def openGroup : Reading Opening := do
  match ← Reading.rest with
  | '?' :: '=' :: _ => throw .lookAround
  | '?' :: '!' :: _ => throw .lookAround
  | '?' :: '<' :: '=' :: _ => throw .lookAround
  | '?' :: '<' :: '!' :: _ => throw .lookAround
  | '?' :: 'P' :: '<' :: after =>
    Reading.setRest after
    groupName
    return .numbered (← Reading.newGroup)
  | '?' :: '<' :: after =>
    Reading.setRest after
    groupName
    return .numbered (← Reading.newGroup)
  | '?' :: after =>
    Reading.setRest after
    return if ← changeFlags then .plain else .flags
  | _ => return .numbered (← Reading.newGroup)

mutual

/-- Alternatives up to the end of the group, those before given in reverse. -/
def alternatives : Nat → List Part → Reading Part
  | 0, _ => throw .tooDeep
  | fuel + 1, acc => do
    let part ← sequence fuel []
    if (← Reading.peek) = some '|' then
      Reading.bump
      alternatives fuel (part :: acc)
    else return join Expr.alternation (part :: acc).reverse

/-- The parts of a sequence up to its end, those before given in reverse. -/
def sequence : Nat → List Part → Reading Part
  | 0, _ => throw .tooDeep
  | fuel + 1, acc => do
    Reading.skipSpace
    match ← Reading.peek with
    | none => return join Expr.concat acc.reverse
    | some ')' => return join Expr.concat acc.reverse
    | some '|' => return join Expr.concat acc.reverse
    | some '(' =>
      let saved ← Reading.flags
      Reading.advance
      let opening ← openGroup
      match opening with
      | .flags => sequence fuel (ofFlags :: acc)
      | _ =>
        let inner ← alternatives fuel []
        if (← Reading.peek) ≠ some ')' then throw .unclosedGroup
        Reading.bump
        Reading.setFlags saved
        let e := match opening with
          | .numbered n => .group n inner.expr
          | _ => inner.expr
        sequence fuel (⟨e, inner.depth + 1, true⟩ :: acc)
    | some '[' =>
      let p ← ClassPart.bracket fuel
      sequence fuel ({ ofSet p.set with depth := p.depth } :: acc)
    | some c =>
      if c = '?' || c = '*' || c = '+' || c = '\x7b' then
        match acc with
        | last :: before =>
          if !last.repeatable then throw .nothingToRepeat
          let (least, most) ← bounds c
          let e := Expr.repeatOf least most (← greedy) last.expr
          sequence fuel (⟨e, last.depth + 1, true⟩ :: before)
        | [] => throw .nothingToRepeat
      else sequence fuel ((← primitive c) :: acc)

end

/-- A whole pattern. -/
def whole : Reading Part := do
  let p ← alternatives (4 * (← Reading.rest).length + 8) []
  if (← Reading.peek).isSome then throw .unopenedGroup
  if p.depth > maxDepth then throw .tooDeep
  if !p.expr.fits then throw .tooLarge
  return p

end Part

end GraphLedger.Pattern

namespace GraphLedger

/-- The pattern that a text writes. -/
def Pattern.read (text : String) : Except Pattern.Fault Pattern :=
  match Pattern.Part.whole.run ⟨text.toList, .initial, 0, []⟩ with
  | .ok (part, _) =>
    let (automaton, first) := Pattern.Automaton.ofExpr part.expr
    .ok ⟨text, automaton, first⟩
  | .error e => .error e

end GraphLedger
