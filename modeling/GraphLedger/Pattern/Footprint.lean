import GraphLedger.Pattern.Basic
import GraphLedger.Pattern.Octets
import Std.Data.HashMap

/-!
# How large a pattern is

The room that the automata of a pattern take is limited. There are two: one reads a text forward and
notes where groups begin and end, the other reads it backward and notes nothing. Both work on
octets. A state takes 32 octets; a state with several edges on octets takes 8 more for each of them,
and a state that chooses between others takes 4 more for each of those.

A class that goes beyond ASCII is made of ranges of octets. Read forward, its ranges are put into a
tree whose equal ends are one; read backward, equal beginnings are one. What has been made is
remembered in a table in which a new entry takes the place of an old one, so not every repetition is
noticed.
-/

namespace GraphLedger.Pattern

open Unicode

/-- The states made so far, and the octets that they take beyond those of every state. -/
structure Tally where
  states : Nat
  extra : Nat
  deriving DecidableEq, Inhabited, Repr

namespace Tally

/-- The octets of every state. -/
def perState : Nat := 32

/-- The octets of an edge on a range of octets. -/
def perEdge : Nat := 8

/-- The octets of a choice. -/
def perChoice : Nat := 4

/-- The greatest room for an automaton: ten times two to the twentieth. -/
def limit : Nat := 10 * 1048576

/-- Nothing yet. -/
def zero : Tally := ⟨0, 0⟩

/-- The octets that an automaton takes. -/
def room (t : Tally) : Nat := perState * t.states + t.extra

end Tally

/-- A part of the making of an automaton, which stops when there is no more room. -/
abbrev Making := StateT Tally Option

namespace Making

/-- Takes room for states and more octets. -/
def take (states extra : Nat) : Making Unit := fun t =>
  let t' : Tally := ⟨t.states + states, t.extra + extra⟩
  if t'.room ≤ Tally.limit then some ((), t') else none

/-- Makes a state that takes some more octets; its number. -/
def state (extra : Nat) : Making Nat := fun t => (take 1 extra t).map fun r => (t.states, r.2)

/-- Leads a number of choices on to other states. -/
def choices (n : Nat) : Making Unit := take 0 (n * Tally.perChoice)

/-- Leads on from the last state of an expression, which may be a choice. -/
def leave (fromChoice : Bool) : Making Unit := if fromChoice then choices 1 else return

/-! ### Classes -/

/-- A hash of some numbers. -/
def hash (ns : List Nat) : UInt64 :=
  ns.foldl (fun h n => (h ^^^ n.toUInt64) * 1099511628211) 14695981039346656037

/-- States by what they were made of, with one entry for each slot of a table. -/
abbrev Memory := Std.HashMap Nat (List Nat × Nat)

/-- The state that was made of something, unless another entry took its place. -/
def Memory.recall (m : Memory) (slots : Nat) (key : List Nat) : Option Nat :=
  match m[(hash key).toNat % slots]? with
  | some (key', n) => if key' = key then some n else none
  | none => none

/-- Remembers the state that was made of something. -/
def Memory.note (m : Memory) (slots : Nat) (key : List Nat) (n : Nat) : Memory :=
  m.insert ((hash key).toNat % slots) (key, n)

/-- The slots for states that have edges on octets. -/
def treeSlots : Nat := 10000

/-- The slots for states before which others stand. -/
def chainSlots : Nat := 1000

/-- Ranges of octets, the ones with the same first range together. -/
def groupFirst : List (List (Nat × Nat)) → List ((Nat × Nat) × List (List (Nat × Nat)))
  | [] => []
  | [] :: rest => groupFirst rest
  | (r :: ends) :: rest =>
    match groupFirst rest with
    | (r', others) :: groups =>
      if r = r' then (r, ends :: others) :: groups else (r, [ends]) :: (r', others) :: groups
    | [] => [(r, [ends])]

/-- The state at which a tree of ranges of octets begins that leads to a given one; the ranges being
so long at most. -/
def tree (target : Nat) : Nat → List (List (Nat × Nat)) → Memory → Making (Nat × Memory)
  | 0, _, m => return (target, m)
  | fuel + 1, ranges, m => do
    if ranges.all List.isEmpty then return (target, m)
    let (key, m) ← (groupFirst ranges).foldlM (fun (key, m) (r, ends) => do
      let (next, m) ← tree target fuel ends m
      return (r.1 :: r.2 :: next :: key, m)) (([] : List Nat), m)
    let key := edges key
    match m.recall treeSlots key with
    | some n => return (n, m)
    | none =>
      let n ← state (key.length / 3 * Tally.perEdge)
      return (n, m.note treeSlots key n)
where
  /-- The edges of a state in order, of which the last was given first. -/
  edges (reversed : List Nat) : List Nat :=
    go reversed []
  /-- Puts edges before others, one after the other. -/
  go : List Nat → List Nat → List Nat
    | lo :: hi :: next :: rest, acc => go rest (lo :: hi :: next :: acc)
    | _, acc => acc

/-- The ranges of octets of a set. -/
def rangesOf (s : CharSet) : List (List (Nat × Nat)) :=
  s.ranges.toList.flatMap fun r => octetRanges r.1 r.2

/-- A class read forward. -/
def classForward (s : CharSet) : Making Unit := do
  let target ← state 0
  let _ ← tree target 4 (rangesOf s) ∅

/-- The first state of a chain of states for ranges of octets, of which the first leads to a given
state and each further one to the one before. -/
def chain (next : Nat) : List (Nat × Nat) → Memory → Making (Nat × Memory)
  | [], m => return (next, m)
  | (lo, hi) :: rest, m =>
    match m.recall chainSlots [next, lo, hi] with
    | some n => chain n rest m
    | none => do
      let n ← state 0
      chain n rest (m.note chainSlots [next, lo, hi] n)

/-- A class read backward. -/
def classBackward (s : CharSet) : Making Unit := do
  let _ ← state 0
  let last ← state 0
  let ranges := rangesOf s
  let _ ← ranges.foldlM (fun m rs => do return (← chain last rs m).2) (∅ : Memory)
  choices ranges.length

/-- A class; in ASCII it is a single state whatever the direction. -/
def oneOf (backward : Bool) (s : CharSet) : Making Unit :=
  if s.isAscii then do
    let _ ← state 0
    let _ ← state (s.ranges.size * Tally.perEdge)
  else if backward then classBackward s
  else classForward s

/-! ### Literals side by side -/

/-- A run of octets that begin further literals, each with what follows it in those. -/
abbrev Run := List (Nat × List (List Nat))

/-- Adds a literal to a run of first octets. -/
def addToRun (octet : Nat) (rest : List Nat) : Run → Run
  | [] => [(octet, [rest])]
  | (o, rests) :: run =>
    if o = octet then (o, rests ++ [rest]) :: run else (o, rests) :: addToRun octet rest run

/-- The runs of first octets of literals, the last run first. A literal that is at its end divides
runs. -/
def runs (literals : List (List Nat)) : List Run :=
  literals.foldl (fun rs l =>
    match l, rs with
    | [], _ => if rs.length > 1 && rs.all List.isEmpty then rs else [] :: rs
    | o :: rest, r :: before => addToRun o rest r :: before
    | o :: rest, [] => [[(o, [rest])]]) [[]]

/-- The states and further octets of literals put into a tree by what they begin with, the literals
being so long at most. -/
def literalTree : Nat → List (List Nat) → Nat × Nat
  | 0, _ => (0, 0)
  | fuel + 1, literals =>
    let rs := runs literals
    if rs.all List.isEmpty then (0, 0)
    else
      let filled := rs.filter fun r => !r.isEmpty
      let own := filled.map fun r => if r.length = 1 then 0 else r.length * Tally.perEdge
      let below := filled.flatMap fun r => r.map fun p => literalTree fuel p.2
      (filled.length + 1 + (below.map Prod.fst).sum,
        own.sum + (filled.length + rs.length - 1) * Tally.perChoice + (below.map Prod.snd).sum)

/-- Literals side by side. -/
def literals (backward : Bool) (ls : List (List Nat)) : Making Unit := do
  let ls := if backward then ls.map List.reverse else ls
  let (states, extra) := literalTree ((ls.map List.length).foldl max 0) ls
  take (states + 1) extra

/-! ### Repetitions -/

/-- An expression so many times more after one whose last state may be a choice. -/
def more (x : Making Bool) : Nat → Bool → Tally → Option (Bool × Tally)
  | 0, fromChoice, t => some (fromChoice, t)
  | n + 1, fromChoice, t =>
    match leave fromChoice t with
    | none => none
    | some (_, t) =>
      match x t with
      | none => none
      | some (fromChoice, t) => more x n fromChoice t

/-- An expression exactly so many times. -/
def exactly (x : Making Bool) : Nat → Making Bool
  | 0 => do
    let _ ← state 0
    return false
  | n + 1 => do more x n (← x)

/-- An expression at most so many times more, each time with the choice to stop. -/
def optional (x : Making Bool) : Nat → Bool → Tally → Option (Bool × Tally)
  | 0, fromChoice, t => some (fromChoice, t)
  | n + 1, fromChoice, t =>
    match (do leave fromChoice; let _ ← state (2 * Tally.perChoice) : Making Unit) t with
    | none => none
    | some (_, t) =>
      match x t with
      | none => none
      | some (fromChoice, t) => optional x n fromChoice t

/-- An expression at least so many times; whether it matches more than the empty text matters if
that may be not at all. -/
def atLeast (x : Making Bool) (consumes : Bool) : Nat → Making Bool
  | 0 =>
    if consumes then do
      let _ ← state Tally.perChoice
      leave (← x)
      return true
    else do
      leave (← x)
      take 3 (4 * Tally.perChoice)
      return false
  | 1 => do
    leave (← x)
    let _ ← state Tally.perChoice
    return true
  | n + 2 => do
    leave (← exactly x (n + 1))
    leave (← x)
    let _ ← state Tally.perChoice
    return true

/-- An expression repeated from a least to a greatest number of times. -/
def repeated (x : Making Bool) (consumes : Bool) (least : Nat) : Option Nat → Making Bool
  | none => atLeast x consumes least
  | some most =>
    if least = 0 && most = 1 then do
      let _ ← state (2 * Tally.perChoice)
      leave (← x)
      let _ ← state 0
      return false
    else do
      let fromChoice ← exactly x least
      if most ≤ least then return fromChoice
      let _ ← state 0
      leave (← optional x (most - least) fromChoice)
      return false

/-! ### Expressions -/

/-- The characters of a literal. -/
def literal? : Expr → Option (List Nat)
  | .literal cs => some cs
  | _ => none

/-- Joins a branch to the alternatives, of which it is the one of the given number; the second makes
the states at which they part and meet. -/
def join (number : Nat) (fromChoice : Bool) : Making Unit := do
  leave fromChoice
  if number = 1 then
    let _ ← state (2 * Tally.perChoice)
    let _ ← state 0
  else if number > 1 then choices 1

/-- An expression; whether its last state is a choice. Alternatives are given the number of their
first branch. -/
def expr (backward : Bool) (number : Nat) : Expr → Making Bool
  | .empty => do
    let _ ← state 0
    return false
  | .literal cs => do
    take (cs.flatMap octets).length 0
    return false
  | .oneOf s => do
    oneOf backward s
    return false
  | .place _ => do
    let _ ← state 0
    return false
  | .group _ a => do
    if backward then expr backward 0 a
    else
      let _ ← state 0
      let fromChoice ← expr backward 0 a
      let _ ← state 0
      leave fromChoice
      return false
  | .repeated least most _ a =>
    repeated (expr backward 0 a) (a.least?.any (0 < ·)) least most
  | .cat a b =>
    if backward then do
      leave (← expr backward 0 b)
      expr backward 0 a
    else do
      leave (← expr backward 0 a)
      expr backward 0 b
  | .alt a b => do
    match (if number = 0 then (Expr.alt a b).branches.mapM literal? else none) with
    | some ls => literals backward (ls.map fun cs => cs.flatMap octets)
    | none =>
      join number (← expr backward 0 a)
      if b.isAlternatives then
        let _ ← expr backward (number + 1) b
      else join (number + 1) (← expr backward 0 b)
    return false

/-- The automaton of a pattern in one direction. It may begin anywhere unless every match is at the
end of the text that it begins at. -/
def whole (backward : Bool) (e : Expr) : Making Unit := do
  let bound := if backward then e.endsText else e.startsText
  if bound then take 1 0 else take 3 (Tally.perEdge + 2 * Tally.perChoice)
  leave (← expr backward 0 (if backward then e else .group 0 e))
  take 1 0

end Making

/-- Whether both automata of a pattern have room. -/
def Expr.fits (e : Expr) : Bool :=
  ((Making.whole false e).run .zero).isSome && ((Making.whole true e).run .zero).isSome

end GraphLedger.Pattern
