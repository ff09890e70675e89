import GraphLedger.Pattern.Basic

/-!
# Matching

An expression becomes an automaton whose states wait for a character, stand on a condition or lead
on to other states. It matches somewhere in a text if, beginning anew at every place, a state is
reached in which nothing is left to match. At each place every state is visited once at most.
-/

namespace GraphLedger.Pattern

open Unicode

/-- A state: it accepts, waits for a character of a set, asks for a condition, or leads on. -/
inductive State where
  | accept
  | expect (s : CharSet) (next : Nat)
  | require (p : Place) (next : Nat)
  | branch (a b : Nat)
  | stuck
  deriving DecidableEq, Inhabited, Repr

/-- The states of an automaton by their numbers. -/
abbrev Automaton := Array State

namespace Automaton

/-- Adds a state; its number. -/
def add (s : State) (m : Automaton) : Automaton × Nat :=
  let n := m.size
  (m.push s, n)

/-- Adds states so many times, each time before those added last; the number of the first. -/
def iterate (add : Nat → Automaton → Automaton × Nat) : Nat → Nat → Automaton → Automaton × Nat
  | 0, next, m => (m, next)
  | n + 1, next, m =>
    let (m, first) := add next m
    iterate add n first m

/-- Adds the states for an expression after which a given state follows; the number of the first. -/
def build : Expr → Nat → Automaton → Automaton × Nat
  | .empty, next, m => (m, next)
  | .literal cs, next, m =>
    cs.foldr (fun c (m, next) => add (.expect (.single c) next) m) (m, next)
  | .oneOf s, next, m => add (.expect s next) m
  | .place p, next, m => add (.require p next) m
  | .group _ a, next, m => build a next m
  | .repeated least none _ a, next, m =>
    let loop := m.size
    let (m, first) := build a loop (m.push .stuck)
    iterate (build a) least loop (m.setIfInBounds loop (.branch first next))
  | .repeated least (some most) _ a, next, m =>
    let optional (inner : Nat) (m : Automaton) : Automaton × Nat :=
      let (m, first) := build a inner m
      add (.branch first next) m
    let (m, first) := iterate optional (most - least) next m
    iterate (build a) least first m
  | .cat a b, next, m =>
    let (m, middle) := build b next m
    build a middle m
  | .alt a b, next, m =>
    let (m, first) := build a next m
    let (m, second) := build b next m
    add (.branch first second) m

/-- The automaton of an expression and the number of its first state. -/
def ofExpr (e : Expr) : Automaton × Nat := build e 0 #[.accept]

/-- What is reached at a place: whether a text is accepted, the sets and states of what waits for a
character, and for every state the number of the last place where it was visited. -/
structure Reached where
  accepted : Bool
  waiting : List (CharSet × Nat)
  visits : Array Nat

/-- Visits the states to do and those to which they lead, at the place of a number. -/
def visit (m : Automaton) (place : Nat) (s : Spot) : Nat → List Nat → Reached → Reached
  | 0, _, r => r
  | _ + 1, [], r => r
  | fuel + 1, n :: todo, r =>
    if r.visits.getD n place == place then visit m place s fuel todo r
    else
      let r := { r with visits := r.visits.setIfInBounds n place }
      match m.getD n .stuck with
      | .accept => { r with accepted := true }
      | .expect cls next => visit m place s fuel todo { r with waiting := (cls, next) :: r.waiting }
      | .require p next => visit m place s fuel (if p.holds s then next :: todo else todo) r
      | .branch a b => visit m place s fuel (a :: b :: todo) r
      | .stuck => visit m place s fuel todo r

/-- What is reached at a place from some states. -/
def reach (m : Automaton) (place : Nat) (s : Spot) (starts : List Nat) (visits : Array Nat) :
    Reached :=
  visit m place s (starts.length + 2 * m.size + 1) starts ⟨false, [], visits⟩

/-- Whether a text is accepted from some states on or from the first state at some place, the places
before being numbered. -/
def search (m : Automaton) (first place : Nat) (before : Option Nat) (active : List Nat)
    (visits : Array Nat) : List Nat → Bool
  | [] => (reach m (place + 1) ⟨before, none⟩ (first :: active) visits).accepted
  | c :: cs =>
    let r := reach m (place + 1) ⟨before, some c⟩ (first :: active) visits
    r.accepted
      || search m first (place + 1) (some c)
        ((r.waiting.filter fun w => w.1.contains c).map Prod.snd) r.visits cs

end Automaton

end GraphLedger.Pattern

namespace GraphLedger

/-- A pattern that has been read: its text and its automaton. -/
structure Pattern where
  source : String
  automaton : Pattern.Automaton
  first : Nat
  deriving Inhabited

/-- Whether a pattern matches somewhere in a text. -/
def Pattern.isMatch (p : Pattern) (text : String) : Bool :=
  p.automaton.search p.first 0 none [] (Array.replicate p.automaton.size 0)
    (text.toList.map Char.toNat)

end GraphLedger
