/-!
# Why a text is no pattern

The reasons for which a text cannot be read as a pattern.
-/

namespace GraphLedger.Pattern

/-- Why a text is no pattern. -/
inductive Fault where
  | unclosedGroup
  | unopenedGroup
  | badGroupName
  | repeatedGroupName
  | lookAround
  | badFlags
  | nothingToRepeat
  | unclosedCount
  | badCount
  | unfinishedEscape
  | unknownEscape
  | backreference
  | badCodePoint
  | badPlace
  | unclosedClass
  | badClassItem
  | badRange
  | unknownProperty
  | notText
  | tooDeep
  | tooLarge
  deriving DecidableEq, Inhabited, Repr

/-- The wording of a reason. -/
def Fault.message : Fault → String
  | .unclosedGroup => "a group is not closed"
  | .unopenedGroup => "a group is closed that was not opened"
  | .badGroupName => "the name of a group is not well formed"
  | .repeatedGroupName => "two groups have one name"
  | .lookAround => "looking around is not supported"
  | .badFlags => "flags are not well formed"
  | .nothingToRepeat => "there is nothing to repeat"
  | .unclosedCount => "a count of repetitions is not closed"
  | .badCount => "a count of repetitions is not well formed"
  | .unfinishedEscape => "an escape is not finished"
  | .unknownEscape => "an escape is not known"
  | .backreference => "references to groups are not supported"
  | .badCodePoint => "a number is no code point"
  | .badPlace => "a kind of word boundary is not known"
  | .unclosedClass => "a class is not closed"
  | .badClassItem => "an item cannot be in a class"
  | .badRange => "a range is not well formed"
  | .unknownProperty => "a property is not known"
  | .notText => "the pattern matches what is not text"
  | .tooDeep => "the pattern is nested too deeply"
  | .tooLarge => "the pattern is too large"

end GraphLedger.Pattern
