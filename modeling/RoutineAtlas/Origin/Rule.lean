import RoutineAtlas.Origin.Basic
import RoutineAtlas.Origin.TextVerdict
import RoutineAtlas.Origin.KnownLead
import RoutineAtlas.Text.WordCharacter

/-
This file states the rules by which a routine is called standard or custom, and their order.
-/

namespace RoutineAtlas

/-- The rules in the order in which they are asked. -/
inductive Rule where
  | customMark
  | knownLead
  | contentMarkers
  | shape
  | otherwise
  deriving DecidableEq, Repr

/-- These are all rules in their order. -/
def Rule.all : List Rule :=
  [.customMark, .knownLead, .contentMarkers, .shape, .otherwise]

/-- This is the rule's name in answers. -/
def Rule.label : Rule → String
  | .customMark => "custom_prefix"
  | .knownLead => "known_prefix"
  | .contentMarkers => "content_markers"
  | .shape => "structural_shape"
  | .otherwise => "default_custom"

/-- Only the rule on content looks into the source. -/
def Rule.needsContent (rule : Rule) : Bool :=
  rule == .contentMarkers

/-- A rule sees the name, the upper-case head of the source and the discovered leads. -/
structure RuleQuestion where
  marked : Bool
  key : String
  content : Option String
  discovered : List String
  deriving DecidableEq, Repr

/-- A name has the vendor's shape when it is four capital letters and three digits. -/
def hasVendorShape (key : List Char) : Bool :=
  key.length == 7 && (key.take 4).all Char.isUpper && (key.drop 4).all isDecimalDigit

/-- A rule may leave the question open, the last one never does. -/
def Rule.decide (input : RuleQuestion) : Rule → Option Origin
  | .customMark => if input.marked then some .custom else none
  | .knownLead =>
      if beginsWithKnownLead input.key input.discovered then some .standard else none
  | .contentMarkers => input.content.map fun upper =>
      if (TextVerdict.of upper).isStandard then .standard else .custom
  | .shape => if hasVendorShape input.key.toList then some .standard else none
  | .otherwise => some .custom

/-- The first rule that decides gives the origin and its own name. -/
def RuleQuestion.firstDecision (input : RuleQuestion) : Option (Rule × Origin) :=
  Rule.all.findSome? fun rule => (rule.decide input).map fun origin => (rule, origin)

end RoutineAtlas
