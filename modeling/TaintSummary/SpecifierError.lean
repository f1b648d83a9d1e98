import TaintSummary.Text

/-!
# What can be wrong with a specifier

The causes for which a taint, a toleration or one of their parts is refused, and the message of each.
-/

namespace TaintSummary

/-- The two things a specifier can stand for. -/
inductive Noun
  | taint
  | toleration
  deriving DecidableEq

/-- The word for it. -/
def Noun.word : Noun → Text
  | .taint => "taint".toList
  | .toleration => "toleration".toList

/-- Why a specifier is refused. -/
inductive SpecifierError
  /-- No effect has the name. -/
  | invalidEffect (name : Text)
  /-- The text has too many separators. -/
  | malformed (noun : Noun) (text : Text)
  /-- No operator has the name. -/
  | invalidOperator (name : Text)
  deriving DecidableEq

/-- The message of the error. -/
def SpecifierError.message : SpecifierError → Text
  | .invalidEffect name => "invalid taint effect: ".toList ++ name ++ ", unsupported taint effect".toList
  | .malformed noun text => "invalid ".toList ++ noun.word ++ ": ".toList ++ text
  | .invalidOperator name => "invalid toleration operator: ".toList ++ name ++ ", unsupported operator".toList

end TaintSummary
