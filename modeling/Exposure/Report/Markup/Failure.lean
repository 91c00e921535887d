namespace Exposure.Report.Markup

/-- Why a text with markup cannot be shown: a style ends that is not open, the arguments of an action are no values,
or a component of a color is no number. -/
inductive Failure where
  | notOpen | arguments | numeral
  deriving DecidableEq, Repr

namespace Failure

/-- What is wrong with a text with markup. -/
def message : Failure → String
  | notOpen => "a style ends that is not open"
  | arguments => "the arguments of an action are no values"
  | numeral => "a component of a color is no number"

end Failure

end Exposure.Report.Markup
