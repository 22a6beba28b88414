/-!
# Kinds of strategies
-/

namespace Condense

/-- When a strategy compacts: at a number of tokens, or at a number of turns. -/
inductive StrategyKind where
  | threshold
  | slidingWindow
  deriving DecidableEq, Repr

/-- The word for a kind in settings and notices. -/
def StrategyKind.name : StrategyKind → String
  | .threshold => "threshold"
  | .slidingWindow => "sliding_window"

end Condense
