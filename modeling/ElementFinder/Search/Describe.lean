import ElementFinder.Selector.Data
import ElementFinder.Selector.Read

/-!
# Describing a selector

The words for a selector in messages.
-/

namespace ElementFinder

/-- The text or name that a selector asks for, or else all its data. -/
def Selector.describe (s : Selector) : Except Failure String :=
  let short := s.criteria.describe
  if short.isEmpty then s.toValue.writeOrFail else .ok short

end ElementFinder
