import ElementFinder.Failure
import ElementFinder.Value.Display

/-!
# Writing data values into messages

The written forms of values, with the failure that arises where there is none.
-/

namespace ElementFinder.Value

/-- The written form of a value, where there is one. -/
def writeOrFail (v : Value) : Except Failure String := v.write.mapError .numeral

/-- The form of a value inside a message, where there is one. -/
def displayOrFail (v : Value) : Except Failure String := v.display.mapError .numeral

end ElementFinder.Value
