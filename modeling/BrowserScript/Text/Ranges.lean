/-!
# Sets of code points

A property of characters is a list of closed intervals of code points. Membership is the only
question asked of such a list.
-/

namespace BrowserScript.Text

abbrev Ranges := List (Nat × Nat)

def Ranges.has (ranges : Ranges) (point : Nat) : Bool :=
  ranges.any fun interval => interval.1 ≤ point && point ≤ interval.2

end BrowserScript.Text
