import Mathlib.Algebra.Ring.Nat

/-!
# Names of resources

`isValidResourceName` of `common/index.ts`, by which the pages check the name of a new role, user,
action group or tenant.
-/

namespace SecurityDashboards

/-- A code point of a JavaScript string: a character, or a surrogate that is not part of a pair. -/
inductive CodePoint where
  | char (c : Char)
  | loneSurrogate (unit : ℕ)
deriving DecidableEq

/-- A JavaScript string by its code points. -/
abbrev JsText := List CodePoint

def JsText.ofString (s : String) : JsText := s.toList.map CodePoint.char

/-- The pattern of the forbidden code points, those of category C and the percent sign. The
characters of category C are a parameter; the category of a surrogate is Cs. -/
def CodePoint.isForbidden (isOther : Char → Bool) : CodePoint → Bool
  | char c => isOther c || c == '%'
  | loneSurrogate _ => true

def isValidResourceName (isOther : Char → Bool) (resourceName : JsText) : Bool :=
  !(resourceName.any (CodePoint.isForbidden isOther)) && decide (resourceName.length > 0)

end SecurityDashboards
