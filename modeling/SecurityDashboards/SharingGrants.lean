import SecurityDashboards.Lib.SetDelta
import SecurityDashboards.ResourceSharing

/-!
# What a sharing state grants

A state of `ShareAccessModal` as the set of its grants. An empty list and an absent one grant nothing,
and a recipient that stands in a list twice is granted access once.
-/

namespace SecurityDashboards

namespace ResourceSharing

/-- A recipient of this kind has access at this level. -/
structure Grant where
  level : String
  kind : RecipientKey
  recipient : String

/-- The grants of a state. -/
def grants (sw : ShareWith) : Set Grant :=
  {grant | grant.recipient ∈ ((recipientsAt sw grant.level).get grant.kind).getD []}

/-- The grants of a payload, which is undefined if there are none. -/
def granted : Option ShareWith → Set Grant
  | none => ∅
  | some sw => grants sw

end ResourceSharing

end SecurityDashboards
