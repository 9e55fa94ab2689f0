import SecurityDashboards.Lib.PathStore

/-!
# Nested objects

Plain objects inside plain objects, read and changed at lists of property names the way lodash `get`
and `set` do it.
-/

namespace Js

/-- An object with its properties, or a value that has none to lead through. -/
inductive NestedObject (α : Type) where
  | leaf (a : α)
  | object (props : List (String × NestedObject α))

/-- The properties with the value `v` at `k`; a new property goes to the end. -/
def putProp {β : Type} (k : String) (v : β) : List (String × β) → List (String × β)
  | [] => [(k, v)]
  | (k', v') :: props => if k = k' then (k, v) :: props else (k', v') :: putProp k v props

section PutProp

variable {β : Type}

theorem lookup_putProp (k : String) (v : β) (props : List (String × β)) :
    (putProp k v props).lookup k = some v := by
  induction props with
  | nil => exact List.lookup_cons_self
  | cons prop props ih =>
    unfold putProp
    split
    · exact List.lookup_cons_self
    · rename_i hne
      rw [List.lookup_cons, beq_false_of_ne hne]
      exact ih

theorem lookup_putProp_of_ne {j k : String} (hne : j ≠ k) (v : β) (props : List (String × β)) :
    (putProp k v props).lookup j = props.lookup j := by
  induction props with
  | nil =>
    rw [putProp, List.lookup_cons, beq_false_of_ne hne]
  | cons prop props ih =>
    unfold putProp
    split
    · rename_i heq
      rw [List.lookup_cons, List.lookup_cons, beq_false_of_ne hne, ← heq, beq_false_of_ne hne]
    · rw [List.lookup_cons, List.lookup_cons, ih]

end PutProp

namespace NestedObject

variable {α : Type}

def props : NestedObject α → List (String × NestedObject α)
  | leaf _ => []
  | object props => props

/-- `get(object, keys)`, where `none` is `undefined`. -/
def getAt : List String → NestedObject α → Option (NestedObject α)
  | [], nested => some nested
  | k :: keys, nested => (nested.props.lookup k).bind (getAt keys)

/-- `set(cloneDeep(object), keys, value)`. What is missing on the way is created, and what is no
object gives way to one. -/
def setAt (value : NestedObject α) : List String → NestedObject α → NestedObject α
  | [], _ => value
  | k :: keys, nested =>
    let objValue := (nested.props.lookup k).getD (object [])
    object (putProp k (setAt value keys objValue) nested.props)

theorem getAt_setAt (value : NestedObject α) (keys : List String) (nested : NestedObject α) :
    getAt keys (setAt value keys nested) = some value := by
  induction keys generalizing nested with
  | nil => rfl
  | cons k keys ih =>
    show ((putProp k _ nested.props).lookup k).bind (getAt keys) = some value
    rw [lookup_putProp, Option.bind_some, ih]

theorem getAt_missing {keys : List String} (hkeys : keys ≠ []) :
    getAt keys (object [] : NestedObject α) = none := by
  cases keys with
  | nil => exact absurd rfl hkeys
  | cons k keys => rfl

/-- Nothing changes at keys that neither lead to the place that is set nor through it. -/
theorem getAt_setAt_of_apart {keys keys' : List String} (hnot : ¬ keys <+: keys')
    (hnot' : ¬ keys' <+: keys) (value nested : NestedObject α) :
    getAt keys' (setAt value keys nested) = getAt keys' nested := by
  induction keys generalizing keys' nested with
  | nil => exact absurd List.nil_prefix hnot
  | cons k keys ih =>
    cases keys' with
    | nil => exact absurd List.nil_prefix hnot'
    | cons k' keys' =>
      show ((putProp k _ nested.props).lookup k').bind (getAt keys') =
        (nested.props.lookup k').bind (getAt keys')
      by_cases heq : k' = k
      · subst heq
        have hkeys : ¬ keys <+: keys' := fun h => hnot (List.cons_prefix_cons.mpr ⟨rfl, h⟩)
        have hkeys' : ¬ keys' <+: keys := fun h => hnot' (List.cons_prefix_cons.mpr ⟨rfl, h⟩)
        rw [lookup_putProp, Option.bind_some, ih hkeys hkeys']
        cases nested.props.lookup k' with
        | some objValue => rfl
        | none =>
          -- the object is created on the way, so that there is nothing at the other keys
          refine getAt_missing ?_
          rintro rfl
          exact hkeys' List.nil_prefix
      · rw [lookup_putProp_of_ne heq]

/-- Nested objects as stores, where a path is read as a list of property names. -/
def pathStore {π : Type} (keys : π → List String) :
    PathStore (NestedObject α) π (NestedObject α) where
  get nested path := getAt (keys path) nested
  set nested path value := setAt value (keys path) nested
  Apart path path' := ¬ keys path <+: keys path' ∧ ¬ keys path' <+: keys path
  get_set nested path value := getAt_setAt value (keys path) nested
  get_set_of_apart h nested value := getAt_setAt_of_apart h.1 h.2 value nested

end NestedObject

end Js
