import Mathlib.Data.List.Basic
import Mathlib.Data.List.Nodup

/-!
# JavaScript plain objects

A plain object is modelled by its own properties in enumeration order. Reads that do not look at
own properties only (`in`, `o[k]`) also see the names inherited from `Object.prototype`.

An object that is built by assignments never gets an own `__proto__` property, because assigning to
that name calls the inherited setter; `Assigned` is the type of such objects. An object that comes
out of `JSON.parse` may own it.
-/

namespace Js

/-- The names that every plain object inherits from `Object.prototype`. -/
def objectPrototype : List String :=
  ["constructor", "__defineGetter__", "__defineSetter__", "hasOwnProperty", "__lookupGetter__",
    "__lookupSetter__", "isPrototypeOf", "propertyIsEnumerable", "toString", "valueOf", "__proto__",
    "toLocaleString"]

/-- A plain object with values of type `α`: its own properties in enumeration order. -/
structure PlainObject (α : Type) where
  /-- The own properties. -/
  props : List (String × α)
  /-- No name occurs twice. -/
  nodup : (props.map Prod.fst).Nodup
deriving DecidableEq

namespace PlainObject

variable {α : Type}

@[ext]
theorem ext {o o' : PlainObject α} (h : o.props = o'.props) : o = o' := by
  cases o; cases o'; cases h; rfl

/-- `Object.keys(o)` -/
def keys (o : PlainObject α) : List String := o.props.map Prod.fst

/-- The value of an own property. -/
def own (o : PlainObject α) (k : String) : Option α := o.props.lookup k

/-- `o.hasOwnProperty(k)` -/
def hasOwn (o : PlainObject α) (k : String) : Bool := o.keys.contains k

/-- `k in o`: an own or an inherited name. -/
def has (o : PlainObject α) (k : String) : Bool := o.hasOwn k || objectPrototype.contains k

/-- `{}` -/
def empty : PlainObject α := ⟨[], by simp⟩

/-- `delete o[k]` -/
def delete (o : PlainObject α) (k : String) : PlainObject α :=
  ⟨o.props.filter fun p => p.1 != k, (o.nodup.sublist ((List.filter_sublist).map Prod.fst))⟩

/-- The own property `k` gets the value `v`; a new property goes to the end. -/
def put (o : PlainObject α) (k : String) (v : α) : PlainObject α where
  props := if o.hasOwn k then o.props.map fun p => if p.1 = k then (k, v) else p
    else o.props ++ [(k, v)]
  nodup := by
    have hmap : (o.props.map fun p => if p.1 = k then (k, v) else p).map Prod.fst = o.keys := by
      rw [keys, List.map_map]
      refine List.map_congr_left fun p _ => ?_
      by_cases hp : p.1 = k <;> simp [hp]
    split
    · rw [hmap]; exact o.nodup
    · rename_i hk
      have hnk : k ∉ o.keys := by simpa [hasOwn] using hk
      rw [List.map_append, List.nodup_append]
      refine ⟨o.nodup, by simp, ?_⟩
      intro a ha b hb
      have hbk : b = k := by simpa using hb
      rintro rfl
      exact hnk (hbk ▸ ha)

end PlainObject

/-- An object built from `{}` by assignments. -/
structure Assigned (α : Type) extends PlainObject α where
  /-- Assigning to `__proto__` creates no own property. -/
  noProto : "__proto__" ∉ toPlainObject.keys
deriving DecidableEq

namespace Assigned

variable {α : Type}

/-- `{}` -/
def empty : Assigned α := ⟨.empty, by simp [PlainObject.keys, PlainObject.empty]⟩

/-- `o[k] = v` -/
def set (o : Assigned α) (k : String) (v : α) : Assigned α :=
  if hk : k = "__proto__" then o
  else ⟨o.put k v, by
    have ho := o.noProto
    simp only [PlainObject.keys, PlainObject.put] at ho ⊢
    split
    · intro hp
      obtain ⟨p, hp, hpk⟩ := List.mem_map.mp hp
      obtain ⟨q, hq, rfl⟩ := List.mem_map.mp hp
      by_cases hqk : q.1 = k
      · simp only [hqk, if_true] at hpk
        exact hk hpk
      · simp only [hqk, if_false] at hpk
        exact ho (List.mem_map.mpr ⟨q, hq, hpk⟩)
    · simp only [List.map_append, List.map_cons, List.map_nil, List.mem_append,
        List.mem_singleton, not_or]
      exact ⟨ho, fun h => hk h.symm⟩⟩

/-- `Object.assign(o, source)` -/
def assign (o source : Assigned α) : Assigned α :=
  source.props.foldl (fun o p => o.set p.1 p.2) o

/-- `delete o[k]` -/
def remove (o : Assigned α) (k : String) : Assigned α :=
  ⟨o.delete k, fun h => o.noProto
    (((List.filter_sublist).map Prod.fst).subset h)⟩

/-- The properties whose value satisfies `f`. -/
def filterValues (o : Assigned α) (f : α → Bool) : Assigned α where
  props := o.props.filter fun p => f p.2
  nodup := o.nodup.sublist ((List.filter_sublist).map Prod.fst)
  noProto := fun h => o.noProto (((List.filter_sublist).map Prod.fst).subset h)

end Assigned

end Js
