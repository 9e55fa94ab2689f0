import Mathlib.Data.Rat.Defs
import SecurityDashboards.Lib.JsString
import SecurityDashboards.Lib.PlainObject

/-!
# Schemas of request bodies

A schema builder, known by what the schemas that it builds accept. The names that every object
inherits are left out: bodies with such a name may be refused before the schema is asked.
-/

namespace ConfigSchema

/-- A JSON value. -/
inductive Json where
  | null
  | bool (b : Bool)
  | number (n : ℚ)
  | string (s : String)
  | array (items : List Json)
  | object (props : List (String × Json))

/-- The truthiness of a property, which may be absent. -/
def truthy : Option Json → Bool
  | none => false
  | some .null => false
  | some (.bool b) => b
  | some (.number n) => decide (n ≠ 0)
  | some (.string s) => decide (s ≠ "")
  | some (.array _) => true
  | some (.object _) => true

/-- What an object schema does with properties that it does not name. -/
inductive Unknowns where
  | allow
  | ignore
  | forbid
deriving DecidableEq

/-- A schema builder. The last argument of `object` is the custom validator: it gets the properties
and may return the text of an error. -/
structure Builder where
  Schema : Type
  string (minLength : ℕ) : Schema
  arrayOf (item : Schema) : Schema
  maybe (schema : Schema) : Schema
  object (fields : List (String × Schema)) (unknowns : Unknowns)
    (validate : List (String × Json) → Option String) : Schema
  recordOf (key value : Schema) : Schema
  /-- The value, or its absence, satisfies the schema. -/
  accepts : Schema → Option Json → Bool

namespace Builder

variable (builder : Builder)

/-- What the schemas accept at least. -/
structure Documented : Prop where
  string : ∀ minLength s, minLength ≤ Js.length s →
    builder.accepts (builder.string minLength) (some (.string s)) = true
  arrayOf : ∀ item items, (∀ value ∈ items, builder.accepts item (some value) = true) →
    builder.accepts (builder.arrayOf item) (some (.array items)) = true
  maybe_absent : ∀ schema, builder.accepts (builder.maybe schema) none = true
  maybe_present : ∀ schema value, builder.accepts schema value = true →
    builder.accepts (builder.maybe schema) value = true
  object : ∀ fields unknowns validate props,
    (∀ field ∈ fields, builder.accepts field.2 (props.lookup field.1) = true) →
    (unknowns = .forbid → ∀ prop ∈ props, prop.1 ∈ fields.map Prod.fst) →
    validate props = none →
    builder.accepts (builder.object fields unknowns validate) (some (.object props)) = true
  recordOf : ∀ key value props, (∀ prop ∈ props, prop.1 ∉ Js.objectPrototype) →
    (∀ prop ∈ props, builder.accepts key (some (.string prop.1)) = true ∧
      builder.accepts value (some prop.2) = true) →
    builder.accepts (builder.recordOf key value) (some (.object props)) = true

end Builder

end ConfigSchema
