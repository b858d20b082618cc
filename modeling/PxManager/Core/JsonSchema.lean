import PxManager.Core.Python

/-!
# PxManager.Core.JsonSchema

**JSON Schema**, draft 2020-12, as far as schemas without recursion need it.

A schema is a list of keywords that all have to hold (`allOf`). A keyword says nothing about values
of another type than its own: `minLength` holds of every number. `$ref` to a definition is the
definition itself; annotations such as `title` and `default` are left out, and so is
`additionalProperties: true`.

A `pattern` is the predicate "`re.search` finds it", since it is there that a pattern gets its
meaning.
-/

namespace PxManager.Core

inductive JsonType
  | null
  | boolean
  | integer
  | string
  | array
  | object
  deriving DecidableEq, Repr

/-- A value is of a type. A float is an integer if it has no fractional part. -/
def JsonType.holds : JsonType → Json → Bool
  | .null, .null => true
  | .boolean, .bool _ => true
  | .integer, .int _ => true
  | .integer, .float (.finite q) => q.den = 1
  | .string, .str _ => true
  | .array, .arr _ => true
  | .object, .obj _ => true
  | _, _ => false

/-- The number that a value is. Unlike in Python, `true` is not 1. -/
def Json.schemaNumber? : Json → Option PyFloat
  | .bool _ => none
  | value => value.number?

/-- Equality of two values that are not both containers. -/
def Json.sameScalar (a b : Json) : Bool :=
  match a, b with
  | .null, .null => true
  | .bool x, .bool y => x = y
  | .str s, .str t => s = t
  | _, _ => a.schemaNumber?.isSome && a.schemaNumber? = b.schemaNumber?

inductive Schema
  | ofType (kind : JsonType)
  | const (value : Json)
  | enum (values : List String)
  | minLength (n : Nat)
  | maxLength (n : Nat)
  | pattern (search : Text → Bool)
  | minimum (n : ℤ)
  | maximum (n : ℤ)
  | items (schema : Schema)
  | minItems (n : Nat)
  | maxItems (n : Nat)
  /-- Only for arrays without containers. -/
  | uniqueItems
  | properties (members : List (String × Schema))
  | required (names : List String)
  | anyOf (schemas : List Schema)
  | allOf (schemas : List Schema)
  | ifThen (condition consequence : Schema)

mutual

/-- Whether a value is valid. -/
def Schema.valid : Schema → Json → Bool
  | .ofType kind, value => kind.holds value
  | .const expected, value => expected.sameScalar value
  | .enum values, value => value.asStr?.any (· ∈ values)
  | .minLength n, .str s => n ≤ s.toList.length
  | .maxLength n, .str s => s.toList.length ≤ n
  | .pattern search, .str s => search s.toList
  | .minimum n, value =>
      match value.schemaNumber? with
      | some (.finite q) => n ≤ q
      | some .negInf => false
      | _ => true
  | .maximum n, value =>
      match value.schemaNumber? with
      | some (.finite q) => q ≤ n
      | some .inf => false
      | _ => true
  | .items schema, .arr values => values.all fun value => schema.valid value
  | .minItems n, .arr values => n ≤ values.length
  | .maxItems n, .arr values => values.length ≤ n
  | .uniqueItems, .arr values => decide (values.Pairwise fun a b => a.sameScalar b = false)
  | .properties schemas, .obj members => Schema.validProperties schemas members
  | .required names, .obj members => names.all fun name => (Json.get? members name).isSome
  | .anyOf schemas, value => Schema.validAny schemas value
  | .allOf schemas, value => Schema.validAll schemas value
  | .ifThen condition consequence, value => !condition.valid value || consequence.valid value
  | _, _ => true

/-- The properties that are there are valid. -/
def Schema.validProperties : List (String × Schema) → List (String × Json) → Bool
  | [], _ => true
  | (name, schema) :: schemas, members =>
      ((Json.get? members name).all fun value => schema.valid value) &&
        Schema.validProperties schemas members

def Schema.validAny : List Schema → Json → Bool
  | [], _ => false
  | schema :: schemas, value => schema.valid value || Schema.validAny schemas value

def Schema.validAll : List Schema → Json → Bool
  | [], _ => true
  | schema :: schemas, value => schema.valid value && Schema.validAll schemas value

end

namespace Schema

/-- An object with these properties, some of which are required. -/
def object (members : List (String × Schema)) (names : List String) : Schema :=
  .allOf [.ofType .object, .properties members, .required names]

theorem validAny_iff {schemas : List Schema} {value : Json} :
    validAny schemas value = true ↔ ∃ schema ∈ schemas, schema.valid value = true := by
  induction schemas with
  | nil => simp [validAny]
  | cons schema schemas ih => simp [validAny, ih]

/-- An object is valid if its properties are and none is missing. -/
theorem valid_object_iff {schemas : List (String × Schema)} {names : List String}
    {members : List (String × Json)} :
    (object schemas names).valid (.obj members) = true ↔
      validProperties schemas members = true ∧
      ∀ name ∈ names, (Json.get? members name).isSome = true := by
  simp [object, valid, validAll, JsonType.holds]

end Schema

end PxManager.Core
