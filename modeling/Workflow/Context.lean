import Workflow.Json.Decoding

/-!
# Contexts

The store that one run threads through its stages: named data, and a log.

## Main Definitions

* `Datum` — a text, a number, or a record of data.
* `Context` — data by name, and log entries.
* `Datum.toJson`, `Datum.ofJson?` — data as JSON values and back.

## Design Notes

A record is kept as its fields in name order, which is what `Table.ofList`
makes of any list of fields; `Datum` cannot hold a `Table` itself, because the
order of a table is a fact about its entries.
-/

namespace Workflow

/-- A value in a context. -/
inductive Datum where
  /-- A text. -/
  | text (s : String)
  /-- A number. -/
  | number (n : Json.Number)
  /-- Named values in name order. -/
  | record (fields : List (String × Datum))

namespace Datum

/-- The record of some fields; the last field of a name counts. -/
def ofFields (fields : List (String × Datum)) : Datum := .record (Table.ofList fields).entries

/-- A whole number. -/
def ofNat (n : Nat) : Datum := .number (.integer n)

/-- The name of the datum's type. -/
def typeName : Datum → String
  | .text _ => "string"
  | .number _ => "number"
  | .record _ => "record"

/-! ### JSON -/

mutual

/-- A datum as a JSON value. -/
def toJson : Datum → Json
  | .text s => .string s
  | .number n => .number n
  | .record fields => .object (membersOf fields)

/-- The members of a record. -/
def membersOf : List (String × Datum) → List (String × Json)
  | [] => []
  | (name, datum) :: more => (name, toJson datum) :: membersOf more

end

mutual

/-- The datum of a JSON value in which records nest no deeper than `room`. -/
def ofJson? (room : Nat) : Json → Option Datum
  | .string s => some (.text s)
  | .number n => some (.number n)
  | .object members =>
    match room with
    | 0 => none
    | room + 1 => (fieldsOf? room members).map ofFields
  | _ => none

/-- The fields of an object. -/
def fieldsOf? (room : Nat) : List (String × Json) → Option (List (String × Datum))
  | [] => some []
  | (name, j) :: more =>
    match ofJson? room j with
    | none => none
    | some datum => (fieldsOf? room more).map ((name, datum) :: ·)

end

/-- How many objects and sequences a JSON text may nest. -/
def nestingLimit : Nat := 127

/-- The datum of a JSON text. -/
def parse? (text : String) : Option Datum := (Json.parse? text).bind (ofJson? nestingLimit)

/-- The canonical text of a datum: texts as they are, numbers in decimal, records as JSON. -/
def render : Datum → String
  | .text s => s
  | .number n => n.render
  | .record fields => (toJson (.record fields)).compact

/-- The text, when the datum is one. -/
def text? : Datum → Option String
  | .text s => some s
  | _ => none

/-- The signed word, when the datum is one. -/
def int64? : Datum → Option Int64
  | .number (.integer n) => Decimal.int64? n
  | _ => none

/-- A double as a datum; a text when it is no finite number. -/
def ofFloat (x : Float) : Datum :=
  if (Decimal.Double.ofFloat x).isFinite then .number (.float x)
  else .text (Decimal.Layout.text ⟨fun _ => true, .up, "", "NaN", "inf", "-inf"⟩ x)

mutual

/-- Equality of data. -/
def beq : Datum → Datum → Bool
  | .text a, .text b => a == b
  | .number a, .number b => a == b
  | .record a, .record b => beqFields a b
  | _, _ => false

/-- Equality of field lists. -/
def beqFields : List (String × Datum) → List (String × Datum) → Bool
  | [], [] => true
  | (m, a) :: as, (n, b) :: bs => m == n && beq a b && beqFields as bs
  | _, _ => false

end

instance : BEq Datum := ⟨beq⟩

end Datum

/-- The store of one run. -/
structure Context where
  /-- Data by name. -/
  values : Table Datum
  /-- Log entries, oldest first. -/
  logs : List String
  deriving BEq

namespace Context

/-- The store without data and log. -/
def empty : Context := ⟨.empty, []⟩

/-- Write a datum. -/
def set (c : Context) (key : String) (datum : Datum) : Context :=
  { c with values := c.values.insert key datum }

/-- Write a text. -/
def setText (c : Context) (key text : String) : Context := c.set key (.text text)

/-- The datum under a key. -/
def get? (c : Context) (key : String) : Option Datum := c.values.get? key

/-- The canonical text under a key, `default` when there is none. -/
def text (c : Context) (key default : String) : String :=
  match c.get? key with
  | some datum => datum.render
  | none => default

/-- Write every datum of `updates`; whatever they do not name stays. -/
def update (c : Context) (updates : Table Datum) : Context :=
  { c with values := c.values.merge updates }

/-- Append a log entry. -/
def log (c : Context) (entry : String) : Context := { c with logs := c.logs ++ [entry] }

/-! ### JSON -/

/-- A table of data that stands inside `depth` objects. -/
def valuesOfJson? (depth : Nat) (j : Json) : Option (Table Datum) :=
  j.table? (Datum.ofJson? (Datum.nestingLimit - depth - 1))

/-- A table of data as an object. -/
def valuesToJson (values : Table Datum) : Json := Json.ofTable Datum.toJson values

/-- A context as an object. -/
def toJson (c : Context) : Json :=
  .object [("values", valuesToJson c.values), ("logs", Json.ofTexts c.logs)]

/-- The context of a JSON value. -/
def ofJson? (j : Json) : Option Context := do
  match ← j.record? ["values", "logs"] with
  | [values, logs] =>
    return ⟨← Json.required? (valuesOfJson? 1) values,
      ← Json.required? (Json.list? Json.text?) logs⟩
  | _ => none

end Context

end Workflow
