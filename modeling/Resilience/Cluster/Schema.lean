import Resilience.Json.Document
import Resilience.Timestamp
/-! # Schemas of objects

The types of the objects that an API server hands out are closed: a member that a record does not
name is dropped, a member that it names has to fit, and of a repeated member the last one stays.
-/
namespace Resilience

/-- What a record does with a field that is absent or null. -/
inductive Presence where
  | optional
  /-- The field then has this value. -/
  | filled (default : Json)
  /-- The field may be absent, but null has to fit its schema. -/
  | strict

inductive Schema where
  | any
  | text
  | exactly (word : String)
  | bool
  /-- Signed integers of so many bits. -/
  | int (bits : Nat)
  | time
  | textOrInt
  | list (item : Schema)
  | dict (value : Schema)
  | record (fields : List (String × Presence × Schema))

namespace Schema

open Json (Document)

def fitsBits (bits : Nat) (n : Int) : Bool :=
  -(twoTo (bits - 1) : Int) ≤ n && n < (twoTo (bits - 1) : Int)

mutual

/-- The value of a document that fits the schema, with nothing in it that the schema does not
name. -/
def read {δ : Type} [Document δ] (schema : Schema) (d : δ) : Option Json :=
  match schema, Document.shape d with
  | .any, _ => Document.value? d
  | .text, .text s => some (.string s)
  | .exactly word, .text s => if s = word then some (.string s) else none
  | .bool, .bool b => some (.bool b)
  | .int bits, .number (.int n) => if fitsBits bits n then some (.int n) else none
  | .time, .text s => (Timestamp.read? s).map fun t => .string t.text
  | .textOrInt, .text s => some (.string s)
  | .textOrInt, .number (.int n) => if fitsBits 32 n then some (.int n) else none
  | .list item, .items parts => (parts.mapM fun p => item.read p).map .array
  | .dict value, .members ms =>
    (ms.mapM fun m => (value.read m.2).map fun j => (m.1, j)).map fun pairs =>
      .object (Dict.ofList pairs)
  | .record fields, .members ms =>
    (readFields fields ms).map fun pairs => .object (Dict.ofList pairs)
  | _, _ => none

def readFields {δ : Type} [Document δ] (fields : List (String × Presence × Schema))
    (ms : List (String × δ)) : Option (List (String × Json)) :=
  match fields with
  | [] => some []
  | (name, presence, schema) :: fields => do
    let given ← (ms.filter fun m => m.1 = name).mapM fun m =>
      match presence, Document.shape m.2 with
      | .optional, .null | .filled _, .null => some none
      | _, _ => (schema.read m.2).map some
    let rest ← readFields fields ms
    match given.getLast?.getD none, presence with
    | some j, _ => pure ((name, j) :: rest)
    | none, .filled default => pure ((name, default) :: rest)
    | none, _ => pure rest

end

/-! ## Parts of records -/

def fields (schema : Schema) (names : List String) : List (String × Presence × Schema) :=
  names.map fun name => (name, .optional, schema)

def texts : List String → List (String × Presence × Schema) := fields .text

def flags : List String → List (String × Presence × Schema) := fields .bool

def ints : List String → List (String × Presence × Schema) := fields (.int 32)

def longs : List String → List (String × Presence × Schema) := fields (.int 64)

def times : List String → List (String × Presence × Schema) := fields .time

def textLists : List String → List (String × Presence × Schema) := fields (.list .text)

def textDicts : List String → List (String × Presence × Schema) := fields (.dict .text)

/-- Text fields that are empty where nothing is given. -/
def filledTexts (names : List String) : List (String × Presence × Schema) :=
  names.map fun name => (name, .filled (.string ""), .text)

def field (name : String) (schema : Schema) : List (String × Presence × Schema) :=
  [(name, .optional, schema)]

def records (name : String) (schema : List (String × Presence × Schema)) :
    List (String × Presence × Schema) :=
  field name (.list (.record schema))

def part (name : String) (schema : List (String × Presence × Schema)) :
    List (String × Presence × Schema) :=
  field name (.record schema)

/-- The fields that tell the type of an object. If given, they have to name this type. -/
def typed (apiVersion kind : String) : List (String × Presence × Schema) :=
  [("apiVersion", .strict, .exactly apiVersion), ("kind", .strict, .exactly kind)]

end Schema
end Resilience
