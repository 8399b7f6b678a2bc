import RequestFile.Calendar
import RequestFile.Decimal.Layout
import RequestFile.Decimal.Limit
import RequestFile.Fields
import RequestFile.Text.Quoted

/-!
This module contains the values that a document holds, the names of their kinds, and the texts that
they get where a request needs text.
-/

namespace RequestFile

/--
A value of a document. A `null` stands for a value that is not there; no document text has one.
-/
inductive Value where
  | text (s : String)
  | integer (n : Int)
  | float (x : Float)
  | boolean (b : Bool)
  | dateTime (t : DateTime)
  | date (d : Date)
  | time (t : TimeOfDay)
  | array (items : List Value)
  | table (entries : List (String × Value))
  | null

namespace Value

def kind : Value → String
  | text _ => "string"
  | integer _ => "integer"
  | float _ => "float"
  | boolean _ => "boolean"
  | dateTime _ | date _ | time _ => "datetime"
  | array _ => "array"
  | table _ => "table"
  | null => "NoneType"

def primitiveText? : Value → Option String
  | text s => some s
  | integer n => (Decimal.integerText n).toOption
  | float x => some (Decimal.text x)
  | boolean b => some (if b then "true" else "false")
  | _ => none

def isPrimitive : Value → Bool
  | text _ | integer _ | float _ | boolean _ => true
  | _ => false

def items : Value → List Value
  | array items => items
  | v => [v]

def isFlat (v : Value) : Bool :=
  v.items.all isPrimitive

mutual

def literal : Value → Except Decimal.Overlong String
  | text s => .ok (Text.Quoted.text s)
  | integer n => Decimal.integerText n
  | float x => .ok (Decimal.text x)
  | boolean b => .ok (if b then "True" else "False")
  | dateTime t => .ok (t.textWith " ")
  | date d => .ok d.text
  | time t => .ok t.text
  | array items => do return "[" ++ String.intercalate ", " (← literals items) ++ "]"
  | table entries => do
    return "\x7b" ++ String.intercalate ", " (← literalEntries entries) ++ "\x7d"
  | null => .ok "None"

def literals : List Value → Except Decimal.Overlong (List String)
  | [] => .ok []
  | v :: rest => do
    let text ← literal v
    return text :: (← literals rest)

def literalEntries : List (String × Value) → Except Decimal.Overlong (List String)
  | [] => .ok []
  | (key, v) :: rest => do
    let text ← literal v
    return (Text.Quoted.text key ++ ": " ++ text) :: (← literalEntries rest)

end

/--
Write one item of an array, or a value that is no array, as text. Types are checked before values
are written, so the literal form of other values is only reached by values that were never checked.
-/
def itemText : Value → Except Decimal.Overlong String
  | text s => .ok s
  | boolean b => .ok (if b then "true" else "false")
  | v => v.literal

theorem primitiveText?_eq_some_iff {v : Value} {s : String}
    : v.primitiveText? = some s ↔ v.isPrimitive = true ∧ v.itemText = .ok s := by
  cases v with
  | integer n =>
    simp only [primitiveText?, isPrimitive, itemText, literal, true_and]
    cases Decimal.integerText n <;> simp [Except.toOption]
  | _ => simp [primitiveText?, isPrimitive, itemText, literal]

end Value

end RequestFile
