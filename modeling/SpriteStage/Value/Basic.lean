/-!
# Values

A value is what an instruction carries and what a payload holds: nothing, a truth value, an integer
of any size, a double, a text, a list or an object.  Integers and doubles are different values even
where they are equal numbers.
-/

namespace SpriteStage

/-- A value of a program or a payload.  The fields of an object keep their order. -/
inductive Value where
  | null
  | bool (b : Bool)
  | int (n : Int)
  | float (x : Float)
  | text (s : String)
  | list (items : List Value)
  | object (fields : List (String × Value))
  deriving Inhabited, Repr

/-- The kinds of values. -/
inductive Kind where
  | null
  | bool
  | int
  | float
  | text
  | list
  | object
  deriving DecidableEq, Repr

/-- The name of a kind in messages. -/
def Kind.name : Kind → String
  | .null => "NoneType"
  | .bool => "bool"
  | .int => "int"
  | .float => "float"
  | .text => "str"
  | .list => "list"
  | .object => "dict"

namespace Value

/-- The kind of a value. -/
def kind : Value → Kind
  | .null => .null
  | .bool _ => .bool
  | .int _ => .int
  | .float _ => .float
  | .text _ => .text
  | .list _ => .list
  | .object _ => .object

/-- The value of a key in the fields of an object. -/
def field? (key : String) (fields : List (String × Value)) : Option Value :=
  (fields.find? (·.1 = key)).map (·.2)

/-- The fields with a new value for a key: in the place of the old one, or at the end. -/
def setField (key : String) (v : Value) : List (String × Value) → List (String × Value)
  | [] => [(key, v)]
  | (k, w) :: rest => if k = key then (k, v) :: rest else (k, w) :: setField key v rest

/-- After setting a key, looking it up gives the new value. -/
theorem field?_setField (key : String) (v : Value) (fields : List (String × Value)) :
    field? key (setField key v fields) = some v := by
  induction fields with
  | nil => simp [setField, field?]
  | cons f rest ih =>
    obtain ⟨k, w⟩ := f
    by_cases h : k = key
    · simp [setField, field?, h]
    · simpa [setField, field?, h] using ih

/-- Whether a value counts as true: all but nothing, false, zeros and what is empty. -/
def isTruthy : Value → Bool
  | .null => false
  | .bool b => b
  | .int n => n ≠ 0
  | .float x => x != 0
  | .text s => !s.isEmpty
  | .list items => !items.isEmpty
  | .object fields => !fields.isEmpty

end Value

end SpriteStage
