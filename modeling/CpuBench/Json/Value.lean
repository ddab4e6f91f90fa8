import CpuBench.Decimal.Notation

/-!
# JSON values

A JSON number keeps the kind it was read or built as: an unsigned 64-bit integer, a negative
64-bit integer, or a float. The kind is visible in the output (`1` against `1.0`), so it is part
of the value. Objects keep their fields in insertion order; setting a field that exists replaces
its value in place.
-/

namespace CpuBench.Json

/-- A JSON number of one of three kinds. -/
inductive Number where
  /-- An unsigned integer below `2^64`. -/
  | nat (n : Nat)
  /-- A negative integer not below `-2^63`. -/
  | neg (n : Int)
  /-- A finite float. -/
  | float (x : Float)

/-- A JSON value. -/
inductive Value where
  | null
  | bool (b : Bool)
  | number (n : Number)
  | string (s : String)
  | array (items : List Value)
  | object (fields : List (String × Value))

instance : Inhabited Value := ⟨.null⟩

namespace Number

/-- The number as a float: integers are rounded to the nearest float. -/
def toFloat : Number → Float
  | .nat n => Float.ofNat n
  | .neg n => Float.ofInt n
  | .float x => x

/-- The number's text: integers in decimal, floats in the JSON notation. -/
def text : Number → String
  | .nat n => Nat.repr n
  | .neg n => "-" ++ Nat.repr n.natAbs
  | .float x => Decimal.Notation.json.render x

end Number

namespace Value

/-- A float as a JSON value: the number itself when finite, `null` otherwise. -/
def ofFloat (x : Float) : Value :=
  if x.isFinite then .number (.float x) else .null

/-- An unsigned integer as a JSON value. -/
def ofNat (n : Nat) : Value :=
  .number (.nat n)

/-- The value of field `key`, if the value is an object that has it. -/
def field? (v : Value) (key : String) : Option Value :=
  match v with
  | .object fields => (fields.find? (·.1 == key)).map (·.2)
  | _ => none

end Value

/-- Sets field `key` to `v`: in place when the key is present, at the end otherwise. -/
def setField (fields : List (String × Value)) (key : String) (v : Value) :
    List (String × Value) :=
  if fields.any (·.1 == key) then fields.map fun f => if f.1 == key then (key, v) else f
  else fields ++ [(key, v)]

end CpuBench.Json
