/-!
# JSON values

A JSON document is a tree of nulls, booleans, numbers, strings, arrays and
objects. A number keeps the kind its text had: a natural number that fits in
64 bits, a negative integer that fits in 64 bits, or else a double; a number
built for writing may also be a single, written with its own shortest digits. An object
keeps its members in order; `Json.get?` finds the last member of a name, as a
reader that lets a later member replace an earlier one would.
-/

namespace EdgePack

/-- A JSON number, in the kind its text was read as. -/
inductive Number where
  /-- A natural number below `2^64`. -/
  | nat (n : Nat)
  /-- A negative integer not below `-2^63`. -/
  | neg (n : Int)
  /-- Any other number, as a double. -/
  | float (x : Float)
  /-- A single-precision number, written with the digits of its own precision. -/
  | single (x : Float32)
  deriving Inhabited

/-- A JSON value. -/
inductive Json where
  | null
  | bool (b : Bool)
  | num (n : Number)
  | str (s : String)
  | arr (items : List Json)
  | obj (members : List (String × Json))
  deriving Inhabited

namespace Json

/-- The value of the last member named `key` of an object. -/
def get? (j : Json) (key : String) : Option Json :=
  match j with
  | .obj ms => (ms.reverse.find? (·.1 == key)).map (·.2)
  | _ => none

/-- The member `key` of an object, or `null` when it is absent. -/
def getD (j : Json) (key : String) : Json := (j.get? key).getD .null

/-- The natural number a JSON value holds, if it is one. -/
def nat? : Json → Option Nat
  | .num (.nat n) => some n
  | _ => none

/-- The string a JSON value holds, if it is one. -/
def str? : Json → Option String
  | .str s => some s
  | _ => none

/-- The boolean a JSON value holds, if it is one. -/
def bool? : Json → Option Bool
  | .bool b => some b
  | _ => none

/-- The items of an array, if the value is one. -/
def arr? : Json → Option (List Json)
  | .arr xs => some xs
  | _ => none

/-- A JSON number for a natural number. -/
def ofNat (n : Nat) : Json := .num (.nat n)

/-- A JSON number for an integer. -/
def ofInt (i : Int) : Json := if 0 ≤ i then .num (.nat i.toNat) else .num (.neg i)

/-- An array of strings. -/
def strs (xs : List String) : Json := .arr (xs.map .str)

/-- An array of natural numbers. -/
def nats (xs : List Nat) : Json := .arr (xs.map ofNat)

end Json

end EdgePack
