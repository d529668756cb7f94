import RecordMapper.Calendar.Time
import RecordMapper.Number.Decimal
import RecordMapper.Row
import RecordMapper.Uuid

/-! # Values

What a field can hold, what a query can bind and what a store hands back. -/

namespace RecordMapper

/-- A value. A decimal number keeps its digits, a tuple is never equal to a list, and a map has
values by name. -/
inductive Value where
  | null
  | bool (b : Bool)
  | int (i : Int)
  | float (x : Number.Binary64)
  | decimal (d : Number.Decimal)
  | string (s : String)
  | date (d : Calendar.Date)
  | time (t : Calendar.Time)
  | timestamp (t : Calendar.Timestamp)
  | binary (bytes : List UInt8)
  | uuid (u : Uuid)
  | list (items : List Value)
  | tuple (items : List Value)
  | map (entries : List (String × Value))
deriving Repr, Inhabited

namespace Value

/-- Whether the value is `null`. -/
def isNull : Value → Bool
  | .null => true
  | _ => false

/-- Whether the value is a decimal number. -/
def isDecimal : Value → Bool
  | .decimal _ => true
  | _ => false

/-- Whether the value counts as false: there is nothing in it, or it is zero. -/
def isFalsy : Value → Bool
  | .null => true
  | .bool b => !b
  | .int i => i = 0
  | .float (.finite _ m _) => m = 0
  | .decimal (.finite _ c _) => c = 0
  | .string s => s.isEmpty
  | .binary bs => bs.isEmpty
  | .list xs => xs.isEmpty
  | .tuple xs => xs.isEmpty
  | .map es => es.isEmpty
  | _ => false

/-- The exact number that a value denotes; a truth value counts as one or zero. -/
def number? : Value → Option Number.Decimal
  | .bool b => some (.ofInt (if b then 1 else 0))
  | .int i => some (.ofInt i)
  | .float x => some (.ofBinary64 x)
  | .decimal d => some d
  | _ => none

/-- The number of characters, items, entries or bytes of a value that has them. -/
def length? : Value → Option Nat
  | .string s => some s.length
  | .binary bs => some bs.length
  | .list xs => some xs.length
  | .tuple xs => some xs.length
  | .map es => some es.length
  | _ => none

mutual

/-- Whether a value can be a key: no list, no map and no signaling NaN is in it. -/
def isHashable : Value → Bool
  | .list _ => false
  | .map _ => false
  | .decimal d => !d.isSignaling
  | .tuple xs => allHashable xs
  | _ => true

/-- Whether every value of a list can be a key. -/
def allHashable : List Value → Bool
  | [] => true
  | x :: xs => isHashable x && allHashable xs

end

mutual

/-- The instants of the times of day in a value that can be a key, in order. -/
def instants : Value → List Int
  | .time t => [t.instant]
  | .tuple xs => allInstants xs
  | _ => []

/-- The instants of the times of day in the values of a list, in order. -/
def allInstants : List Value → List Int
  | [] => []
  | x :: xs => instants x ++ allInstants xs

end

end Value

end RecordMapper
