import RecordMapper.Number.DecimalSum
import RecordMapper.Store.Error
import RecordMapper.Value.Order
import RecordMapper.Value.Text

/-! # Deadlines

A deadline is a point in time after which a call is given up. A token that it watches can have the
call given up before. Whole seconds stay whole until a fraction comes in. -/

namespace RecordMapper

/-- An amount of time in seconds, or a point in time. -/
inductive Seconds where
  | whole (n : Int)
  | floating (x : Number.Binary64)
  | decimal (d : Number.Decimal)
deriving DecidableEq, Repr, Inhabited

/-- Why two amounts of time have no sum or difference: a whole number is too large for floating
point, a decimal number does not mix with it, or two decimal numbers have none. -/
inductive SecondsError where
  | tooLarge
  | mixed
  | decimal (e : Number.SumError)
deriving DecidableEq, Repr

namespace Seconds

/-- The value of an amount. -/
def toValue : Seconds → Value
  | .whole n => .int n
  | .floating x => .float x
  | .decimal d => .decimal d

/-- The amount that a value is; a truth value counts as one or zero. -/
def ofValue? : Value → Option Seconds
  | .bool b => some (.whole (if b then 1 else 0))
  | .int n => some (.whole n)
  | .float x => some (.floating x)
  | .decimal d => some (.decimal d)
  | _ => none

/-- An amount in floating point. -/
def toFloat : Seconds → Except SecondsError Number.Binary64
  | .floating x => .ok x
  | .decimal _ => .error .mixed
  | .whole n =>
    match Number.Binary64.ofInt n with
    | .infinity _ => .error .tooLarge
    | x => .ok x

/-- Combines two amounts: whole numbers exactly, decimal and whole ones as decimals, and others in
floating point. -/
def combine (exact : Int → Int → Int)
    (decimals : Number.Decimal → Number.Decimal → Except Number.SumError Number.Decimal)
    (floats : Number.Binary64 → Number.Binary64 → Number.Binary64) :
    Seconds → Seconds → Except SecondsError Seconds
  | .whole m, .whole n => .ok (.whole (exact m n))
  | .decimal c, .decimal d => ofSum (decimals c d)
  | .decimal c, .whole n => ofSum (decimals c (.ofInt n))
  | .whole m, .decimal d => ofSum (decimals (.ofInt m) d)
  | a, b => do
    let x ← a.toFloat
    let y ← b.toFloat
    return .floating (floats x y)
where
  /-- The amount that a sum of decimal numbers is. -/
  ofSum (r : Except Number.SumError Number.Decimal) : Except SecondsError Seconds :=
    (r.map .decimal).mapError .decimal

/-- The sum. -/
def add : Seconds → Seconds → Except SecondsError Seconds :=
  combine (· + ·) Number.Decimal.add Number.Binary64.add

/-- The difference. -/
def sub : Seconds → Seconds → Except SecondsError Seconds :=
  combine (· - ·) Number.Decimal.sub Number.Binary64.sub

/-- Whether an order test holds of two amounts. -/
def test (p : Ordering → Bool) (a b : Seconds) : Except ComparisonError Bool :=
  (a.toValue.order b.toValue).test p

/-- Whether the first amount is not less than the second. -/
def atLeast (a b : Seconds) : Except ComparisonError Bool := test (· != .lt) a b

/-- No time, in floating point. -/
def zero : Seconds := .floating (.zero false)

/-- The amount, or no time where it is not more than that. -/
def orZero (a : Seconds) : Except ComparisonError Seconds := do
  let isMore ← test (· == .gt) a zero
  return if isMore then a else zero

end Seconds

/-- What a deadline is held against: the time, and whether the token says to give up. -/
structure Moment where
  time : Seconds
  isCancelled : Bool
deriving Repr

namespace Moment

/-- A later moment. -/
def advance (m : Moment) (amount : Seconds) : Except SecondsError Moment := do
  let time ← m.time.add amount
  return { m with time }

/-- The moment once the token is used. -/
def cancel (m : Moment) : Moment := { m with isCancelled := true }

end Moment

/-- Why there is no such deadline, or nothing to say of it: the time is up before it begins, points
in time or amounts are not compared, or they have no sum or difference. -/
inductive DeadlineError where
  | negative (seconds : Value)
  | comparison (e : ComparisonError)
  | seconds (e : SecondsError)

/-- The text of the error for a negative amount of time. -/
def DeadlineError.negativeMessage (seconds : Value) : String :=
  let shown := seconds.plainText
  s!"Deadline seconds must be non-negative, got {shown}"

/-- A deadline: when the time is up, if there is a limit, and whether the token is watched. -/
structure Deadline where
  expiresAt : Option Seconds
  watchesToken : Bool
deriving Repr

namespace Deadline

/-- No limit and no token. -/
def none : Deadline := ⟨.none, false⟩

/-- The deadline some seconds from now; there is no limit when they are `null`. -/
def after (m : Moment) (seconds : Value) (watchesToken : Bool) : Except DeadlineError Deadline :=
  if seconds.isNull then .ok ⟨.none, watchesToken⟩
  else
    match (seconds.order (.int 0)).test (· == .lt), Seconds.ofValue? seconds with
    | .error e, _ => .error (.comparison e)
    | .ok true, _ => .error (.negative seconds)
    | .ok false, .none => .error (.comparison .incomparable)
    | .ok false, some amount => do
      let time ← (m.time.add amount).mapError .seconds
      return ⟨some time, watchesToken⟩

/-- Whether the time is up, if that can be said. -/
def expired (d : Deadline) (m : Moment) : Except ComparisonError Bool :=
  match d.expiresAt with
  | .none => .ok false
  | some time => m.time.atLeast time

/-- Whether the time is known to be up. -/
def isExpired (d : Deadline) (m : Moment) : Bool :=
  match d.expired m with
  | .ok b => b
  | .error _ => false

/-- Whether the token that is watched says to give up. -/
def isCancelled (d : Deadline) (m : Moment) : Bool := d.watchesToken && m.isCancelled

/-- Why a call is to be given up at a moment, if it is: the token counts before the time. -/
def verdict? (d : Deadline) (m : Moment) : Option StorageError :=
  if d.isCancelled m then some .cancelled
  else if d.isExpired m then some .timeout
  else .none

/-- The time that is left, none of it negative; nothing where there is no limit. -/
def remaining (d : Deadline) (m : Moment) : Except DeadlineError (Option Seconds) :=
  match d.expiresAt with
  | .none => .ok .none
  | some time => do
    let left ← (time.sub m.time).mapError .seconds
    let left ← left.orZero.mapError .comparison
    return some left

end Deadline

end RecordMapper
