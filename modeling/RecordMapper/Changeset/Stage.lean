import RecordMapper.Changeset.Basic
import RecordMapper.Text.Pattern.Reader
import RecordMapper.Text.Pattern.Search
import RecordMapper.Value.Order

/-! # Stages

A stage takes a changeset to the next one. Stages go on when something was found wrong, so that all
errors come up in one pass; a stage fails only where it makes no sense. -/

namespace RecordMapper

/-- Why a stage makes no sense: what is named is not there, a value of the right form cannot be
converted, it has no length, is not compared or is no text, there is no such pattern or check, or a
name cannot be used for a value. -/
inductive StageError where
  | lookup (e : LookupError)
  | cast (e : CastError)
  | noLength
  | comparison (e : ComparisonError)
  | notText
  | pattern (e : Text.PatternError)
  | unknownCheck (name : String)
  | reserved (name : String)

namespace StageError

/-- The text of the error for a check of numbers that there is none of. -/
def unknownCheckMessage (name : String) : String := s!"Unknown number check '{name}'"

end StageError

/-- The outcome of a stage. -/
abbrev Staged := Except StageError Changeset

/-- What a validation of one's own finds wrong: a message about the field itself or another one. -/
structure Finding where
  field : Option String
  message : String
deriving DecidableEq, Repr

/-- Bounds for a length. -/
structure LengthBounds where
  exactly : Option Value
  least : Option Value
  most : Option Value

/-- A check of a number against a bound. -/
inductive NumberCheck where
  | greater
  | greaterOrEqual
  | less
  | lessOrEqual
  | equal
  | notEqual
deriving DecidableEq, Repr

namespace NumberCheck

/-- The name of a check. -/
def name : NumberCheck → String
  | .greater => "greater_than"
  | .greaterOrEqual => "greater_than_or_equal_to"
  | .less => "less_than"
  | .lessOrEqual => "less_than_or_equal_to"
  | .equal => "equal_to"
  | .notEqual => "not_equal_to"

/-- The check of a name. -/
def ofName? (s : String) : Option NumberCheck :=
  [greater, greaterOrEqual, less, lessOrEqual, equal, notEqual].find? (·.name == s)

/-- What to say before the bound when a check fails. -/
def demand : NumberCheck → String
  | .greater => "must be greater than "
  | .greaterOrEqual => "must be greater than or equal to "
  | .less => "must be less than "
  | .lessOrEqual => "must be less than or equal to "
  | .equal => "must be equal to "
  | .notEqual => "must be not equal to "

/-- Whether a value passes a check. -/
def passes (check : NumberCheck) (v bound : Value) : Except ComparisonError Bool :=
  match check with
  | .greater => (Value.order v bound).test Ordering.isGT
  | .greaterOrEqual => (Value.order v bound).test Ordering.isGE
  | .less => (Value.order v bound).test Ordering.isLT
  | .lessOrEqual => (Value.order v bound).test Ordering.isLE
  | .equal => Value.isEqual v bound
  | .notEqual => (Value.isEqual v bound).map not

end NumberCheck

/-- A search for something in a value: whether it is found. -/
abbrev Search := Value → Except StageError Bool

/-- The search for the pattern that a text describes. -/
def Search.ofPattern (flags : List Text.Pattern.Flag) (pattern : String) : Search := fun v =>
  match Text.Pattern.ofText flags pattern with
  | .error e => .error (.pattern e)
  | .ok p =>
    match v with
    | .string s => .ok (p.isFound s)
    | _ => .error .notText

/-- A stage: it casts input or edits what is staged, adds an error, validates, or declares a
constraint. A change is staged by `putChange` even when the entity has the value. What the changeset
is submitted for is noted by `setAction`, and `restart` begins anew with changes to the entity. -/
inductive Stage where
  | cast (params : Row Value) (permitted : List String) (emptyValues : List Value)
  | change (values : Row Value)
  | putChange (field : String) (value : Value)
  | deleteChange (field : String)
  | addError (field message : String) (source : ErrorSource) (validation : Option String)
      (details : Row Value)
  | validateRequired (fields : List String) (message : Option String)
  | validateLength (field : String) (bounds : LengthBounds) (message : Option String)
  | validateFormat (field : String) (search : Search) (message : Option String)
  | validateInclusion (field : String) (values : List Value) (message : Option String)
  | validateExclusion (field : String) (values : List Value) (message : Option String)
  | validateNumber (field : String) (checks : Row Value) (message : Option String)
  | validateConfirmation (field : String) (required : Bool) (message : Option String)
  | validateAcceptance (field : String) (message : Option String)
  | validateChange (field : String) (validator : Value → Except StageError (List Finding))
      (validation : String)
  | constraint (kind : ConstraintKind) (field : String) (name message : Option String)
  | setAction (action : Option Action)
  | restart (changes : Row Value)

namespace Changeset

/-! ## Changes -/

/-- The outcome of a comparison within a stage. -/
def compared {α : Type} (r : Except ComparisonError α) : Except StageError α :=
  r.mapError .comparison

/-- Adds an error unless an equal one is there, if that can be said. -/
def addDistinct (c : Changeset) (e : FieldError) : Staged :=
  match Value.anyOf? (·.same? e) c.errors with
  | some _ => .ok (c.addError e)
  | none => .error (.comparison .refused)

/-- The error of a value that is none of a kind. -/
def castFailure (field : String) (kind : Kind) : FieldError :=
  ⟨field, "invalid type", .cast, some "cast", [("type", .string kind.name)]⟩

/-- Casts the input for one field. -/
def castField (params : Row Value) (emptyValues : List Value) (c : Changeset) (name : String) :
    Staged :=
  match c.schema.field name with
  | .error e => .error (.lookup e)
  | .ok field =>
    match params.find? name with
    | none => .ok c
    | some raw => do
      let isEmpty ← compared (Value.orRefused (Value.anyOf? (Value.equalInKind? raw) emptyValues))
      match field.kind.cast (if isEmpty then .null else raw) with
      | .ok v => compared (c.stage name v)
      | .error .mismatch => c.addDistinct (castFailure name field.kind)
      | .error e => throw (.cast e)

/-- Casts input to the permitted fields. -/
def cast (c : Changeset) (params : Row Value) (permitted : List String)
    (emptyValues : List Value) : Staged := do
  let c ← permitted.foldlM (castField params emptyValues) c
  return { c with
    params := c.params.overlay params
    castFields := permitted.foldl addOnce c.castFields }

/-- The name that no staged value can have. -/
def reservedName : String := "data"

/-- Stages values that need no casting. -/
def stageAll (c : Changeset) : Row Value → Staged
  | [] => .ok c
  | (name, v) :: rest => do
    let _ ← (c.schema.field name).mapError .lookup
    let d ← compared (c.stage name v)
    d.stageAll rest

/-- Stages values that need no casting. -/
def change (c : Changeset) (values : Row Value) : Staged :=
  if values.has reservedName then .error (.reserved reservedName)
  else c.stageAll values

/-- The changeset that a function gives, if a field is one of the schema. -/
def ifField (c : Changeset) (field : String) (next : Changeset) : Staged :=
  match c.schema.field field with
  | .ok _ => .ok next
  | .error e => .error (.lookup e)

/-- Stages a value even when the entity has it. -/
def putChange (c : Changeset) (field : String) (v : Value) : Staged :=
  c.ifField field { c with changes := c.changes.insert field v }

/-- Takes a staged value away. -/
def deleteChange (c : Changeset) (field : String) : Staged :=
  c.ifField field { c with changes := c.changes.erase field }

/-- The option that a row gives under its name, unless it is given otherwise, and the row without
it. -/
def takeOption (name : String) (given : Option String) (row : Row Value) :
    Except StageError (Option String × Row Value) :=
  match row.find? name, given with
  | none, _ => .ok (given, row)
  | some (.string s), none => .ok (some s, row.erase name)
  | some .null, none => .ok (none, row.erase name)
  | some _, _ => .error (.reserved name)

/-- Names that no detail of an error can have. -/
def reservedDetails : List String := ["changeset", "field_name", "message", "kind"]

/-- Adds an error with details. -/
def report (c : Changeset) (field message : String) (source : ErrorSource)
    (validation : Option String) (details : Row Value) : Staged := do
  if let some name := details.keys.find? reservedDetails.contains then throw (.reserved name)
  let (validation, details) ← takeOption "validation" validation details
  c.addDistinct
    ⟨field, message, source, validation, details.mergeSort fun a b => a.1 ≤ b.1⟩

/-! ## Validations -/

/-- What a validation finds wrong, in order. -/
abbrev Failures := Except StageError (List FieldError)

/-- An error that a validation finds. -/
def failure (field message validation : String) (details : Row Value) : FieldError :=
  ⟨field, message, .validation, some validation, details⟩

/-- Notes that a validation was run, and adds what it finds wrong. -/
def validated (c : Changeset) (field validation : String) (failures : Failures) : Staged := do
  (← failures).foldlM addDistinct (c.addValidation field validation)

/-- What is found wrong with a new value; nothing where there is none. -/
def ofNewValue (c : Changeset) (field : String) (failures : Value → Failures) : Failures :=
  match c.presentChange? field with
  | none => .ok []
  | some v => failures v

/-- Whether a value counts as none. -/
def isBlank : Value → Bool
  | .null => true
  | .string s => s.toList.all Text.isBlank
  | _ => false

/-- A field has to have a value; one with an error is passed over. -/
def requireField (message : String) (c : Changeset) (name : String) : Staged :=
  match c.schema.field name with
  | .error e => .error (.lookup e)
  | .ok _ =>
    let c := c.addValidation name "required"
    if c.hasErrorOn name then .ok c
    else if isBlank (c.value name .null) then c.addDistinct (failure name message "required" [])
    else .ok c

/-- Fields have to have a value. -/
def validateRequired (c : Changeset) (fields : List String) (message : Option String) : Staged := do
  let d ← fields.foldlM (requireField (message.getD "is required")) c
  return { d with required := d.required ++ fields.filter fun f => !d.required.contains f }

/-- The message, or another one in place of none or an empty one. -/
def messageOr (message : Option String) (other : String) : String :=
  Relationship.orElse message other

/-- What is wrong with a length: the name of the bound, what to say, and the bound. -/
def lengthFault (length : Value) (bounds : LengthBounds) :
    Except StageError (Option (String × String × Value)) := do
  if let some n ← breaks bounds.exactly fun n => (Value.isEqual length n).map not then
    return some ("is", "wrong length", n)
  if let some n ← breaks bounds.least fun n => (Value.order length n).test Ordering.isLT then
    return some ("min", "too short", n)
  if let some n ← breaks bounds.most fun n => (Value.order length n).test Ordering.isGT then
    return some ("max", "too long", n)
  return none
where
  /-- The bound, if there is one and a test says that it is broken. -/
  breaks (bound : Option Value) (isBroken : Value → Except ComparisonError Bool) :
      Except StageError (Option Value) :=
    match bound with
    | none => .ok none
    | some n => do
      let broken ← compared (isBroken n)
      return if broken then some n else none

/-- What is wrong with the length of a value. -/
def lengthFailures (field : String) (bounds : LengthBounds) (message : Option String) (v : Value) :
    Failures :=
  match v.length? with
  | none => .error .noLength
  | some n => do
    match ← lengthFault (.int n) bounds with
    | none => return []
    | some (bound, said, limit) =>
      return [failure field (messageOr message said) "length"
        [("count", limit), ("kind_of", .string bound)]]

/-- A new value has a length within bounds. -/
def validateLength (c : Changeset) (field : String) (bounds : LengthBounds)
    (message : Option String) : Staged :=
  c.validated field "length" (c.ofNewValue field (lengthFailures field bounds message))

/-- What is wrong with a value in which something is to be found. -/
def formatFailures (field : String) (search : Search) (message : Option String) (v : Value) :
    Failures := do
  let found ← search v
  return if found then [] else [failure field (message.getD "has invalid format") "format" []]

/-- A search finds something in a new value. -/
def validateFormat (c : Changeset) (field : String) (search : Search) (message : Option String) :
    Staged :=
  c.validated field "format" (c.ofNewValue field (formatFailures field search message))

/-- What is wrong with a value that is to be one of a list, or none of it. -/
def membershipFailures (field validation : String) (values : List Value) (wanted : Bool)
    (message : String) (v : Value) : Failures := do
  let found ← compared (v.isAmong values)
  return if found = wanted then [] else [failure field message validation []]

/-- A new value is one of a list, or none of it. -/
def validateMembership (c : Changeset) (field validation : String) (values : List Value)
    (wanted : Bool) (message : String) : Staged :=
  c.validated field validation
    (c.ofNewValue field (membershipFailures field validation values wanted message))

/-- The first check that fails, and its bound. -/
def failedCheck (v : Value) : List (NumberCheck × Value) →
    Except StageError (Option (NumberCheck × Value))
  | [] => .ok none
  | (check, bound) :: rest =>
    match check.passes v bound with
    | .error e => .error (.comparison e)
    | .ok true => failedCheck v rest
    | .ok false => .ok (some (check, bound))

/-- The checks of the given names. -/
def checksOf : Row Value → Except StageError (List (NumberCheck × Value))
  | [] => .ok []
  | (name, bound) :: rest =>
    match NumberCheck.ofName? name with
    | none => .error (.unknownCheck name)
    | some check => do
      let checks ← checksOf rest
      return (check, bound) :: checks

/-- Names that no check of a number can have. -/
def reservedChecks : List String := ["changeset", "field_name"]

/-- What is wrong with a value that is to pass checks. -/
def checkFailures (field : String) (checks : List (NumberCheck × Value))
    (message : Option String) (v : Value) : Failures := do
  match ← failedCheck v checks with
  | none => return []
  | some (check, bound) =>
    return [failure field (messageOr message (check.demand ++ bound.plainText)) "number"
      [("kind_of", .string check.name), ("number", bound)]]

/-- What is wrong with a new value that is to pass checks, which are looked up first. -/
def numberFailures (c : Changeset) (field : String) (checks : Row Value)
    (message : Option String) : Failures := do
  if let some name := checks.keys.find? reservedChecks.contains then throw (.reserved name)
  let (message, checks) ← takeOption "message" message checks
  let checks ← checksOf checks
  c.ofNewValue field (checkFailures field checks message)

/-- A new value passes checks. -/
def validateNumber (c : Changeset) (field : String) (checks : Row Value)
    (message : Option String) : Staged :=
  c.validated field "number" (c.numberFailures field checks message)

/-- What is given a second time: the value of a field, or the input where there is no such field. -/
def confirmation (c : Changeset) (name : String) : Value :=
  if c.schema.hasField name then c.value name .null else (c.params.find? name).getD .null

/-- The name under which a value is given a second time. -/
def confirmationName (field : String) : String := s!"{field}_confirmation"

/-- What is wrong with a new value that is to be given twice. -/
def confirmationFailures (c : Changeset) (field : String) (required : Bool)
    (message : Option String) : Failures :=
  match c.change? field with
  | none => .ok []
  | some v =>
    if (c.confirmation (confirmationName field)).isNull then
      .ok (if required then
          [failure (confirmationName field) "is required" "confirmation" []]
        else [])
    else do
      let agree ← compared (Value.isEqual (c.confirmation (confirmationName field)) v)
      return if agree then []
        else [failure (confirmationName field) (message.getD "does not match confirmation")
          "confirmation" []]

/-- A new value is given twice. -/
def validateConfirmation (c : Changeset) (field : String) (required : Bool)
    (message : Option String) : Staged :=
  c.validated field "confirmation" (c.confirmationFailures field required message)

/-- Whether a value is the truth value true. -/
def isTrue : Value → Bool
  | .bool b => b
  | _ => false

/-- What is wrong with a field that is to be true. -/
def acceptanceFailures (c : Changeset) (field : String) (message : Option String) : Failures := do
  let v ← (c.get field .null).mapError .lookup
  return if isTrue v then [] else [failure field (message.getD "must be accepted") "acceptance" []]

/-- A field is true. -/
def validateAcceptance (c : Changeset) (field : String) (message : Option String) : Staged :=
  c.validated field "acceptance" (c.acceptanceFailures field message)

/-- What a validation of one's own finds wrong with a new value of a field of the schema. -/
def ownFailures (c : Changeset) (field : String)
    (validator : Value → Except StageError (List Finding)) (validation : String) : Failures := do
  let _ ← (c.schema.field field).mapError .lookup
  c.ofNewValue field fun v => do
    let findings ← validator v
    return findings.map fun f => failure (f.field.getD field) f.message validation []

/-- A validation of one's own finds nothing wrong with a new value. -/
def validateChange (c : Changeset) (field : String)
    (validator : Value → Except StageError (List Finding)) (validation : String) : Staged :=
  c.validated field validation (c.ownFailures field validator validation)

/-! ## Constraints -/

/-- The name that a constraint has if none is given; a condition has to be given one. -/
def defaultConstraintName (kind : ConstraintKind) (relation field : String) : String :=
  match kind with
  | .unique => s!"{relation}_{field}_index"
  | .foreignKey => s!"{relation}_{field}_fkey"
  | .check => ""

/-- What to say when a constraint is violated and nothing else is given. -/
def defaultConstraintMessage : ConstraintKind → String
  | .unique => "has already been taken"
  | .foreignKey => "does not exist"
  | .check => "is invalid"

/-- Declares a constraint. -/
def declare (c : Changeset) (kind : ConstraintKind) (field : String)
    (name message : Option String) : Staged :=
  let name := Relationship.orElse name (defaultConstraintName kind c.schema.relation field)
  let message := message.getD (defaultConstraintMessage kind)
  c.ifField field { c with constraints := addOnce c.constraints ⟨kind, field, name, message⟩ }

/-- The declared constraint that a violation is one of. One without a name is the only declared
constraint of its kind. -/
def constraintFor? (c : Changeset) (e : StorageError) : Option Constraint :=
  match c.constraints.find? (·.isViolatedBy e) with
  | some k => some k
  | none =>
    match e.isViolation, e.constraintName, e.constraintType with
    | true, none, some type =>
      match c.constraints.filter (·.kind.name == type) with
      | [k] => if type = "" then none else some k
      | _ => none
    | _, _, _ => none

/-- The changeset with an error for a violation, if it is one of a declared constraint. -/
def addViolation? (c : Changeset) (e : StorageError) : Option Changeset :=
  (c.constraintFor? e).map fun k =>
    c.addError ⟨k.field, k.message, .constraint, some k.kind.name,
      [("constraint", .string k.name)]⟩

end Changeset

namespace Stage

/-- What a stage makes of a changeset. -/
def run (s : Stage) (c : Changeset) : Staged :=
  match s with
  | .cast params permitted emptyValues => c.cast params permitted emptyValues
  | .change values => c.change values
  | .putChange field v => c.putChange field v
  | .deleteChange field => c.deleteChange field
  | .addError field message source validation details =>
    c.report field message source validation details
  | .validateRequired fields message => c.validateRequired fields message
  | .validateLength field bounds message => c.validateLength field bounds message
  | .validateFormat field search message => c.validateFormat field search message
  | .validateInclusion field values message =>
    c.validateMembership field "inclusion" values true (message.getD "is invalid")
  | .validateExclusion field values message =>
    c.validateMembership field "exclusion" values false (message.getD "is reserved")
  | .validateNumber field checks message => c.validateNumber field checks message
  | .validateConfirmation field required message =>
    c.validateConfirmation field required message
  | .validateAcceptance field message => c.validateAcceptance field message
  | .validateChange field validator validation => c.validateChange field validator validation
  | .constraint kind field name message => c.declare kind field name message
  | .setAction action => .ok { c with action }
  | .restart changes => (Changeset.ofChanges c.data changes).mapError .lookup

/-- What stages make of a changeset, one after the other. -/
def runAll (stages : List Stage) (c : Changeset) : Staged := stages.foldlM (fun c s => s.run c) c

end Stage

end RecordMapper
