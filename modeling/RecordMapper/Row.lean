/-! # Rows

A row gives values to names, in the order in which the names were first given one. -/

namespace RecordMapper

/-- Values by name, in order. -/
abbrev Row (α : Type) := List (String × α)

namespace Row

variable {α : Type}

/-- The value of a name. -/
def find? (r : Row α) (name : String) : Option α :=
  match r with
  | [] => none
  | (k, v) :: rest => if k = name then some v else find? rest name

/-- Whether the name has a value. -/
def has (r : Row α) (name : String) : Bool := (r.find? name).isSome

/-- Gives a name a value: in its place when it has one, at the end otherwise. -/
def insert (r : Row α) (name : String) (value : α) : Row α :=
  match r with
  | [] => [(name, value)]
  | (k, v) :: rest =>
    if k = name then (k, value) :: rest else (k, v) :: insert rest name value

/-- Takes the value of a name away. -/
def erase (r : Row α) (name : String) : Row α :=
  match r with
  | [] => []
  | (k, v) :: rest => if k = name then erase rest name else (k, v) :: erase rest name

/-- Gives the names of the second row their values in the first. -/
def overlay (r s : Row α) : Row α := s.foldl (fun acc p => acc.insert p.1 p.2) r

/-- The names in order. -/
def keys (r : Row α) : List String := r.map Prod.fst

/-! ## What each operation does to the view `find?` -/

@[simp] theorem find?_nil (name : String) : find? ([] : Row α) name = none := rfl

theorem find?_insert (r : Row α) (name : String) (value : α) (other : String) :
    (r.insert name value).find? other = if name = other then some value else r.find? other := by
  induction r with
  | nil => simp [insert, find?]
  | cons p rest ih => grind [insert, find?]

theorem find?_erase (r : Row α) (name other : String) :
    (r.erase name).find? other = if name = other then none else r.find? other := by
  induction r with
  | nil => simp [erase, find?]
  | cons p rest ih => grind [erase, find?]

theorem mem_keys_iff {r : Row α} {name : String} :
    name ∈ r.keys ↔ (r.find? name).isSome := by
  induction r with
  | nil => simp [keys]
  | cons p rest ih => grind [keys, find?]

end Row

end RecordMapper
