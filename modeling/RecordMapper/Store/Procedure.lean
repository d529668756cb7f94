/-! # Procedures

A procedure works on a state and may fail; what it did to the state before it failed stays done. -/

namespace RecordMapper

/-- A procedure on states of type `σ`. -/
abbrev Procedure (σ ε α : Type) := ExceptT ε (StateM σ) α

namespace Procedure

variable {σ τ ε δ α : Type}

/-- The procedure of a function. -/
def ofFunction (f : σ → Except ε α × σ) : Procedure σ ε α := ExceptT.mk f

/-- What a procedure does in a state. -/
def runFrom (p : Procedure σ ε α) (s : σ) : Except ε α × σ := StateT.run (ExceptT.run p) s

/-- A procedure with its errors changed. -/
def adapt (f : ε → δ) (p : Procedure σ ε α) : Procedure σ δ α :=
  ofFunction fun s => ((p.runFrom s).1.mapError f, (p.runFrom s).2)

/-- A procedure whose failure is its outcome. -/
def attempt (p : Procedure σ ε α) : Procedure σ δ (Except ε α) :=
  ofFunction fun s => (.ok (p.runFrom s).1, (p.runFrom s).2)

/-- A procedure on a part of a larger state. -/
def within (get : τ → σ) (set : σ → τ → τ) (p : Procedure σ ε α) : Procedure τ ε α :=
  ofFunction fun t => ((p.runFrom (get t)).1, set (p.runFrom (get t)).2 t)

/-- The outcome of a computation that leaves the state as it is. -/
def ofExcept (r : Except ε α) : Procedure σ ε α := ofFunction fun s => (r, s)

/-- Changes the state. -/
def change (f : σ → σ) : Procedure σ ε Unit := ofFunction fun s => (.ok (), f s)

/-- Reads the state. -/
def read (f : σ → α) : Procedure σ ε α := ofFunction fun s => (.ok (f s), s)

end Procedure

end RecordMapper
