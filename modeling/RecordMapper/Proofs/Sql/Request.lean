import RecordMapper.Proofs.Query.Clauses
import RecordMapper.Proofs.Sql.Plan
import RecordMapper.Proofs.Sql.Spread
import RecordMapper.Sql.Write

/-! # Requests

A query is compiled to read its rows, to remove them or to change them. The terms of a request are
spread over its statement in the order of the statement language. -/

namespace RecordMapper

/-- What a query is compiled for: to read the rows, to remove them, or to give fields of them new
values. -/
inductive Request where
  | select
  | deleteAll
  | updateAll (values : Row Term)

theorem Plan.ofBulk_eq_ok_iff {registry : Option Registry} {q : Query}
    {operation : BulkOperation} {p : Plan} :
    ofBulk registry q operation = .ok p ↔ ofQuery registry q = .ok p ∧ p.isBulk = true := by
  simp only [ofBulk, Outcome.bind_eq_ok_iff]
  constructor
  · rintro ⟨p', hp, h⟩
    split at h <;> simp_all
  · rintro ⟨hp, h⟩
    exact ⟨p, hp, by simp [h]⟩

namespace Request

variable (registry : Option Registry) (d : Dialect) (q : Query)

/-- The statement of a request. -/
def statement : Request → Except CompileError Statement
  | .select => q.compile registry d
  | .deleteAll => q.compileDeleteAll registry d
  | .updateAll values => q.compileUpdateAll registry d values

/-- The pieces of the statement of a request. -/
def pieces : Request → Except CompileError (List Piece)
  | .select => do
    let p ← Plan.ofQuery registry q
    let out ← p.projected d
    p.selectPieces d out
  | .deleteAll => do
    let p ← Plan.ofBulk registry q .deleteAll
    p.deleteAllPieces d
  | .updateAll values => do
    let p ← Plan.ofBulk registry q .updateAll
    p.updateAllPieces d values

/-- The terms of a request, in the order in which its statement has them. -/
def terms : Request → List Term
  | .select =>
    (q.lastSelect.getD []).map Column.termOf ++ q.joinTerms ++ q.rowFilters.map Prod.snd ++
      q.grouped ++ q.groupFilters.map Prod.snd ++ q.ordered.map Prod.fst ++
      q.lastLimit.toList.map (fun n => .literal (.int n)) ++
      q.lastOffset.toList.map (fun n => .literal (.int n)) ++
      q.endings.map fun f => .fragment f.1 f.2
  | .deleteAll => q.rowFilters.map Prod.snd
  | .updateAll values => values.map (fun x => x.2.inPlace) ++ q.rowFilters.map Prod.snd

variable {registry d q}

/-- A request has a statement exactly when it has pieces, and then the pieces make it. -/
theorem statement_eq_ok {r : Request} {s : Statement} (h : r.statement registry d q = .ok s) :
    ∃ ps, r.pieces registry d q = .ok ps ∧ s.text = String.ofList (Piece.render d 0 ps) ∧
      s.parameters = Piece.parameters ps := by
  cases r with
  | select =>
      simp only [statement, Query.compile, Plan.select, Outcome.bind_eq_ok_iff,
        Outcome.pure_eq_ok_iff] at h
      obtain ⟨p, hp, out, hout, ps, hps, rfl⟩ := h
      exact ⟨ps, by simp [pieces, hp, hout, hps], rfl, rfl⟩
  | deleteAll =>
      simp only [statement, Query.compileDeleteAll, Plan.deleteAll, Outcome.bind_eq_ok_iff,
        Outcome.pure_eq_ok_iff] at h
      obtain ⟨p, hp, ps, hps, rfl⟩ := h
      exact ⟨ps, by simp [pieces, hp, hps], rfl, rfl⟩
  | updateAll values =>
      simp only [statement, Query.compileUpdateAll, Plan.updateAll, Outcome.bind_eq_ok_iff,
        Outcome.pure_eq_ok_iff] at h
      obtain ⟨p, hp, ps, hps, rfl⟩ := h
      exact ⟨ps, by simp [pieces, hp, hps], rfl, rfl⟩

end Request

end RecordMapper
