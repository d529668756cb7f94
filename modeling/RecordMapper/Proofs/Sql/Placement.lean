import Mathlib
import RecordMapper.Proofs.Sql.Parts
import RecordMapper.Proofs.Sql.Placeholder

/-! # The placeholders of a statement

Which value a statement binds to which placeholder, and when its placeholders are numbered without a
gap. -/

namespace RecordMapper

namespace Piece

variable {d : Dialect}

/-- The placeholder of what is bound bears the number of its place among all that is bound. -/
theorem render_slot (before : List Piece) (p : Parameter) (after : List Piece) :
    render d 0 (before ++ .slot p :: after) =
        render d 0 before ++ d.placeholder ((parameters before).length + 1 : Nat) ++
          render d ((parameters before).length + 1) after ∧
      (parameters (before ++ .slot p :: after))[(parameters before).length]? = some p := by
  simp [render_append, render, parameters]

end Piece

namespace Request

variable {registry : Option Registry} {d : Dialect} {q : Query} {r : Request} {s : Statement}

/-- A statement binds the values of its query in order, and each placeholder in its text has the
number of the value that it stands for. Where fragments hold neither backslashes nor dollar signs,
the placeholders outside of quotes are numbered without a gap up to the number of values exactly
when no list without values has an operand that binds something and, where placeholders have
numbers, none of them stands right before a digit that was written by hand. -/
theorem placeholders_statement_iff (h : r.statement registry d q = .ok s)
    (hraw : ∀ t ∈ r.terms q, ∀ raw params, .fragment raw params ∈ t.nodes →
      '\\' ∉ raw.toList ∧ '$' ∉ raw.toList) :
    s.parameters = (r.terms q).flatMap Term.bound ∧
      (∃ ps, r.pieces registry d q = .ok ps ∧
        ∀ before p after, ps = before ++ .slot p :: after →
          s.text.toList =
              Piece.render d 0 before ++
                d.placeholder ((Piece.parameters before).length + 1 : Nat) ++
                Piece.render d ((Piece.parameters before).length + 1) after ∧
            s.parameters[(Piece.parameters before).length]? = some p) ∧
      (d.placeholders s.text.toList = d.numbered 0 s.parameters.length ↔
        (∀ t ∈ r.terms q, ¬ Term.EmptiesIn t.nodes) ∧
          (d.isNumbered = true → ∀ t ∈ r.terms q, ¬ t.Fuses)) := by
  obtain ⟨ps, hps, htext, hparameters⟩ := statement_eq_ok h
  have hspread := spread_pieces hps
  have hisOf : ∀ p ∈ ps, p.IsOf fun raw => '\\' ∉ raw.toList ∧ '$' ∉ raw.toList :=
    hspread.isOf hraw
  have hlegible : ∀ p ∈ ps, p.Legible d := fun p hp => (hisOf p hp).legible fun _ h => h
  refine ⟨parameters_statement h, ?_⟩
  rw [htext, hparameters, String.toList_ofList]
  refine ⟨⟨ps, hps, ?_⟩, ?_⟩
  · rintro before p after rfl
    exact Piece.render_slot before p after
  · rw [Piece.placeholders_eq_numbered_iff hlegible, hspread.loses_iff, hspread.fuses_iff]
    simp only [not_exists, not_and]

/-- A fragment with a quoted question mark, a slot and a limit after it. -/
theorem placeholders_statement_fragment :
    let q : Query := ⟨.source "t" "t",
      [.filter (.fragment "n = '?' OR n = ?" [.plain (.int 5)]) false .and, .limit 7]⟩
    ∃ s, select.statement none .postgres q = .ok s ∧ s.parameters.length = 2 ∧
      Dialect.postgres.placeholders s.text.toList = Dialect.postgres.numbered 0 2 := by
  intro q
  have hs : select.statement none .postgres q = .ok
      ⟨"SELECT \"t\".* FROM \"t\" AS \"t\" WHERE n = '?' OR n = $1 LIMIT $2",
        [.value (.int 5), .value (.int 7)], [], none⟩ := by
    cbv
  have hterms : select.terms q =
      [.fragment "n = '?' OR n = ?" [.plain (.int 5)], .literal (.int 7)] := rfl
  have hraw : ∀ t ∈ select.terms q, ∀ raw params, .fragment raw params ∈ t.nodes →
      '\\' ∉ raw.toList ∧ '$' ∉ raw.toList := by
    rw [hterms]
    simp [Term.nodes, Term.paramNodes, Parameter.ofTerm?, Term.isTerm]
  have hempties : ∀ t ∈ select.terms q, ¬ Term.EmptiesIn t.nodes := by
    rw [hterms]
    simp [Term.EmptiesIn, Term.nodes, Term.paramNodes, Parameter.ofTerm?, Term.isTerm]
  have hfuses : ∀ t ∈ select.terms q, ¬ t.Fuses := by
    rw [hterms]
    decide +kernel
  obtain ⟨-, -, hiff⟩ := placeholders_statement_iff hs hraw
  exact ⟨_, hs, rfl, hiff.mpr ⟨hempties, fun _ => hfuses⟩⟩

end Request

end RecordMapper
