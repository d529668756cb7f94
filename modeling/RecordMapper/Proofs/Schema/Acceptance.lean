import Mathlib
import RecordMapper.Proofs.Schema.Reading
import RecordMapper.Schema.Resolve

/-! # Which schema texts are taken

A registry takes from a text the declarations of its derivation. A text without one leaves the
registry as it is, and the error names the first token that cannot stand where it stands. -/

namespace RecordMapper

open Production Grammar

namespace Declaration

variable {text : String} {ts : List Token}

theorem scan_of_ofText (h : Token.ofText text = .ok ts) : Token.scan text = (ts, none) := by
  unfold Token.ofText at h
  split at h
  · rename_i hscan
    rw [hscan, Except.ok.inj h]
  · cases h

/-- The declarations of a text whose tokens can be read are those of its tokens. -/
theorem ofText_eq_read (h : Token.ofText text = .ok ts) :
    ofText text = (Grammar.read .outside ts).mapError .grammar := by
  unfold ofText ofTokens
  rw [scan_of_ofText h]
  cases hread : Grammar.read .outside ts with
  | ok ds => simp [Except.mapError, hread]
  | error e => cases e <;> simp [Except.mapError, hread]

theorem ofText_eq_ok_iff (h : Token.ofText text = .ok ts) {ds : List Declaration} :
    ofText text = .ok ds ↔ SchemaFile ts ds := by
  rw [ofText_eq_read h, Outcome.mapError_eq_ok_iff, read_eq_ok_iff]

end Declaration

namespace Registry

/-- Adds the schemas of declarations. -/
def declare (r : Registry) (ds : List Declaration) : Registry × Except SchemaTextError Unit :=
  match Declaration.resolveAll ds with
  | .error e => (r, .error e)
  | .ok schemas =>
    match r.registerAll schemas with
    | (r, .error e) => (r, .error (.schema e))
    | (r, .ok ()) => (r, (r.checkAll schemas).mapError .schema)

theorem extend_of_ofText {r : Registry} {text : String} {ds : List Declaration}
    (h : Declaration.ofText text = .ok ds) : r.extend text = r.declare ds := by
  simp only [extend, h]
  rfl

/-- A text is taken exactly when its tokens are derived from the productions, and then its
declarations are those of the derivation. Any other text is refused for its first fault. -/
theorem extend_grammar (r : Registry) {text : String} {ts : List Token}
    (h : Token.ofText text = .ok ts) :
    (∀ ds, Declaration.ofText text = .ok ds ↔ SchemaFile ts ds) ∧
      (∀ ds, SchemaFile ts ds → r.extend text = r.declare ds) ∧
      ((∀ ds, ¬ SchemaFile ts ds) →
        ∃ e, FirstFault ts e e.message ∧ r.extend text = (r, .error (.grammar e))) := by
  refine ⟨fun ds => Declaration.ofText_eq_ok_iff h, fun ds hds => ?_, fun hnot => ?_⟩
  · exact extend_of_ofText ((Declaration.ofText_eq_ok_iff h).mpr hds)
  · obtain ⟨e, hfault, hread⟩ := firstFault_of_not_schemaFile hnot
    have htext : Declaration.ofText text = .error (.grammar e) := by
      rw [Declaration.ofText_eq_read h, hread]
      rfl
    exact ⟨e, hfault, by simp only [extend, htext]⟩

/-- A field with a mark behind its default: the mark is the first fault. -/
theorem extend_grammar_markAfterDefault :
    ∃ ts e, Token.ofText "schema A { x: integer = 1 virtual }" = .ok ts ∧ FirstFault ts e e.message ∧
      Registry.empty.extend "schema A { x: integer = 1 virtual }" =
        (Registry.empty, .error (.grammar e)) := by
  have htokens : Token.ofText "schema A { x: integer = 1 virtual }" = .ok
      [⟨.keyword .schema, 1, 0⟩, ⟨.identifier "A", 1, 7⟩, ⟨.mark .leftBrace, 1, 9⟩,
        ⟨.identifier "x", 1, 11⟩, ⟨.mark .colon, 1, 12⟩, ⟨.identifier "integer", 1, 14⟩,
        ⟨.mark .equals, 1, 22⟩, ⟨.integer 1, 1, 24⟩, ⟨.keyword .virtual, 1, 26⟩,
        ⟨.mark .rightBrace, 1, 34⟩] := by
    cbv
  obtain ⟨hiff, -, hrefused⟩ := extend_grammar .empty htokens
  obtain ⟨e, hfault, herror⟩ := hrefused fun ds hds => by
    have hread := read_eq_ok_iff.mpr hds
    cases hread
  exact ⟨_, e, htokens, hfault, herror⟩

end Registry

end RecordMapper
