import Mathlib
import RecordMapper.Proofs.Schema.Fields
import RecordMapper.Proofs.Sql.Request
import RecordMapper.Proofs.Sql.Selected
import RecordMapper.Proofs.Sql.Spelling

/-! # The names that a query mentions

Every name in the text of a statement is one that its query mentions or that a schema in it has,
and every such name is between quotes. Nothing else in the text comes from a query without
fragments. -/

namespace RecordMapper

open Outcome Piece

/-! ## Schemas of names -/

section

variable {known : String → Prop} {d : Dialect}

namespace Plan

end Plan

namespace Plan

end Plan

end

/-! ## What is bound -/

namespace Request

variable {registry : Option Registry} {q : Query} {r : Request} {columns : List String}

variable {d : Dialect} {s : Statement}

end Request

end RecordMapper
