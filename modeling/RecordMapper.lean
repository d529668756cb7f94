import RecordMapper.Calendar.Date
import RecordMapper.Calendar.IsoText
import RecordMapper.Calendar.Time
import RecordMapper.Cast
import RecordMapper.Changeset.Basic
import RecordMapper.Changeset.Stage
import RecordMapper.Entity
import RecordMapper.Fragment
import RecordMapper.Json.Encoding
import RecordMapper.Json.Reader
import RecordMapper.Json.Writer
import RecordMapper.Kind
import RecordMapper.Naming
import RecordMapper.Number.Binary64
import RecordMapper.Number.Decimal
import RecordMapper.Number.DecimalSum
import RecordMapper.Number.Reader
import RecordMapper.Number.Rounding
import RecordMapper.Proofs.Calendar.ClockText
import RecordMapper.Proofs.Calendar.Instants
import RecordMapper.Proofs.Fragment.Closed
import RecordMapper.Proofs.Number.DecimalText
import RecordMapper.Proofs.Outcome
import RecordMapper.Proofs.Query.Clauses
import RecordMapper.Proofs.Query.Nodes
import RecordMapper.Proofs.Query.Revalued
import RecordMapper.Proofs.Query.Sameness
import RecordMapper.Proofs.Sql.Acceptance
import RecordMapper.Proofs.Sql.Alike
import RecordMapper.Proofs.Sql.AlikePlans
import RecordMapper.Proofs.Sql.Binding
import RecordMapper.Proofs.Sql.Caching
import RecordMapper.Proofs.Sql.Layout
import RecordMapper.Proofs.Sql.Parts
import RecordMapper.Proofs.Sql.Pieces
import RecordMapper.Proofs.Sql.Placeholder
import RecordMapper.Proofs.Sql.Placement
import RecordMapper.Proofs.Sql.Plan
import RecordMapper.Proofs.Sql.Request
import RecordMapper.Proofs.Sql.Selected
import RecordMapper.Proofs.Sql.Spread
import RecordMapper.Proofs.Sql.Values
import RecordMapper.Proofs.Sql.Vocabulary
import RecordMapper.Proofs.Sql.WellFormed
import RecordMapper.Proofs.Text.Numerals
import RecordMapper.Proofs.Text.Quotes
import RecordMapper.Proofs.Value.Identity
import RecordMapper.Query.Basic
import RecordMapper.Query.Builder
import RecordMapper.Query.Term
import RecordMapper.Repo.Basic
import RecordMapper.Repo.Commit
import RecordMapper.Row
import RecordMapper.Schema.Basic
import RecordMapper.Schema.Declaration
import RecordMapper.Schema.Define
import RecordMapper.Schema.Grammar
import RecordMapper.Schema.Lexer
import RecordMapper.Schema.Registry
import RecordMapper.Schema.Resolve
import RecordMapper.Schema.Token
import RecordMapper.Sql.Cache
import RecordMapper.Sql.Dialect
import RecordMapper.Sql.Error
import RecordMapper.Sql.Expression
import RecordMapper.Sql.Plan
import RecordMapper.Sql.Select
import RecordMapper.Sql.Statement
import RecordMapper.Sql.Write
import RecordMapper.Store.Basic
import RecordMapper.Store.Connection
import RecordMapper.Store.Deadline
import RecordMapper.Store.Error
import RecordMapper.Store.Procedure
import RecordMapper.Store.Replay
import RecordMapper.Store.Script
import RecordMapper.Store.Sqlite
import RecordMapper.Text.Blank
import RecordMapper.Text.Case
import RecordMapper.Text.CharacterName
import RecordMapper.Text.CharacterName.Alias
import RecordMapper.Text.CharacterName.Basic
import RecordMapper.Text.CharacterName.From0000
import RecordMapper.Text.CharacterName.From0800
import RecordMapper.Text.CharacterName.From10000
import RecordMapper.Text.CharacterName.From18000
import RecordMapper.Text.CharacterName.From1E000
import RecordMapper.Text.CharacterName.From2000
import RecordMapper.Text.CharacterName.From2800
import RecordMapper.Text.CharacterName.From3000
import RecordMapper.Text.CharacterName.Numbered
import RecordMapper.Text.CharacterName.Syllable
import RecordMapper.Text.Cut
import RecordMapper.Text.Digit
import RecordMapper.Text.Escape
import RecordMapper.Text.Numeral
import RecordMapper.Text.Pattern.Basic
import RecordMapper.Text.Pattern.Reader
import RecordMapper.Text.Pattern.Search
import RecordMapper.Text.Printable
import RecordMapper.Text.Quoted
import RecordMapper.Text.Ranges
import RecordMapper.Text.Units
import RecordMapper.Text.Word
import RecordMapper.Uuid
import RecordMapper.Value.Basic
import RecordMapper.Value.Equality
import RecordMapper.Value.Order
import RecordMapper.Value.Text
import RecordMapper.Proofs.Changeset.Growth
import RecordMapper.Proofs.Changeset.Check
import RecordMapper.Proofs.Changeset.Failures
import RecordMapper.Proofs.Changeset.Verdict
import RecordMapper.Proofs.Changeset.Repetition
import RecordMapper.Proofs.Changeset.Staging
import RecordMapper.Proofs.Changeset.Invariants
import RecordMapper.Proofs.Store.Procedure
import RecordMapper.Proofs.Store.Program
import RecordMapper.Proofs.Store.Sqlite
import RecordMapper.Proofs.Store.Depth
import RecordMapper.Proofs.Store.Marks
import RecordMapper.Proofs.Store.Ledger
import RecordMapper.Proofs.Store.Transactions
import RecordMapper.Proofs.Sql.RecordText
import RecordMapper.Proofs.Sql.Bulk
import RecordMapper.Proofs.Repo.Discipline
import RecordMapper.Proofs.Repo.Sending
import RecordMapper.Proofs.Repo.Differing
import RecordMapper.Proofs.Text.Listing
import RecordMapper.Proofs.Store.Violation
import RecordMapper.Proofs.Store.Script
import RecordMapper.Proofs.Repo.Blame
import RecordMapper.Proofs.Schema.Productions
import RecordMapper.Proofs.Schema.Reading
import RecordMapper.Proofs.Schema.Acceptance
import RecordMapper.Proofs.Schema.Fields
import RecordMapper.Proofs.Fragment.Names
import RecordMapper.Proofs.Sql.Spelling
import RecordMapper.Proofs.Sql.Mentions
import RecordMapper.Proofs.Query.Blank
import RecordMapper.Proofs.Sql.TermReader
import RecordMapper.Proofs.Sql.Determined
import RecordMapper.Proofs.Text.Trimming
import RecordMapper.Proofs.Calendar.IsoReading
import RecordMapper.Proofs.Number.DecimalReading
import RecordMapper.Proofs.Value.UuidReading
import RecordMapper.Proofs.Value.Canonical
import RecordMapper.Proofs.Value.Storage
import RecordMapper.Proofs.Sql.ClauseOrder
import RecordMapper.Proofs.Json.Strings
import RecordMapper.Proofs.Json.Reading
import RecordMapper.Proofs.Json.Storage
import RecordMapper.Proofs.Number.Overflow
import RecordMapper.Proofs.Value.Escapes
import RecordMapper.Proofs.Changeset.Casting
import RecordMapper.Proofs.Row
import RecordMapper.Proofs.Entity.Assigned
import RecordMapper.Proofs.Entity.Loaded
import RecordMapper.Proofs.Repo.Assigned
import RecordMapper.Proofs.Schema.Growth
import RecordMapper.Proofs.Schema.Consistency
import RecordMapper.Proofs.Sql.Growing
import RecordMapper.Proofs.Store.Reporting
import RecordMapper.Proofs.Sql.Atoms
import RecordMapper.Proofs.Sql.Sentence
import RecordMapper.Proofs.Sql.Conformity
import RecordMapper.Proofs.Fragment.Lexing
import RecordMapper.Proofs.Fragment.Scanning
import RecordMapper.Proofs.Schema.Defining
import RecordMapper.Proofs.Schema.Lexing
import RecordMapper.Proofs.Schema.Escaping
import RecordMapper.Proofs.Changeset.Effects
import RecordMapper.Proofs.Changeset.Whitelist
import RecordMapper.Proofs.Fragment.Rejoining
import RecordMapper.Proofs.Sql.FragmentText
import RecordMapper.Proofs.Sql.ValueOrder
import RecordMapper.Proofs.Sql.Columns
import RecordMapper.Proofs.Schema.Quoting
import RecordMapper.Proofs.Schema.Usable
import RecordMapper.Proofs.Store.Deadlines
import RecordMapper.Proofs.Schema.Positions
import RecordMapper.Proofs.Schema.Relaying
import RecordMapper.Proofs.Naming
