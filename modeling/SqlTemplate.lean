import SqlTemplate.Text.Identifier
import SqlTemplate.Text.Printable
import SqlTemplate.Text.Word
import SqlTemplate.Text.UpperCase
import SqlTemplate.Text.Blank
import SqlTemplate.Text.Quoted
import SqlTemplate.Text.Marked
import SqlTemplate.Number.Binary64
import SqlTemplate.Number.Reader
import SqlTemplate.Template.Parser
import SqlTemplate.Object.Signature
import SqlTemplate.Object.FailureClass
import SqlTemplate.Object.Failure
import SqlTemplate.Object.World
import SqlTemplate.Object.Member
import SqlTemplate.Object.Written
import SqlTemplate.Object.Fail
import SqlTemplate.Object.Perform
import SqlTemplate.Object.Declare
import SqlTemplate.Object.Inspect
import SqlTemplate.Object.Mapping
import SqlTemplate.Resolve.Strategy
import SqlTemplate.Invocation
import SqlTemplate.Resolve.Walk
import SqlTemplate.Marker
import SqlTemplate.Statement
import SqlTemplate.Cache
import SqlTemplate.Validation
import SqlTemplate.Settings
import SqlTemplate.Session
import SqlTemplate.Session.Compile
import SqlTemplate.ColumnType
import SqlTemplate.TextClause
import SqlTemplate.Library.Toolkit
import SqlTemplate.Library.Validation
import SqlTemplate.Proofs.Named
import SqlTemplate.Proofs.Text.UpperCase
import SqlTemplate.Proofs.Text.Words
import SqlTemplate.Proofs.SqlType.Spelling
import SqlTemplate.Proofs.Number.Binary64
import SqlTemplate.Proofs.Object.SameKey
import SqlTemplate.Proofs.Template.Reading
import SqlTemplate.Proofs.Template.WellFormed
import SqlTemplate.Proofs.Template.Concatenation
import SqlTemplate.Proofs.Template.Declared
import SqlTemplate.Proofs.Statement.Rendering
import SqlTemplate.Proofs.Statement.FormatText
import SqlTemplate.Proofs.Statement.MarkerScan
import SqlTemplate.Proofs.Cache.Entries
import SqlTemplate.Proofs.Cache.Trail
import SqlTemplate.Proofs.Cache.Recency
import SqlTemplate.Proofs.Cache.Reentrancy
import SqlTemplate.Proofs.Session.Freshness
import SqlTemplate.Proofs.Resolve.Chain
import SqlTemplate.Proofs.Resolve.Containment
import SqlTemplate.Proofs.Object.Signature
import SqlTemplate.Proofs.Object.Quiet
import SqlTemplate.Proofs.Resolve.Strictness
import SqlTemplate.Proofs.Statement.Binding
import SqlTemplate.Proofs.Resolve.Failing
import SqlTemplate.Proofs.Invocation
import SqlTemplate.Proofs.Session.Calls
import SqlTemplate.Proofs.Session.Validation
import SqlTemplate.Proofs.Path.Written
import SqlTemplate.Proofs.Template.Printing
import SqlTemplate.Proofs.Template.Position
import SqlTemplate.Proofs.Resolve.Denial
import SqlTemplate.Proofs.Resolve.BooleanAccessor
import SqlTemplate.Proofs.Resolve.Field
import SqlTemplate.Proofs.Resolve.Locating
import SqlTemplate.Proofs.Resolve.Following
import SqlTemplate.Proofs.Resolve.Nested
import SqlTemplate.Proofs.Resolve.Supplied
import SqlTemplate.Proofs.Session.Agreement
import SqlTemplate.Proofs.Secrecy.Alike
import SqlTemplate.Proofs.Secrecy.Worlds
import SqlTemplate.Proofs.Secrecy.Triple
import SqlTemplate.Proofs.Secrecy.Reading
import SqlTemplate.Proofs.Secrecy.Writing
import SqlTemplate.Proofs.Secrecy.Running
import SqlTemplate.Proofs.Secrecy.Asking
import SqlTemplate.Proofs.Secrecy.Resolving
import SqlTemplate.Proofs.Secrecy.Showing
import SqlTemplate.Proofs.Path.Padded
import SqlTemplate.Proofs.Path.Joining
import SqlTemplate.Proofs.Template.Padding
import SqlTemplate.Proofs.Invocation.Names
import SqlTemplate.Proofs.Template.Decoration
import SqlTemplate.Proofs.ColumnType.DeclaredTypes
import SqlTemplate.Proofs.Template.FirstAppearance
import SqlTemplate.Proofs.Invocation.UnknownParameters
import SqlTemplate.Proofs.SqlType.Registration
import SqlTemplate.Proofs.TextClause.Laws
import SqlTemplate.Proofs.TextClause.MarkedNames
import SqlTemplate.Proofs.TextClause.Carrying
import SqlTemplate.Proofs.Library.Validation
