import Relational.Attribute
import Relational.Attribute.Spec
import Relational.Calendar
import Relational.Calendar.Tick
import Relational.Compile
import Relational.Condition
import Relational.Config
import Relational.Connection
import Relational.Database
import Relational.Digest
import Relational.Error
import Relational.Expr
import Relational.Expr.Digest
import Relational.Expr.Equality
import Relational.Expr.Reify
import Relational.Expr.Show
import Relational.Frame
import Relational.Header
import Relational.Header.Describe
import Relational.Header.Equality
import Relational.Header.Given
import Relational.Header.Join
import Relational.Header.Project
import Relational.Identifier
import Relational.Literal
import Relational.Log
import Relational.Number.Binary
import Relational.Number.Decimal
import Relational.Number.Exact
import Relational.Number.Fraction
import Relational.Number.Root
import Relational.Number.Rounded
import Relational.Number.Shortest
import Relational.Query
import Relational.Record
import Relational.Record.Equality
import Relational.Record.Frozen
import Relational.Report
import Relational.ResultSet
import Relational.Schema
import Relational.Session
import Relational.Sorting
import Relational.Sql
import Relational.Sql.Render
import Relational.TableRef
import Relational.Text.Blank
import Relational.Text.Case
import Relational.Text.CodePoints
import Relational.Text.Hex
import Relational.Text.Numeral
import Relational.Text.Printable
import Relational.Text.Quoted
import Relational.Text.Snake
import Relational.Text.Table
import Relational.Text.Word
import Relational.TupleSet
import Relational.Value
import Relational.Value.Array
import Relational.Value.Column
import Relational.Value.Convert
import Relational.Value.Digest
import Relational.Value.Equality
import Relational.Value.Kind
import Relational.Value.Memory
import Relational.Value.Order
import Relational.Value.Pretty
import Relational.Value.Scalar
import Relational.Value.Set
import Relational.Value.Show
import Relational.Value.Table
import Relational.Proofs.Derivation
import Relational.Proofs.Tuples
import Relational.Proofs.Header
import Relational.Proofs.Projection
import Relational.Proofs.Shape
import Relational.Proofs.Truth
import Relational.Proofs.Row
import Relational.Proofs.Answer
import Relational.Proofs.Relation
import Relational.Proofs.Heading
import Relational.Proofs.Realization
import Relational.Proofs.Conditions
import Relational.Proofs.Preservation
import Relational.Proofs.Keys
import Relational.Proofs.Levels
import Relational.Proofs.Exposed
import Relational.Proofs.Reading
import Relational.Proofs.Contexts
import Relational.Proofs.Clause
import Relational.Proofs.Laws
import Relational.Proofs.Lexical
import Relational.Proofs.Numerals
import Relational.Proofs.Recovery
import Relational.Proofs.Subterms
import Relational.Proofs.Failures
import Relational.Proofs.Guards
import Relational.Proofs.Scope
import Relational.Proofs.Acceptance
import Relational.Proofs.Exchange
import Relational.Proofs.Counting
import Relational.Proofs.Delivery
import Relational.Proofs.Operations
import Relational.Proofs.Standalone
import Relational.Proofs.Appearing
import Relational.Proofs.Columns
import Relational.Proofs.Independence
import Relational.Proofs.Consumers
import Relational.Proofs.Joins
import Relational.Proofs.OuterClause
import Relational.Proofs.Composition
import Relational.Proofs.Grammar
import Relational.Proofs.NumberSyntax
import Relational.Proofs.Scanner
import Relational.Proofs.Bracketing
import Relational.Proofs.Digests
import Relational.Proofs.Unions
import Relational.Proofs.Pairing
import Relational.Proofs.Cache
import Relational.Proofs.Identifiers
import Relational.Proofs.Residues
import Relational.Proofs.Moments
import Relational.Proofs.Scalars
import Relational.Proofs.Hashable
import Relational.Proofs.FrozenRecords
