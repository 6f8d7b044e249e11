import SqlBinder.Client.State
import SqlBinder.Session.Memory
import SqlBinder.Proofs.Session.Rules
import SqlBinder.Proofs.Lob.Calls
import SqlBinder.Proofs.Connection.Calls
import SqlBinder.Proofs.Lob.Writing
import SqlBinder.Proofs.Binding.Placeholders
import SqlBinder.Proofs.Connection.Request
import SqlBinder.Proofs.Lob.Custody
import SqlBinder.Proofs.Lob.Blocks
import SqlBinder.Proofs.Connection.Sending
import SqlBinder.Proofs.Conversion.Handles
import SqlBinder.Proofs.Connection.Outputs
import SqlBinder.Proofs.Connection.Receiving
import SqlBinder.Proofs.Connection.Executions
import SqlBinder.Proofs.Connection.Release
import SqlBinder.Proofs.Connection.QueryCursor
import SqlBinder.Proofs.Session.Alike
import SqlBinder.Proofs.ResultSet.Rows
import SqlBinder.Proofs.ResultSet.Dealing
import SqlBinder.Proofs.ResultSet.Closing
import SqlBinder.Proofs.Connection.Reading
import SqlBinder.Proofs.Lob.Closing
import SqlBinder.Proofs.Connection.Handles
import SqlBinder.Proofs.ResultSet.Calls
import SqlBinder.Proofs.Connection.Cancellation
import SqlBinder.Proofs.Connection.Closing
import SqlBinder.Proofs.Lob.Interruption
import SqlBinder.Proofs.ResultSet.Interruption
import SqlBinder.Proofs.Lob.Storing
import SqlBinder.Proofs.Lob.Tasks
import SqlBinder.Proofs.Lob.Finishing
import SqlBinder.Proofs.Lob.Committing
import SqlBinder.Proofs.Lob.Measuring
import SqlBinder.Proofs.Lob.Contents
import SqlBinder.Proofs.Lob.Demands
import SqlBinder.Proofs.Decimal.Digits
import SqlBinder.Proofs.Decimal.Numeral
import SqlBinder.Proofs.Decimal.Canonical
import SqlBinder.Proofs.Wire.Exactness
import SqlBinder.Proofs.Wire.Layout
import SqlBinder.Proofs.Conversion.RoundTrip
import SqlBinder.Proofs.Statement.Regions
import SqlBinder.Proofs.Statement.Returning
import SqlBinder.Proofs.Binding.Descriptors
import SqlBinder.Proofs.Session.Blind
import SqlBinder.Proofs.Connection.Caching
import SqlBinder.Proofs.Client.Caching
import SqlBinder.Proofs.Connection.Returned
import SqlBinder.Proofs.Connection.Overflow
import SqlBinder.Proofs.Connection.Batches
import SqlBinder.Proofs.Wire.Range
import SqlBinder.Proofs.Binary.Numerals
import SqlBinder.Proofs.Conversion.Acceptance
import SqlBinder.Proofs.Session.Timing
import SqlBinder.Proofs.Connection.Timing
import SqlBinder.Proofs.Session.Lifetimes
import SqlBinder.Proofs.Connection.Lifetimes
import SqlBinder.Proofs.Conversion.Numbers
import SqlBinder.Proofs.Statement.Coherence
import SqlBinder.Proofs.Binding.NotANumber
import SqlBinder.Proofs.Binary.Nearest
import SqlBinder.Proofs.Binary.Fewest
import SqlBinder.Proofs.Binary.Texts
import SqlBinder.Proofs.Binding.Spelling
import SqlBinder.Proofs.Binding.Shapes
import SqlBinder.Proofs.Statement.Comments
import SqlBinder.Proofs.Statement.Recasing
import SqlBinder.Proofs.Statement.Recency
import SqlBinder.Proofs.Connection.Naming
import SqlBinder.Proofs.Connection.Limit
import SqlBinder.Proofs.ResultSet.Streaming
import SqlBinder.Proofs.Calendar.Rollover
import SqlBinder.Proofs.Wire.Timestamps
import SqlBinder.Proofs.Lob.Failing
import SqlBinder.Proofs.Calendar.Chronology
import SqlBinder.Proofs.Wire.Ordering
import SqlBinder.Proofs.Session.Families
