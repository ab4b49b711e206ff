import GraphMapper.Client
import GraphMapper.Database.Scripted
import GraphMapper.Failure.Report
import GraphMapper.Proofs.Closed
import GraphMapper.Proofs.Noninterference
import GraphMapper.Proofs.Selection
import GraphMapper.Proofs.Refused
import GraphMapper.Proofs.Created
import GraphMapper.Proofs.Filled
import GraphMapper.Proofs.Registry.Questions
import GraphMapper.Registry
import GraphMapper.Proofs.Transaction.Lifecycle
import GraphMapper.Proofs.Client.Routing
import GraphMapper.Proofs.Client.Runs
import GraphMapper.Proofs.Client.Exclusive
import GraphMapper.Proofs.Client.Replacing
import GraphMapper.Proofs.Equality
import GraphMapper.Proofs.Validation.Choice
import GraphMapper.Proofs.Validation.Inside
import GraphMapper.Proofs.Validation.Steady
import GraphMapper.Proofs.Validation.Stability
import GraphMapper.Proofs.Declaring
import GraphMapper.Proofs.RoundTrip
import GraphMapper.Proofs.Engine.Crowd
import GraphMapper.Proofs.Engine.Accounts
import GraphMapper.Proofs.FirstUse
import GraphMapper.Proofs.Validation.Place
import GraphMapper.Proofs.Loading
import GraphMapper.Proofs.Related.Merging
import GraphMapper.Proofs.Related.Rows
import GraphMapper.Proofs.Answers
import GraphMapper.Proofs.Related.Strays
import GraphMapper.Proofs.Related.Identified
import GraphMapper.Proofs.Settable
import GraphMapper.Proofs.Updating
import GraphMapper.Proofs.Reported
import GraphMapper.Proofs.Rendering
import GraphMapper.Proofs.Decoding
import GraphMapper.Proofs.Naming
import GraphMapper.Proofs.Statement.Edges
import GraphMapper.Proofs.Linking
import GraphMapper.Proofs.Inlined
import GraphMapper.Proofs.Settings.OptionNames
import GraphMapper.Proofs.Settings.LetterCase
import GraphMapper.Proofs.Catalog.Describable
import GraphMapper.Proofs.Registry.Accepted
import GraphMapper.Proofs.Registry.Lookup
import GraphMapper.Proofs.Settings.Precedence
import GraphMapper.Proofs.Settings.Credentials
import GraphMapper.Proofs.Validation.Unobjected
import GraphMapper.Proofs.Assigning
import GraphMapper.Proofs.Wrappers
import GraphMapper.Proofs.Settings.Spellings
import GraphMapper.Proofs.Joining
