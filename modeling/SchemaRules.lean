import SchemaRules.Command.Arguments
import SchemaRules.Command.Outcome
import SchemaRules.Config
import SchemaRules.Decimal.Binary64
import SchemaRules.Decimal.Shortest
import SchemaRules.Entries
import SchemaRules.Error
import SchemaRules.FileSystem
import SchemaRules.Json.Document
import SchemaRules.Json.Failure
import SchemaRules.Json.Numeral
import SchemaRules.Json.Printer
import SchemaRules.Json.Reader
import SchemaRules.Json.Skip
import SchemaRules.Json.Typed
import SchemaRules.Json.Value
import SchemaRules.Loader
import SchemaRules.Locator
import SchemaRules.Main
import SchemaRules.Model.Basic
import SchemaRules.Model.Format
import SchemaRules.Naming
import SchemaRules.Path
import SchemaRules.Proofs.BarePaths
import SchemaRules.Proofs.Changes
import SchemaRules.Proofs.Command.Rewriting
import SchemaRules.Proofs.Command.Session
import SchemaRules.Proofs.Command.Stages
import SchemaRules.Proofs.ConfigText
import SchemaRules.Proofs.Delimiters
import SchemaRules.Proofs.Duplicates
import SchemaRules.Proofs.FileUrl
import SchemaRules.Proofs.Files
import SchemaRules.Proofs.Json.Documents
import SchemaRules.Proofs.Json.Gathering
import SchemaRules.Proofs.Json.Integers
import SchemaRules.Proofs.Json.Numerals
import SchemaRules.Proofs.Json.Quoting
import SchemaRules.Proofs.Json.Reading
import SchemaRules.Proofs.Json.Records
import SchemaRules.Proofs.Json.Results
import SchemaRules.Proofs.Json.Skipping
import SchemaRules.Proofs.Json.Spelling
import SchemaRules.Proofs.KeyedModel
import SchemaRules.Proofs.Loading
import SchemaRules.Proofs.Marking
import SchemaRules.Proofs.ModelEquality
import SchemaRules.Proofs.ModelForms
import SchemaRules.Proofs.ModelText
import SchemaRules.Proofs.Naming.Idempotence
import SchemaRules.Proofs.Naming.Identifiers
import SchemaRules.Proofs.Naming.Letters
import SchemaRules.Proofs.Naming.Marks
import SchemaRules.Proofs.Naming.Stages
import SchemaRules.Proofs.Naming.Words
import SchemaRules.Proofs.PackageName
import SchemaRules.Proofs.Rejoining
import SchemaRules.Proofs.Reordering
import SchemaRules.Proofs.ResolverCalls
import SchemaRules.Proofs.Runs
import SchemaRules.Proofs.Schema.Conversion
import SchemaRules.Proofs.Schema.Equality
import SchemaRules.Proofs.Schema.Listing
import SchemaRules.Proofs.Schema.Rearrangement
import SchemaRules.Proofs.Schema.Search
import SchemaRules.Proofs.Schema.Tree
import SchemaRules.Proofs.Schemes
import SchemaRules.Proofs.SizeLimits
import SchemaRules.Proofs.Splitting
import SchemaRules.Proofs.Text.Ascii
import SchemaRules.Proofs.Text.CaseImages
import SchemaRules.Proofs.UrlText
import SchemaRules.Schema.Node
import SchemaRules.SchemaId
import SchemaRules.Suppression
import SchemaRules.Text.Alphanumeric
import SchemaRules.Text.CanonicalClass
import SchemaRules.Text.CanonicalPair
import SchemaRules.Text.CaseMap
import SchemaRules.Text.CodeRun
import SchemaRules.Text.Composition
import SchemaRules.Text.Direction
import SchemaRules.Text.Joining
import SchemaRules.Text.Lowercase
import SchemaRules.Text.Mark
import SchemaRules.Text.Percent
import SchemaRules.Text.Printable
import SchemaRules.Text.Punycode
import SchemaRules.Text.Utf8
import SchemaRules.Url.Address
import SchemaRules.Url.Basic
import SchemaRules.Url.Domain
import SchemaRules.Url.Domain.Image.EastAsian
import SchemaRules.Url.Domain.Image.Forms
import SchemaRules.Url.Domain.Image.Ideographs
import SchemaRules.Url.Domain.Image.Letters
import SchemaRules.Url.Domain.Image.Supplement
import SchemaRules.Url.Domain.Mapping
import SchemaRules.Url.Domain.Valid
import SchemaRules.Url.File
import SchemaRules.Url.Host
import SchemaRules.Url.Parser
import SchemaRules.Url.Reserved
import SchemaRules.Url.Segment
