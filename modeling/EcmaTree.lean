import EcmaTree.Text.Units
import EcmaTree.Text.Digits
import EcmaTree.Unicode.DecimalDigit
import EcmaTree.Unicode.Identifier
import EcmaTree.Unicode.Printable
import EcmaTree.Number.Style
import EcmaTree.Text.Quoted
import EcmaTree.Number.Basic
import EcmaTree.Literal.Scan
import EcmaTree.Literal.Value
import EcmaTree.Literal.Encode
import EcmaTree.Tree.Equality
import EcmaTree.Tree.Walk
import EcmaTree.Tree.Display
import EcmaTree.Tree.Json
import EcmaTree.Build.Parameters
import EcmaTree.Build.Builder
import EcmaTree.Diagnostic.Session
import EcmaTree.Script
import EcmaTree.Proofs.Fallible
import EcmaTree.Proofs.Text.Surrogates
import EcmaTree.Proofs.Text.Transcoding
import EcmaTree.Proofs.Text.Digits
import EcmaTree.Proofs.Literal.Grammar
import EcmaTree.Proofs.Literal.Escapes
import EcmaTree.Proofs.Literal.Segmentation
import EcmaTree.Proofs.Literal.EscapePlaces
import EcmaTree.Proofs.Literal.Outcome
import EcmaTree.Proofs.Literal.LongestLiteral
import EcmaTree.Proofs.Literal.ReportedEscape
import EcmaTree.Proofs.Literal.StringRoundTrip
import EcmaTree.Proofs.Number.Nearest
import EcmaTree.Proofs.Number.Decimal
import EcmaTree.Proofs.Number.Shortest
import EcmaTree.Proofs.Number.SignificantDigits
import EcmaTree.Proofs.Number.Notation
import EcmaTree.Proofs.Number.ReadBack
import EcmaTree.Proofs.Number.IntegerText
import EcmaTree.Proofs.Build.PropertyName
import EcmaTree.Proofs.Diagnostic.Steps
import EcmaTree.Proofs.Diagnostic.FailureFlag
import EcmaTree.Proofs.Diagnostic.Promotion
import EcmaTree.Proofs.Diagnostic.Directives
import EcmaTree.Proofs.Diagnostic.Record
import EcmaTree.Proofs.Diagnostic.RecordAndLog
import EcmaTree.Proofs.Literal.StringValue
import EcmaTree.Proofs.Literal.StringNormalForm
import EcmaTree.Proofs.Number.IntegerReadBack
import EcmaTree.Proofs.Literal.NumberValue
import EcmaTree.Proofs.Number.CanonicalText
import EcmaTree.Proofs.Tree.Preorder
import EcmaTree.Proofs.Tree.Typing
import EcmaTree.Proofs.Tree.Parts
import EcmaTree.Proofs.Tree.Writing
import EcmaTree.Proofs.Build.Gathering
import EcmaTree.Proofs.Build.CallStatement
import EcmaTree.Proofs.Build.Signature
import EcmaTree.Proofs.Build.Assembly
import EcmaTree.Proofs.Build.ProductionAssembly
import EcmaTree.Proofs.Build.BuilderAssembly
import EcmaTree.Proofs.Build.Nesting
import EcmaTree.Proofs.Build.WellTyped
import EcmaTree.Proofs.Build.Children
import EcmaTree.Proofs.Build.Locations
import EcmaTree.Proofs.Build.LocationOrigin
import EcmaTree.Proofs.Build.SyntheticNames
import EcmaTree.Proofs.Build.SyntheticParameters
import EcmaTree.Proofs.Build.Naming
import EcmaTree.Proofs.Build.MemberChain
import EcmaTree.Proofs.Build.NamedParameters
import EcmaTree.Proofs.Build.Forwarding
import EcmaTree.Proofs.Build.PropertyDescriptor
import EcmaTree.Proofs.Build.NameCoercion
import EcmaTree.Proofs.Diagnostic.Presence
import EcmaTree.Proofs.Diagnostic.SourceName
