import QueryWeave.Command.Arguments
import QueryWeave.Command.Composition
import QueryWeave.ContentName
import QueryWeave.Decimal
import QueryWeave.Dictionary
import QueryWeave.Files.KeyedFile
import QueryWeave.Files.Path
import QueryWeave.Files.Tree
import QueryWeave.Files.Walk
import QueryWeave.Fragment.Basic
import QueryWeave.GraphQL.Document
import QueryWeave.GraphQL.Lexer
import QueryWeave.GraphQL.Parser
import QueryWeave.GraphQL.Printer
import QueryWeave.GraphQL.Token
import QueryWeave.KeyOrder
import QueryWeave.Log
import QueryWeave.Main
import QueryWeave.Proofs.Composition.Assignments
import QueryWeave.Proofs.Composition.Document
import QueryWeave.Proofs.Composition.Inputs
import QueryWeave.Proofs.Composition.Junction
import QueryWeave.Proofs.Composition.Run
import QueryWeave.Proofs.ContentName
import QueryWeave.Proofs.Files.FirstFiles
import QueryWeave.Proofs.Fingerprint
import QueryWeave.Proofs.Fragment.Collection
import QueryWeave.Proofs.Fragment.ContentAddress
import QueryWeave.Proofs.Fragment.InlineFragment
import QueryWeave.Proofs.Fragment.MarkerCount
import QueryWeave.Proofs.Fragment.Shape
import QueryWeave.Proofs.GraphQL.Reading
import QueryWeave.Proofs.Resolution.Expansion
import QueryWeave.Proofs.Resolution.Failure
import QueryWeave.Proofs.Resolution.History
import QueryWeave.Proofs.Resolution.Interpretation
import QueryWeave.Proofs.Resolution.Memoisation
import QueryWeave.Proofs.Resolution.Memory
import QueryWeave.Proofs.Resolution.Openings
import QueryWeave.Proofs.Resolution.ReadSources
import QueryWeave.Proofs.Resolution.Relevance
import QueryWeave.Proofs.Resolution.Sharing
import QueryWeave.Proofs.Resolution.Success
import QueryWeave.Proofs.Template.Canonical
import QueryWeave.Proofs.Template.Closure
import QueryWeave.Proofs.Template.Faults
import QueryWeave.Proofs.Template.Parts
import QueryWeave.Resolution.Resolver
import QueryWeave.Template.Basic
import QueryWeave.Template.Document
import QueryWeave.Template.Placeholder
import QueryWeave.Text.Alphanumeric
import QueryWeave.Text.Blank
import QueryWeave.Text.Cut
import QueryWeave.Text.Quoted
import QueryWeave.Text.Utf8
