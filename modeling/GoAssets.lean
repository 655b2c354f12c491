import GoAssets.Config
import GoAssets.Config.Load
import GoAssets.Config.Toml
import GoAssets.Disk
import GoAssets.Disk.Tree
import GoAssets.Draft
import GoAssets.Error
import GoAssets.Go.Expression
import GoAssets.Go.File
import GoAssets.Go.Group
import GoAssets.Go.Item
import GoAssets.Go.Lexeme
import GoAssets.Go.Node
import GoAssets.Go.Operand
import GoAssets.Go.Recovery
import GoAssets.Go.Rule
import GoAssets.Go.Statement
import GoAssets.Go.Type
import GoAssets.GroupTable
import GoAssets.Inventory
import GoAssets.Inventory.Json
import GoAssets.Journal
import GoAssets.Json.Read
import GoAssets.Json.Value
import GoAssets.Json.Write
import GoAssets.Log
import GoAssets.Log.Filter
import GoAssets.Outcome
import GoAssets.Path
import GoAssets.Path.Clean
import GoAssets.Path.Group
import GoAssets.Proofs.FirstBy
import GoAssets.Proofs.Go.File
import GoAssets.Proofs.Go.Lexeme
import GoAssets.Proofs.Go.Recovery
import GoAssets.Proofs.Go.Rule
import GoAssets.Proofs.Go.Statement
import GoAssets.Proofs.Inventory.RoundTrip
import GoAssets.Proofs.Json.RoundTrip
import GoAssets.Proofs.Path.Canonical
import GoAssets.Proofs.Registry
import GoAssets.Proofs.Scan.Bundles
import GoAssets.Proofs.Scan.Errors
import GoAssets.Proofs.Scan.Reference
import GoAssets.Proofs.Scan.Resolution
import GoAssets.Proofs.Scan.Session
import GoAssets.Proofs.Source
import GoAssets.Proofs.Syntax.Lowering
import GoAssets.Proofs.Syntax.Preorder
import GoAssets.Registry
import GoAssets.Resolve
import GoAssets.Scan
import GoAssets.Source
import GoAssets.Statement
import GoAssets.Syntax.Lowering
import GoAssets.Syntax.Teardown
import GoAssets.Syntax.Tree
import GoAssets.Syntax.Walk
import GoAssets.Text.Alphabetic
import GoAssets.Text.Classes
import GoAssets.Text.IdentifierPart
import GoAssets.Text.IdentifierStart
import GoAssets.Text.Invisible
import GoAssets.Text.Numeric
import GoAssets.Text.Quoted
import GoAssets.Text.Ranges
import GoAssets.Text.Recognizer
import GoAssets.Toml.Number
import GoAssets.Toml.Quoted
import GoAssets.Toml.Read
import GoAssets.Toml.Table
import GoAssets.Toml.Value
import GoAssets.Toml.Write
import GoAssets.Proofs.Scan.Extension
import GoAssets.Proofs.Scan.Disk
import GoAssets.Proofs.Scan.Exchange
import GoAssets.Proofs.Config.Load
import GoAssets.Proofs.Draft.Ledger
import GoAssets.Proofs.Draft.Run
import GoAssets.Proofs.Scan.Journal
import GoAssets.Proofs.Scan.Renaming
import GoAssets.Proofs.Scan.Report
import GoAssets.Proofs.Path.CleanText
import GoAssets.Proofs.Path.Group
import GoAssets.Proofs.Path.Containment
import GoAssets.Proofs.Path.SourceDir
import GoAssets.Proofs.Syntax.Comments
import GoAssets.Proofs.Scan.Visits
import GoAssets.Proofs.Text.Ranges
import GoAssets.Proofs.Text.Quoted
import GoAssets.Proofs.Statement
import GoAssets.Proofs.Text.Letter
import GoAssets.Proofs.Config.Namespace
import GoAssets.Proofs.Toml.Quoted
import GoAssets.Proofs.Toml.Number
import GoAssets.Proofs.Toml.Document
import GoAssets.Proofs.Config.Toml
import GoAssets.Proofs.Syntax.Teardown
