import ConnectorKit.Main
import ConnectorKit.Proofs.Commit.Policy
import ConnectorKit.Proofs.Commit.Calls
import ConnectorKit.Proofs.Commit.Course
import ConnectorKit.Proofs.Commit.Identity
import ConnectorKit.Proofs.Commit.Message
import ConnectorKit.Proofs.Json.Record
import ConnectorKit.Proofs.Server.Session
import ConnectorKit.Proofs.Server.Recorded
import ConnectorKit.Proofs.Server.CommitSafety
import ConnectorKit.Proofs.Json.OneLine
import ConnectorKit.Proofs.Text.Bytes
import ConnectorKit.Proofs.Text.Blank
import ConnectorKit.Proofs.Text.Utf8
import ConnectorKit.Proofs.Json.Order
import ConnectorKit.Proofs.Server.Request
import ConnectorKit.Proofs.Server.Framing
import ConnectorKit.Proofs.Server.ReplyLaw
import ConnectorKit.Proofs.Disk.Tree
import ConnectorKit.Proofs.Disk.Resolution
import ConnectorKit.Proofs.Disk.Write
import ConnectorKit.Proofs.Field.Insertion
import ConnectorKit.Proofs.Scaffold.Creation
import ConnectorKit.Proofs.Server.InsertOnly
import ConnectorKit.Proofs.Disk.Path
import ConnectorKit.Proofs.Disk.Repository
import ConnectorKit.Proofs.Disk.Growth
import ConnectorKit.Proofs.Text.Case
import ConnectorKit.Proofs.Text.Glob
import ConnectorKit.Proofs.Disk.Search
import ConnectorKit.Proofs.Layout.Artifact
import ConnectorKit.Proofs.Controller.Classification
import ConnectorKit.Proofs.Layout.TypesFile
import ConnectorKit.Proofs.Migration.Progress
import ConnectorKit.Proofs.Scaffold.Placement
import ConnectorKit.Proofs.Scaffold.Kind
import ConnectorKit.Proofs.Controller.Agreement
import ConnectorKit.Proofs.Disk.Confined
import ConnectorKit.Proofs.Disk.Outline
import ConnectorKit.Proofs.Migration.Plan
import ConnectorKit.Proofs.Migration.TypesPhase
import ConnectorKit.Proofs.Scaffold.Calls
import ConnectorKit.Proofs.Scaffold.Closing
import ConnectorKit.Proofs.Scaffold.Prefixed
import ConnectorKit.Proofs.Text.Line
import ConnectorKit.Proofs.Text.Search
import ConnectorKit.Proofs.Text.Template
import ConnectorKit.Proofs.Disk.Replace
import ConnectorKit.Proofs.Field.Place
import ConnectorKit.Proofs.Field.Addition
import ConnectorKit.Proofs.Field.Depth
import ConnectorKit.Proofs.Field.Block
import ConnectorKit.Proofs.Field.Clean
import ConnectorKit.Proofs.Field.Order
import ConnectorKit.Proofs.Scaffold.TypesText
import ConnectorKit.Proofs.Scaffold.Handover
import ConnectorKit.Proofs.Layout.Capture
import ConnectorKit.Proofs.Disk.Walk
import ConnectorKit.Proofs.Controller.Report
import ConnectorKit.Proofs.Migration.Monotone
import ConnectorKit.Proofs.Disk.Fresh
import ConnectorKit.Proofs.Scaffold.Fixtures
import ConnectorKit.Proofs.Scaffold.Confinement
import ConnectorKit.Proofs.Scaffold.NameFormat
import ConnectorKit.Proofs.Scaffold.Printer
import ConnectorKit.Proofs.Scaffold.MockCode
import ConnectorKit.Proofs.Scaffold.NameRoundTrip
import ConnectorKit.Proofs.Settings.Layers
import ConnectorKit.Proofs.Text.Columns
import ConnectorKit.Proofs.Text.Cut
import ConnectorKit.Proofs.Scaffold.Filling
