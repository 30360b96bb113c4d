import WorkspaceVolumes.StringMap
import WorkspaceVolumes.Text.Digits
import WorkspaceVolumes.Text.Blank
import WorkspaceVolumes.Text.Inert
import WorkspaceVolumes.Error
import WorkspaceVolumes.Data.Reading
import WorkspaceVolumes.Yaml.Chars
import WorkspaceVolumes.Yaml.Plain
import WorkspaceVolumes.Yaml.Style
import WorkspaceVolumes.Yaml.Printer
import WorkspaceVolumes.Yaml.Lexeme
import WorkspaceVolumes.Yaml.Tag
import WorkspaceVolumes.Yaml.Token
import WorkspaceVolumes.Yaml.Node
import WorkspaceVolumes.Yaml.Source
import WorkspaceVolumes.Draws
import WorkspaceVolumes.Naming
import WorkspaceVolumes.Log.Trace
import WorkspaceVolumes.Config.Loading
import WorkspaceVolumes.Document.Codec
import WorkspaceVolumes.Document.Walk
import WorkspaceVolumes.Cluster.Basic
import WorkspaceVolumes.Run
import WorkspaceVolumes.Reconciler
import WorkspaceVolumes.Log.Display
import WorkspaceVolumes.Session
import WorkspaceVolumes.Json.Reader
import WorkspaceVolumes.Json.Printer
import WorkspaceVolumes.Proofs.Action
import WorkspaceVolumes.Proofs.StringMap
import WorkspaceVolumes.Proofs.Walk
import WorkspaceVolumes.Proofs.Opening
import WorkspaceVolumes.Proofs.Itinerary
import WorkspaceVolumes.Proofs.Pass
import WorkspaceVolumes.Proofs.Gain
import WorkspaceVolumes.Proofs.Queueing
import WorkspaceVolumes.Proofs.Provider
import WorkspaceVolumes.Proofs.Absorption
import WorkspaceVolumes.Proofs.Failure
import WorkspaceVolumes.Proofs.Ledger
import WorkspaceVolumes.Proofs.Directory
import WorkspaceVolumes.Proofs.Tenancy
import WorkspaceVolumes.Proofs.Persistence
import WorkspaceVolumes.Proofs.Noninterference
import WorkspaceVolumes.Proofs.Routing
import WorkspaceVolumes.Proofs.Sharing
import WorkspaceVolumes.Proofs.WellFormed
import WorkspaceVolumes.Proofs.Release
import WorkspaceVolumes.Proofs.Report
import WorkspaceVolumes.Proofs.Agenda
import WorkspaceVolumes.Proofs.Precedence
import WorkspaceVolumes.Proofs.Backing
import WorkspaceVolumes.Proofs.Delegation
import WorkspaceVolumes.Proofs.Increment
import WorkspaceVolumes.Proofs.Distinctness
import WorkspaceVolumes.Proofs.Outage
import WorkspaceVolumes.Proofs.Precreation
import WorkspaceVolumes.Proofs.Appending
import WorkspaceVolumes.Proofs.Confinement
import WorkspaceVolumes.Proofs.Shape
import WorkspaceVolumes.Proofs.Decoding
import WorkspaceVolumes.Proofs.Lexeme
import WorkspaceVolumes.Proofs.Scanning
import WorkspaceVolumes.Proofs.Writing
import WorkspaceVolumes.Proofs.Printing
import WorkspaceVolumes.Proofs.Parsing
import WorkspaceVolumes.Proofs.RoundTrip
import WorkspaceVolumes.Proofs.Layers
import WorkspaceVolumes.Proofs.Label
import WorkspaceVolumes.Proofs.Quantity
import WorkspaceVolumes.Proofs.Selection
import WorkspaceVolumes.Proofs.Tagging
import WorkspaceVolumes.Proofs.Spelling
