import AuthChain.Act
import AuthChain.Counter
import AuthChain.Log
import AuthChain.TextMap
import AuthChain.Text.Blank
import AuthChain.Text.Layout
import AuthChain.Text.UpperCase
import AuthChain.Json.Parser
import AuthChain.Json.Printer
import AuthChain.Auth.Error
import AuthChain.Auth.Token
import AuthChain.Context
import AuthChain.Auth.Assembly
import AuthChain.Build.Run
import AuthChain.Config.Layers
import AuthChain.Config.Environment
import AuthChain.Config.Document
import AuthChain.Config.Load
import AuthChain.Script.Identity
import AuthChain.Script.Report
import AuthChain.Slots
import AuthChain.Script.Probe
import AuthChain.Script.Setup
import AuthChain.Script.Site
import AuthChain.Proofs.Build.Step
import AuthChain.Proofs.Build.History
import AuthChain.Proofs.Build.Course
import AuthChain.Proofs.Build.Stage
import AuthChain.Proofs.Build.Progress
import AuthChain.Proofs.Build.Operation
import AuthChain.Proofs.Build.Configuring
import AuthChain.Proofs.Build.Initializing
import AuthChain.Proofs.Build.Removing
import AuthChain.Proofs.Auth.Resolution
import AuthChain.Proofs.Build.Contract
import AuthChain.Proofs.Build.Usage
import AuthChain.Proofs.Build.Finality
import AuthChain.Proofs.Build.States
import AuthChain.Proofs.Auth.Nesting
import AuthChain.Proofs.Auth.Notification
import AuthChain.Proofs.Auth.Flattening
import AuthChain.Proofs.Auth.Provenance
import AuthChain.Proofs.Build.Sharing
import AuthChain.Proofs.Build.Surviving
import AuthChain.Proofs.Auth.Assembling
import AuthChain.Proofs.Json.Derivation
import AuthChain.Proofs.Json.Quotation
import AuthChain.Proofs.Json.RoundTrip
import AuthChain.Proofs.Json.Literals
import AuthChain.Proofs.Text.Pieces
import AuthChain.Proofs.Config.Reloading
import AuthChain.Proofs.Build.Passage
import AuthChain.Proofs.Build.Enrolment
import AuthChain.Proofs.Build.Halting
import AuthChain.Proofs.Build.Ordering
import AuthChain.Proofs.Build.Replacing
import AuthChain.Proofs.Build.Lockout
import AuthChain.Proofs.Auth.Publication
import AuthChain.Proofs.Config.Serving
import AuthChain.Proofs.Build.Multimap
import AuthChain.Proofs.Build.Refusing
import AuthChain.Proofs.Build.Lenience
import AuthChain.Proofs.Build.Processing
import AuthChain.Proofs.Config.Layering
import AuthChain.Proofs.Config.Overlaying
import AuthChain.Proofs.Config.Typing
import AuthChain.Proofs.Config.Listing
import AuthChain.Proofs.Config.Paths
import AuthChain.Proofs.Auth.Keeping
import AuthChain.Proofs.Auth.Recollection
import AuthChain.Proofs.Auth.Counting
import AuthChain.Proofs.Auth.Composing
import AuthChain.Proofs.Build.FiniteMap
import AuthChain.Proofs.Build.Tabling
import AuthChain.Proofs.Auth.Tracking
import AuthChain.Proofs.Json.Records
import AuthChain.Proofs.Auth.Restoring
