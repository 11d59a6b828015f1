import PageDirectives.Action.Basic
import PageDirectives.Action.Builtin
import PageDirectives.Action.Extension
import PageDirectives.Action.Registry
import PageDirectives.Attributes.Basic
import PageDirectives.Attributes.Style
import PageDirectives.Command.Arguments
import PageDirectives.Command.Check
import PageDirectives.Command.Invocation
import PageDirectives.Command.Outcome
import PageDirectives.Command.Program
import PageDirectives.Command.Run
import PageDirectives.Command.Usage
import PageDirectives.Config.Basic
import PageDirectives.Config.Expansion
import PageDirectives.Config.File
import PageDirectives.Config.Load
import PageDirectives.Diagnostic
import PageDirectives.Directive.Basic
import PageDirectives.Directive.Clauses
import PageDirectives.Directive.Source
import PageDirectives.Dispatch
import PageDirectives.Document.Basic
import PageDirectives.Document.Node
import PageDirectives.Document.Query
import PageDirectives.Engine.Basic
import PageDirectives.Error
import PageDirectives.File.Error
import PageDirectives.File.Path
import PageDirectives.File.Tree
import PageDirectives.Forest.Basic
import PageDirectives.Forest.Cursor
import PageDirectives.Grammar
import PageDirectives.Host
import PageDirectives.Host.Journal
import PageDirectives.Loader
import PageDirectives.Main
import PageDirectives.Markup.Parser
import PageDirectives.Markup.Printer
import PageDirectives.Markup.Reference.Basic
import PageDirectives.Markup.Reference.Names
import PageDirectives.Markup.Token.Basic
import PageDirectives.Markup.Token.Lexer
import PageDirectives.Markup.Tree.Basic
import PageDirectives.Markup.Tree.Body
import PageDirectives.Markup.Tree.Foreign
import PageDirectives.Markup.Tree.Formatting
import PageDirectives.Markup.Tree.Head
import PageDirectives.Markup.Tree.Table
import PageDirectives.Page
import PageDirectives.Selector.Basic
import PageDirectives.Selector.Parser
import PageDirectives.Selector.Token
import PageDirectives.Sketch.Basic
import PageDirectives.Sketch.Compound
import PageDirectives.Surroundings
import PageDirectives.Target
import PageDirectives.Text.Alphanumeric
import PageDirectives.Text.Basic
import PageDirectives.Text.Blank
import PageDirectives.Text.Printable
import PageDirectives.Text.Quoted
import PageDirectives.Toml.Basic
import PageDirectives.Toml.Parser
import PageDirectives.Toml.Quoted
import PageDirectives.Toml.Scalar
import PageDirectives.Proofs.Document.Place
import PageDirectives.Proofs.Host.Lineage
import PageDirectives.Proofs.Host.Pages
import PageDirectives.Proofs.Dispatch.Frame
import PageDirectives.Proofs.Engine.Step
import PageDirectives.Proofs.Engine.Binding
import PageDirectives.Proofs.Engine.Firing
import PageDirectives.Proofs.Engine.Origin
import PageDirectives.Proofs.Action.Latest
import PageDirectives.Proofs.Engine.History
import PageDirectives.Proofs.Engine.OneShot
import PageDirectives.Proofs.Text.Trim
import PageDirectives.Proofs.Text.Words
import PageDirectives.Proofs.Directive.Layout
import PageDirectives.Proofs.Engine.Batch
import PageDirectives.Proofs.Text.Split
import PageDirectives.Proofs.Dispatch.Chain
import PageDirectives.Proofs.Page.Scripts
import PageDirectives.Proofs.Forest.Edit
import PageDirectives.Proofs.Document.Links
import PageDirectives.Proofs.Document.Ancestry
import PageDirectives.Proofs.Document.Run
import PageDirectives.Proofs.Document.Reach
import PageDirectives.Proofs.Document.Handles
import PageDirectives.Proofs.Text.Occurrence
import PageDirectives.Proofs.Directive.Form
import PageDirectives.Proofs.Directive.Writing
import PageDirectives.Proofs.Directive.WellFormed
import PageDirectives.Proofs.File.Components
import PageDirectives.Proofs.Loader.Containment
import PageDirectives.Proofs.Document.Fill
import PageDirectives.Proofs.Page.Elements
import PageDirectives.Proofs.Page.Evolution
import PageDirectives.Proofs.Engine.Orderly
import PageDirectives.Proofs.Page.Load
import PageDirectives.Proofs.Engine.Registration
import PageDirectives.Proofs.Command.Opening
import PageDirectives.Proofs.Command.Report
import PageDirectives.Proofs.Action.Targets
import PageDirectives.Proofs.Text.Fold
import PageDirectives.Proofs.Attributes.Style
import PageDirectives.Proofs.Page.Style
import PageDirectives.Proofs.Document.Order
import PageDirectives.Proofs.Document.Graft
import PageDirectives.Proofs.Markup.Tags
import PageDirectives.Proofs.Document.Contents
import PageDirectives.Proofs.Markup.Elements
import PageDirectives.Proofs.Attributes.Lookup
import PageDirectives.Proofs.Attributes.Declarations
import PageDirectives.Proofs.Document.Regular
import PageDirectives.Proofs.Page.Editing
import PageDirectives.Proofs.Page.Visibility
import PageDirectives.Proofs.Action.Effects
import PageDirectives.Proofs.Attributes.Classes
import PageDirectives.Proofs.Attributes.OrderedMap
import PageDirectives.Proofs.Attributes.Run
import PageDirectives.Proofs.Text.Spacing
import PageDirectives.Proofs.Selector.ClassTest
import PageDirectives.Proofs.Page.Arising
import PageDirectives.Proofs.Page.Classes
import PageDirectives.Proofs.Page.Untouched
import PageDirectives.Proofs.Text.Bytes
import PageDirectives.Proofs.Loader.Routing
import PageDirectives.Proofs.Forest.Siblings
import PageDirectives.Proofs.Sketch.Compound
import PageDirectives.Proofs.Sketch.Selection
import PageDirectives.Proofs.Host.Neighbours
import PageDirectives.Proofs.Page.Lookup
import PageDirectives.Proofs.Host.Removal
import PageDirectives.Proofs.Engine.Calls
import PageDirectives.Proofs.Engine.Animation
import PageDirectives.Proofs.Directive.Auxiliary
import PageDirectives.Proofs.Directive.BlankEnds
import PageDirectives.Proofs.File.Directories
import PageDirectives.Proofs.Config.Discovery
import PageDirectives.Proofs.Config.Loading
import PageDirectives.Proofs.Command.Events
import PageDirectives.Proofs.Command.Running
