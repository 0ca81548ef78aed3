import Stencil.Calendar.Date
import Stencil.Calendar.Format
import Stencil.Calendar.Iso
import Stencil.Calendar.Moment
import Stencil.Command.Arguments
import Stencil.Command.Library
import Stencil.Command.Run
import Stencil.Data.Display
import Stencil.Data.Entries
import Stencil.Data.Equality
import Stencil.Data.Fault
import Stencil.Data.Json.Read
import Stencil.Data.Json.Write
import Stencil.Data.Moment
import Stencil.Data.Resolve
import Stencil.Data.Value
import Stencil.Engine
import Stencil.File.Path
import Stencil.File.Tree
import Stencil.Host.Arguments
import Stencil.Host.Console.Emoji
import Stencil.Host.Console.EmojiNames
import Stencil.Host.Console.Markup
import Stencil.Host.Console.Message
import Stencil.Host.Console.Parameters
import Stencil.Host.Console.Style
import Stencil.Host.Console.Table
import Stencil.Host.Console.Width
import Stencil.Host.Fields
import Stencil.Host.Libraries
import Stencil.Host.Responses
import Stencil.Host.Yaml.Cursor
import Stencil.Host.Yaml.Fault
import Stencil.Host.Yaml.Meaning
import Stencil.Host.Yaml.Node
import Stencil.Host.Yaml.Read
import Stencil.Host.Yaml.Scalar
import Stencil.Host.Yaml.Token
import Stencil.Number.Binary64
import Stencil.Number.Reading
import Stencil.Number.Shortest
import Stencil.Settings.Config
import Stencil.Settings.File
import Stencil.Settings.Library
import Stencil.Settings.Options
import Stencil.Template.Arguments
import Stencil.Template.Block
import Stencil.Template.Check
import Stencil.Template.Condition
import Stencil.Template.Filter
import Stencil.Template.Helper
import Stencil.Template.Interpolation
import Stencil.Template.Log
import Stencil.Template.Loop
import Stencil.Template.Matcher
import Stencil.Template.Registry
import Stencil.Template.Render
import Stencil.Template.Settle
import Stencil.Template.Tag
import Stencil.Text.Basic
import Stencil.Text.Blank
import Stencil.Text.Case
import Stencil.Text.Numeral
import Stencil.Text.Quoted
import Stencil.Text.Utf8
import Stencil.Text.Word
import Stencil.View.Include
import Stencil.View.Listing
import Stencil.View.Location
import Stencil.Web.Controller
import Stencil.Web.Library
import Stencil.Web.Preview
import Stencil.Main
import Stencil.Proofs.Data.Plain
import Stencil.Proofs.Data.Scalar
import Stencil.Proofs.Data.Shown
import Stencil.Proofs.Engine.Render
import Stencil.Proofs.Engine.Session
import Stencil.Proofs.Template.Balance
import Stencil.Proofs.Template.Bindings
import Stencil.Proofs.Template.ClosedScope
import Stencil.Proofs.Template.Meaning
import Stencil.Proofs.Template.NestedBlock
import Stencil.Proofs.Template.Passes
import Stencil.Proofs.Template.Printed
import Stencil.Proofs.Template.Rendered
import Stencil.Proofs.Template.Result
import Stencil.Proofs.Template.Syntax
import Stencil.Proofs.Template.Tagged
import Stencil.Proofs.Text.Inert
import Stencil.Proofs.Text.Split
import Stencil.Proofs.Text.Words
import Stencil.Proofs.View.Places
import Stencil.Proofs.View.Expansion
import Stencil.Proofs.View.Inclusion
import Stencil.Proofs.View.Seams
import Stencil.Proofs.View.Reads
import Stencil.Proofs.Data.BraceFree
import Stencil.Proofs.Text.Case
import Stencil.Proofs.Template.Functions
import Stencil.Proofs.Template.Markup
import Stencil.Proofs.Template.MarkupPasses
import Stencil.Proofs.Template.Unselected
import Stencil.Proofs.Template.EarlyStop
import Stencil.Proofs.Template.Frame
import Stencil.Proofs.Template.SideBySide
import Stencil.Proofs.Engine.Diagnostics
import Stencil.Proofs.Template.Mentions
import Stencil.Proofs.Template.Made
import Stencil.Proofs.Template.Extended
import Stencil.Proofs.Template.Unmentioned
import Stencil.Proofs.Template.PairedBlocks
import Stencil.Proofs.Template.Pipeline
import Stencil.Proofs.Engine.Listing
import Stencil.Proofs.Template.LoneTag
import Stencil.Proofs.Template.TagCount
import Stencil.Proofs.Template.KeptTags
import Stencil.Proofs.Template.Levels
import Stencil.Proofs.View.OpenFiles
import Stencil.Proofs.Number.Whole
import Stencil.Proofs.Number.Numeral
import Stencil.Proofs.Template.Escaping
import Stencil.Proofs.Data.Equality
import Stencil.Proofs.Template.Comparison
import Stencil.Proofs.Template.Integers
import Stencil.Proofs.Calendar.Format
import Stencil.Proofs.Calendar.ReadBack
import Stencil.Proofs.Calendar.Denotation
import Stencil.Proofs.Settings.Verdict
import Stencil.Proofs.Data.Paths
import Stencil.Proofs.Template.Parity
import Stencil.Proofs.Template.QuotedSpans
import Stencil.Proofs.Data.Json.ReadBack
