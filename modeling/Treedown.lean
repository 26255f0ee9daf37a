import Treedown.Text.Quoted
import Treedown.Options
import Treedown.Files
import Treedown.Include
import Treedown.Markup.Picture
import Treedown.Table.Rebuilt
import Treedown.Render.Basic
import Treedown.Outline.Render
import Treedown.Render.Visit
import Treedown.Failure
import Treedown.Registry
import Treedown.Toml.Document
import Treedown.Settings.Layer
import Treedown.CommandLine.Extra
import Treedown.CommandLine.Arguments
import Treedown.Main
import Treedown.Proofs.Render.Failure
import Treedown.Proofs.Table.Agreement
import Treedown.Proofs.Node.RoundTrip
import Treedown.Proofs.Outline.Mirror
import Treedown.Proofs.Render.Grids
import Treedown.Proofs.Render.NestedList
import Treedown.Proofs.CommandLine.Output
import Treedown.Proofs.Include.Placeholder
import Treedown.Proofs.Render.Document
import Treedown.Proofs.Table.Rows
import Treedown.Proofs.Table.CodeCell
import Treedown.Proofs.CommandLine.DefaultCommand
import Treedown.Proofs.Render.Promotion
import Treedown.Proofs.Markup.Parameter
import Treedown.Proofs.Markup.Scanning
import Treedown.Proofs.Render.Insertion
import Treedown.Proofs.Render.LonePicture
import Treedown.Proofs.Table.Detail
import Treedown.Proofs.Render.Embedding
import Treedown.Proofs.Table.Fences
import Treedown.Proofs.Include.LineByLine
import Treedown.Proofs.CommandLine.Override
import Treedown.Proofs.Render.Quotation
import Treedown.Proofs.Render.PageBreak
import Treedown.Proofs.Settings.Layering
import Treedown.Proofs.Node.Writes
import Treedown.Proofs.Registry.History
import Treedown.Proofs.Render.FencedCode
