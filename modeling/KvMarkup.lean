import KvMarkup.Color.Presentation
import KvMarkup.Main
import KvMarkup.Proofs.Edit.Move
import KvMarkup.Proofs.Edit.Block
import KvMarkup.Proofs.Edit.Host
import KvMarkup.Proofs.Edit.Adoption
import KvMarkup.Proofs.Edit.Neighbour
import KvMarkup.Proofs.Edit.LastChild
import KvMarkup.Proofs.Edit.Clearance
import KvMarkup.Proofs.Edit.Undo
import KvMarkup.Proofs.Edit.Placement
import KvMarkup.Proofs.Edit.Insertion
import KvMarkup.Proofs.Edit.Agreement
import KvMarkup.Proofs.Edit.Extraction
import KvMarkup.Proofs.Edit.Nesting
import KvMarkup.Proofs.Edit.LineEnding
import KvMarkup.Proofs.Edit.WellTyped
import KvMarkup.Proofs.Reading
import KvMarkup.Proofs.Edit.Types
import KvMarkup.Proofs.Outline.Reordering
import KvMarkup.Proofs.Catalog.Resolution
import KvMarkup.Proofs.Catalog.Shape
import KvMarkup.Proofs.Catalog.Failure
import KvMarkup.Proofs.Hint.Placement
import KvMarkup.Proofs.Color.Swatch
import KvMarkup.Proofs.Command.Idle
import KvMarkup.Proofs.Parsed.Decoding
import KvMarkup.Proofs.Command.NodePath
import KvMarkup.Proofs.Command.Malformed
import KvMarkup.Proofs.Image.Scan
import KvMarkup.Proofs.Image.Quoting
import KvMarkup.Proofs.Color.Brackets
import KvMarkup.Proofs.Color.Presentation
import KvMarkup.Proofs.Completion.Widgets
import KvMarkup.Proofs.Outline.Wire
import KvMarkup.Proofs.Text.Breaks
import KvMarkup.Proofs.Edit.Result
import KvMarkup.Proofs.Service
