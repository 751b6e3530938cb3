import MediaTrail.Session
import MediaTrail.Settings.Printer
import MediaTrail.Proofs.Delivery
import MediaTrail.Proofs.LoggedLines
import MediaTrail.Proofs.JsonWriting
import MediaTrail.Proofs.JsonRecords
import MediaTrail.Proofs.ListedFiles
import MediaTrail.Proofs.Transparency
import MediaTrail.Proofs.ForgedColumn
import MediaTrail.Proofs.LineBreaks
import MediaTrail.Proofs.KeptLines
import MediaTrail.Proofs.OneRequest
import MediaTrail.Proofs.Interleaving
import MediaTrail.Proofs.CutBodies
import MediaTrail.Proofs.LineStream
import MediaTrail.Proofs.AnyMode
import MediaTrail.Proofs.UnreadableRequests
import MediaTrail.Proofs.BrokenWriters
import MediaTrail.Proofs.WrittenSettings
import MediaTrail.Proofs.Channels
import MediaTrail.Proofs.TrailCalls
import MediaTrail.Proofs.SpanText
import MediaTrail.Proofs.LowerCase
import MediaTrail.Proofs.MediaNames
import MediaTrail.Proofs.UsableExtensions
import MediaTrail.Proofs.DebugReports
import MediaTrail.Proofs.Completion
import MediaTrail.Proofs.Conversion
import MediaTrail.Proofs.DescribedFiles
import MediaTrail.Proofs.LiteralPatterns
import MediaTrail.Proofs.ColumnPattern
import MediaTrail.Proofs.Excerpts
import MediaTrail.Proofs.Consoles
import MediaTrail.Proofs.Layouts
import MediaTrail.Proofs.Endpoints
import MediaTrail.Proofs.BrokenRules
import MediaTrail.Proofs.AlignedColumns
import MediaTrail.Proofs.AddressSources
import MediaTrail.Proofs.InterfacePaths
