import DocTags.Comment.Layout
import DocTags.Files.Disk
import DocTags.Files.Memory
import DocTags.Main
import DocTags.Proofs.Command.FailedRuns
import DocTags.Proofs.Command.ScanTask
import DocTags.Proofs.Command.SettingsUse
import DocTags.Proofs.Comment.Canonical
import DocTags.Proofs.Comment.LastValue
import DocTags.Proofs.Comment.Locality
import DocTags.Proofs.Comment.Offsets
import DocTags.Proofs.Comment.Segmentation
import DocTags.Proofs.Comment.TagLine
import DocTags.Proofs.Files.PathOrder
import DocTags.Proofs.Scan.Directory
import DocTags.Proofs.Scan.FileScan
import DocTags.Proofs.Scan.LineEndings
import DocTags.Proofs.Scan.SingleComment
import DocTags.Proofs.Scan.Written
import DocTags.Proofs.Settings.ExtensionList
import DocTags.Proofs.Settings.Merging
import DocTags.Proofs.Settings.Precedence
import DocTags.Proofs.Tree.DocumentOrder
import DocTags.Proofs.Tree.Drawing
import DocTags.Proofs.Tree.FromJson
import DocTags.Proofs.Tree.Rebuild
import DocTags.Proofs.Tree.RoundTrip
import DocTags.Tree.Same
import DocTags.Proofs.Tree.Insertion
import DocTags.Proofs.Settings.Union
import DocTags.Proofs.Tree.Extensionality
import DocTags.Proofs.Scan.Untagged
import DocTags.Proofs.Scan.Extensions
import DocTags.Proofs.Tree.Flat
import DocTags.Proofs.Comment.LaidOut
import DocTags.Proofs.Settings.Shown
