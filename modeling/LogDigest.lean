import LogDigest.LogFilter
import LogDigest.Main
import LogDigest.Proofs.Blob.Containers
import LogDigest.Proofs.Blob.Markup
import LogDigest.Proofs.Path.Depth
import LogDigest.Proofs.Path.Height
import LogDigest.Proofs.Path.Leaves
import LogDigest.Proofs.Path.Unnamed
import LogDigest.Proofs.Path.Wrapped
import LogDigest.Proofs.Profile.History
import LogDigest.Proofs.Profile.Limits
import LogDigest.Proofs.Settings.FieldLists
import LogDigest.Proofs.Settings.Precedence
import LogDigest.Proofs.Settings.Profiles
import LogDigest.Proofs.Settings.Sources
import LogDigest.Proofs.Stream.Accounting
import LogDigest.Proofs.Stream.Interruption
import LogDigest.Proofs.Stream.SenderLoss
import LogDigest.Proofs.Template.Joined
import LogDigest.Proofs.Template.Leftmost
import LogDigest.Proofs.Template.Media
import LogDigest.Proofs.Template.ReadBack
