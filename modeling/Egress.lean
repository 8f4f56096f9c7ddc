import Egress.Main
import Egress.Session.Step
import Egress.Proofs.Proxy.Failure
import Egress.Proofs.Proxy.Secrecy
import Egress.Proofs.Proxy.Transport
import Egress.Proofs.Session.Isolation
import Egress.Proofs.Http.Overlay
import Egress.Proofs.Http.Rounds
import Egress.Proofs.Destination.Address
import Egress.Proofs.Number.Binary64
import Egress.Proofs.Value.Key
import Egress.Proofs.Value.Entries
import Egress.Proofs.Value.Sound
import Egress.Proofs.Value.Digest
import Egress.Proofs.Value.Freezing
import Egress.Proofs.Builder.Contents
import Egress.Proofs.Property.Reading
import Egress.Proofs.Builder.History
import Egress.Proofs.Builder.Rebuild
import Egress.Proofs.Session.BuilderCalls
import Egress.Proofs.Session.Refusals
import Egress.Proofs.Session.Copy
import Egress.Proofs.Session.Reading
import Egress.Proofs.Destination.Equality
import Egress.Proofs.Destination.Comparison
import Egress.Proofs.Text.Utf8
import Egress.Proofs.Url.Decoding
import Egress.Proofs.Destination.Instance
import Egress.Proofs.Destination.Usable
import Egress.Proofs.Http.Target
import Egress.Proofs.Http.StaticLines
import Egress.Proofs.Proxy.Interchange
import Egress.Proofs.Proxy.Location
import Egress.Proofs.Proxy.Port
import Egress.Proofs.Proxy.Resolution
import Egress.Proofs.Report.Sheet
import Egress.Proofs.Command.Show
import Egress.Proofs.Command.Spelling
import Egress.Proofs.Command.Reordering
import Egress.Proofs.Markup.Marks
import Egress.Proofs.Markup.Literal
import Egress.Proofs.Layout.Marks
import Egress.Proofs.Layout.Narrow
import Egress.Proofs.Layout.Drawing
import Egress.Proofs.Report.Literal
import Egress.Proofs.Report.ErrorLine
import Egress.Proofs.Report.AsWritten
import Egress.Proofs.Header
import Egress.Proofs.Session.FactoryCalls
