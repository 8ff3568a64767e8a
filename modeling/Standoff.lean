import Standoff.Annotate.Forms
import Standoff.Annotate.Tagger
import Standoff.Columns
import Standoff.Tag.Encode
import Standoff.TextBound
import Standoff.Proofs.Tag.Segmentation
import Standoff.Proofs.Result
import Standoff.Proofs.Tag.Writing
import Standoff.Proofs.Tag.Decoding
import Standoff.Proofs.Tag.Coverage
import Standoff.Proofs.Tag.RoundTrip
import Standoff.Proofs.Columns.Layout
import Standoff.Proofs.Grouping
import Standoff.Proofs.Tag.Normal
import Standoff.Proofs.Columns.Regrouping
import Standoff.Proofs.Columns.Construction
import Standoff.Proofs.Containment
import Standoff.Proofs.Alignment
import Standoff.Proofs.Placement
import Standoff.Proofs.Annotate.Forms
import Standoff.Proofs.Encoding.RoundTrip
import Standoff.Proofs.Text
import Standoff.Proofs.LineStream
import Standoff.Proofs.Channel.Request
import Standoff.Proofs.Channel.Response
import Standoff.Proofs.Channel.Exchange
import Standoff.Proofs.Channel.Echo
import Standoff.Proofs.Overlap
import Standoff.Proofs.Annotate.Tagger
import Standoff.Proofs.Annotate.Segmented
import Standoff.Proofs.Channel.LifeCycle
import Standoff.Proofs.Channel.Framing
import Standoff.Proofs.Channel.Record
import Standoff.Proofs.Annotate.Pipeline
import Standoff.Proofs.Annotate.Commitment
import Standoff.Proofs.Annotate.Breakdown
import Standoff.Proofs.Channel.Sending
import Standoff.Proofs.StoredText
import Standoff.Proofs.TextBound.Writing
import Standoff.Proofs.TextBound.RoundTrip
import Standoff.Proofs.TextBound.Grammar
import Standoff.Proofs.TextBound.Acceptance
import Standoff.Proofs.Tag.Acceptance
import Standoff.Proofs.Tag.Reencoding
import Standoff.Proofs.Columns.Grammar
import Standoff.Proofs.Columns.Isolation
import Standoff.Proofs.Cursor
import Standoff.Proofs.Annotate.Recovery
import Standoff.Proofs.Columns.Lines
import Standoff.Proofs.Columns.Joining
import Standoff.Proofs.Columns.Editing
import Standoff.Proofs.Neighbours
import Standoff.Proofs.Resource.ModelCache
import Standoff.Proofs.Document
import Standoff.Proofs.Resource.Properties
import Standoff.Proofs.Annotate.Visible
import Standoff.Proofs.Resource.Categories
import Standoff.Proofs.Resource.Location
