import TokenSpans.Chosen.Calls
import TokenSpans.CommandLine.Directory
import TokenSpans.Cursor.Bytes
import TokenSpans.Cursor.Steps
import TokenSpans.Host.Requests
import TokenSpans.Main
import TokenSpans.Session
import TokenSpans.Standard.Narration
import TokenSpans.Standard.Segments
import TokenSpans.Proofs.Place
import TokenSpans.Proofs.Reading
import TokenSpans.Proofs.Pieces
import TokenSpans.Proofs.Marking
import TokenSpans.Proofs.Partition
import TokenSpans.Proofs.Matchers
import TokenSpans.Proofs.Standard.Segments
import TokenSpans.Proofs.Standard.Slices
import TokenSpans.Proofs.Standard.Acceptance
import TokenSpans.Proofs.Order
import TokenSpans.Proofs.Shifting
import TokenSpans.Proofs.Standard.Joining
import TokenSpans.Proofs.Lines
import TokenSpans.Proofs.CommandLine.Pointing
import TokenSpans.Proofs.Advancing
import TokenSpans.Proofs.Session.Course
import TokenSpans.Proofs.Session.Completing
import TokenSpans.Proofs.Surrounding
import TokenSpans.Proofs.Tracking
import TokenSpans.Proofs.Transparency
import TokenSpans.Proofs.Telling
import TokenSpans.Proofs.Session.Telling
import TokenSpans.Proofs.Session.Turns
import TokenSpans.Proofs.Nesting
import TokenSpans.Proofs.Standard.Narration
import TokenSpans.Proofs.Standard.Lines
import TokenSpans.Proofs.Standard.Settings
import TokenSpans.Proofs.Progress
import TokenSpans.Proofs.Json.Spans
import TokenSpans.Proofs.Offsets
import TokenSpans.Proofs.Resuming
import TokenSpans.Proofs.Dispatch
import TokenSpans.Proofs.FurtherRules
import TokenSpans.Proofs.Ending
import TokenSpans.Proofs.Covering
import TokenSpans.Proofs.Checked
import TokenSpans.Proofs.Window
import TokenSpans.Proofs.Session.Attaching
import TokenSpans.Proofs.Stored
import TokenSpans.Proofs.CommandLine.Layers
import TokenSpans.Proofs.Json.Settings
import TokenSpans.Proofs.Filtering
import TokenSpans.Proofs.Overlaying
import TokenSpans.Proofs.Choosing
import TokenSpans.Proofs.CommandLine.Listing
import TokenSpans.Proofs.Matching
import TokenSpans.Proofs.Spelling
