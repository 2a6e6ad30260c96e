import Preflight.Main
import Preflight.Service
import Preflight.Proofs.Reads
import Preflight.Proofs.Scan
import Preflight.Proofs.Check.Settle
import Preflight.Proofs.Pass.Runs
import Preflight.Proofs.Check.Report
import Preflight.Proofs.Double
import Preflight.Proofs.Check.Counted
import Preflight.Proofs.Check.Listed
import Preflight.Proofs.Check.Validity
import Preflight.Proofs.Check.Distance
import Preflight.Proofs.Check.Fence
import Preflight.Proofs.Check.HomeAltitude
import Preflight.Proofs.Check.Landing
import Preflight.Proofs.Check.Presence
import Preflight.Proofs.Check.Takeoff
import Preflight.Proofs.Pass.Stages
import Preflight.Proofs.Pass.Origins
import Preflight.Proofs.Pass.Verdict
import Preflight.Proofs.Pass.Failures
import Preflight.Proofs.Check.LandingList
import Preflight.Proofs.Check.TakeoffList
import Preflight.Proofs.Pass.Stored
import Preflight.Proofs.Pass.Policy
import Preflight.Proofs.Pass.Alarms
import Preflight.Proofs.Pass.Bounds
import Preflight.Proofs.Check.LandingOrder
import Preflight.Proofs.Check.Descent
import Preflight.Proofs.Check.VtolLanding
import Preflight.Proofs.Pass.Airframes
import Preflight.Proofs.Check.Neighbours
import Preflight.Proofs.Check.ItemRules
import Preflight.Proofs.Check.Breaks
import Preflight.Proofs.Check.FirstFault
import Preflight.Proofs.Check.DescentBreaks
import Preflight.Proofs.Pass.Breaks
import Preflight.Proofs.Check.Indistinct
import Preflight.Proofs.Double.Units
import Preflight.Proofs.Pass.Indistinct
import Preflight.Proofs.Double.Same
import Preflight.Proofs.Pass.Frames
import Preflight.Proofs.Session
import Preflight.Proofs.Check.Limits
import Preflight.Proofs.Pass.Limits
import Preflight.Proofs.Escapes
import Preflight.Proofs.Document.Numbers
import Preflight.Proofs.Document.Items
import Preflight.Proofs.Document.Plan
import Preflight.Proofs.Document.Fence
import Preflight.Proofs.Document.Refusals
import Preflight.Proofs.Files
import Preflight.Proofs.Settings
import Preflight.Proofs.Service.Targets
import Preflight.Proofs.Service.Requests
import Preflight.Proofs.Service.Judgement
import Preflight.Proofs.Document.Written
import Preflight.Proofs.Files.Paths
import Preflight.Proofs.Files.Directories
import Preflight.Proofs.Store.Names
import Preflight.Proofs.Store.Kept
import Preflight.Proofs.Store.Mirror
import Preflight.Proofs.Store.Runs
import Preflight.Proofs.Service.Stored
import Preflight.Proofs.Fence.Areas
import Preflight.Proofs.Pass.Fences
import Preflight.Proofs.Store.Histories
import Preflight.Proofs.Store.Snapshots
import Preflight.Proofs.Store.Gone
import Preflight.Proofs.Pass.Unread
import Preflight.Proofs.Store.Damaged
import Preflight.Proofs.Document.Recoded
import Preflight.Proofs.Check.Worded
import Preflight.Proofs.Settings.Overrides
import Preflight.Proofs.Service.Bodies
import Preflight.Proofs.Text.Utf8
import Preflight.Proofs.Json.Grammar
import Preflight.Proofs.Json.LineEnds
import Preflight.Proofs.Json.Overlong
import Preflight.Proofs.Document.Illegible
import Preflight.Proofs.Settings.Fields
import Preflight.Proofs.Settings.Layers
import Preflight.Proofs.Settings.Declared
import Preflight.Proofs.Document.Leaves
import Preflight.Proofs.Pass.Cited
import Preflight.Proofs.Document.Positions
import Preflight.Proofs.Check.Arithmetic
import Preflight.Proofs.Check.Remedies
import Preflight.Proofs.Double.Differences
import Preflight.Proofs.Double.Alike
import Preflight.Proofs.Fence.Longitudes
