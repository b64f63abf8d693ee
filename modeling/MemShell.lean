import MemShell.Console
import MemShell.Main
import MemShell.Page.Dispatch
import MemShell.Proofs.FileSystem.Operation
import MemShell.Proofs.FileSystem.Files
import MemShell.Proofs.FileSystem.TreeShaped
import MemShell.Proofs.FileSystem.Refinement
import MemShell.Proofs.FileSystem.Outline
import MemShell.Proofs.Session.Action
import MemShell.Proofs.Session.Effect
import MemShell.Proofs.Session.Standing
import MemShell.Proofs.Session.EditorLock
import MemShell.Proofs.Session.Replay
import MemShell.Proofs.Text.Words
import MemShell.Proofs.Session.Visit
import MemShell.Proofs.Desktop.Action
import MemShell.Proofs.Desktop.Icons
import MemShell.Proofs.Text.Lines
import MemShell.Proofs.Transcript.Typing
import MemShell.Proofs.Geometry.Exact
import MemShell.Proofs.Desktop.Window
import MemShell.Proofs.Terminal.Action
import MemShell.Proofs.Terminal.History
import MemShell.Proofs.FileSystem.Consistency
import MemShell.Proofs.Session.Containment
import MemShell.Proofs.Session.AuditTrail
import MemShell.Proofs.Session.View
import MemShell.Proofs.Transcript.Writing
import MemShell.Proofs.Transcript.Agreement
import MemShell.Proofs.Transcript.FrontEnds
import MemShell.Proofs.Transcript.Undecodable
import MemShell.Proofs.Page.Look
import MemShell.Proofs.Session.Refusal
import MemShell.Proofs.Page.Action
import MemShell.Proofs.Page.Modes
import MemShell.Proofs.FileSystem.CreationOrder
import MemShell.Proofs.Session.Places
import MemShell.Proofs.Session.Folders
import MemShell.Proofs.Session.Listing
import MemShell.Proofs.Session.Clearing
import MemShell.Proofs.Session.FilePaths
import MemShell.Proofs.Terminal.Recall
import MemShell.Proofs.Session.Making
import MemShell.Proofs.Session.Saving
import MemShell.Proofs.Session.Unsaved
import MemShell.Proofs.FileSystem.Footprint
import MemShell.Proofs.Path.Resolve
import MemShell.Proofs.Path.Ancestor
import MemShell.Proofs.Path.Inverses
import MemShell.Proofs.Invocation
import MemShell.Proofs.Session.Walking
import MemShell.Proofs.Page.Recall
import MemShell.Proofs.Session.Restoring
import MemShell.Proofs.Desktop.Dragging
import MemShell.Proofs.Desktop.Limits
import MemShell.Proofs.Page.Drags
