import FileDepot.Archive.Entry
import FileDepot.Main
import FileDepot.Path.Glob
import FileDepot.Server
import FileDepot.Store.Scripted
import FileDepot.Web.Client
import FileDepot.Web.Scripted.Network
import FileDepot.Disk.FileTime
import FileDepot.Proofs.Local.Sandbox
import FileDepot.Proofs.ReadBack
import FileDepot.Proofs.Memory.Confine
import FileDepot.Proofs.Memory.Trace
import FileDepot.Proofs.Agreement.Resolve
import FileDepot.Proofs.Agreement.Tasks
import FileDepot.Proofs.Stream.Delivery
import FileDepot.Proofs.TextFiles
import FileDepot.Proofs.RoundTrip
import FileDepot.Proofs.Copy
import FileDepot.Proofs.BinaryFiles
import FileDepot.Proofs.Passing
import FileDepot.Proofs.Accesses
import FileDepot.Proofs.Memory.Snapshot
import FileDepot.Proofs.Local.Reach
import FileDepot.Proofs.Leniency
import FileDepot.Proofs.Faults
import FileDepot.Proofs.Memory.Canonical
import FileDepot.Proofs.Agreement.Order
import FileDepot.Proofs.Existing
import FileDepot.Proofs.Local.Written
import FileDepot.Proofs.Local.Removal
import FileDepot.Proofs.SaveFaults
import FileDepot.Proofs.Memory.Commute
import FileDepot.Proofs.Path.Search
import FileDepot.Proofs.Attempts
import FileDepot.Proofs.Memory.MountFaults
import FileDepot.Proofs.Memory.Spelling
import FileDepot.Proofs.Agreement.Targets
import FileDepot.Proofs.Columns
import FileDepot.Proofs.Web.Download
import FileDepot.Proofs.Web.Scripted
import FileDepot.Proofs.Agreement.Spelling
import FileDepot.Proofs.Truncation
