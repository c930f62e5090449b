import ModuleClosure.Git.Remotes
import ModuleClosure.Main
import ModuleClosure.Source.Table
import ModuleClosure.Proofs.Closure.Memo
import ModuleClosure.Proofs.Closure.Frame
import ModuleClosure.Proofs.Closure.Requests
import ModuleClosure.Proofs.Closure.Reachable
import ModuleClosure.Proofs.Closure.Again
import ModuleClosure.Proofs.Closure.Depth
import ModuleClosure.Proofs.Closure.Graph
import ModuleClosure.Proofs.Closure.Table
import ModuleClosure.Proofs.Closure.Outcome
import ModuleClosure.Proofs.Closure.Order
import ModuleClosure.Proofs.Closure.Declared
import ModuleClosure.Proofs.Description.File
import ModuleClosure.Proofs.Closure.Cycle
import ModuleClosure.Proofs.Closure.Twin
import ModuleClosure.Proofs.Closure.Origin
import ModuleClosure.Proofs.Closure.Finish
import ModuleClosure.Proofs.Closure.Preorder
import ModuleClosure.Proofs.Closure.Warnings
import ModuleClosure.Proofs.Parameters.Entries
import ModuleClosure.Proofs.Parameters.File
import ModuleClosure.Proofs.CommandLine.Address
import ModuleClosure.Proofs.Dependency.Piece
import ModuleClosure.Proofs.Dependency.List
import ModuleClosure.Proofs.Bound
import ModuleClosure.Proofs.Dependency.Bounds
import ModuleClosure.Proofs.Dependency.Text
import ModuleClosure.Proofs.Version.Key
import ModuleClosure.Proofs.Parameters.BasePath
import ModuleClosure.Proofs.Parameters.Reset
import ModuleClosure.Proofs.Parameters.Quoting
import ModuleClosure.Proofs.Settings.Overlay
import ModuleClosure.Proofs.Disk
import ModuleClosure.Proofs.Disk.Making
import ModuleClosure.Proofs.Source.Layout
import ModuleClosure.Proofs.Source.Confined
import ModuleClosure.Proofs.Source.Course
import ModuleClosure.Proofs.Parameters.Canonical
import ModuleClosure.Proofs.Json.Compact
import ModuleClosure.Proofs.Description.Json
