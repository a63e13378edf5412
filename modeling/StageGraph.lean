import StageGraph.Http.App
import StageGraph.Http.Client
import StageGraph.Kind.Declared
import StageGraph.Log.Arguments
import StageGraph.Main
import StageGraph.Proofs.Containment
import StageGraph.Proofs.Gate.Bounds
import StageGraph.Proofs.Gate.Hidden
import StageGraph.Proofs.Gate.Rendering
import StageGraph.Proofs.Gate.Judging
import StageGraph.Proofs.Graph.Ranking
import StageGraph.Proofs.Graph.SearchSteps
import StageGraph.Proofs.Http.Tracing
import StageGraph.Proofs.Kind.Visible
import StageGraph.Proofs.LinkFindings
import StageGraph.Proofs.Notebook
import StageGraph.Proofs.Prerequisites
import StageGraph.Proofs.Project
import StageGraph.Proofs.Report
import StageGraph.Proofs.Script.Composition
import StageGraph.Proofs.Script.Hoisting
import StageGraph.Proofs.Store.Failing
import StageGraph.Proofs.Store.Refinement
import StageGraph.Proofs.Workshop.Atomicity
import StageGraph.Proofs.Workshop.Compiling
import StageGraph.Proofs.Workshop.Editing
import StageGraph.Proofs.Workshop.History
import StageGraph.Proofs.Workshop.Interleaving
import StageGraph.Time.Iso
import StageGraph.Proofs.AddedLinks
import StageGraph.Proofs.Gate.Passing
import StageGraph.Proofs.Gate.Branches
import StageGraph.Proofs.Workshop.Placing
import StageGraph.Proofs.Block.Division
import StageGraph.Proofs.Gate.Verbatim
import StageGraph.Proofs.Kind.Scaling
import StageGraph.Proofs.Defaults
import StageGraph.Proofs.Store.Naming
import StageGraph.Proofs.Http.Exporting
import StageGraph.Proofs.Store.Scanning
import StageGraph.Proofs.Gate.Closure
import StageGraph.Proofs.StageId
import StageGraph.Proofs.Script.Columns
import StageGraph.Proofs.Settings.Lists
