import ClassGraph.Declaration.Writer
import ClassGraph.Main
import ClassGraph.Render.Load
import ClassGraph.Proofs.Graph
import ClassGraph.Proofs.Counters
import ClassGraph.Proofs.Build
import ClassGraph.Proofs.Merge
import ClassGraph.Proofs.Ranking
import ClassGraph.Proofs.Selection
import ClassGraph.Proofs.Report
import ClassGraph.Proofs.Order
import ClassGraph.Proofs.Skipped
import ClassGraph.Proofs.Scope
import ClassGraph.Proofs.Coupling
import ClassGraph.Proofs.SelfCoupling
import ClassGraph.Proofs.FileNames
import ClassGraph.Proofs.Index
import ClassGraph.Proofs.Schedule
import ClassGraph.Proofs.Declarers
import ClassGraph.Proofs.JsonScan
import ClassGraph.Proofs.JsonText
import ClassGraph.Proofs.Dump
import ClassGraph.Proofs.Figure
import ClassGraph.Proofs.Recovery
import ClassGraph.Proofs.Dot
import ClassGraph.Proofs.JsonTyped
import ClassGraph.Proofs.Load
import ClassGraph.Proofs.Formats
import ClassGraph.Proofs.Limits
import ClassGraph.Proofs.JsonLine
import ClassGraph.Proofs.Session
import ClassGraph.Proofs.CouplingViews
import ClassGraph.Proofs.Recorded
import ClassGraph.Proofs.Census
import ClassGraph.Proofs.Scoping
import ClassGraph.Proofs.SelfCalls
import ClassGraph.Proofs.Common
import ClassGraph.Proofs.Labels
import ClassGraph.Proofs.Receivers
import ClassGraph.Proofs.ProjectFiles
import ClassGraph.Proofs.Replay
import ClassGraph.Proofs.Packages
