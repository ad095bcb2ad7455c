import ComponentAtlas.Syntax.Fault
import ComponentAtlas.Script.Program
import ComponentAtlas.Component.Expansion
import ComponentAtlas.Component.Rendering
import ComponentAtlas.Pattern.Exclusion
import ComponentAtlas.Scan.Report
import ComponentAtlas.Session
import ComponentAtlas.CommandLine.Run
import ComponentAtlas.Main
import ComponentAtlas.Proofs.Inventory
import ComponentAtlas.Proofs.Attribution
import ComponentAtlas.Proofs.Rearrangement
import ComponentAtlas.Proofs.Growth
import ComponentAtlas.Proofs.Reachability
import ComponentAtlas.Proofs.Nesting
import ComponentAtlas.Proofs.Layering
import ComponentAtlas.Proofs.Printing
import ComponentAtlas.Proofs.Encoding
import ComponentAtlas.Proofs.Storage
import ComponentAtlas.Proofs.Delivery
import ComponentAtlas.Proofs.OwnTags
import ComponentAtlas.Proofs.Filling
import ComponentAtlas.Proofs.Parentheses
import ComponentAtlas.Proofs.Wiring
import ComponentAtlas.Proofs.Redundancy
import ComponentAtlas.Proofs.Drawing
import ComponentAtlas.Proofs.Legibility
import ComponentAtlas.Proofs.Strictness
import ComponentAtlas.Proofs.Widening
import ComponentAtlas.Proofs.Faults
import ComponentAtlas.Proofs.Fragments
import ComponentAtlas.Proofs.Narrowing
import ComponentAtlas.Proofs.Passes
import ComponentAtlas.Proofs.NormalForm
import ComponentAtlas.Proofs.Routes
import ComponentAtlas.Proofs.BaseDirectory
import ComponentAtlas.Proofs.SourceFiles
import ComponentAtlas.Proofs.StoredForm
import ComponentAtlas.Proofs.BlankLists
import ComponentAtlas.Proofs.Descendants
