import CodeAtlas.Main
import CodeAtlas.Proofs.Analysis.Failure
import CodeAtlas.Proofs.Analysis.OnWeb
import CodeAtlas.Proofs.Analysis.UnreadFile
import CodeAtlas.Proofs.Calls.FirstOccurrence
import CodeAtlas.Proofs.Calls.Nesting
import CodeAtlas.Proofs.Calls.Parentheses
import CodeAtlas.Proofs.Calls.Resolution
import CodeAtlas.Proofs.Command.Client
import CodeAtlas.Proofs.Command.FileCalls
import CodeAtlas.Proofs.Disk.Content
import CodeAtlas.Proofs.Disk.FileText
import CodeAtlas.Proofs.Disk.Listing
import CodeAtlas.Proofs.Disk.Removal
import CodeAtlas.Proofs.Disk.WellFormed
import CodeAtlas.Proofs.Exclusion.Literal
import CodeAtlas.Proofs.Exclusion.Rules
import CodeAtlas.Proofs.Path
import CodeAtlas.Proofs.Project.Extension
import CodeAtlas.Proofs.Project.Files
import CodeAtlas.Proofs.Project.FirstMatch
import CodeAtlas.Proofs.Project.FunctionIndex
import CodeAtlas.Proofs.Project.Hiding
import CodeAtlas.Proofs.Project.ImportGraph
import CodeAtlas.Proofs.Project.ImportedCalls
import CodeAtlas.Proofs.Project.Linking
import CodeAtlas.Proofs.Project.Relinking
import CodeAtlas.Proofs.Project.Reordering
import CodeAtlas.Proofs.Project.Reported
import CodeAtlas.Proofs.Project.Specifier
import CodeAtlas.Proofs.Project.TopLevelCalls
import CodeAtlas.Proofs.Scan.Agreement
import CodeAtlas.Proofs.Scan.Endings
import CodeAtlas.Proofs.Scan.EveryFile
import CodeAtlas.Proofs.Scan.FileSize
import CodeAtlas.Proofs.Scan.FurtherPatterns
import CodeAtlas.Proofs.Scan.Itinerary
import CodeAtlas.Proofs.Scan.Mirror
import CodeAtlas.Proofs.Scan.OnDisk
import CodeAtlas.Proofs.Scan.Removal
import CodeAtlas.Proofs.Scan.Within
import CodeAtlas.Proofs.Source.Comments
import CodeAtlas.Proofs.Source.Fault
import CodeAtlas.Proofs.Source.Location
import CodeAtlas.Proofs.Source.Wrapping
import CodeAtlas.Proofs.Text.Decoding
import CodeAtlas.Proofs.Tree.Walk
import CodeAtlas.Proofs.Web.Address
import CodeAtlas.Proofs.Web.Publication
import CodeAtlas.Proofs.Web.Requests
import CodeAtlas.Text.Utf8
