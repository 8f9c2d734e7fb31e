import SqlTidy.Main
import SqlTidy.Report.Checked
import SqlTidy.Proofs.Trace
import SqlTidy.Proofs.Growth
import SqlTidy.Proofs.Unpacking
import SqlTidy.Proofs.Fetching
import SqlTidy.Proofs.Abort
import SqlTidy.Proofs.Leftover
import SqlTidy.Proofs.Printed
import SqlTidy.Proofs.ReportGrammar
import SqlTidy.Proofs.NamedEntries
import SqlTidy.Proofs.Layers
import SqlTidy.Proofs.Precedence
import SqlTidy.Proofs.Serving
import SqlTidy.Proofs.Sparing
import SqlTidy.Proofs.WriteBack
import SqlTidy.Proofs.Repeated
import SqlTidy.Proofs.Lives
import SqlTidy.Proofs.Dependence
import SqlTidy.Proofs.TomlScanning
import SqlTidy.Proofs.LoadCrash
import SqlTidy.Proofs.OwnLine
import SqlTidy.Proofs.Residue
import SqlTidy.Proofs.SpokenNames
import SqlTidy.Proofs.Unseen
import SqlTidy.Proofs.Delivery
import SqlTidy.Proofs.TextOctets
import SqlTidy.Proofs.Reformatting
import SqlTidy.Proofs.Segmentation
import SqlTidy.Proofs.LowerCase
import SqlTidy.Proofs.Respelling
import SqlTidy.Proofs.Descent
import SqlTidy.Proofs.NormalPath
import SqlTidy.Proofs.Confinement
import SqlTidy.Proofs.LineLocal
import SqlTidy.Proofs.LayoutChecks
import SqlTidy.Proofs.Rebuilt
import SqlTidy.Proofs.Spawning
import SqlTidy.Proofs.Echo
import SqlTidy.Proofs.KeyPaths
import SqlTidy.Proofs.ReleaseAddress
import SqlTidy.Proofs.Execution
import SqlTidy.Proofs.Redrawn
