import RemoteFiles.CommandLine
import RemoteFiles.Main
import RemoteFiles.Program.Connection
import RemoteFiles.Program.Survey
import RemoteFiles.Proofs.Classification
import RemoteFiles.Proofs.CommandLine.Wiring
import RemoteFiles.Proofs.Confinement
import RemoteFiles.Proofs.Delimiting
import RemoteFiles.Proofs.Digest.Standard
import RemoteFiles.Proofs.Download
import RemoteFiles.Proofs.Exchange
import RemoteFiles.Proofs.Frame.Counted
import RemoteFiles.Proofs.Frame.Place
import RemoteFiles.Proofs.Listing.Local
import RemoteFiles.Proofs.Listing.Order
import RemoteFiles.Proofs.Listing.Raw
import RemoteFiles.Proofs.Listing.Size
import RemoteFiles.Proofs.Remains
import RemoteFiles.Proofs.Report
import RemoteFiles.Proofs.Request
import RemoteFiles.Proofs.Routes
import RemoteFiles.Proofs.Secrecy
import RemoteFiles.Proofs.Sent
import RemoteFiles.Proofs.Shell.Script
import RemoteFiles.Proofs.Stream
import RemoteFiles.Proofs.Target
import RemoteFiles.Proofs.Validation
import RemoteFiles.Shell.Basic
import RemoteFiles.Stream
