import Testbed.Main
import Testbed.Metrics
import Testbed.Proofs.Cli.Sessions
import Testbed.Rehearsal.Daemon
import Testbed.Script.Clock
import Testbed.Proofs.Container.Usable
import Testbed.Proofs.Network.Templates
import Testbed.Proofs.Network.LedgerHistory
import Testbed.Proofs.Tar.Header
import Testbed.Proofs.Tar.SingleFile
import Testbed.Proofs.Tar.CutOff
import Testbed.Proofs.File.Transaction
import Testbed.Proofs.Network.Retry
import Testbed.Proofs.Cli.Retry
import Testbed.Proofs.Config.Load
import Testbed.Proofs.Daemon.Clone
import Testbed.Proofs.Daemon.Health
import Testbed.Proofs.Config.Agreement
import Testbed.Proofs.Network.ConcurrentAdds
import Testbed.Proofs.Container.Protocol
import Testbed.Proofs.Cli.ExitCodes
import Testbed.Proofs.Network.Images
import Testbed.Proofs.Tar.FirstOffence
import Testbed.Proofs.File.JsonList
import Testbed.Proofs.Log.Search
import Testbed.Proofs.Network.Inspection
import Testbed.Proofs.Cli.Check
import Testbed.Proofs.Network.Wipe
import Testbed.Proofs.Network.Overlay
import Testbed.Proofs.Cli.Arguments
import Testbed.Proofs.Config.Overrides
import Testbed.Proofs.Network.Catalog
import Testbed.Proofs.Config.Write
