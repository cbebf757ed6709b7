import BoardDebug.Bench
import BoardDebug.Main
import BoardDebug.Proofs.Halt.Trace
import BoardDebug.Proofs.Hf2.Reconnection
import BoardDebug.Proofs.Session.Bench
import BoardDebug.Proofs.Session.Sights
import BoardDebug.Proofs.Session.Silence
import BoardDebug.Proofs.Session.StatusCell
import BoardDebug.Proofs.Hf2.Damage
import BoardDebug.Proofs.Hf2.WordAccess
import BoardDebug.Proofs.Image.Uf2
import BoardDebug.Proofs.Session.Retry
import BoardDebug.Proofs.Session.Polling
import BoardDebug.Proofs.Session.Restart
import BoardDebug.Proofs.Selector
import BoardDebug.Proofs.CommandLine.DebugRun
import BoardDebug.Proofs.Metadata
import BoardDebug.Proofs.Editor
import BoardDebug.Proofs.Globals
import BoardDebug.Proofs.Session.Arming
import BoardDebug.Proofs.Device.History
import BoardDebug.Proofs.Image.IntelHex
import BoardDebug.Proofs.Procedure.Index
import BoardDebug.Proofs.Image.Emptiness
import BoardDebug.Proofs.Settings.Precedence
