import Drawbridge.Main
import Drawbridge.Proofs.Process.Globals
import Drawbridge.Proofs.ScriptValue
import Drawbridge.Session.Run
import Drawbridge.SlotMap.Ledger
import Drawbridge.Workbench.Run
import Drawbridge.Proofs.Contract
import Drawbridge.Proofs.Switchboard.Gate
import Drawbridge.Proofs.Script.Faults
import Drawbridge.Proofs.Switchboard.Sides
import Drawbridge.Proofs.Process.Frames
import Drawbridge.Proofs.Switchboard.Outcomes
import Drawbridge.Proofs.Process.HostCalls
import Drawbridge.Proofs.Process.Boards
import Drawbridge.Proofs.Process.Binds
import Drawbridge.Proofs.Process.Drafts
import Drawbridge.Proofs.SlotMap.History
import Drawbridge.Proofs.ScriptValue.Exact
import Drawbridge.Proofs.Process.Closing
import Drawbridge.Proofs.Process.Proxies
import Drawbridge.Proofs.Script.Installation
import Drawbridge.Proofs.Process.Serial
import Drawbridge.Proofs.Process.References
import Drawbridge.Proofs.Process.FaultChain
import Drawbridge.Proofs.Contract.Precedence
import Drawbridge.Proofs.Backtrace
import Drawbridge.Proofs.Settings.Overrides
import Drawbridge.Proofs.Switchboard.Contents
import Drawbridge.Proofs.Process.Scopes
import Drawbridge.Proofs.SlotMap.Accounting
import Drawbridge.Proofs.HostObject
import Drawbridge.Proofs.Process.Direct
import Drawbridge.Proofs.Script.Realm
import Drawbridge.Proofs.CommandLine
