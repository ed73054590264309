import Drawbridge.Activity
import Drawbridge.Fault
import Drawbridge.Settings

/-!
# Engines

What the bridge asks of a script engine. An engine works on a context of its own; its work is an
activity, which may call the host.
-/

namespace Drawbridge

/-- What the bridge needs of a script engine: contexts, and what it does on one of them. -/
structure Engine where
  Context : Type
  /-- a fresh context, unless there is no room for one -/
  create? : Settings → Option Context
  /-- runs a source under a file name and gives its value as text -/
  evaluate : (source file : String) → Context → Activity Context (Except Failure String)
  /-- publishes a proxy of a binding, whose functions call the host, as a global -/
  install : Binding → Context → Activity Context (Except Failure Unit)
  /-- lets go of what scripts can no longer reach -/
  collect : Context → Context
  /-- the bindings of the proxy functions that scripts can reach, one for each function -/
  proxies : Context → List Binding

end Drawbridge
