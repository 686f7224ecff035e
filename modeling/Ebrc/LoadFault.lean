import Ebrc.ConfigError
import Ebrc.Crash

/-!
# Why a load stops

The load of an rc file or of an application configuration stops at an error of the configuration
or at a crash.
-/

namespace Ebrc

/-- Why a load stops. -/
inductive LoadFault where
  | config (error : ConfigError)
  | crash (crash : Crash)
  deriving Repr, DecidableEq

end Ebrc
