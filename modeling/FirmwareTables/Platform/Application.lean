/-
**Descriptions applied to a manager.**

A description is applied at once, which the manager has to be installed for, or registered as a
callback that applies it when the manager is ready. A registered description that is refused is
gone: only its error says so.
-/

import FirmwareTables.Manager.Machine
import FirmwareTables.Platform.Population

namespace FirmwareTables.Platform

variable {σ : Type}

/-- Applies a description to a manager. -/
def apply (platform : Platform) (manager : Manager σ) : Except PlatformError Unit × Manager σ :=
  let (outcome, configuration) := platform.populate manager.installed manager.configuration
  (outcome, { manager with configuration := configuration })

/-- What the callback of a registered description does. It is fired on an installed manager only
(`Ledger.Begins.fires`), so that trying the description as on an installed manager is applying it
(`script_step`). -/
def script (platform : Platform) : Script σ :=
  .act (fun (configuration, host) => ((platform.populate true configuration).2, host))
    fun (configuration, _) =>
      .finish ((platform.populate true configuration).1.mapError PlatformError.toRepositoryError)

/-- Registers a description. -/
def register (platform : Platform) (manager : Manager σ) : Machine σ :=
  manager.register fun _ => platform.script

end FirmwareTables.Platform
