/-
**Loading a configuration.**

A configuration is loaded from a file under an environment.  The file has to be a configuration
without fault by itself, and it has to be one under the environment.

Main definitions:

* `Testbed.Config.ofText` — a configuration from its text, under an environment;
* `Testbed.Config.load` — a configuration from its file.
-/

import Testbed.Config.Overrides
import Testbed.File.Local

set_option autoImplicit false

namespace Testbed.Config

/-- A configuration from its text, under an environment. -/
def ofText (e : Environment) (text : String) : Except ConfigError Config := do
  let written ← Config.parse text
  written.check
  let c := written.withEnvironment e
  c.check
  return c

/-- A configuration from its file, under an environment. -/
def load (e : Environment) (path : String) : ExceptT Error Script Config := .mk do
  match ← (LocalFile.read path).run with
  | .error .notFound => return .error (.config (.fileNotFound path))
  | .error f => return .error (.io f.message)
  | .ok text => return (ofText e text).mapError .config

end Testbed.Config
