import ShieldedPool.Network
import ShieldedPool.Text.Path

/-!
# Configuration

Which network is in use, and where the parameters of the proof system are kept.
-/

namespace ShieldedPool

/-- Where the proof system finds its parameters (`Config`). -/
structure Config where
  network : Network
  /-- The folder of the parameter files, if it is known. -/
  parametersDir : Option String
  /-- The parameter file, relative to the folder. -/
  parametersFile : String
  /-- Whether the parameters are left to be loaded when they are first needed. -/
  skipPreload : Bool
deriving DecidableEq

namespace Config

/-- The folder of the parameter files below a home folder (`default_params_folder`). -/
def defaultParametersDir (home : String) : String := Path.join home ".zcash-params"

/-- The configuration for a user with a given home folder, if there is one (`Config::default`). -/
def default (home : Option String) : Config where
  network := .mainnet
  parametersDir := home.map defaultParametersDir
  parametersFile := "sprout-groth16.params"
  skipPreload := false

/-- Where the parameters are, if their folder is known (`Config::sprout_parameters_path`). -/
def parametersPath (c : Config) : Option String := c.parametersDir.map fun d => Path.join d c.parametersFile

end Config

end ShieldedPool
