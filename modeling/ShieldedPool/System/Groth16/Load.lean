import ShieldedPool.Config
import ShieldedPool.System.Groth16.Basic
import ShieldedPool.Text.Quoted

/-!
# Loading the parameters

The configuration says where the parameter file is that `Groth16::load` reads. The files there are a function from paths to
their bytes, so that loading is the same for every file system.
-/

namespace ShieldedPool

/-- Why no parameters were loaded (`ParameterError`). -/
inductive ParameterError
  | noParametersFolder
  /-- There is no such file. -/
  | missing (path : String)
  | malformed (path : String) (cause : Bls12381.PointError)
deriving DecidableEq

/-- The message, which for a file says only which one it is. -/
def ParameterError.message : ParameterError → String
  | noParametersFolder => "could not find the Zcash parameters folder"
  | missing path | malformed path _ => "could not load Sprout Groth16 parameters from " ++ Quoted.ofText path

namespace Groth16System

/-- Reads the parameter file of a configuration (`Groth16::load`). -/
def load (file? : String → Option (List UInt8)) (c : Config) : Except ParameterError Groth16System :=
  match c.parametersPath with
  | none => .error .noParametersFolder
  | some path => match file? path with
    | none => .error (.missing path)
    | some bytes => (read bytes).mapError (.malformed path)

/-- Reads the parameter file early, unless the configuration leaves it for later (`preload`). -/
def preload (file? : String → Option (List UInt8)) (c : Config) : Except ParameterError (Option Groth16System) :=
  if c.skipPreload then .ok none else (load file? c).map some

end Groth16System

end ShieldedPool
