/-
A configuration from its layers: the defaults, a file over them, environment
variables over both. For every key the topmost layer that sets it counts, so
a value that another one covers is never converted. What the driver cannot
run with is refused at the end.
-/
import CameraDriver.Settings.Convert
import CameraDriver.Settings.Environment
import CameraDriver.Settings.File

namespace CameraDriver.Settings

/-- The assignments that a configuration makes. -/
def Layer.ofConfig (c : Config) : Layer := (Tree.ofJson none c.encode).members

/-- The configuration that layers give, the later ones lying above. -/
def assemble (layers : List Layer) : Except CoreError Config := do
  let c ← (Layer.stack layers).toConfig.mapError fun m => .config m.message
  c.driver.validate
  return c

/-- The configuration that a file and an optional set of environment
variables give. The file, if one is asked for, is found among some by its
path; a missing one changes nothing. -/
def build (files : List (String × Bytes)) (path : Option String)
    (environment : Option Environment) : Except CoreError Config := do
  let file ← match path with
    | some path => (File.find? files path).mapError CoreError.config
    | none => pure none
  let ofFile ← match file with
    | some f => f.layer.mapError CoreError.config
    | none => pure []
  let ofEnvironment := (environment.map (·.layer)).getD []
  assemble [Layer.ofConfig {}, ofFile, ofEnvironment]

end CameraDriver.Settings
