import TapeMachine.Console.Desk

namespace TapeMachine.Settings

/-- The file that holds the settings unless another is named. -/
def defaultPath : String := "config/runtime_config.json"

/-- The defaults with the changes of a stored value. -/
def ofJson (value : Json) : Except Fault Settings := do
  let changes ← (changes value).mapError .notSettings
  (ofFields (Dictionary.setAll (fields {}) changes)).mapError .settings

/-- Reads the settings in a file and makes the directory they log to. Nothing is shown. -/
def load (path : String) : FileTask Settings := do
  if !(← get).pathExists path then throw (.noSettings path)
  let settings ← FileTask.attempt (ofJson (← FileTask.readJson path))
  if settings.logSteps then FileTask.makeDirectories settings.outputDirectory
  return settings

/-- The same, and shows the settings under the time. -/
def loadAloud (path now : String) : DeskTask Settings := do
  let settings ← DeskTask.onFiles (load path)
  DeskTask.showLine s!"[{now}] Loaded config:"
  settings.lines.forM DeskTask.showLine
  return settings

/-- Stores fields as they are, if they amount to settings. At a number with too many digits to be
written the file is left cut short. -/
def saveFields (fields : Json.Fields) (path : String) : FileTask Unit := do
  let _ ← FileTask.attempt ((ofFields fields).mapError .settings)
  FileTask.makeDirectories (Files.homeOf path)
  FileTask.writeJson path (.obj fields)

def save (settings : Settings) (path : String) : FileTask Unit :=
  saveFields settings.fields path

end TapeMachine.Settings
