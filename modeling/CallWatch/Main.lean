import CallWatch.Dispatch.HttpClient

/-! The command line. It resolves the settings from the arguments, the environment and the
properties file, builds the client, and shows the settings with which the monitor runs. -/

namespace CallWatch

def settingVariables : IO Properties := do
  let found ← SettingKey.all.filterMapM fun key => do
    return (← IO.getEnv key.env).map fun text => (key.env, text)
  return (∅ : Properties).insertMany found

/-- Why a file cannot be read: the wording of the operating system, and its number. -/
def unreadable : IO.Error → String
  | .inappropriateType _ code details | .permissionDenied _ code details =>
    details.capitalize ++ " (os error " ++ String.ofList (decimal code.toNat) ++ ")"
  | e => e.toString

def readProperties (path : String) : IO Properties.File := do
  try
    return .contents (← IO.FS.readBinFile path).toList
  catch
    | .noFileOrDirectory .. => return .missing
    | e => return .unreadable (unreadable e)

/-- Shows why the program ends, and the cause below it. -/
def fail (purpose cause : String) : IO UInt32 := do
  IO.eprintln ("Error: " ++ purpose ++ "\n\nCaused by:\n    " ++ cause)
  return 1

def run (arguments : List String) : IO UInt32 := do
  let path := (← IO.getEnv Settings.fileVariable).getD Settings.standardFile
  match Settings.load arguments (← settingVariables) path (← readProperties path) with
  | .error e => fail "Failed to load monitor configuration" e.message
  | .ok settings =>
    match HttpClient.ofSettings settings with
    | .error e => fail "Failed to build collector client" e.message
    | .ok _ =>
      IO.println settings.summary
      return 0

end CallWatch

def main (arguments : List String) : IO UInt32 :=
  CallWatch.run arguments
