import StorageGauges.Json.Printer
import StorageGauges.Record
import StorageGauges.Settings.Basic

/-!
# Checking Settings

Reads the settings from the variables of the process and writes the record
with which the exporter would start, or says what is wrong with them.
-/

namespace StorageGauges

/-- The version of the exporter. -/
def exporterVersion : String := "0.1.0"

/-- The variables of the process that are settings. -/
def processEnvironment : IO Settings.Environment := do
  let found ← Settings.names.mapM fun name => do
    let value ← IO.getEnv name.toUpper
    return value.map fun text => (name, text)
  return found.filterMap id

/-- The record with which the exporter starts. -/
def startRecord (s : Settings) : Record :=
  { component := "exporter"
    event := .started exporterVersion s.options.mode.name s.features }

end StorageGauges

open StorageGauges in
def main : IO UInt32 := do
  match Settings.ofEnvironment (← processEnvironment) with
  | .ok s =>
    IO.println (startRecord s).toJson.toText
    return 0
  | .error e =>
    IO.eprintln ("Error: " ++ e.message)
    return 1
