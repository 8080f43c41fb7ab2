import NfsWatch.Config.CommandLine
import NfsWatch.Config.Resolve

/-!
# Main — the program

Reads the arguments and the environment, and shows the settings in force.
-/

namespace NfsWatch.Main

def settingNames : List String :=
  ["NFSMON_URL", "NFSMON_POLL_MS", "NFSMON_STALE_AFTER", "NFSMON_SEQUENCING",
    "NFSMON_HIDDEN_SECTIONS", "NFSMON_LOG_STDERR"]

def settingLines (config : Config) : List String :=
  [s!"url {config.base.text}",
    s!"poll period {config.poll.intervalMs} ms",
    s!"stale after {config.poll.staleAfter} failures",
    s!"sequencing {config.poll.sequencing.name}",
    s!"hidden sections {config.poll.hiddenSections.name}",
    s!"pages {config.pages.name}"]

def usageLines : List String :=
  "Usage: [OPTIONS]" :: [CommandLine.Opt.url, .pollMs, .staleAfter, .sequencing, .hiddenSections,
    .page].map (fun opt => "  --" ++ opt.name ++ " <VALUE>")

end NfsWatch.Main

open NfsWatch in
/-- Shows the settings in force, or why there are none. -/
def main (arguments : List String) : IO UInt32 := do
  let values ← Main.settingNames.mapM (fun name => return (name, ← IO.getEnv name))
  let environment : Environment := fun name => (values.lookup name).join
  match CommandLine.parse arguments with
  | .error .help =>
      Main.usageLines.forM IO.println
      return 0
  | .error fault =>
      IO.eprintln s!"error: {fault.message}"
      return 2
  | .ok flags =>
      match Config.resolve flags environment with
      | .error fault =>
          IO.eprintln s!"invalid configuration: {fault.message}"
          return 1
      | .ok config =>
          (Main.settingLines config).forM IO.println
          return 0
