import PlanGraph.Summary
import PlanGraph.Text.Integer
import PlanGraph.Text.LetterCase
import PlanGraph.Text.Quoted

/-!
# Settings

The settings of a tool server come from its environment, each from a variable of its own with a
default. A server can be launched when its settings are well formed, its log level is a known one
and its transport is available.
-/

namespace PlanGraph

/-! ## Settings -/

/-- The settings of a tool server. -/
structure Settings where
  /-- The name of the log level, in capital letters. -/
  logLevel : String
  /-- Positions are left to the layout unless a request says otherwise. -/
  autoLayout : Bool
  /-- How long the previews of prompts are. -/
  promptChars : Int
  /-- The name of the transport, in small letters. -/
  transport : String
deriving DecidableEq

/-- Why settings are not well formed. -/
inductive SettingsFault where
  /-- A text that should be an integer is none. -/
  | notInteger (text : String)
  /-- An integer has too many digits. -/
  | oversizedInteger (digits : Nat)
deriving DecidableEq

/-- What is said about settings that are not well formed. The text at fault is shown in quotes, up
to two hundred characters of it. -/
def SettingsFault.message : SettingsFault → String
  | notInteger text =>
    "invalid literal for int() with base 10: " ++
      String.ofList ((Text.quoted text.toList).take 200)
  | oversizedInteger digits => Text.oversizedIntegerMessage digits

/-- An environment: the value of each variable that is set. -/
abbrev Environment := String → Option String

namespace Settings

/-- The settings of an empty environment. -/
def standard : Settings := ⟨"WARNING", false, defaultPromptChars, "stdio"⟩

/-- The variable of the log level. -/
def logLevelVariable : String := "CANVAS_PLANNER_LOG_LEVEL"

/-- The variable of the automatic layout. -/
def autoLayoutVariable : String := "CANVAS_PLANNER_AUTO_LAYOUT"

/-- The variable of the length of previews. -/
def promptCharsVariable : String := "CANVAS_PLANNER_SUMMARY_PROMPT_CHARS"

/-- The variable of the transport. -/
def transportVariable : String := "MCP_TRANSPORT"

/-- The variables that are read. -/
def variableNames : List String :=
  [logLevelVariable, autoLayoutVariable, promptCharsVariable, transportVariable]

/-- The text without blanks at either end, in small letters. -/
def plainName (text : String) : String :=
  String.ofList (Text.smalls (Text.trim text.toList))

/-- The names that switch something on. -/
def onNames : List String := ["1", "true", "yes", "on"]

/-- An integer, or why a text is none. -/
def integer (text : String) : Except SettingsFault Int :=
  match Text.readInteger text.toList with
  | .ok n => .ok n
  | .error .malformed => .error (.notInteger text)
  | .error (.oversized digits) => .error (.oversizedInteger digits)

/-- The settings of an environment. -/
def ofEnvironment (environment : Environment) : Except SettingsFault Settings := do
  let promptChars ← match environment promptCharsVariable with
    | some text => integer text
    | none => pure standard.promptChars
  pure {
    logLevel := match environment logLevelVariable with
      | some text => String.ofList (Text.capitals text.toList)
      | none => standard.logLevel
    autoLayout := match environment autoLayoutVariable with
      | some text => onNames.contains (plainName text)
      | none => standard.autoLayout
    promptChars
    transport := match environment transportVariable with
      | some text => plainName text
      | none => standard.transport }

end Settings

/-! ## Launching -/

/-- Why a server cannot be launched. -/
inductive LaunchFault where
  /-- The settings are not well formed. -/
  | settings (fault : SettingsFault)
  /-- No log level has this name. -/
  | unknownLevel (name : String)
  /-- The transport is not available. -/
  | unavailableTransport
deriving DecidableEq

/-- What is said about a server that cannot be launched. -/
def LaunchFault.message : LaunchFault → String
  | settings fault => fault.message
  | unknownLevel name => "Unknown level: " ++ Text.quote name
  | unavailableTransport => "SSE transport not yet wired, use stdio"

namespace Settings

/-- The names of the log levels. -/
def knownLevels : List String :=
  ["CRITICAL", "FATAL", "ERROR", "WARN", "WARNING", "INFO", "DEBUG", "NOTSET"]

/-- The transport that is not available. -/
def unavailableTransport : String := "sse"

/-- The settings to launch a server with. -/
def forLaunch (environment : Environment) : Except LaunchFault Settings := do
  let settings ← (ofEnvironment environment).mapError LaunchFault.settings
  if !knownLevels.contains settings.logLevel then throw (.unknownLevel settings.logLevel)
  else if settings.transport = unavailableTransport then throw .unavailableTransport
  else pure settings

end Settings

end PlanGraph
