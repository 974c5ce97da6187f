import MediaPaths.LogLevel
import MediaPaths.Source.Media

/-!
# The log of a server
-/

namespace MediaPaths

/-- What a server logs. -/
inductive LogRecord where
  /-- All paths to be pulled all the time are active. -/
  | started (paths : Nat)
  /-- No path is active any longer. -/
  | stopped
  /-- Paths were active when the server was given up. -/
  | abandoned (paths : Nat)
  /-- Another configuration is in force. -/
  | replaced (paths : Nat)
  /-- A path is active. -/
  | activated (path entry source : String)
  /-- A path is no longer active. -/
  | deactivated (path reason : String)
  /-- A path is ready. -/
  | ready (path : String) (medias : List Media)
  /-- A path is no longer ready. -/
  | notReady (path : String)
  /-- Other settings apply to a path. -/
  | reloaded (path : String)
  /-- A path could not be made active again. -/
  | restartFailed (path message : String)
  /-- The worker of a supervisor has crashed. -/
  | crashed (entry : String)
  /-- A line about a path from its source or the supervisor of it. -/
  | line (path : String) (level : LogLevel) (message : String)
  deriving DecidableEq, Repr

/-- What is given with a message. -/
inductive LogField where
  /-- A number. -/
  | number (n : Nat)
  /-- A text. -/
  | text (s : String)
  deriving DecidableEq, Repr

namespace LogRecord

/-- How important a record is. -/
def level : LogRecord → LogLevel
  | restartFailed _ _ | crashed _ => .error
  | abandoned _ => .warn
  | replaced _ | reloaded _ => .debug
  | line _ level _ => level
  | _ => .info

/-- The message of a record. -/
def message : LogRecord → String
  | started _ => "Path manager started"
  | stopped => "Path manager stopped"
  | abandoned _ => "Path manager dropped without shutdown"
  | replaced _ => "Configuration replaced"
  | activated _ _ _ => "Path activated"
  | deactivated _ _ => "Path deactivated"
  | ready _ _ => "Path ready"
  | notReady _ => "Path not ready"
  | reloaded _ => "Path configuration reloaded"
  | restartFailed _ _ => "Failed to restart path"
  | crashed _ => "Static source supervisor ended abnormally"
  | line _ _ message => message

/-- The path that a record is about. -/
def path? : LogRecord → Option String
  | activated p _ _ | deactivated p _ | ready p _ | notReady p | reloaded p | restartFailed p _
  | crashed p | line p _ _ => some p
  | started _ | stopped | abandoned _ | replaced _ => none

/-- What else is given with the message. -/
def fields : LogRecord → List (String × LogField)
  | started n | abandoned n | replaced n => [("paths", .number n)]
  | activated _ entry source => [("conf", .text entry), ("source", .text source)]
  | deactivated _ reason => [("reason", .text reason)]
  | ready _ medias => [("tracks", .text (Media.summary medias))]
  | restartFailed _ message => [("error", .text message)]
  | _ => []

end LogRecord

end MediaPaths
