/-!
Contract: what the library reports about its work while it goes on.

Owns:
- the levels of reports, and reports with named values;
- the text of a report.

Does not own: who reads the reports.
-/

namespace RemoteConfig

/-- How much a report matters. -/
inductive LogLevel where
  | debug
  | info
  | warn
deriving DecidableEq, Repr

/-- One report: a message, and named values in a fixed order. -/
structure LogLine where
  level : LogLevel
  message : String
  values : List (String × String)
deriving DecidableEq, Repr

/-- What a text stands for that comes from outside of the library and is not shown. -/
def withheldReason : String := "<reason>"

namespace LogLevel

def name : LogLevel → String
  | debug => "DEBUG"
  | info => "INFO"
  | warn => "WARN"

end LogLevel

namespace LogLine

def debug (message : String) (values : List (String × String)) : LogLine :=
  ⟨.debug, message, values⟩

def info (message : String) (values : List (String × String)) : LogLine :=
  ⟨.info, message, values⟩

def warn (message : String) (values : List (String × String)) : LogLine :=
  ⟨.warn, message, values⟩

/-- The text of a report: level, message, and the values behind bars. -/
def text (line : LogLine) : String :=
  line.level.name ++ " " ++ line.message
    ++ String.join (line.values.map fun value => " | " ++ value.1 ++ "=" ++ value.2)

end LogLine

end RemoteConfig
