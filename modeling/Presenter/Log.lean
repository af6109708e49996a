/-!
# Log — events as data, one line each

The library reports what it decided as `Event`s: a level, the component that logged, a message
and named fields. Nothing is printed here; a caller collects the events and renders each with
`Event.line`: the level right-aligned to five characters, the component's path, the message, and
every field as ` name=value`. A string value stands in quotes, every other value as its text.

A value shown as its text may hold line breaks of its own, so one event may fill several lines
of output; `readLines` cuts written lines the way a reader of the output does.
-/

namespace Presenter

namespace Log

/-- How much an event matters, from the finest to the most severe. -/
inductive Level where
  | trace
  | debug
  | info
  | warn
  | error
  deriving DecidableEq, Repr

/-- The level as a line shows it, right-aligned to five characters. -/
def Level.label : Level → String
  | .trace => "TRACE"
  | .debug => "DEBUG"
  | .info => " INFO"
  | .warn => " WARN"
  | .error => "ERROR"

/-- The level's name. -/
def Level.name : Level → String
  | .trace => "TRACE"
  | .debug => "DEBUG"
  | .info => "INFO"
  | .warn => "WARN"
  | .error => "ERROR"

/-- The level's severity, from 0 for trace to 4 for error. -/
def Level.rank : Level → Nat
  | .trace => 0
  | .debug => 1
  | .info => 2
  | .warn => 3
  | .error => 4

/-- The parts of the library that log. -/
inductive Component where
  | coordinator
  | compositor
  | raster
  | surface
  | frameBuffer
  | control
  | privilege
  deriving DecidableEq, Repr

/-- The component's module path, the target a line names. -/
def Component.path : Component → String
  | .coordinator => "snow_render::coordinator"
  | .compositor => "snow_render::compositor"
  | .raster => "snow_render::raster"
  | .surface => "snow_render::surface"
  | .frameBuffer => "snow_render::frame_buffer"
  | .control => "snow_render::control"
  | .privilege => "snow_render::privilege"

/-- A field's value: text shown as it is, a string shown in quotes, a number or a flag. -/
inductive Value where
  | text (s : String)
  | str (s : String)
  | num (n : Int)
  | flag (b : Bool)
  deriving DecidableEq, Repr

/-- A character of a quoted string: quote, backslash and line breaks are escaped. -/
def escapeChar (c : Char) : String :=
  if c = '"' then "\\\""
  else if c = '\\' then "\\\\"
  else if c = '\n' then "\\n"
  else if c = '\r' then "\\r"
  else if c = '\t' then "\\t"
  else c.toString

def quote (s : String) : String :=
  "\"" ++ String.join (s.toList.map escapeChar) ++ "\""

def Value.render : Value → String
  | .text s => s
  | .str s => quote s
  | .num n => toString n
  | .flag b => toString b

/-- A named field of an event. -/
structure Field where
  name : String
  value : Value
  deriving DecidableEq, Repr

/-- One logged event. -/
structure Event where
  level : Level
  component : Component
  message : String
  fields : List Field := []
  deriving DecidableEq, Repr

def Event.body (e : Event) : String :=
  e.component.path ++ ": " ++ e.message ++
    String.join (e.fields.map fun f => " " ++ f.name ++ "=" ++ f.value.render)

def Event.line (e : Event) : String :=
  e.level.label ++ " " ++ e.body

def Event.plainLine (e : Event) : String :=
  e.level.name ++ " " ++ e.body

def dropReturn (s : String) : String :=
  if s.back = '\r' then String.ofList s.toList.dropLast else s

def readLines (written : List String) : List String :=
  written.flatMap fun w => (w.splitOn "\n").map dropReturn

end Log

end Presenter
