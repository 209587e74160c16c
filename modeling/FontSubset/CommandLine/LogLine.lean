import FontSubset.CommandLine.Option
/-! How an event is written to the log: as a JSON object, on one line, or on several. -/
namespace FontSubset.CommandLine
open Json (Value)

/-- The value of a field without the quotes that text has in JSON. -/
def fieldText : Value → String
  | .text text => text
  | value => value.write

def eventValue (event : Event) : Value :=
  .object [("level", .text event.level.name),
    ("fields", .object (("message", .text event.message) :: event.fields)),
    ("target", .text event.target)]

def LogFormat.line (format : LogFormat) (event : Event) : String :=
  let heading := event.level.name ++ " " ++ event.target ++ ": " ++ event.message
  let fields := event.fields.map fun (name, value) => name ++ "=" ++ fieldText value
  match format with
  | .json => (eventValue event).write ++ "\n"
  | .compact => " ".intercalate (heading :: fields) ++ "\n"
  | .pretty => heading ++ "\n" ++ String.join (fields.map fun field => "    " ++ field ++ "\n")

end FontSubset.CommandLine
