import FontSubset.Text.Utf8
/-! Environments: names with values, both any bytes. A name may occur again, and then
its last value counts. -/
namespace FontSubset

abbrev Environment := List (Bytes × Bytes)

namespace Environment

def get? (environment : Environment) (name : Bytes) : Option Bytes :=
  (environment.reverse.find? fun entry => entry.1 == name).map (·.2)

/-- Puts a value at a name. The names stay in order if they are, and none comes twice. -/
def put (name value : Bytes) : Environment → Environment
  | [] => [(name, value)]
  | entry :: rest =>
    match compare name entry.1 with
    | .lt => (name, value) :: entry :: rest
    | .eq => (name, value) :: rest
    | .gt => entry :: put name value rest

def toMap (environment : Environment) : Environment :=
  environment.foldl (fun map entry => map.put entry.1 entry.2) []

def restrict (allowed : List String) (environment : Environment) : Environment :=
  toMap (environment.filter fun entry => allowed.any fun name => Text.encode name == entry.1)

def set (environment : Environment) (name value : Bytes) : Environment :=
  environment.filter (fun entry => entry.1 ≠ name) ++ [(name, value)]

def unset (environment : Environment) (name : Bytes) : Environment :=
  environment.filter fun entry => entry.1 ≠ name

end Environment
end FontSubset
