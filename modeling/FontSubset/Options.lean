import FontSubset.Error
import FontSubset.Font
import FontSubset.Text.Classes
/-! What is asked of the subsetting tool: the web font flavor, the compression
switch, the character list, and the argument vector they make for one font. -/
namespace FontSubset

inductive Flavor
  | woff2
  | woff
  deriving DecidableEq, Repr, Inhabited

namespace Flavor

def name : Flavor → String
  | woff2 => "woff2"
  | woff => "woff"

def all : List Flavor := [woff2, woff]

def parse (text : String) : Except SettingError Flavor :=
  match all.find? fun flavor => Text.lowercase (Text.trim text.toList) == flavor.name.toList with
  | some flavor => .ok flavor
  | none => .error (.unknownFlavor text)

end Flavor

/-- The subsetting executable: a name found on the search path, or a path. -/
structure Tool where
  command : String
  deriving DecidableEq, Repr

namespace Tool

/-- Accepts a command with something in it besides blanks, as it stands. -/
def parse (text : String) : Except SettingError Tool :=
  if text.toList.all Text.isBlank then .error .emptyTool else .ok ⟨text⟩

end Tool

structure Options where
  flavor : Flavor
  withZopfli : Bool
  textFile : Path
  deriving DecidableEq, Repr, Inhabited

namespace Options

def ofTextFile (textFile : Path) : Options := ⟨.woff2, true, textFile⟩

def arguments (options : Options) (font : Font) : List Bytes :=
  font.path.bytes :: Text.encode ("--flavor=" ++ options.flavor.name) ::
    ((if options.withZopfli then [Text.encode "--with-zopfli"] else []) ++
      [Text.encode "--text-file=" ++ options.textFile.bytes])

end Options
end FontSubset
