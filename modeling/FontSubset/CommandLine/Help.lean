import FontSubset.CommandLine.Selection
/-! The help, a line for each option or a paragraph for each. -/
namespace FontSubset.CommandLine

/-- What stands in front of an entry's text: options without a short form keep its place. -/
def Setting.heading : Setting → Markup
  | .root => [.plain ("  " ++ Setting.root.display)]
  | setting =>
    [.plain "      ", .literal setting.option, .plain (" <" ++ setting.placeholder ++ ">")]

def Switch.heading (switch : Switch) : Markup :=
  match switch.short? with
  | some letter =>
    [.plain "  ", .literal ("-" ++ letter), .plain ", ", .literal switch.display]
  | none => [.plain "      ", .literal switch.display]

structure Entry where
  heading : Markup
  about : String
  notes : List String
  choices : List (String × String)

namespace Entry

def environmentNote (environment : Environment) (name : String) : String :=
  "[env: " ++ name ++ "=" ++
    Text.lossy ((environment.get? (Text.encode name)).getD []) ++ "]"

def explained (choices : List (String × Option String)) : List (String × String) :=
  choices.filterMap fun (name, help?) => help?.map fun help => (name, help)

def ofSetting (environment : Environment) (long : Bool) (setting : Setting) : Entry :=
  let explained := if long then explained setting.choices else []
  let names := setting.choices.map (·.1)
  { heading := setting.heading
    about := setting.about
    notes := (setting.variableName?.map (environmentNote environment)).toList ++
      (setting.default?.map fun value => "[default: " ++ value ++ "]").toList ++
      (if names.isEmpty || !explained.isEmpty then []
        else ["[possible values: " ++ ", ".intercalate names ++ "]"])
    choices := explained }

def ofSwitch (long : Bool) (switch : Switch) : Entry :=
  let about := match switch with
    | .noZopfli => "Do not pass --with-zopfli"
    | .dryRun => "List matching fonts without invoking the tool"
    | .strict => "Fail on a missing character list or on any failed invocation"
    | .help => if long then "Print help (see a summary with '-h')"
      else "Print help (see more with '--help')"
    | .version => "Print version"
  ⟨switch.heading, about, [], []⟩

def line (width : Nat) (entry : Entry) : Markup :=
  let column := width + 2
  let text := " ".intercalate (entry.about :: entry.notes)
  entry.heading ++
    [.plain (Text.padded (column - entry.heading.width) "" ++ Text.hanging column text ++ "\n")]

def column : Nat := 10

def indented (text : String) : String := Text.padded column "" ++ Text.hanging column text ++ "\n"

def choiceLines (choices : List (String × String)) : Markup :=
  let width := (choices.map fun (name, _) => name.length).foldr max 0
  choices.flatMap fun (name, help) =>
    [.plain (Text.padded column "" ++ "- "), .literal name,
      .plain (Text.padded (width + 2 - name.length) ":" ++ help ++ "\n")]

def paragraph (entry : Entry) : Markup :=
  let choices := if entry.choices.isEmpty then []
    else .plain ("\n" ++ indented "Possible values:") :: choiceLines entry.choices
  let notes := if entry.notes.isEmpty then []
    else [.plain (String.join (indented "" :: entry.notes.map indented))]
  entry.heading ++ [.plain ("\n" ++ indented entry.about)] ++ choices ++ notes

def lines (entries : List Entry) : Markup :=
  let width := (entries.map fun entry => entry.heading.width).foldr max 0
  entries.flatMap (line width)

def paragraphs (entries : List Entry) : Markup :=
  [Stretch.plain "\n"].intercalate (entries.map paragraph)

end Entry

def optionEntries (environment : Environment) (long : Bool) : List Entry :=
  let setting := Entry.ofSetting environment long
  let switch := Entry.ofSwitch long
  [setting .tool, setting .textFile, setting .flavor, switch .noZopfli, setting .envAllowlist,
    setting .timeoutSecs, switch .dryRun, switch .strict, setting .logFormat, setting .report,
    switch .help, switch .version]

def helpText (environment : Environment) (long : Bool) : Markup :=
  let write := if long then Entry.paragraphs else Entry.lines
  .plain "Subset every .ttf under a directory into web fonts\n\n" :: usage ++
    [.plain "\n\n", .heading "Arguments:", .plain "\n"] ++
    write [Entry.ofSetting environment long .root] ++
    [.plain "\n", .heading "Options:", .plain "\n"] ++ write (optionEntries environment long)

end FontSubset.CommandLine
