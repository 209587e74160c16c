import FontSubset.CommandLine.Paint
import FontSubset.Text.Controls
/-! Texts about the use of the program, with marks that say what their stretches are. Marked
stretches are painted where colours are asked for. -/
namespace FontSubset

/-- A text whose lines after the first are set in by some blanks. -/
def Text.hanging (blanks : Nat) (text : String) : String :=
  String.ofList (text.toList.flatMap fun c =>
    if c = '\n' then '\n' :: List.replicate blanks ' ' else [c])

def Text.padded (width : Nat) (text : String) : String :=
  text ++ String.ofList (List.replicate (width - text.length) ' ')

namespace CommandLine

inductive Stretch
  | plain (text : String)
  | heading (text : String)
  | literal (text : String)
  | alarm (text : String)
  | invalid (text : String)
  | valid (text : String)
  deriving DecidableEq, Repr

namespace Stretch

def text : Stretch → String
  | plain text | heading text | literal text | alarm text | invalid text | valid text => text

def paints : Stretch → List Paint
  | plain _ => []
  | heading _ => [.bold, .underlined]
  | literal _ => [.bold]
  | alarm _ => [.bold, .red]
  | invalid _ => [.yellow]
  | valid _ => [.green]

def painted (stretch : Stretch) : String :=
  match stretch.paints with
  | [] => stretch.text
  | paints =>
    String.ofList (paints.flatMap Paint.start) ++ stretch.text ++ String.ofList Paint.reset

end Stretch

abbrev Markup := List Stretch

namespace Markup

def text (markup : Markup) : String := String.join (markup.map Stretch.text)

def width (markup : Markup) : Nat := markup.text.length

/-- Without colours nothing is left that a terminal would act on, and nothing that was typed can
make it act either. -/
def render (colored : Bool) (markup : Markup) : String :=
  let painted := String.join (markup.map Stretch.painted)
  if colored then painted else Text.withoutControls painted

def separated (separator : String) : List Stretch → Markup
  | [] => []
  | [item] => [item]
  | item :: rest => item :: .plain separator :: separated separator rest

end Markup
end CommandLine
end FontSubset
