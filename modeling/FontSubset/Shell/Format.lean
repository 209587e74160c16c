import FontSubset.Decimal.Fixed
import FontSubset.Shell.Escape
import FontSubset.Shell.Numeral
/-! Formatted output. The format is used again as long as arguments are left. -/
namespace FontSubset.Shell
open Decimal (Binary64)

/-- A width or a number of places: in the format itself, or an argument for a star. -/
inductive Measure
  | given (n : Nat)
  | argument
  deriving DecidableEq, Repr

structure Directive where
  flags : List Char
  width : Nat
  precision : Option Nat
  letter : Char

inductive FormatFault
  | notNumeric (argument : String)
  | leftover (argument : String)
  | outOfRange (argument : String)
  | unknown (directive : String)
  | unfinished
  deriving DecidableEq, Repr

def FormatFault.text : FormatFault → String
  | notNumeric argument => argument ++ ": expected numeric value"
  | leftover argument => argument ++ ": not completely converted"
  | outOfRange argument => argument ++ ": Numerical result out of range"
  | unknown directive => directive ++ ": invalid directive"
  | unfinished => "missing format character"

structure Formatted where
  text : List Char
  arguments : List String
  isDirected : Bool
  faults : List FormatFault
  isEnded : Bool
  isRefused : Bool

def Formatted.start (arguments : List String) : Formatted := ⟨[], arguments, false, [], false, false⟩

/-! ## Numbers in arguments -/

abbrev Reading (α : Type) := α × List FormatFault

def unread (argument : String) (rest : List Char) : List FormatFault :=
  if rest.isEmpty then []
  else if rest.length = argument.length then [.notNumeric argument]
  else [.leftover argument]

def quotedCode? : List Char → Option Nat
  | '\'' :: rest | '"' :: rest => some ((rest.head?.map Char.toNat).getD 0)
  | _ => none

def integerIn (signed : Bool) (argument : String) : Reading Int :=
  match quotedCode? argument.toList, Numeral.signed? Numeral.literal? argument.toList with
  | some code, _ => (code, [])
  | none, none => (0, unread argument argument.toList)
  | none, some (n, rest) =>
    let size : Int := UInt64.size
    if signed then
      if Numeral.isWord n then (n, unread argument rest)
      else (Numeral.clamped n, if rest.isEmpty then [.outOfRange argument] else unread argument rest)
    else if -size < n && n < size then (n % size, unread argument rest)
    else (size - 1, if rest.isEmpty then [.outOfRange argument] else unread argument rest)

inductive Real
  | finite (num den : Nat)
  | infinite
  | nan
  deriving DecidableEq, Repr

def realOf (digits : Nat) (power : Int) : Real :=
  let length : Int := (Nat.toDigits 10 digits).length
  if digits = 0 || power + length < -400 then .finite 0 1
  else if 400 < power + length then .infinite
  else
    let (num, den) := Decimal.timesTen digits 1 power
    match Binary64.ofRatio num den with
    | some x => .finite x.ratio.1 x.ratio.2
    | none => .infinite

def powerAt (chars : List Char) : Int × List Char :=
  match chars with
  | mark :: rest =>
    let sign (rest : List Char) : Int × List Char := match rest with
      | '-' :: rest => (-1, rest)
      | '+' :: rest => (1, rest)
      | rest => (1, rest)
    match mark == 'e' || mark == 'E', Numeral.decimal? (sign rest).2 with
    | true, some (n, after) => ((sign rest).1 * n, after)
    | _, _ => (0, chars)
  | [] => (0, [])

def real? (chars : List Char) : Option (Real × List Char) :=
  let named (name : String) : Bool := name.toList.isPrefixOf (chars.map Char.toLower)
  if named "infinity" then some (.infinite, chars.drop 8)
  else if named "inf" then some (.infinite, chars.drop 3)
  else if named "nan" then some (.nan, chars.drop 3)
  else
    let (whole, rest) := Numeral.digits 10 0 chars
    let (digits, after) := match rest with
      | '.' :: fraction => Numeral.digits 10 whole fraction
      | _ => (whole, rest)
    let places := rest.length - 1 - after.length
    let count := chars.length - rest.length + places
    if count = 0 then none
    else
      let (power, after) := powerAt after
      some (realOf digits (power - places), after)

def realIn (argument : String) : Reading (Bool × Real) :=
  let chars := argument.toList.dropWhile Numeral.isBlank
  let (negative, chars) : Bool × List Char := match chars with
    | '-' :: rest => (true, rest)
    | '+' :: rest => (false, rest)
    | _ => (false, chars)
  match quotedCode? argument.toList, real? chars with
  | some code, _ => ((false, .finite code 1), [])
  | none, none => ((false, .finite 0 1), unread argument argument.toList)
  | none, some (x, rest) =>
    let isNamed := chars.head?.any Char.isAlpha
    ((negative, x), if x = .infinite && !isNamed && rest.isEmpty then [.outOfRange argument]
      else unread argument rest)

namespace Directive

def isFlag (c : Char) : Bool := c ∈ ['-', '+', ' ', '#', '0']

def measure (chars : List Char) : Measure × List Char :=
  match chars with
  | '*' :: rest => (.argument, rest)
  | chars =>
    let (n, rest) := Numeral.digits 10 0 chars
    (.given n, rest)

def resolve (arguments : List String) : Measure → Int × List String
  | .given n => (n, arguments)
  | .argument => ((integerIn true (arguments.headD "")).1, arguments.tail)

def read? (arguments : List String) (chars : List Char) :
    Option (Directive × List String × List Char) :=
  let flags := chars.takeWhile isFlag
  let (width, rest) := measure (chars.dropWhile isFlag)
  let (width, arguments) := resolve arguments width
  let flags := if width < 0 then '-' :: flags else flags
  let (precision, arguments, rest) : Option Nat × List String × List Char := match rest with
    | '.' :: rest =>
      let (precision, rest) := measure rest
      let (precision, arguments) := resolve arguments precision
      (if precision < 0 then none else some precision.toNat, arguments, rest)
    | rest => (none, arguments, rest)
  match rest with
  | letter :: rest => some (⟨flags, width.natAbs, precision, letter⟩, arguments, rest)
  | [] => none

def has (directive : Directive) (flag : Char) : Bool := directive.flags.contains flag

def pad (directive : Directive) (text : List Char) : List Char :=
  let missing := directive.width - text.length
  if directive.has '-' then text ++ List.replicate missing ' '
  else List.replicate missing ' ' ++ text

/-- Digits behind a sign or a mark of their base. Zeros may fill the width in between. -/
def padDigits (directive : Directive) (zeros : Bool) (mark digits : List Char) : List Char :=
  if zeros && directive.has '0' && !directive.has '-' then
    mark ++ List.replicate (directive.width - mark.length - digits.length) '0' ++ digits
  else directive.pad (mark ++ digits)

def sign (directive : Directive) (negative : Bool) : List Char :=
  if negative then ['-'] else if directive.has '+' then ['+']
  else if directive.has ' ' then [' '] else []

def base? (letter : Char) : Option Nat :=
  match letter with
  | 'd' | 'i' | 'u' => some 10
  | 'o' => some 8
  | 'x' | 'X' => some 16
  | _ => none

def isSigned (directive : Directive) : Bool := directive.letter ∈ ['d', 'i']

def isReal (directive : Directive) : Bool := directive.letter ∈ ['f', 'F', 'e', 'E', 'g', 'G']

def isUpper (directive : Directive) : Bool := directive.letter.isUpper

def cased (directive : Directive) (text : List Char) : List Char :=
  if directive.isUpper then text.map Char.toUpper else text

def ofInteger (directive : Directive) (base : Nat) (n : Int) : List Char :=
  let written := Nat.toDigits base n.natAbs
  let digits := List.replicate (directive.precision.getD 0 - written.length) '0' ++ written
  let marked := directive.has '#' && n ≠ 0
  let digits := if marked && base = 8 && digits.head? ≠ some '0' then '0' :: digits else digits
  let mark := if directive.isSigned then directive.sign (n < 0)
    else if marked && base = 16 then ['0', 'x'] else []
  directive.padDigits directive.precision.isNone (directive.cased mark) (directive.cased digits)

def ofReal (directive : Directive) (negative : Bool) (x : Real) : List Char :=
  let places := directive.precision.getD 6
  let mark := directive.sign negative
  match x with
  | .infinite => directive.padDigits false mark (directive.cased ['i', 'n', 'f'])
  | .nan => directive.padDigits false mark (directive.cased ['n', 'a', 'n'])
  | .finite num den =>
    let digits := match directive.letter.toLower with
      | 'f' => Decimal.fixed num den places
      | 'e' => Decimal.inScience num den places
      | _ => Decimal.significant num den places
    directive.padDigits true mark (directive.cased digits)

def cutTo (precision : Option Nat) (text : List Char) : List Char :=
  match precision with
  | some n => text.take n
  | none => text

def apply (directive : Directive) (argument : String) : List Char × List FormatFault × Bool :=
  let chars := argument.toList
  match directive.letter, base? directive.letter with
  | 's', _ => (directive.pad (cutTo directive.precision chars), [], false)
  | 'c', _ => (directive.pad [chars.headD '\x00'], [], false)
  | 'b', _ =>
    let (text, ended) := unescape (chars.length + 1) chars
    (directive.pad (cutTo directive.precision text), [], ended)
  | _, some base =>
    let (n, faults) := integerIn directive.isSigned argument
    (directive.ofInteger base n, faults, false)
  | _, none =>
    let ((negative, x), faults) := realIn argument
    (directive.ofReal negative x, faults, false)

def isKnown (directive : Directive) : Bool :=
  directive.letter ∈ ['s', 'c', 'b'] || (base? directive.letter).isSome || directive.isReal

end Directive

/-- One pass through the format. -/
def formatOnce : Nat → List Char → Formatted → Formatted
  | 0, _, done => done
  | _, [], done => done
  | steps + 1, '\\' :: rest, done =>
    let (meant, rest) := escapeAt rest
    formatOnce steps rest { done with text := done.text ++ meant }
  | steps + 1, '%' :: '%' :: rest, done => formatOnce steps rest { done with text := done.text ++ ['%'] }
  | steps + 1, '%' :: rest, done =>
    match Directive.read? done.arguments rest with
    | none => { done with
        isEnded := true, isRefused := true
        faults := done.faults ++ [.unfinished] }
    | some (directive, arguments, after) =>
      if directive.isKnown then
        let (text, faults, ended) := directive.apply (arguments.headD "")
        let done : Formatted := ⟨done.text ++ text, arguments.tail, true,
          done.faults ++ faults, ended, false⟩
        if ended then done else formatOnce steps after done
      else
        let name := String.ofList ('%' :: rest.take (rest.length - after.length))
        { done with
          isEnded := true, isRefused := true
          faults := done.faults ++ [.unknown name] }
  | steps + 1, c :: rest, done => formatOnce steps rest { done with text := done.text ++ [c] }

def formatAll (format : List Char) : Nat → Formatted → Formatted
  | 0, done => done
  | rounds + 1, done =>
    let next := formatOnce (format.length + 1) format done
    if next.isEnded ∨ next.arguments.isEmpty ∨ !next.isDirected then next
    else formatAll format rounds next

def formatted (format : String) (arguments : List String) : Formatted :=
  formatAll format.toList (arguments.length + 1) (.start arguments)

end FontSubset.Shell
