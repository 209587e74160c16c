/-! Why the system refuses a path or a program, in its own words and numbers. -/
namespace FontSubset.Files

inductive Fault
  | notFound
  | badExecutable
  | permissionDenied
  | exists
  | notADirectory
  | isADirectory
  | nameTooLong
  | tooManyLinks
  | nulInPath
  | nulInArgument
  deriving DecidableEq, Repr

namespace Fault

def text : Fault → String
  | notFound => "No such file or directory"
  | badExecutable => "Exec format error"
  | permissionDenied => "Permission denied"
  | «exists» => "File exists"
  | notADirectory => "Not a directory"
  | isADirectory => "Is a directory"
  | nameTooLong => "File name too long"
  | tooManyLinks => "Too many levels of symbolic links"
  | nulInPath => "file name contained an unexpected NUL byte"
  | nulInArgument => "nul byte found in provided data"

def number? : Fault → Option Nat
  | notFound => some 2
  | badExecutable => some 8
  | permissionDenied => some 13
  | «exists» => some 17
  | notADirectory => some 20
  | isADirectory => some 21
  | nameTooLong => some 36
  | tooManyLinks => some 40
  | nulInPath | nulInArgument => none

def message (fault : Fault) : String :=
  match fault.number? with
  | some number => fault.text ++ " (os error " ++ toString number ++ ")"
  | none => fault.text

end Fault
end FontSubset.Files
