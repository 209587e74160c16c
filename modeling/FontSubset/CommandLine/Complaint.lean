import FontSubset.CommandLine.Markup
/-! How a failing program says why: what failed, and what that was caused by. -/
namespace FontSubset.CommandLine

structure Complaint where
  head : String
  causes : List String
  deriving DecidableEq, Repr

namespace Complaint

def numbered (first : Nat) : List String → List String
  | [] => []
  | cause :: rest =>
    ("    " ++ toString first ++ ": " ++ Text.hanging 7 cause ++ "\n") :: numbered (first + 1) rest

def causeLines : List String → List String
  | [] => []
  | [cause] => ["    " ++ Text.hanging 4 cause ++ "\n"]
  | causes => numbered 0 causes

/-- It is taken that no variable asks for a backtrace, which would follow the causes. -/
def text (complaint : Complaint) : String :=
  "Error: " ++ complaint.head ++ "\n" ++
    (if complaint.causes.isEmpty then "" else "\nCaused by:\n") ++
    String.join (causeLines complaint.causes)

end Complaint
end FontSubset.CommandLine
