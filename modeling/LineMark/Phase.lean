/-!
The phases of a scan.
-/

set_option autoImplicit false
set_option relaxedAutoImplicit false

namespace LineMark

inductive Phase
  | scanning
  | terminated
  | failed
  deriving DecidableEq, Repr

namespace Phase

def all : List Phase := [scanning, terminated, failed]

def name : Phase → String
  | scanning => "SCANNING"
  | terminated => "TERMINATED"
  | failed => "FAILED"

end Phase

end LineMark
