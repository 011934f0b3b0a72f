/-!
The version of this library.
-/

set_option autoImplicit false
set_option relaxedAutoImplicit false

namespace LineMark

def version : String := "0.1.0"

end LineMark
