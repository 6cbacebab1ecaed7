import SDCardFs.Driver.Bounds
import SDCardFs.Driver.Response

set_option autoImplicit false

namespace SDCardFs.Driver

section

variable (card : SDCard) (addr size : UInt64)

variable {card addr size}

end

end SDCardFs.Driver
