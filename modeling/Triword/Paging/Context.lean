import Triword.Address
import Triword.Eflags

/-!
What an access to memory is for, on whose behalf it happens, and the page tables that it goes through.
-/

namespace Triword

inductive Access where
  | read
  | write
  | execute
  deriving DecidableEq

namespace Access

def name : Access → String
  | read => "Read"
  | write => "Write"
  | execute => "Execute"

end Access

inductive PageTables where
  | single (table : PhysicalAddress)
  /-- The guest table gives the address that the host table then maps. -/
  | nested (guest host : PhysicalAddress)
  deriving DecidableEq

structure AccessContext where
  privilege : Privilege
  access : Access
  tables : PageTables
  deriving DecidableEq

end Triword
