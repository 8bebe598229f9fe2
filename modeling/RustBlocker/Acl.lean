import RustBlocker.IpAddr

/-!
# The access control list

A list of networks in CIDR notation; the empty list allows everyone.  The networks are those of
the `ipnet` crate, of which the list uses the parser and the membership test.

The crate is a parameter, `IpNets`: a type of networks with the two functions.  Nothing is assumed
of them.  What depends on a network is then proved for every crate with this interface; a concrete
one, in which a network has a single address and is written with its full length of bits, is used
where an example needs networks that can be computed with.
-/

namespace RustBlocker

/-- `IpNet`: its `FromStr` and its `contains`.  The parser takes CIDR notation only; an address
without a length of bits is refused by it. -/
structure IpNets (Net : Type) where
  parse : Str → Option Net
  contains : Net → IpAddr → Bool

structure Acl (Net : Type) where
  networks : List Net := []
deriving DecidableEq, Repr

namespace Acl

variable {Net : Type} (nets : IpNets Net)

/-- `Display for AclParseError` -/
def parseError (cidr : Str) : Str := "invalid CIDR: ".toList ++ cidr

/-- `parse`: one bad network rejects the list, and the error names it. -/
def parse (cidrList : Str) : Except Str (Acl Net) :=
  if (Str.trim cidrList).isEmpty then .ok {}
  else do
    let networks ← ((Str.split ',' cidrList).map Str.trim).mapM fun cidr =>
      match nets.parse cidr with
      | some network => Except.ok network
      | none => .error (parseError cidr)
    return { networks }

/-- `is_allowed`: some network has the address, or there is none at all, which is how access is
open before anyone has set a list. -/
def isAllowed (acl : Acl Net) (addr : IpAddr) : Bool :=
  acl.networks.isEmpty || acl.networks.any fun network => nets.contains network addr

end Acl

end RustBlocker
