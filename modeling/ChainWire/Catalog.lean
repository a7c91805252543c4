import ChainWire.Kind
import ChainWire.Version

/-!
# The catalog of each version

Which kinds a version carries, which of them travel with a request id, and how
two peers settle on a version.

- `eth/65` is the base catalog, without request ids.
- `eth/66` puts request ids into requests and responses.
- `eth/67` drops the node data messages.
- `eth/68` adds votes.
-/

namespace ChainWire

namespace Version

def supports (v : Version) : Kind -> Bool
  | .getNodeData | .nodeData => v == eth65 || v == eth66
  | .votes => v == eth68
  | _ => true

/-- Whether a message of kind `k` would travel with a request id. -/
def wraps (v : Version) (k : Kind) : Bool :=
  v.usesRequestIds && k.role != .notification

def row (v : Version) : List (Kind × Bool) :=
  (Kind.all.filter v.supports).map fun k => (k, v.wraps k)

end Version

structure Capabilities where
  offered : List Version
deriving DecidableEq, Repr

namespace Capabilities

/-- The offered versions, oldest first and each once. -/
def versions (c : Capabilities) : List Version :=
  Version.all.filter fun v => c.offered.contains v

def rows (c : Capabilities) : List (Version × List (Kind × Bool)) :=
  c.versions.map fun v => (v, v.row)

def lookup (c : Capabilities) (v : Version) (k : Kind) : Option Bool :=
  if c.offered.contains v && v.supports k then some (v.wraps k) else none

/-- The newest offered version that the other side offers too. -/
def negotiate (c : Capabilities) (remote : List Version) : Option Version :=
  c.versions.reverse.find? fun v => remote.contains v

end Capabilities
end ChainWire
