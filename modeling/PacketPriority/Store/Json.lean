import PacketPriority.Rule.Json
import PacketPriority.Store

/-!
The size of a store as a JSON object.
-/

namespace PacketPriority

def Stats.toJson (s : Stats) : Json :=
  .object [
    ("rules", .word s.rules),
    ("per_type", .array (s.perKind.map fun e => .array [.string e.1.toString, .nat e.2])),
    ("occupied_buckets", .nat s.occupiedBuckets)]

end PacketPriority
