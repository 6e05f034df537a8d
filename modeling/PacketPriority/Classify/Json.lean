import PacketPriority.Classify
import PacketPriority.Rule.Json

/-!
Decisions as JSON objects.
-/

namespace PacketPriority

def SawfDecision.toJson (d : SawfDecision) : Json :=
  .object [
    ("priority", .word d.priority), ("dscp_remark", .word d.dscpRemark),
    ("vlan_pcp_remark", .word d.vlanPcpRemark), ("service_class_id", .word d.serviceClassId),
    ("rule_id", .word d.ruleId)]

def PriorityDecision.toJson (d : PriorityDecision) : Json :=
  .object [("priority", .word d.priority), ("rule_id", .word d.ruleId)]

def Latency.toJson (l : Latency) : Json :=
  .object [
    ("service_interval_dl", .word l.serviceIntervalDl), ("burst_size_dl", .word l.burstSizeDl),
    ("service_interval_ul", .word l.serviceIntervalUl), ("burst_size_ul", .word l.burstSizeUl)]

end PacketPriority
