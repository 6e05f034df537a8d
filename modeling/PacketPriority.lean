import PacketPriority.Main
import PacketPriority.Proofs.Store.Reading
import PacketPriority.Proofs.Store.Listing
import PacketPriority.Proofs.Store.Ranking
import PacketPriority.Proofs.Store.Rounds
import PacketPriority.Proofs.Table.Run
import PacketPriority.Proofs.Ledger
import PacketPriority.Proofs.Ledger.Step
import PacketPriority.Proofs.Ledger.Batch
import PacketPriority.Proofs.Table.Soundness
import PacketPriority.Proofs.Classify.FirstMatch
import PacketPriority.Proofs.Table.Agreement
import PacketPriority.Proofs.Table.Refusal
import PacketPriority.Proofs.Observer.Conduct
import PacketPriority.Proofs.Observer.Isolation
import PacketPriority.Proofs.Observer.Registration
import PacketPriority.Proofs.Observer.Replay
import PacketPriority.Proofs.Observer.Audience
import PacketPriority.Proofs.Meter.Totals
import PacketPriority.Proofs.Meter.Balance
import PacketPriority.Proofs.Table.LiveDump
import PacketPriority.Proofs.Table.Paging
import PacketPriority.Proofs.Table.Resuming
import PacketPriority.Proofs.Rule.WellFormed
import PacketPriority.Proofs.Rule.Slots
import PacketPriority.Proofs.RuleFile.FlowEntry
import PacketPriority.Proofs.RuleFile.MeshEntry
import PacketPriority.Proofs.RuleFile.Parsing
import PacketPriority.Proofs.RuleFile.Decision
import PacketPriority.Proofs.CommandLine.Validation
import PacketPriority.Proofs.Classify.Hits
import PacketPriority.Proofs.Classify.Independence
import PacketPriority.Proofs.Table.AddOrder
import PacketPriority.Proofs.Table.Reloading
import PacketPriority.Proofs.Table.Feeding
import PacketPriority.Proofs.RuleFile.WellFormed
import PacketPriority.Proofs.Rule.Overtaken
import PacketPriority.Proofs.Rule.Masking
import PacketPriority.Proofs.Rule.Canonical
import PacketPriority.Proofs.RuleFile.SpiPattern
import PacketPriority.Proofs.Matching.Narrowing
import PacketPriority.Proofs.Matching.Reversal
import PacketPriority.Proofs.Matching.Reads
import PacketPriority.Proofs.Table.Effect
import PacketPriority.Proofs.Text.Numerals
import PacketPriority.Proofs.Settings.Layers
import PacketPriority.Proofs.Settings.Loading
import PacketPriority.Proofs.CommandLine.Reading
import PacketPriority.Proofs.CommandLine.MeshPriority
import PacketPriority.Proofs.Ledger.View
import PacketPriority.Proofs.RuleFile.Latency
import PacketPriority.Proofs.Address.Spelling
import PacketPriority.Proofs.Address.Ipv6Text
import PacketPriority.Proofs.Packet.RoundTrip
