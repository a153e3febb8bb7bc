import UnassumingBridge.Support.Bitmap
import UnassumingBridge.Support.Logged
import UnassumingBridge.Support.Machine
import UnassumingBridge.Support.Table
import UnassumingBridge.Support.Ownership
import UnassumingBridge.Kernel.Private
import UnassumingBridge.Kernel.Skb
import UnassumingBridge.Kernel.Vlan
import UnassumingBridge.Kernel.Fdb
import UnassumingBridge.Kernel.Forward
import UnassumingBridge.Kernel.Buffers
import UnassumingBridge.Kernel.Port
import UnassumingBridge.Kernel.Dev
import UnassumingBridge.Kernel.Netlink
import UnassumingBridge.Kernel.System
import UnassumingBridge.Kernel.Genl
import UnassumingBridge.Kernel.Network
import UnassumingBridge.Effects.Vlan
import UnassumingBridge.Effects.Forward
import UnassumingBridge.Effects.Port
import UnassumingBridge.Effects.Step
import UnassumingBridge.Effects.Fresh
import UnassumingBridge.Effects.Genl
import UnassumingBridge.Effects.Network
import UnassumingBridge.Invariants.Registry
import UnassumingBridge.Invariants.Ports
import UnassumingBridge.Invariants.Cleanup
import UnassumingBridge.Invariants.Membership
import UnassumingBridge.Invariants.Pvid
import UnassumingBridge.Invariants.VlanMap
import UnassumingBridge.Effects.Fdb
import UnassumingBridge.Invariants.Entries
import UnassumingBridge.DataPath.Rejected
import UnassumingBridge.Effects.Delivery
import UnassumingBridge.DataPath.Delivery
import UnassumingBridge.DataPath.Tagging
import UnassumingBridge.DataPath.History
import UnassumingBridge.Invariants.HostVlan
import UnassumingBridge.DataPath.Buffers
import UnassumingBridge.Effects.Apart
import UnassumingBridge.Support.Purge
import UnassumingBridge.DataPath.Isolation
import UnassumingBridge.Network.Requests
import UnassumingBridge.Network.References
import UnassumingBridge.Network.Senders
import UnassumingBridge.Network.Enslavement
import UnassumingBridge.Kernel.Teardown
import UnassumingBridge.Effects.Nodes
import UnassumingBridge.Effects.Teardown
import UnassumingBridge.DataPath.Teardown
import UnassumingBridge.DataPath.Transit
import UnassumingBridge.Support.Getopt
import UnassumingBridge.Support.Numeral
import UnassumingBridge.Tool.Main
import UnassumingBridge.CommandLine.Help
import UnassumingBridge.CommandLine.PortSet
import UnassumingBridge.Invariants.FailedAdd
import UnassumingBridge.Invariants.Modes
import UnassumingBridge.DataPath.Classification
import UnassumingBridge.DataPath.Flush
import UnassumingBridge.DataPath.Database
import UnassumingBridge.DataPath.Ageing
import UnassumingBridge.DataPath.ShortFrames
import UnassumingBridge.DataPath.Transparency
import UnassumingBridge.DataPath.Moving
import UnassumingBridge.DataPath.Reconfiguration
import UnassumingBridge.Support.Assignments
import UnassumingBridge.CommandLine.Family
import UnassumingBridge.CommandLine.Options
import UnassumingBridge.CommandLine.Dispatch
import UnassumingBridge.CommandLine.VlanId
import UnassumingBridge.CommandLine.Learning
import UnassumingBridge.CommandLine.Rejection
import UnassumingBridge.Invariants.Order
import UnassumingBridge.Support.LearningSwitch
import UnassumingBridge.Support.Refinement
import UnassumingBridge.DataPath.Sightings
import UnassumingBridge.DataPath.Picture
import UnassumingBridge.DataPath.Switch
import UnassumingBridge.DataPath.Conversation
import UnassumingBridge.Effects.Counts
import UnassumingBridge.Network.Separation
import UnassumingBridge.Network.Orderly
import UnassumingBridge.Kernel.Grace
import UnassumingBridge.Support.Rcu
import UnassumingBridge.Effects.Grace
import UnassumingBridge.DataPath.Grace
import UnassumingBridge.CommandLine.Status
import UnassumingBridge.CommandLine.VlanCommands
import UnassumingBridge.Invariants.Headroom
import UnassumingBridge.Kernel.Cpus
import UnassumingBridge.Effects.Cpus
import UnassumingBridge.DataPath.Linearization
