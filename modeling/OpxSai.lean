import OpxSai.Lib.Heap
import OpxSai.Lib.Index
import OpxSai.Lib.MultiMap
import OpxSai.Lib.Overlay
import OpxSai.Lib.Run
import OpxSai.Lib.SortedInsert
import OpxSai.Lib.Spent
import OpxSai.Lib.Tree
import OpxSai.Lib.WeightedList
import OpxSai.Common.Object
import OpxSai.Common.Outside
import OpxSai.Common.Lock
import OpxSai.Routing.Types
import OpxSai.Routing.State
import OpxSai.Routing.EncapNextHop
import OpxSai.Routing.EncapFrame
import OpxSai.Routing.NextHopGroup
import OpxSai.Routing.NextHop
import OpxSai.Routing.Neighbor
import OpxSai.Routing.Route
import OpxSai.Routing.VirtualRouter
import OpxSai.Routing.RouterInterface
import OpxSai.Routing.System
import OpxSai.Routing.GroupLinks
import OpxSai.Routing.MemberCreate
import OpxSai.Routing.GroupMembership
import OpxSai.Routing.NodeLifetime
import OpxSai.Routing.EncapTunnels
import OpxSai.Routing.NextHopEffect
import OpxSai.Routing.NeighborMac
import OpxSai.Routing.NeighborCommute
import OpxSai.Routing.LagRifMap
import OpxSai.Routing.RouteTrees
import OpxSai.Routing.RefCount
import OpxSai.Routing.RouteHomes
import OpxSai.Routing.RouteAtomic
import OpxSai.Routing.VrRemove
import OpxSai.Routing.RifUnique
import OpxSai.Routing.PortRouting
import OpxSai.SamplePacket.Session
import OpxSai.SamplePacket.PortNodes
import OpxSai.SamplePacket.AclPort
import OpxSai.Acl.Types
import OpxSai.Acl.TableGroup
import OpxSai.Acl.GroupMembers
import OpxSai.Acl.BindList
import OpxSai.Acl.RuleAttr
import OpxSai.Acl.Rule
import OpxSai.Acl.RuleFrame
import OpxSai.Acl.RulePopulate
import OpxSai.Acl.RuleCases
import OpxSai.Acl.RuleOrder
import OpxSai.Acl.RuleSet
import OpxSai.Acl.RulePolicer
import OpxSai.Acl.RuleUndo
import OpxSai.Acl.RuleStored
import OpxSai.Acl.RuleAdd
import OpxSai.Acl.Table
import OpxSai.Acl.TablePriority
import OpxSai.Acl.TableGroupIds
import OpxSai.Acl.RuleTables
import OpxSai.Acl.CounterGet
import OpxSai.Switching.Stp
import OpxSai.Switching.Vlan
import OpxSai.Switching.StpPort
import OpxSai.Switching.StpPortTrees
import OpxSai.Switching.StpPortIds
import OpxSai.Switching.VlanStp
import OpxSai.Switching.VlanCreate
import OpxSai.Switching.Lag
import OpxSai.Switching.Locks
import OpxSai.Switching.LagCache
import OpxSai.Routing.LagRifOrder
import OpxSai.Switching.Fdb
import OpxSai.Switching.FdbCache
import OpxSai.Switching.FdbFlush
import OpxSai.Bridge.Bridge
import OpxSai.Bridge.BridgeBooks
import OpxSai.Bridge.TunnelPorts
import OpxSai.Bridge.BridgeExact
import OpxSai.Bridge.BridgeInit
import OpxSai.Switching.L2mc
import OpxSai.Switching.L2mcEntries
import OpxSai.Switching.L2mcMembers
import OpxSai.Qos.Types
import OpxSai.Qos.Wred
import OpxSai.Qos.WredEcn
import OpxSai.Qos.WredUpdate
import OpxSai.Qos.Buffer
import OpxSai.Qos.BufferCases
import OpxSai.Qos.PoolShared
import OpxSai.Qos.BufferLists
import OpxSai.Qos.BufferUsers
import OpxSai.Qos.BufferPools
import OpxSai.Qos.BufferNeeds
import OpxSai.Qos.BufferLinks
import OpxSai.Qos.ProfileSet
import OpxSai.Qos.UserWrites
import OpxSai.Qos.BufferLock
import OpxSai.Qos.BufferFit
import OpxSai.Qos.BufferRecalc
import OpxSai.Qos.BufferSize
import OpxSai.Qos.Map
import OpxSai.Qos.MapSet
import OpxSai.Qos.MapPorts
import OpxSai.Qos.MapQueues
import OpxSai.Qos.Sched
import OpxSai.Qos.SchedUpdate
import OpxSai.Qos.Queue
import OpxSai.Qos.SchedGroup
import OpxSai.Lib.Fibres
import OpxSai.Lib.Forest
import OpxSai.Lib.Slots
import OpxSai.Qos.QueueFrame
import OpxSai.Qos.SchedForest
import OpxSai.Qos.SchedRemove
import OpxSai.Qos.SchedCreate
import OpxSai.Qos.SchedParents
import OpxSai.Qos.Policer
import OpxSai.Qos.PortConfigs
import OpxSai.Qos.PortRestore
import OpxSai.Qos.Hierarchy
import OpxSai.Qos.QosPort
import OpxSai.Qos.MapBindings
import OpxSai.Lib.LockOrder
import OpxSai.Bridge.ModuleLocks
import OpxSai.Bridge.PortLocks
import OpxSai.Tunnel.Tunnel
import OpxSai.Tunnel.TunnelFrame
import OpxSai.Tunnel.TunnelMap
import OpxSai.Tunnel.MapCounts
import OpxSai.Tunnel.MapDeps
import OpxSai.Tunnel.MapUse
import OpxSai.Tunnel.MapLinks
import OpxSai.Tunnel.MapLinkRuns
import OpxSai.Tunnel.TunnelTerm
import OpxSai.Tunnel.EncapOwners
import OpxSai.Tunnel.EncapRefs
import OpxSai.Tunnel.TermCases
import OpxSai.Tunnel.TunnelExact
import OpxSai.Tunnel.TermTunnels
import OpxSai.Tunnel.TermExact
import OpxSai.Tunnel.EncapLife
import OpxSai.Hash.Hash
import OpxSai.Hash.HashAgree
import OpxSai.Hash.HashIds
import OpxSai.Udf.Udf
import OpxSai.Udf.UdfCases
import OpxSai.Udf.UdfLists
import OpxSai.Udf.HashGroups
import OpxSai.Mirroring.Mirror
import OpxSai.Mirroring.MirrorLocks
import OpxSai.Switchinfra.Switch
import OpxSai.Switchinfra.Profile
import OpxSai.Routing.GroupAdd
import OpxSai.Routing.MemberGet
import OpxSai.Routing.NeighborPort
import OpxSai.Routing.AttrOrder
import OpxSai.Qos.ObjProfile
