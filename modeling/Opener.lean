import Opener.Library.LinkedCells
import Opener.Library.Walk
import Opener.Library.Runs
import Opener.Core.Types
import Opener.Core.ConnectionObject
import Opener.Core.DoublyLinkedList
import Opener.Core.State
import Opener.Core.ConnectionPath
import Opener.Core.ActiveConnections
import Opener.Core.Closing
import Opener.Core.AppConType
import Opener.Core.Opening
import Opener.Core.CommonPacketFormat
import Opener.Core.ConnectionManager
import Opener.Core.Production
import Opener.Core.Stack
import Opener.Metatheory.ConnectionList
import Opener.Metatheory.View
import Opener.Metatheory.Closing
import Opener.Metatheory.Moves
import Opener.Metatheory.Sessions
import Opener.Metatheory.Timeouts
import Opener.Metatheory.Servicing
import Opener.Metatheory.Opening
import Opener.Metatheory.Establishing
import Opener.Metatheory.Requests
import Opener.Metatheory.Transitions
import Opener.Core.SampleApplication
import Opener.Core.TcpReceive
import Opener.Metatheory.Allocation
import Opener.Metatheory.SessionConnections
import Opener.Metatheory.Ownership
import Opener.Metatheory.FailedOpens
import Opener.Metatheory.Masters
import Opener.Metatheory.MulticastInputs
import Opener.Metatheory.SequenceNumbers
import Opener.Library.SlotTable
import Opener.Metatheory.Lifetimes
import Opener.Metatheory.SessionFrame
import Opener.Metatheory.Triads
import Opener.Metatheory.ForwardCloses
import Opener.Metatheory.ConsumedIds
import Opener.Metatheory.Ticks
import Opener.Metatheory.SessionTable
import Opener.Metatheory.Inactivity
import Opener.Metatheory.Class3Sessions
import Opener.Metatheory.Rounds
import Opener.Metatheory.SessionOwners
import Opener.Metatheory.Replies
import Opener.Metatheory.ConnectionPoints
import Opener.Metatheory.OpenReturns
import Opener.Core.NetworkHandler
import Opener.Metatheory.Accepting
import Opener.Metatheory.MulticastParameters
import Opener.Library.LittleEndian
import Opener.Library.SelfDelimiting
import Opener.Library.BitTable
import Opener.Library.PartialRuns
import Opener.Metatheory.CommonPacketFormat
import Opener.Metatheory.PacketGrammar
import Opener.Metatheory.TcpFraming
import Opener.Metatheory.ItemCounts
import Opener.Metatheory.StoredReplies
import Opener.Metatheory.ReplySizes
import Opener.Metatheory.EncapsulationReplies
import Opener.Metatheory.Departures
import Opener.Metatheory.Courses
import Opener.Metatheory.ClosedEvents
import Opener.Metatheory.Listeners
import Opener.Metatheory.TickReturns
import Opener.Metatheory.Supervision
import Opener.Core.PaddedEPath
import Opener.Core.AttributeValues
import Opener.Core.StringI
import Opener.Core.Attributes
import Opener.Core.EthernetLink
import Opener.Metatheory.AttributeValues
import Opener.Metatheory.StringI
import Opener.Metatheory.AttributeAccess
import Opener.Metatheory.AttributeLists
import Opener.Metatheory.PathDecoding
import Opener.Metatheory.PathEncoding
import Opener.Core.DelayedMessages
import Opener.Metatheory.DelayedReplies
import Opener.Core.ConnectionData
import Opener.Metatheory.ConnectionNumbers
import Opener.Metatheory.Shutdown
import Opener.Library.Records
import Opener.Metatheory.ConsumedOrder
import Opener.Metatheory.Residue
import Opener.Metatheory.Conversations
import Opener.Metatheory.AssemblyLengths
import Opener.Metatheory.WireSizes
import Opener.Library.CursorAccounts
import Opener.Metatheory.PathTrace
import Opener.Metatheory.PathAccounting
import Opener.Metatheory.AttributeListSizes
import Opener.Metatheory.AttributeListStatus
import Opener.Metatheory.RequestDelimiting
import Opener.Metatheory.PathReads
import Opener.Metatheory.RequestLengths
import Opener.Metatheory.Channels
import Opener.Metatheory.PacketRates
import Opener.Metatheory.NewConnections
import Opener.Metatheory.InhibitTimes
import Opener.Library.Countdown
import Opener.Metatheory.Triggers
import Opener.Metatheory.Turns
import Opener.Metatheory.TickTurns
import Opener.Metatheory.RequestTimers
import Opener.Metatheory.ListedProperties
import Opener.Metatheory.InhibitTimers
import Opener.Metatheory.Watchdogs
import Opener.Metatheory.Productions
import Opener.Metatheory.CyclicProduction
import Opener.Metatheory.InhibitSpacing
import Opener.Core.Qos
import Opener.Core.TcpIpInterface
import Opener.Core.Assembly
import Opener.Metatheory.ShortData
import Opener.Metatheory.SetNotifications
import Opener.Library.MaskedField
import Opener.Core.Identity
import Opener.Metatheory.DeviceStatus
import Opener.Metatheory.ElectronicKeys
import Opener.Library.PrefixMask
import Opener.Metatheory.NetworkConfigs
import Opener.Core.DomainNames
import Opener.Metatheory.DomainNames
import Opener.Metatheory.NameChecks
import Opener.Library.Assignments
import Opener.Core.Services
import Opener.Metatheory.ServiceDispatch
import Opener.Core.Instances
import Opener.Metatheory.InstanceTables
import Opener.Core.Reception
import Opener.Metatheory.MalformedItems
import Opener.Metatheory.FirstData
import Opener.Core.MessageRouter
import Opener.Core.Registration
import Opener.Metatheory.ObjectServices
import Opener.Metatheory.ReplyServices
import Opener.Metatheory.Registrations
import Opener.Metatheory.NamedReplies
import Opener.Library.LinkedNodes
import Opener.Core.AllocatedList
import Opener.Metatheory.AllocatedLists
import Opener.Metatheory.ConnectionNodes
import Opener.Core.MainLoop
import Opener.Metatheory.MainLoop
import Opener.Metatheory.SavedNodes
import Opener.Metatheory.TickService
import Opener.Metatheory.LoopTurns
import Opener.Core.IoPackets
import Opener.Metatheory.IoPackets
import Opener.Metatheory.Transmission
import Opener.Library.FormattedText
import Opener.Core.NvData
import Opener.Core.ObjectData
import Opener.Core.Startup
import Opener.Metatheory.ApplicationVariables
import Opener.Metatheory.ObjectData
import Opener.Metatheory.ObjectValues
import Opener.Metatheory.AllAttributes
import Opener.Metatheory.ObjectRequests
import Opener.Metatheory.ObjectWrites
import Opener.Metatheory.ObjectRegisters
import Opener.Metatheory.NonVolatile
import Opener.Metatheory.SilentConnections
import Opener.Metatheory.ObjectReplies
