import SensorNet.Lib.Run
import SensorNet.Lib.Slots
import SensorNet.Lib.SlotMap
import SensorNet.Lib.KeyedService
import SensorNet.Lib.LittleEndian
import SensorNet.Lib.PrefixCode
import SensorNet.Lib.Crc32
import SensorNet.Lib.CrcBurst
import SensorNet.Lib.CrcPolynomial
import SensorNet.Lib.JsNumber
import SensorNet.Lib.TypedArray
import SensorNet.Lib.Json
import SensorNet.Lib.JsonSchema
import SensorNet.Lib.JsDate
import SensorNet.Lib.Table
import SensorNet.Lib.Census
import SensorNet.Lib.Snapshot
import SensorNet.Lib.Lineage
import SensorNet.Lib.ReloadedView
import SensorNet.Lib.Watchdog
import SensorNet.Lib.SqlSchema
import SensorNet.Lib.Repository
import SensorNet.Lib.BubbleSort
import SensorNet.Lib.CProgram
import SensorNet.Lib.QuotedText
import SensorNet.Hub.Kernel
import SensorNet.Hub.JobExecutor
import SensorNet.Hub.JobCapacity
import SensorNet.Hub.JobOrder
import SensorNet.Hub.JobPayloads
import SensorNet.Hub.NodeManager
import SensorNet.Hub.NodeMap
import SensorNet.Hub.NodeOrder
import SensorNet.Hub.ConnectedCount
import SensorNet.Hub.ConnectionManager
import SensorNet.Hub.ConnectionSlots
import SensorNet.Hub.ConnectionAccounting
import SensorNet.Hub.ConnectionLosses
import SensorNet.Hub.GattClient
import SensorNet.Hub.LockDiscipline
import SensorNet.Common.BleProtocol
import SensorNet.Common.BleAdvertisement
import SensorNet.Common.AdvertisementFidelity
import SensorNet.Common.IpcProtocol
import SensorNet.Common.IpcChecksum
import SensorNet.Common.IpcWire
import SensorNet.Common.IpcErrors
import SensorNet.Common.IpcStream
import SensorNet.Common.IpcMessageQueue
import SensorNet.Common.IpcQueueLedger
import SensorNet.Common.CorrelationIds
import SensorNet.Common.WireViews
import SensorNet.Hub.GattDiscovery
import SensorNet.Hub.GattLifetimes
import SensorNet.Hub.GattErrors
import SensorNet.Hub.GattContexts
import SensorNet.Hub.NodeIdentity
import SensorNet.Hub.NodeIdHistory
import SensorNet.Hub.Scanner
import SensorNet.Node.Main
import SensorNet.Node.Discoverable
import SensorNet.Node.Sampling
import SensorNet.Node.SensorControl
import SensorNet.Node.Aggregation
import SensorNet.Node.PowerGating
import SensorNet.Cellular.Main
import SensorNet.Cellular.Starvation
import SensorNet.Cellular.Reconnect
import SensorNet.Cellular.Recovery
import SensorNet.Backend.Migrations
import SensorNet.Backend.IotHub
import SensorNet.Backend.TwinConcurrency
import SensorNet.Backend.Jobs
import SensorNet.Backend.TwinEdits
import SensorNet.Backend.TwinLineage
import SensorNet.Backend.TwinSchema
import SensorNet.Backend.JobLifecycle
import SensorNet.Backend.JobIsolation
import SensorNet.Backend.JobResults
import SensorNet.Backend.JobListing
import SensorNet.Backend.JobConcurrency
import SensorNet.Backend.JobTwins
import SensorNet.Backend.JobDelivery
import SensorNet.Backend.JobTimes
import SensorNet.Backend.Creation
import SensorNet.Backend.Retention
import SensorNet.Backend.JobLineage
import SensorNet.Backend.JobService
import SensorNet.Backend.JobStatistics
import SensorNet.Backend.NodeAssignment
import SensorNet.Backend.Auth
import SensorNet.Backend.OrganizationGuard
import SensorNet.Backend.TagQueries
import SensorNet.Web.TopologyPage
import SensorNet.Web.TopologyDialog
import SensorNet.Web.CommissioningWizard
import SensorNet.Web.CommissioningBackend
