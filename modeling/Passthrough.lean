import Passthrough.Address
import Passthrough.Bringup.Environment
import Passthrough.Bringup.EnvironmentError
import Passthrough.Discovery.DeviceList
import Passthrough.Discovery.DeviceRecord
import Passthrough.Discovery.DeviceTree
import Passthrough.Discovery.HardwareId
import Passthrough.Discovery.Identity
import Passthrough.Discovery.Location
import Passthrough.Discovery.Scan
import Passthrough.Discovery.ScanError
import Passthrough.Driver.BusFunction
import Passthrough.Driver.Calls
import Passthrough.Driver.Device
import Passthrough.Driver.Dispatch
import Passthrough.Driver.DriverError
import Passthrough.Driver.KernelMemory
import Passthrough.Driver.Platform
import Passthrough.Driver.Run
import Passthrough.Failure
import Passthrough.Fault
import Passthrough.Host.Event
import Passthrough.Host.Host
import Passthrough.Host.HostedDriver
import Passthrough.Host.StandIn
import Passthrough.Log
import Passthrough.Pages
import Passthrough.Pci.Address
import Passthrough.Pci.Header
import Passthrough.Pci.Register
import Passthrough.Proofs.Driver.Atomicity
import Passthrough.Proofs.Driver.Clearing
import Passthrough.Proofs.Driver.SingleOwner
import Passthrough.Protocol.ConfigRequest
import Passthrough.Protocol.ControlCode
import Passthrough.Protocol.HardwareInfo
import Passthrough.Protocol.RecordError
import Passthrough.Protocol.Request
import Passthrough.Protocol.Status
import Passthrough.Segments.AddressSpace
import Passthrough.Segments.Arena
import Passthrough.Segments.Bitmap
import Passthrough.Segments.Layout
import Passthrough.Segments.MemConfig
import Passthrough.Segments.Packed
import Passthrough.Segments.Reservation
import Passthrough.Segments.SegmentError
import Passthrough.Segments.SegmentList
import Passthrough.Segments.TableAccess
import Passthrough.Sharing.FileContent
import Passthrough.Sharing.FileStore
import Passthrough.Sharing.Path
import Passthrough.Sharing.RuntimeDir
import Passthrough.Sharing.Session
import Passthrough.Sharing.Settings
import Passthrough.Sharing.SharedConfig
import Passthrough.SystemError
import Passthrough.Text.Digits
import Passthrough.Text.Fields
import Passthrough.Text.Printable
import Passthrough.Text.Quoted
import Passthrough.Wire
import Passthrough.Proofs.Driver.Balance
import Passthrough.Proofs.Driver.Lending
import Passthrough.Proofs.Protocol.Record
import Passthrough.Proofs.Protocol.RoundTrip
import Passthrough.Proofs.Driver.CallerContext
import Passthrough.Proofs.Segments.Contents
import Passthrough.Proofs.Segments.Attainable
import Passthrough.Proofs.Segments.Table
import Passthrough.Proofs.Sharing.Store
import Passthrough.Sharing.Run
import Passthrough.Proofs.Sharing.Marker
import Passthrough.Proofs.Sharing.Opening
import Passthrough.Proofs.Sharing.SingleWriter
import Passthrough.Proofs.Sharing.History
import Passthrough.Proofs.Sharing.Completion
import Passthrough.Proofs.Sharing.Admission
import Passthrough.Proofs.Segments.Paged
import Passthrough.Proofs.Sharing.Translation
import Passthrough.Discovery.Run
import Passthrough.Proofs.Discovery.Channels
import Passthrough.Proofs.Discovery.Visits
import Passthrough.Proofs.Discovery.Backing
import Passthrough.Proofs.Pci.Pairs
import Passthrough.Proofs.Segments.Reserving
import Passthrough.Proofs.Segments.Foreign
import Passthrough.Proofs.Host.ConfigAccess
import Passthrough.Proofs.Discovery.Restored
import Passthrough.Proofs.Sharing.Publication
import Passthrough.Proofs.Bringup.AllOrNothing
import Passthrough.Proofs.Driver.Preparation
import Passthrough.Proofs.Driver.IoRegisters
import Passthrough.Proofs.Driver.Report
import Passthrough.Proofs.Driver.Closing
import Passthrough.Proofs.Driver.OtherFunction
import Passthrough.Proofs.Segments.PartialMap
import Passthrough.Proofs.Segments.Storing
import Passthrough.Proofs.Segments.Lookup
import Passthrough.Proofs.Segments.Accesses
import Passthrough.Proofs.Segments.Reading
import Passthrough.Proofs.Segments.Writing
import Passthrough.Proofs.Segments.Moving
import Passthrough.Proofs.Segments.Refusal
import Passthrough.Proofs.Text.Numbers
import Passthrough.Proofs.Text.Hexadecimal
import Passthrough.Proofs.Discovery.Locations
import Passthrough.Proofs.Discovery.HardwareIds
import Passthrough.Discovery.DeviceSearch
import Passthrough.Proofs.Discovery.Merging
import Passthrough.Proofs.Driver.Renumbering
import Passthrough.Proofs.Discovery.Renumbered
import Passthrough.Proofs.Discovery.HandlesInUse
import Passthrough.Proofs.Discovery.Bystanders
import Passthrough.Proofs.Host.WordReads
import Passthrough.Proofs.Discovery.Counting
import Passthrough.Proofs.Sharing.Places
import Passthrough.Proofs.Text.Decimal
import Passthrough.Proofs.Pci.Names
