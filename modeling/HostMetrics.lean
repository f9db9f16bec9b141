import HostMetrics.Files.Directory
import HostMetrics.Files.Example
import HostMetrics.Main
import HostMetrics.Proofs.Sequence
import HostMetrics.Proofs.Layout
import HostMetrics.Proofs.Tally
import HostMetrics.Proofs.Connections
import HostMetrics.Proofs.CpuSample
import HostMetrics.Proofs.Binary64
import HostMetrics.Proofs.RecordFields
import HostMetrics.Proofs.MetricTable
import HostMetrics.Proofs.SocketTable
import HostMetrics.Proofs.MeasureFailures
import HostMetrics.Proofs.RegistryPass
import HostMetrics.Proofs.ConfigurationJson
import HostMetrics.Proofs.DistinctLabels
import HostMetrics.Proofs.FieldOrder
import HostMetrics.Proofs.ExportedLines
import HostMetrics.Proofs.CpuNumbers
import HostMetrics.Proofs.SocketRows
import HostMetrics.Proofs.CommandName
import HostMetrics.Proofs.EndpointText
import HostMetrics.Proofs.ConnectionGroups
import HostMetrics.Proofs.MemoryBytes
import HostMetrics.Proofs.ReadingAborts
import HostMetrics.Proofs.ConnectionTables
import HostMetrics.Proofs.InterfaceTable
import HostMetrics.Proofs.DiskTable
import HostMetrics.Proofs.MemoryEntries
import HostMetrics.Proofs.CpuTable
import HostMetrics.Proofs.CpuRecords
import HostMetrics.Proofs.LabelHistory
import HostMetrics.Proofs.LabelJson
import HostMetrics.Proofs.DigestBytes
import HostMetrics.Proofs.PathSpelling
import HostMetrics.Proofs.FileHistory
