import UhfGs.Library.Bits
import UhfGs.Library.Bytes
import UhfGs.Library.CString
import UhfGs.Library.Calendar
import UhfGs.Library.Chunks
import UhfGs.Library.CountOff
import UhfGs.Library.Cyclic
import UhfGs.Library.Descriptors
import UhfGs.Library.Handles
import UhfGs.Library.Ledger
import UhfGs.Library.Numerals
import UhfGs.Library.Ordered
import UhfGs.Library.Packed
import UhfGs.Library.Queues
import UhfGs.Library.Runs
import UhfGs.Library.Stuffing
import UhfGs.Library.BlockHash
import UhfGs.Library.Keystream
import UhfGs.Library.Serial
import UhfGs.Library.SlidingWindow
import UhfGs.Library.TableCrc
import UhfGs.Library.TextLines
import UhfGs.Csp.Types
import UhfGs.Csp.Packet
import UhfGs.Csp.Crc
import UhfGs.Csp.Output
import UhfGs.Csp.Transmit
import UhfGs.Csp.KissRx
import UhfGs.Csp.Conn
import UhfGs.Csp.Connect
import UhfGs.Csp.Buffer
import UhfGs.Csp.ByteOrder
import UhfGs.Csp.KissLine
import UhfGs.Csp.KissNode
import UhfGs.Csp.Rdp
import UhfGs.Csp.RdpMoves
import UhfGs.Csp.RdpStream
import UhfGs.Csp.RdpRefine
import UhfGs.Csp.RdpDelivery
import UhfGs.Csp.RdpSystem
import UhfGs.Csp.Sha1
import UhfGs.Csp.Hmac
import UhfGs.Csp.Xtea
import UhfGs.Csp.Security
import UhfGs.Csp.SecureLine
import UhfGs.Station.McsFile
import UhfGs.Station.SendPacket
import UhfGs.Station.Uplink
import UhfGs.Station.ReceivePacket
import UhfGs.Station.DownlinkClient
import UhfGs.Station.TcpServer
import UhfGs.Station.Survival
import UhfGs.Station.Segmentation
import UhfGs.Station.Requests
import UhfGs.Station.BufferRun
import UhfGs.Station.TaskServer
import UhfGs.Station.Steps
import UhfGs.Station.Frames
import UhfGs.Station.HeaderOrigin
import UhfGs.Station.Ownership
import UhfGs.Station.Tally
import UhfGs.Station.Delivery
import UhfGs.Station.Commands
import UhfGs.Station.Options
import UhfGs.Station.Reports
import UhfGs.Station.Backup
import UhfGs.Station.Timestamp
import UhfGs.Station.Calendar
import UhfGs.Station.ArchiveNames
import UhfGs.Station.Archive
import UhfGs.Station.SelectLoop
import UhfGs.Station.DownlinkRun
import UhfGs.Station.OpenFiles
import UhfGs.Station.Elements
import UhfGs.Station.SatSel
import UhfGs.Station.Checksum
import UhfGs.Station.Extraction
import UhfGs.Station.Itoa
import UhfGs.Clients.Transaction
import UhfGs.Clients.Configs
import UhfGs.Clients.ConfigSet
import UhfGs.Clients.ConfigGet
import UhfGs.Clients.EpsConsole
import UhfGs.Clients.ClientReports
import UhfGs.Clients.Sessions
import UhfGs.Clients.Discipline
import UhfGs.Clients.Listings
import UhfGs.Clients.Requests
import UhfGs.Clients.Position
import UhfGs.Clients.Housekeeping
import UhfGs.Station.HeaderText
import UhfGs.Library.Stores
import UhfGs.Station.Rotator
import UhfGs.Station.UplinkStores
import UhfGs.Station.TleBuffers
import UhfGs.Library.Decimals
import UhfGs.Station.ElementFields
import UhfGs.Clients.Channels
import UhfGs.Clients.Histogram
import UhfGs.Clients.LogDownload
import UhfGs.Clients.PathRequests
import UhfGs.Clients.FieldOrder
