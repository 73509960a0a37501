import Droidlogic.Bootenv.Durability
import Droidlogic.Bootenv.Reload
import Droidlogic.Bootenv.ImageBounds
import Droidlogic.Bootenv.Pointers
import Droidlogic.Ts.Section
import Droidlogic.Ts.RoundTrip
import Droidlogic.Ts.Continuity
import Droidlogic.Ts.Pcr
import Droidlogic.Fbc.Frame
import Droidlogic.Fbc.Reply
import Droidlogic.Fbc.Value
import Droidlogic.Fbc.Upgrade
import Droidlogic.Fbc.FileReads
import Droidlogic.Ssm.Isolation
import Droidlogic.Ssm.StoreLoad
import Droidlogic.Ssm.Recovery
import Droidlogic.Config.Reload
import Droidlogic.Screen.Registry
import Droidlogic.Screen.Buffers
import Droidlogic.Screen.Lifetime
import Droidlogic.Screen.CaptureWorker
import Droidlogic.Screen.Convertor
import Droidlogic.Screen.StreamRelay
import Droidlogic.Hdcp.Authentic
import Droidlogic.Hdcp.Freshness
import Droidlogic.Hdcp.TxAuth
import Droidlogic.Hdcp.Readers
import Droidlogic.Hdcp.Rx14Key
import Droidlogic.Hdcp.AuthLoop
import Droidlogic.Pq.HdrStatus
import Droidlogic.Pq.PictureMode
import Droidlogic.Pq.SaturationHue
import Droidlogic.Pq.ColorIntegrity
import Droidlogic.Pq.EyeProtection
import Droidlogic.Pq.FactoryFrame
import Droidlogic.Pq.Noline
import Droidlogic.Pq.Overscan
import Droidlogic.Pq.VgaAdjust
import Droidlogic.Pq.DynamicBackLight
import Droidlogic.Pq.SharpnessMerge
import Droidlogic.Pq.DiRegs
import Droidlogic.Pq.PictureTables
import Droidlogic.Pq.OutputType
import Droidlogic.Display.FrameRate
import Droidlogic.Display.Position
import Droidlogic.Display.OutputMode
import Droidlogic.Display.Dimension
import Droidlogic.Display.FrameRateMatch
import Droidlogic.Display.ColorChoice
import Droidlogic.Display.Capability3d
import Droidlogic.Service.Uevent
import Droidlogic.Service.Callbacks
import Droidlogic.Service.KeyTransport
import Droidlogic.Service.DigManager
import Droidlogic.Cec.Clients
import Droidlogic.Cec.ActiveSource
import Droidlogic.Cec.Frame
import Droidlogic.Cec.Topology
import Droidlogic.Cec.Reactions
import Droidlogic.Cec.WakeUp
import Droidlogic.Cec.Hotplug
import Droidlogic.Cec.Routing
import Droidlogic.Core.GifComposition
import Droidlogic.Core.DaylightSavingTime
import Droidlogic.Image.Crop
import Droidlogic.Screen.Nv21
import Droidlogic.Core.AudioTrace
import Droidlogic.Core.GifBounds
import Droidlogic.Display.FrameworkMode
import Droidlogic.Display.SinkMode
import Droidlogic.Display.SavedMode
import Droidlogic.Display.Zoom
import Droidlogic.Service.Earc
import Droidlogic.Service.Mounts
import Droidlogic.Service.UnifyKey
import Droidlogic.Pq.IntegerList
import Droidlogic.Hdcp.ChecksumPaths
import Droidlogic.Fbc.Crc
import Droidlogic.Fbc.SerialRead
import Droidlogic.Fbc.Acknowledge
import Droidlogic.Hdcp.Sha1Stream
import Droidlogic.Ssm.Lifecycle
import Droidlogic.Keymaster.RoundTrip
import Droidlogic.Display.FilterEdid
import Droidlogic.Pq.LevelsShown
import Droidlogic.Service.SystemControlBinder
import Droidlogic.Screen.SwEncoder
