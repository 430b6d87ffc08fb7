import CubebOss.Stream
import CubebOss.IoRoutine
import CubebOss.Terminal
import CubebOss.Control
import CubebOss.Init
import CubebOss.Lifetime
import CubebOss.Cleanup
import CubebOss.Transfer
import CubebOss.System
import CubebOss.Stop
import CubebOss.Position
import CubebOss.Volume
import CubebOss.Enumerate
import CubebOss.Float
import CubebOss.Convert
import CubebOss.Collection
import CubebOss.Sndstat
import CubebOss.FreeBsd
import CubebOss.Playback
import CubebOss.DeviceArray
import CubebOss.Conversions
import CubebOss.RecordPath
import CubebOss.PlayPath
