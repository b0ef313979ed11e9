import FinProto.RoundTrip
import FinProto.Stream
import FinProto.Reencode
import FinProto.SelfDelimiting
import FinProto.Bjse.Trading
import FinProto.LengthField
import FinProto.AppendOnly
import FinProto.ChecksumScope
import FinProto.WriterIndex
import FinProto.Positional
import FinProto.Prefixes
import FinProto.ChecksumRange
import FinProto.Bounds
import FinProto.Equality
import FinProto.FixedWidth
import FinProto.Grammar
import FinProto.Arrivals
import FinProto.Unchecked
import FinProto.SelfTest
import FinProto.Registry
import FinProto.Detection
import FinProto.Recovery
import FinProto.SharedBuffer
import FinProto.Costs
import FinProto.SinglePass
