import NetCalyx.Analytics.Emission
import NetCalyx.Analytics.Stream
import NetCalyx.Bgp.Codec.LabelFraming
import NetCalyx.Bgp.Codec.LenientOpen
import NetCalyx.Bmp.Mirroring
import NetCalyx.Bmp.Subscribers
import NetCalyx.Collector.Sonata
import NetCalyx.Flow.Alignment
import NetCalyx.Flow.CollectorActor
import NetCalyx.Flow.Padding
import NetCalyx.Flow.Usage
import NetCalyx.Netconf.Panics
import NetCalyx.Pcap.TcpSplit
import NetCalyx.Speaker.AdminQueue
import NetCalyx.Speaker.EchoPolicy
import NetCalyx.Speaker.Transitions
import NetCalyx.Speaker.Treatment
import NetCalyx.UdpNotif.Bounds
import NetCalyx.YangPush.Accounting
import NetCalyx.YangPush.Deduplication
import NetCalyx.YangPush.Lookups
