import SingBox.Rule.Flags
import SingBox.Rule.Merge
import SingBox.Rule.AddressLimit
import SingBox.Route.Delivery
import SingBox.Route.EarlyMatch
import SingBox.DNS.Rejections
import SingBox.DNS.Subnet
import SingBox.DNS.ExchangeRules
import SingBox.DNS.AttemptOptions
import SingBox.DNS.RuleSetUpdates
import SingBox.Route.RuleOptions
import SingBox.DNS.Nesting
import SingBox.Experimental.Flushers
import SingBox.DNS.Lifetimes
import SingBox.Transport.TLS
import SingBox.Transport.UDP
import SingBox.Adapter.DefaultOutbound
import SingBox.Adapter.Dependants
import SingBox.DNS.TransportRoles
import SingBox.Dialer.Direct
import SingBox.Route.CloseHandler
import SingBox.Experimental.FakeIPMetadata
import SingBox.Common.Geosite
import SingBox.Common.AdGuardRoundTrip
import SingBox.Sniff.QUICReassembly
import SingBox.Common.FirstWrite
import SingBox.Service.DomainRoutes
import SingBox.Service.ServerStates
import SingBox.Rule.SetUpdates
import SingBox.Group.Nested
import SingBox.Sniff.Division
import SingBox.Transport.GRPCLite
import SingBox.Transport.WireGuardNAT
import SingBox.Service.SSM
import SingBox.DNS.Checked
import SingBox.Experimental.Buckets
import SingBox.Service.NameList
import SingBox.Transport.RecursiveDial
import SingBox.DNS.RecordTTL
import SingBox.Group.Tolerance
import SingBox.Transport.WebSocketFrame
import SingBox.Common.BadVersion
import SingBox.Transport.TrojanService
import SingBox.Experimental.Outline
import SingBox.DNS.HostsFile
import SingBox.Service.OOMKiller
import SingBox.Dialer.SlowOpen
import SingBox.Route.LeaseFile
import SingBox.Common.ExtensionLoop
import SingBox.Adapter.SavedBinary
import SingBox.Service.Usage
import SingBox.Experimental.ProfileImport
