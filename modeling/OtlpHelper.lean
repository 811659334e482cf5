import OtlpHelper.Basic
import OtlpHelper.Server.Mux
import OtlpHelper.Client.Options
import OtlpHelper.Client.Env
import OtlpHelper.Client.Stdlib
import OtlpHelper.Client.Settings
import OtlpHelper.Client.Effective
import OtlpHelper.Client.Lifecycle
import OtlpHelper.Client.Connections
import OtlpHelper.Client.Concurrency
import OtlpHelper.Client.Headers
import OtlpHelper.Json.Value
import OtlpHelper.Json.Encoding
import OtlpHelper.Json.Convert
import OtlpHelper.Json.Codec
import OtlpHelper.Json.ProtoJson
import OtlpHelper.Json.Float
import OtlpHelper.Json.Trace
import OtlpHelper.Json.RoundTrip
import OtlpHelper.Http
import OtlpHelper.Server.Proxy
import OtlpHelper.Client.Upload
import OtlpHelper.Client.Exchange
import OtlpHelper.Metadata
import OtlpHelper.Transport
import OtlpHelper.Partition.Tree
import OtlpHelper.Partition.Signals
import OtlpHelper.Partition.Buckets
import OtlpHelper.Partition.Time
import OtlpHelper.Protocol
