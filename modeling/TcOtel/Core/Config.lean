import TcOtel.Core.Json
import TcOtel.Lib.Codec

/-!
# The configuration

The structures of `config.rs` with their defaults, and `validate`. A path is a text, as in every
configuration that comes from a file, and `usize` has 64 bits. `to_uppercase` is not modelled: the checks
of ciphers take it as a parameter.
-/

namespace TcOtel.Config

open Coding

/-! ### Checks -/

def result (errors : List String) : Except (List String) Unit := if errors = [] then .ok () else .error errors

def errorsOf : Except (List String) Unit → List String
  | .ok () => []
  | .error errors => errors

def errorIf (wrong : Prop) [Decidable wrong] (message : String) : List String := if wrong then [message] else []

@[simp] theorem result_eq_ok : result errors = .ok () ↔ errors = [] := by
  rw [result]
  split <;> simp [*]

@[simp] theorem errorIf_eq_nil {wrong : Prop} [Decidable wrong] : errorIf wrong message = [] ↔ ¬wrong := by
  rw [errorIf]
  split <;> simp [*]

/-! ### Logging -/

inductive LogFormat where
  | json | text
deriving DecidableEq

structure LoggingConfig where
  logLevel : String := "info"
  format : LogFormat := .json
  outputPath : Option String := none
deriving DecidableEq

/-! ### TLS -/

def defaultMinTlsVersion : String := "TLSv1_2"

def defaultMaxTlsVersion : String := "TLSv1_3"

structure TlsConfig where
  enabled : Bool := false
  certPath : Option String := none
  keyPath : Option String := none
  caCertPath : Option String := none
  requireClientCert : Bool := false
  clientCertPath : Option String := none
  clientKeyPath : Option String := none
  insecureSkipVerify : Bool := false
  minVersion : String := defaultMinTlsVersion
  maxVersion : String := defaultMaxTlsVersion
  ciphers : List String := []
deriving DecidableEq

def weakCipherPatterns : List String := ["DES", "RC4", "RC2", "MD5", "NULL", "EXPORT", "anon", "ADH", "AECDH"]

def validTlsVersions : List String := ["TLSv1_0", "TLSv1_1", "TLSv1_2", "TLSv1_3"]

def minAcceptableTlsVersion : String := "TLSv1_2"

namespace TlsConfig

def tlsVersionOrd (version : String) : Nat :=
  if version = "TLSv1_0" then 0
  else if version = "TLSv1_1" then 1
  else if version = "TLSv1_2" then 2
  else if version = "TLSv1_3" then 3
  else 0

def validateTlsVersion (version : String) : Except String Unit :=
  if version ∈ validTlsVersions then .ok ()
  else .error ("invalid TLS version '" ++ version ++
    "': must be one of [\"TLSv1_0\", \"TLSv1_1\", \"TLSv1_2\", \"TLSv1_3\"]")

def checkMinimumAcceptableVersion (version : String) : Except String Unit :=
  if tlsVersionOrd version < tlsVersionOrd minAcceptableTlsVersion then
    .error ("TLS version '" ++ version ++ "' is below minimum acceptable version (" ++ minAcceptableTlsVersion ++ ")")
  else .ok ()

def validateCipherSuite (toUppercase : String → String) (cipher : String) : Except String Unit :=
  match weakCipherPatterns.find? fun weak => weak.toList <:+: (toUppercase cipher).toList with
  | some weak => .error ("weak cipher suite '" ++ cipher ++ "': contains banned pattern '" ++ weak ++ "'")
  | none => .ok ()

def described (about : String) : Except String Unit → List String
  | .ok () => []
  | .error error => [about ++ error]

def validate (toUppercase : String → String) (self : TlsConfig) : Except (List String) Unit :=
  if self.enabled = false then .ok ()
  else result (
    errorIf (self.insecureSkipVerify = true)
      "insecure_skip_verify=true is not allowed: certificate verification must not be disabled" ++
    errorIf (self.certPath = none) "TLS enabled but cert_path is not set" ++
    errorIf (self.keyPath = none) "TLS enabled but key_path is not set" ++
    errorIf (self.requireClientCert = true ∧ self.caCertPath = none)
      ("require_client_cert=true but ca_cert_path is not set: " ++
        "CA certificate is needed to verify client certificates") ++
    described "min_version: " (validateTlsVersion self.minVersion) ++
    described "max_version: " (validateTlsVersion self.maxVersion) ++
    described "" (checkMinimumAcceptableVersion self.minVersion) ++
    errorIf (tlsVersionOrd self.maxVersion < tlsVersionOrd self.minVersion)
      ("min_version (" ++ self.minVersion ++ ") is greater than max_version (" ++ self.maxVersion ++ ")") ++
    self.ciphers.flatMap fun cipher => described "" (validateCipherSuite toUppercase cipher))

end TlsConfig

/-! ### Transports -/

def defaultTcpHost : String := "0.0.0.0"

def defaultAmsTcpPort : UInt16 := 48898

def defaultMaxConnections : UInt64 := 100

structure TcpTransportConfig where
  host : String := defaultTcpHost
  port : UInt16 := defaultAmsTcpPort
  maxConnections : UInt64 := defaultMaxConnections
deriving DecidableEq

structure MqttTlsConfig where
  caCertPath : String
  clientCertPath : Option String
  clientKeyPath : Option String
  insecureSkipVerify : Bool
deriving DecidableEq

def defaultMqttPrefix : String := "AdsOverMqtt"

def defaultMqttClientId : String := "tc-otel"

structure MqttTransportConfig where
  broker : String := "localhost:1883"
  topicPrefix : String := defaultMqttPrefix
  clientId : String := defaultMqttClientId
  username : Option String := none
  password : Option String := none
  tls : Option MqttTlsConfig := none
deriving DecidableEq

def defaultLocalRouterHost : String := "127.0.0.1"

structure LocalRouterTransportConfig where
  routerHost : String := defaultLocalRouterHost
  routerPort : UInt16 := defaultAmsTcpPort
deriving DecidableEq

inductive TransportConfig where
  | tcp (config : TcpTransportConfig)
  | mqtt (config : MqttTransportConfig)
  | localRouter (config : LocalRouterTransportConfig)
deriving DecidableEq

def TransportConfig.asMqtt : TransportConfig → Option MqttTransportConfig
  | .mqtt config => some config
  | _ => none

/-! ### The receiver -/

def defaultAmsNetId : String := "0.0.0.0.1.1"

def defaultAdsPort : UInt16 := 16150

def defaultIdleTimeoutSecs : UInt64 := 300

def defaultMaxConnectionsPerIp : UInt64 := 10

def defaultRateLimitPerSecPerIp : UInt64 := 10

def defaultKeepaliveIntervalSecs : UInt64 := 60

def defaultSendBufferSize : UInt64 := 1048576

structure ReceiverConfig where
  host : String := "127.0.0.1"
  httpPort : UInt16 := 4318
  grpcPort : UInt16 := 4317
  maxBodySize : UInt64 := 4 * 1024 * 1024
  requestTimeoutSecs : UInt64 := 30
  amsNetId : String := defaultAmsNetId
  amsTcpPort : UInt16 := defaultAmsTcpPort
  adsPort : UInt16 := defaultAdsPort
  maxConnections : UInt64 := defaultMaxConnections
  idleTimeoutSecs : UInt64 := defaultIdleTimeoutSecs
  maxConnectionsPerIp : UInt64 := defaultMaxConnectionsPerIp
  rateLimitPerSecPerIp : UInt64 := defaultRateLimitPerSecPerIp
  keepaliveIntervalSecs : UInt64 := defaultKeepaliveIntervalSecs
  sendBufferSize : UInt64 := defaultSendBufferSize
  httpsOnly : Bool := false
  tls : TlsConfig := {}
  transport : TransportConfig := .tcp {}
deriving DecidableEq

def ReceiverConfig.validate (toUppercase : String → String) (self : ReceiverConfig) : Except (List String) Unit :=
  result (errorsOf (self.tls.validate toUppercase) ++
    errorIf (self.httpsOnly = true ∧ self.tls.enabled = false)
      "https_only=true but TLS is not enabled: enable TLS to enforce HTTPS-only mode")

/-! ### Outputs and export -/

/-- An output. Its settings are all fields of the object beside `Type`. -/
structure OutputConfig where
  outputType : String
  settings : Rest Number "Type"

inductive WireFormat where
  | json | protobuf
deriving DecidableEq

def defaultExportEndpoint : String := "http://victoria-logs:9428/insert/jsonline"

def defaultBatchSize : UInt64 := 2000

def defaultFlushIntervalMs : UInt64 := 1000

def defaultExportTimeoutSecs : UInt64 := 10

def defaultMaxRetries : UInt64 := 3

structure ExportConfig where
  endpoint : String := defaultExportEndpoint
  batchSize : UInt64 := defaultBatchSize
  flushIntervalMs : UInt64 := defaultFlushIntervalMs
  timeoutSecs : UInt64 := defaultExportTimeoutSecs
  maxRetries : UInt64 := defaultMaxRetries
  format : WireFormat := .protobuf
deriving DecidableEq

/-! ### The web UI -/

def defaultWebEnabled : Bool := true

def defaultWebHost : String := "127.0.0.1"

def defaultWebPort : UInt16 := 8080

structure WebConfig where
  enabled : Bool := defaultWebEnabled
  host : String := defaultWebHost
  port : UInt16 := defaultWebPort
deriving DecidableEq

/-! ### Metrics -/

inductive MetricKindConfig where
  | gauge | sum | histogram
deriving DecidableEq

def MetricKindConfig.toMetricKind : MetricKindConfig → MetricKind
  | .gauge => .gauge
  | .sum => .sum
  | .histogram => .histogram

inductive CustomMetricSource where
  | push | poll | notification
deriving DecidableEq

def defaultPollIntervalMs : UInt64 := 1000

structure PollConfig where
  intervalMs : UInt64 := defaultPollIntervalMs
deriving DecidableEq

inductive NotificationTransmissionMode where
  | onChange | cyclic
deriving DecidableEq

def defaultMaxPeriodMs : UInt32 := 10000

def defaultMaxDelayMs : UInt32 := 5000

structure NotificationConfig where
  minPeriodMs : UInt32 := 0
  maxPeriodMs : UInt32 := defaultMaxPeriodMs
  maxDelayMs : UInt32 := defaultMaxDelayMs
  transmissionMode : NotificationTransmissionMode := .onChange
deriving DecidableEq

structure CustomMetricDef where
  symbol : String := ""
  metricName : String := ""
  description : String := ""
  unit : String := ""
  kind : MetricKindConfig := .gauge
  isMonotonic : Bool := false
  source : CustomMetricSource := .push
  amsNetId : Option String := none
  amsPort : Option UInt16 := none
  amsRouterHost : Option String := none
  poll : Option PollConfig := none
  notification : Option NotificationConfig := none
deriving DecidableEq

def defaultCycleTimeEnabled : Bool := true

def defaultCycleTimeWindow : UInt64 := 1000

def defaultMetricsBatchSize : UInt64 := 1000

def defaultMetricsFlushIntervalMs : UInt64 := 5000

structure MetricsConfig where
  cycleTimeEnabled : Bool := defaultCycleTimeEnabled
  cycleTimeWindow : UInt64 := defaultCycleTimeWindow
  customMetrics : List CustomMetricDef := []
  exportEnabled : Bool := false
  exportEndpoint : Option String := none
  exportBatchSize : UInt64 := defaultMetricsBatchSize
  exportFlushIntervalMs : UInt64 := defaultMetricsFlushIntervalMs
  exportFormat : Option WireFormat := none
deriving DecidableEq

/-! ### Traces -/

def defaultTracesBatchSize : UInt64 := 100

def defaultTracesFlushIntervalMs : UInt64 := 1000

structure TracesExportConfig where
  endpoint : Option String := none
  batchSize : UInt64 := defaultTracesBatchSize
  flushIntervalMs : UInt64 := defaultTracesFlushIntervalMs
  format : Option WireFormat := none
deriving DecidableEq

def defaultSpanTtlSecs : UInt64 := 10

def defaultMaxPendingSpans : UInt64 := 1024

structure TracesConfig where
  enabled : Bool := false
  spanTtlSecs : UInt64 := defaultSpanTtlSecs
  maxPendingSpans : UInt64 := defaultMaxPendingSpans
  «export» : TracesExportConfig := {}
deriving DecidableEq

/-! ### Service and diagnostics -/

structure ServiceConfig where
  name : String := "tc-otel"
  displayName : String := "tc-otel - TwinCAT OpenTelemetry Service"
  workerThreads : Option UInt64 := none
  channelCapacity : UInt64 := 50000
  shutdownTimeoutSecs : UInt64 := 30
deriving DecidableEq

def defaultDiagnosticsPollIntervalMs : UInt64 := 1000

def defaultTrue : Bool := true

def defaultDiagnosticsTaskPorts : List UInt16 := [340, 350, 351]

def defaultDiagnosticsRtPort : UInt16 := 200

structure DiagnosticsTargetConfig where
  amsNetId : String
  pollIntervalMs : UInt64
  exceedCounter : Bool
  rtUsage : Bool
  taskPorts : List UInt16
  rtPort : UInt16
  taskNames : TextMap String
deriving DecidableEq

structure DiagnosticsConfig where
  enabled : Bool := false
  targets : List DiagnosticsTargetConfig := []
deriving DecidableEq

/-! ### All settings -/

structure AppSettings where
  logging : LoggingConfig := {}
  receiver : ReceiverConfig := {}
  «export» : ExportConfig := {}
  outputs : List OutputConfig := []
  service : ServiceConfig := {}
  web : WebConfig := {}
  metrics : MetricsConfig := {}
  diagnostics : DiagnosticsConfig := {}
  traces : TracesConfig := {}

namespace AppSettings

def portErrors (field : String) (port : UInt16) : List String :=
  errorIf (¬(1 ≤ port ∧ port ≤ 65535)) (field ++ " " ++ toString port.toNat ++ " out of range [1, 65535]")

def positiveErrors (field : String) (value : UInt64) : List String := errorIf (value = 0) (field ++ " must be > 0")

def transportErrors : TransportConfig → List String
  | .tcp tcp => portErrors "receiver.transport.tcp.port" tcp.port
  | .mqtt _ => []
  | .localRouter lr => portErrors "receiver.transport.local_router.router_port" lr.routerPort

def workerThreadsErrors : Option UInt64 → List String
  | some workerThreads => errorIf (workerThreads = 0) "service.worker_threads must be > 0 if set"
  | none => []

def tracesErrors (traces : TracesConfig) : List String :=
  if traces.enabled = true then
    positiveErrors "traces.span_ttl_secs" traces.spanTtlSecs ++
      positiveErrors "traces.max_pending_spans" traces.maxPendingSpans
  else []

/-- `AppSettings::validate`. The batch size and the flush interval of traces are not among what it
checks. -/
def validate (toUppercase : String → String) (self : AppSettings) : Except (List String) Unit :=
  result (errorsOf (self.receiver.validate toUppercase) ++
    portErrors "receiver.http_port" self.receiver.httpPort ++
    portErrors "receiver.grpc_port" self.receiver.grpcPort ++
    portErrors "receiver.ams_tcp_port" self.receiver.amsTcpPort ++
    portErrors "receiver.ads_port" self.receiver.adsPort ++
    transportErrors self.receiver.transport ++
    portErrors "web.port" self.web.port ++
    positiveErrors "export.batch_size" self.export.batchSize ++
    positiveErrors "export.flush_interval_ms" self.export.flushIntervalMs ++
    positiveErrors "export.timeout_secs" self.export.timeoutSecs ++
    positiveErrors "service.channel_capacity" self.service.channelCapacity ++
    workerThreadsErrors self.service.workerThreads ++
    positiveErrors "metrics.cycle_time_window" self.metrics.cycleTimeWindow ++
    positiveErrors "metrics.export_batch_size" self.metrics.exportBatchSize ++
    positiveErrors "metrics.export_flush_interval_ms" self.metrics.exportFlushIntervalMs ++
    tracesErrors self.traces)

variable {toUppercase : String → String} {settings : AppSettings}

@[simp] theorem positiveErrors_eq_nil : positiveErrors field value = [] ↔ value ≠ 0 :=
  errorIf_eq_nil

/-- What settings that pass the check give to the workers. -/
structure Positive (settings : AppSettings) : Prop where
  batchSize : settings.export.batchSize ≠ 0
  flushIntervalMs : settings.export.flushIntervalMs ≠ 0
  metricsBatchSize : settings.metrics.exportBatchSize ≠ 0
  metricsFlushIntervalMs : settings.metrics.exportFlushIntervalMs ≠ 0

theorem positive_of_validate (valid : settings.validate toUppercase = .ok ()) : settings.Positive := by
  simp only [validate, result_eq_ok, List.append_eq_nil_iff, positiveErrors_eq_nil] at valid
  obtain ⟨⟨⟨⟨⟨⟨⟨⟨⟨_, batchSize⟩, flushIntervalMs⟩, _⟩, _⟩, _⟩, _⟩, metricsBatchSize⟩, metricsFlush⟩, _⟩ := valid
  exact ⟨batchSize, flushIntervalMs, metricsBatchSize, metricsFlush⟩

theorem validate_default (toUppercase : String → String) : validate toUppercase {} = .ok () := by
  have tls : TlsConfig.validate toUppercase {} = .ok () := rfl
  have receiver : ReceiverConfig.validate toUppercase {} = .ok () := by
    rw [ReceiverConfig.validate, tls]
    rfl
  rw [validate, receiver]
  rfl

end AppSettings

end TcOtel.Config
