import TcOtel.Core.Config

/-!
# The configuration as JSON

How `serde` reads and writes the settings, `to_masked_json`, by which the web UI shows them without the
secrets of the MQTT transport, and `merge_secrets_from`, by which it takes them back. Masking changes the
JSON and not the settings. It is shown to give the JSON of other settings (`toMaskedJson_eq`), so that the
laws of the codecs apply to it.
-/

namespace TcOtel.Config

open Coding Coding.Fields Fields.Updates

/-! ### Numbers -/

def u64 : Codec Number UInt64 := .number .posInt Number.asU64 fun _ => rfl

def u32 : Codec Number UInt32 :=
  .number (fun n => .posInt n.toUInt64)
    (fun number => number.asU64.bind fun n => if n.toNat < 2 ^ 32 then some n.toUInt32 else none)
    (fun n => by simp [Number.asU64, n.toNat_lt])

def u16 : Codec Number UInt16 :=
  .number (fun n => .posInt n.toUInt64)
    (fun number => number.asU64.bind fun n => if n.toNat < 2 ^ 16 then some n.toUInt16 else none)
    (fun n => by simp [Number.asU64, n.toNat_lt])

def text : Codec Number String := .string

def flag : Codec Number Bool := .bool

def optionalText : Codec Number (Option String) := text.option nofun

/-! ### Names of variants -/

def LogFormat.name : LogFormat → String
  | .json => "json"
  | .text => "text"

def WireFormat.name : WireFormat → String
  | .json => "json"
  | .protobuf => "protobuf"

def MetricKindConfig.name : MetricKindConfig → String
  | .gauge => "gauge"
  | .sum => "sum"
  | .histogram => "histogram"

def CustomMetricSource.name : CustomMetricSource → String
  | .push => "push"
  | .poll => "poll"
  | .notification => "notification"

def NotificationTransmissionMode.name : NotificationTransmissionMode → String
  | .onChange => "on_change"
  | .cyclic => "cyclic"

def logFormat : Codec Number LogFormat :=
  .names [.json, .text] LogFormat.name (by rintro ⟨⟩ <;> decide) (by rintro ⟨⟩ ⟨⟩ <;> decide)

def wireFormat : Codec Number WireFormat :=
  .names [.json, .protobuf] WireFormat.name (by rintro ⟨⟩ <;> decide) (by rintro ⟨⟩ ⟨⟩ <;> decide)

def metricKind : Codec Number MetricKindConfig :=
  .names [.gauge, .sum, .histogram] MetricKindConfig.name (by rintro ⟨⟩ <;> decide) (by rintro ⟨⟩ ⟨⟩ <;> decide)

def customMetricSource : Codec Number CustomMetricSource :=
  .names [.push, .poll, .notification] CustomMetricSource.name (by rintro ⟨⟩ <;> decide)
    (by rintro ⟨⟩ ⟨⟩ <;> decide)

def transmissionMode : Codec Number NotificationTransmissionMode :=
  .names [.onChange, .cyclic] NotificationTransmissionMode.name (by rintro ⟨⟩ <;> decide)
    (by rintro ⟨⟩ ⟨⟩ <;> decide)

/-! ### Logging -/

def loggingFields : Fields Number LoggingConfig :=
  ((field "log_level" text .error).and <| (field "format" logFormat .error).and <|
    field "output_path" optionalText .optional).map
    (fun (logLevel, format, outputPath) => ⟨logLevel, format, outputPath⟩)
    (fun c => (c.logLevel, c.format, c.outputPath)) fun _ => rfl

def logging : Codec Number LoggingConfig := loggingFields.record (by decide)

/-! ### The receiver -/

def tlsFields : Fields Number TlsConfig :=
  ((field "enabled" flag (.default false)).and <|
    (field "cert_path" optionalText (.default none)).and <|
    (field "key_path" optionalText (.default none)).and <|
    (field "ca_cert_path" optionalText (.default none)).and <|
    (field "require_client_cert" flag (.default false)).and <|
    (field "client_cert_path" optionalText (.default none)).and <|
    (field "client_key_path" optionalText (.default none)).and <|
    (field "insecure_skip_verify" flag (.default false)).and <|
    (field "min_version" text (.default defaultMinTlsVersion)).and <|
    (field "max_version" text (.default defaultMaxTlsVersion)).and <|
    field "ciphers" text.list (.default [])).map
    (fun (enabled, certPath, keyPath, caCertPath, requireClientCert, clientCertPath, clientKeyPath,
        insecureSkipVerify, minVersion, maxVersion, ciphers) =>
      ⟨enabled, certPath, keyPath, caCertPath, requireClientCert, clientCertPath, clientKeyPath,
        insecureSkipVerify, minVersion, maxVersion, ciphers⟩)
    (fun c => (c.enabled, c.certPath, c.keyPath, c.caCertPath, c.requireClientCert, c.clientCertPath,
      c.clientKeyPath, c.insecureSkipVerify, c.minVersion, c.maxVersion, c.ciphers)) fun _ => rfl

def tls : Codec Number TlsConfig := tlsFields.record (by decide)

def tcpFields : Fields Number TcpTransportConfig :=
  ((field "host" text (.default defaultTcpHost)).and <| (field "port" u16 (.default defaultAmsTcpPort)).and <|
    field "max_connections" u64 (.default defaultMaxConnections)).map
    (fun (host, port, maxConnections) => ⟨host, port, maxConnections⟩)
    (fun c => (c.host, c.port, c.maxConnections)) fun _ => rfl

def mqttTlsFields : Fields Number MqttTlsConfig :=
  ((field "ca_cert_path" text .error).and <|
    (field "client_cert_path" optionalText (.default none)).and <|
    (field "client_key_path" optionalText (.default none)).and <|
    field "insecure_skip_verify" flag (.default false)).map
    (fun (caCertPath, clientCertPath, clientKeyPath, insecureSkipVerify) =>
      ⟨caCertPath, clientCertPath, clientKeyPath, insecureSkipVerify⟩)
    (fun c => (c.caCertPath, c.clientCertPath, c.clientKeyPath, c.insecureSkipVerify)) fun _ => rfl

def mqttTls : Codec Number MqttTlsConfig := mqttTlsFields.record (by decide)

def mqttFields : Fields Number MqttTransportConfig :=
  ((field "broker" text .error).and <| (field "topic_prefix" text (.default defaultMqttPrefix)).and <|
    (field "client_id" text (.default defaultMqttClientId)).and <|
    (field "username" optionalText (.default none)).and <|
    (field "password" optionalText (.default none)).and <|
    field "tls" (mqttTls.option (mqttTlsFields.record_ne_null _)) (.default none)).map
    (fun (broker, topicPrefix, clientId, username, password, tls) =>
      ⟨broker, topicPrefix, clientId, username, password, tls⟩)
    (fun c => (c.broker, c.topicPrefix, c.clientId, c.username, c.password, c.tls)) fun _ => rfl

def localRouterFields : Fields Number LocalRouterTransportConfig :=
  ((field "router_host" text (.default defaultLocalRouterHost)).and <|
    field "router_port" u16 (.default defaultAmsTcpPort)).map
    (fun (routerHost, routerPort) => ⟨routerHost, routerPort⟩) (fun c => (c.routerHost, c.routerPort)) fun _ => rfl

theorem nodup_tcpFields : tcpFields.names.Nodup ∧ "type" ∉ tcpFields.names := by decide

theorem nodup_mqttFields : mqttFields.names.Nodup ∧ "type" ∉ mqttFields.names := by decide

theorem nodup_localRouterFields : localRouterFields.names.Nodup ∧ "type" ∉ localRouterFields.names := by decide

def encodeTransport : TransportConfig → Json
  | .tcp config => tcpFields.tagged "type" "tcp" config
  | .mqtt config => mqttFields.tagged "type" "mqtt" config
  | .localRouter config => localRouterFields.tagged "type" "local_router" config

def decodeTransport (json : Json) : Option TransportConfig := do
  let (variant, rest) ← untag "type" json
  if variant = "tcp" then (tcpFields.read rest).map .tcp
  else if variant = "mqtt" then (mqttFields.read rest).map .mqtt
  else if variant = "local_router" then (localRouterFields.read rest).map .localRouter
  else none

def transport : Codec Number TransportConfig where
  encode := encodeTransport
  decode := decodeTransport
  decode_encode config := by
    cases config with
    | tcp config =>
      obtain ⟨rest, untagged, read⟩ := tcpFields.read_tagged nodup_tcpFields.1 nodup_tcpFields.2 "tcp" config
      simp [encodeTransport, decodeTransport, untagged, read]
    | mqtt config =>
      obtain ⟨rest, untagged, read⟩ := mqttFields.read_tagged nodup_mqttFields.1 nodup_mqttFields.2 "mqtt" config
      simp [encodeTransport, decodeTransport, untagged, read]
    | localRouter config =>
      obtain ⟨rest, untagged, read⟩ := localRouterFields.read_tagged nodup_localRouterFields.1
        nodup_localRouterFields.2 "local_router" config
      simp [encodeTransport, decodeTransport, untagged, read]

def receiverFields : Fields Number ReceiverConfig :=
  ((field "host" text .error).and <| (field "http_port" u16 .error).and <|
    (field "grpc_port" u16 .error).and <| (field "max_body_size" u64 .error).and <|
    (field "request_timeout_secs" u64 .error).and <|
    (field "ams_net_id" text (.default defaultAmsNetId)).and <|
    (field "ams_tcp_port" u16 (.default defaultAmsTcpPort)).and <|
    (field "ads_port" u16 (.default defaultAdsPort)).and <|
    (field "max_connections" u64 (.default defaultMaxConnections)).and <|
    (field "idle_timeout_secs" u64 (.default defaultIdleTimeoutSecs)).and <|
    (field "max_connections_per_ip" u64 (.default defaultMaxConnectionsPerIp)).and <|
    (field "rate_limit_per_sec_per_ip" u64 (.default defaultRateLimitPerSecPerIp)).and <|
    (field "keepalive_interval_secs" u64 (.default defaultKeepaliveIntervalSecs)).and <|
    (field "send_buffer_size" u64 (.default defaultSendBufferSize)).and <|
    (field "https_only" flag (.default false)).and <| (field "tls" tls (.default {})).and <|
    field "transport" transport (.default (.tcp {}))).map
    (fun (host, httpPort, grpcPort, maxBodySize, requestTimeoutSecs, amsNetId, amsTcpPort, adsPort, maxConnections,
        idleTimeoutSecs, maxConnectionsPerIp, rateLimitPerSecPerIp, keepaliveIntervalSecs, sendBufferSize,
        httpsOnly, tls, transport) =>
      ⟨host, httpPort, grpcPort, maxBodySize, requestTimeoutSecs, amsNetId, amsTcpPort, adsPort, maxConnections,
        idleTimeoutSecs, maxConnectionsPerIp, rateLimitPerSecPerIp, keepaliveIntervalSecs, sendBufferSize,
        httpsOnly, tls, transport⟩)
    (fun c => (c.host, c.httpPort, c.grpcPort, c.maxBodySize, c.requestTimeoutSecs, c.amsNetId, c.amsTcpPort,
      c.adsPort, c.maxConnections, c.idleTimeoutSecs, c.maxConnectionsPerIp, c.rateLimitPerSecPerIp,
      c.keepaliveIntervalSecs, c.sendBufferSize, c.httpsOnly, c.tls, c.transport)) fun _ => rfl

def receiver : Codec Number ReceiverConfig := receiverFields.record (by decide)

/-! ### Outputs and export -/

def output : Codec Number OutputConfig where
  encode c := (flattened "Type").encode (c.outputType, c.settings)
  decode json := ((flattened "Type").decode json).map fun (outputType, settings) => ⟨outputType, settings⟩
  decode_encode c := by rw [(flattened "Type").decode_encode]; rfl

def exportFields : Fields Number ExportConfig :=
  ((field "endpoint" text (.default defaultExportEndpoint)).and <|
    (field "batch_size" u64 (.default defaultBatchSize)).and <|
    (field "flush_interval_ms" u64 (.default defaultFlushIntervalMs)).and <|
    (field "timeout_secs" u64 (.default defaultExportTimeoutSecs)).and <|
    (field "max_retries" u64 (.default defaultMaxRetries)).and <|
    field "format" wireFormat (.default .protobuf)).map
    (fun (endpoint, batchSize, flushIntervalMs, timeoutSecs, maxRetries, format) =>
      ⟨endpoint, batchSize, flushIntervalMs, timeoutSecs, maxRetries, format⟩)
    (fun c => (c.endpoint, c.batchSize, c.flushIntervalMs, c.timeoutSecs, c.maxRetries, c.format)) fun _ => rfl

def exportCodec : Codec Number ExportConfig := exportFields.record (by decide)

/-! ### Service and web UI -/

def serviceFields : Fields Number ServiceConfig :=
  ((field "name" text .error).and <| (field "display_name" text .error).and <|
    (field "worker_threads" (u64.option nofun) .optional).and <| (field "channel_capacity" u64 .error).and <|
    field "shutdown_timeout_secs" u64 .error).map
    (fun (name, displayName, workerThreads, channelCapacity, shutdownTimeoutSecs) =>
      ⟨name, displayName, workerThreads, channelCapacity, shutdownTimeoutSecs⟩)
    (fun c => (c.name, c.displayName, c.workerThreads, c.channelCapacity, c.shutdownTimeoutSecs)) fun _ => rfl

def service : Codec Number ServiceConfig := serviceFields.record (by decide)

def webFields : Fields Number WebConfig :=
  ((field "enabled" flag (.default defaultWebEnabled)).and <| (field "host" text (.default defaultWebHost)).and <|
    field "port" u16 (.default defaultWebPort)).map
    (fun (enabled, host, port) => ⟨enabled, host, port⟩) (fun c => (c.enabled, c.host, c.port)) fun _ => rfl

def web : Codec Number WebConfig := webFields.record (by decide)

/-! ### Metrics -/

def pollFields : Fields Number PollConfig :=
  (field "interval_ms" u64 (.default defaultPollIntervalMs)).map (⟨·⟩) (·.intervalMs) fun _ => rfl

def poll : Codec Number PollConfig := pollFields.record (by decide)

def notificationFields : Fields Number NotificationConfig :=
  ((field "min_period_ms" u32 (.default 0)).and <|
    (field "max_period_ms" u32 (.default defaultMaxPeriodMs)).and <|
    (field "max_delay_ms" u32 (.default defaultMaxDelayMs)).and <|
    field "transmission_mode" transmissionMode (.default .onChange)).map
    (fun (minPeriodMs, maxPeriodMs, maxDelayMs, transmissionMode) =>
      ⟨minPeriodMs, maxPeriodMs, maxDelayMs, transmissionMode⟩)
    (fun c => (c.minPeriodMs, c.maxPeriodMs, c.maxDelayMs, c.transmissionMode)) fun _ => rfl

def notification : Codec Number NotificationConfig := notificationFields.record (by decide)

def customMetricFields : Fields Number CustomMetricDef :=
  ((field "symbol" text .error).and <| (field "metric_name" text .error).and <|
    (field "description" text (.default "")).and <| (field "unit" text (.default "")).and <|
    (field "kind" metricKind (.default .gauge)).and <| (field "is_monotonic" flag (.default false)).and <|
    (field "source" customMetricSource (.default .push)).and <|
    (field "ams_net_id" optionalText (.default none)).and <|
    (field "ams_port" (u16.option nofun) (.default none)).and <|
    (field "ams_router_host" optionalText (.default none)).and <|
    (field "poll" (poll.option (pollFields.record_ne_null _)) (.default none)).and <|
    field "notification" (notification.option (notificationFields.record_ne_null _)) (.default none)).map
    (fun (symbol, metricName, description, unit, kind, isMonotonic, source, amsNetId, amsPort, amsRouterHost, poll,
        notification) =>
      ⟨symbol, metricName, description, unit, kind, isMonotonic, source, amsNetId, amsPort, amsRouterHost, poll,
        notification⟩)
    (fun c => (c.symbol, c.metricName, c.description, c.unit, c.kind, c.isMonotonic, c.source, c.amsNetId, c.amsPort,
      c.amsRouterHost, c.poll, c.notification)) fun _ => rfl

def customMetric : Codec Number CustomMetricDef := customMetricFields.record (by decide)

def metricsFields : Fields Number MetricsConfig :=
  ((field "cycle_time_enabled" flag (.default defaultCycleTimeEnabled)).and <|
    (field "cycle_time_window" u64 (.default defaultCycleTimeWindow)).and <|
    (field "custom_metrics" customMetric.list (.default [])).and <|
    (field "export_enabled" flag (.default false)).and <|
    (field "export_endpoint" optionalText (.default none)).and <|
    (field "export_batch_size" u64 (.default defaultMetricsBatchSize)).and <|
    (field "export_flush_interval_ms" u64 (.default defaultMetricsFlushIntervalMs)).and <|
    field "export_format" (wireFormat.option nofun) (.default none)).map
    (fun (cycleTimeEnabled, cycleTimeWindow, customMetrics, exportEnabled, exportEndpoint, exportBatchSize,
        exportFlushIntervalMs, exportFormat) =>
      ⟨cycleTimeEnabled, cycleTimeWindow, customMetrics, exportEnabled, exportEndpoint, exportBatchSize,
        exportFlushIntervalMs, exportFormat⟩)
    (fun c => (c.cycleTimeEnabled, c.cycleTimeWindow, c.customMetrics, c.exportEnabled, c.exportEndpoint,
      c.exportBatchSize, c.exportFlushIntervalMs, c.exportFormat)) fun _ => rfl

def metrics : Codec Number MetricsConfig := metricsFields.record (by decide)

/-! ### Diagnostics -/

def targetFields : Fields Number DiagnosticsTargetConfig :=
  ((field "ams_net_id" text .error).and <|
    (field "poll_interval_ms" u64 (.default defaultDiagnosticsPollIntervalMs)).and <|
    (field "exceed_counter" flag (.default defaultTrue)).and <|
    (field "rt_usage" flag (.default defaultTrue)).and <|
    (field "task_ports" u16.list (.default defaultDiagnosticsTaskPorts)).and <|
    (field "rt_port" u16 (.default defaultDiagnosticsRtPort)).and <|
    field "task_names" text.map (.default (.ofList []))).map
    (fun (amsNetId, pollIntervalMs, exceedCounter, rtUsage, taskPorts, rtPort, taskNames) =>
      ⟨amsNetId, pollIntervalMs, exceedCounter, rtUsage, taskPorts, rtPort, taskNames⟩)
    (fun c => (c.amsNetId, c.pollIntervalMs, c.exceedCounter, c.rtUsage, c.taskPorts, c.rtPort, c.taskNames))
    fun _ => rfl

def target : Codec Number DiagnosticsTargetConfig := targetFields.record (by decide)

def diagnosticsFields : Fields Number DiagnosticsConfig :=
  ((field "enabled" flag (.default false)).and <| field "targets" target.list (.default [])).map
    (fun (enabled, targets) => ⟨enabled, targets⟩) (fun c => (c.enabled, c.targets)) fun _ => rfl

def diagnostics : Codec Number DiagnosticsConfig := diagnosticsFields.record (by decide)

/-! ### Traces -/

def tracesExportFields : Fields Number TracesExportConfig :=
  ((field "endpoint" optionalText (.default none)).and <|
    (field "batch_size" u64 (.default defaultTracesBatchSize)).and <|
    (field "flush_interval_ms" u64 (.default defaultTracesFlushIntervalMs)).and <|
    field "format" (wireFormat.option nofun) (.default none)).map
    (fun (endpoint, batchSize, flushIntervalMs, format) => ⟨endpoint, batchSize, flushIntervalMs, format⟩)
    (fun c => (c.endpoint, c.batchSize, c.flushIntervalMs, c.format)) fun _ => rfl

def tracesExport : Codec Number TracesExportConfig := tracesExportFields.record (by decide)

def tracesFields : Fields Number TracesConfig :=
  ((field "enabled" flag (.default false)).and <|
    (field "span_ttl_secs" u64 (.default defaultSpanTtlSecs)).and <|
    (field "max_pending_spans" u64 (.default defaultMaxPendingSpans)).and <|
    field "export" tracesExport (.default {})).map
    (fun (enabled, spanTtlSecs, maxPendingSpans, tracesExport) =>
      ⟨enabled, spanTtlSecs, maxPendingSpans, tracesExport⟩)
    (fun c => (c.enabled, c.spanTtlSecs, c.maxPendingSpans, c.export)) fun _ => rfl

def traces : Codec Number TracesConfig := tracesFields.record (by decide)

/-! ### All settings -/

def settingsFields : Fields Number AppSettings :=
  ((field "logging" logging .error).and <| (field "receiver" receiver .error).and <|
    (field "export" exportCodec (.default {})).and <| (field "outputs" output.list .error).and <|
    (field "service" service .error).and <| (field "web" web (.default {})).and <|
    (field "metrics" metrics (.default {})).and <| (field "diagnostics" diagnostics (.default {})).and <|
    field "traces" traces (.default {})).map
    (fun (logging, receiver, exportConfig, outputs, service, web, metrics, diagnostics, traces) =>
      ⟨logging, receiver, exportConfig, outputs, service, web, metrics, diagnostics, traces⟩)
    (fun s => (s.logging, s.receiver, s.export, s.outputs, s.service, s.web, s.metrics, s.diagnostics, s.traces))
    fun _ => rfl

def settings : Codec Number AppSettings := settingsFields.record (by decide)

def AppSettings.fromJson (json : Json) : Option AppSettings := settings.decode json

def AppSettings.toJson (self : AppSettings) : Json := settings.encode self

theorem AppSettings.fromJson_toJson (self : AppSettings) : fromJson self.toJson = some self :=
  settings.decode_encode self

/-! ### Secrets -/

def maskedSentinel : String := "***MASKED***"

/-- What is shown of the user name and of the password. -/
def maskText : Json → Json
  | .string s => if s = "" then .string s else .string maskedSentinel
  | json => json

def asStr : Json → Option String
  | .string s => some s
  | _ => none

def maskTransport (transport : Json) : Json :=
  if (valueAt "type" transport).bind asStr = some "mqtt" then
    updateAt "username" maskText (updateAt "password" maskText transport)
  else transport

def AppSettings.toMaskedJson (self : AppSettings) : Json :=
  updateAt "receiver" (updateAt "transport" maskTransport) self.toJson

/-- The secret that is kept, for one that was sent. -/
def mergeSecret (incoming current : Option String) : Option String :=
  if incoming = some maskedSentinel then current else incoming

def AppSettings.mergeSecretsFrom (self current : AppSettings) : AppSettings :=
  match self.receiver.transport, current.receiver.transport.asMqtt with
  | .mqtt mqtt, some currentMqtt =>
    let merged := { mqtt with
      password := mergeSecret mqtt.password currentMqtt.password
      username := mergeSecret mqtt.username currentMqtt.username }
    { self with receiver := { self.receiver with transport := .mqtt merged } }
  | _, _ => self

def maskSecret : Option String → Option String
  | some s => if s = "" then some s else some maskedSentinel
  | none => none

def TransportConfig.masked : TransportConfig → TransportConfig
  | .mqtt config => .mqtt { config with username := maskSecret config.username, password := maskSecret config.password }
  | transport => transport

def AppSettings.masked (self : AppSettings) : AppSettings :=
  { self with receiver := { self.receiver with transport := self.receiver.transport.masked } }

theorem maskText_encode (secret : Option String) :
    maskText (optionalText.encode secret) = optionalText.encode (maskSecret secret) := by
  cases secret with
  | none => rfl
  | some s =>
    change (if s = "" then Rendering.Json.string s else .string maskedSentinel) = _
    rw [maskSecret]
    split <;> rfl

theorem maskTransport_encode (config : TransportConfig) :
    maskTransport (encodeTransport config) = encodeTransport config.masked := by
  cases config with
  | tcp config =>
    have tag := tcpFields.valueAt_tagged nodup_tcpFields.1 nodup_tcpFields.2 "tcp" config
    simp [maskTransport, encodeTransport, TransportConfig.masked, tag, asStr]
  | localRouter config =>
    have tag := localRouterFields.valueAt_tagged nodup_localRouterFields.1 nodup_localRouterFields.2 "local_router"
      config
    simp [maskTransport, encodeTransport, TransportConfig.masked, tag, asStr]
  | mqtt config =>
    have tag := mqttFields.valueAt_tagged nodup_mqttFields.1 nodup_mqttFields.2 "mqtt" config
    have masks : (valueAt "type" (mqttFields.tagged "type" "mqtt" config)).bind asStr = some "mqtt" := by
      rw [tag]
      rfl
    have password : mqttFields.Updates "password" maskText config
        { config with password := maskSecret config.password } := by
      iterate 4 refine behind (by decide) ?_
      exact ahead (by decide) (.field (maskText_encode _))
    have username : mqttFields.Updates "username" maskText { config with password := maskSecret config.password }
        { config with username := maskSecret config.username, password := maskSecret config.password } := by
      iterate 3 refine behind (by decide) ?_
      exact ahead (by decide) (.field (maskText_encode _))
    change maskTransport (mqttFields.tagged "type" "mqtt" config) = mqttFields.tagged "type" "mqtt" _
    rw [maskTransport, if_pos masks, password.tagged (by decide), username.tagged (by decide)]

theorem updateAt_receiver (config : ReceiverConfig) :
    updateAt "transport" maskTransport (receiver.encode config) =
      receiver.encode { config with transport := config.transport.masked } := by
  have updates : receiverFields.Updates "transport" maskTransport config
      { config with transport := config.transport.masked } := by
    iterate 16 refine behind (by decide) ?_
    exact .field (maskTransport_encode config.transport)
  exact updates.record

theorem AppSettings.toMaskedJson_eq (self : AppSettings) : self.toMaskedJson = self.masked.toJson := by
  have updates : settingsFields.Updates "receiver" (updateAt "transport" maskTransport) self self.masked := by
    refine behind (by decide) ?_
    exact ahead (by decide) (.field (updateAt_receiver self.receiver))
  exact updates.record

theorem mergeSecret_maskSecret (secret : Option String) : mergeSecret (maskSecret secret) secret = secret := by
  cases secret with
  | none => rfl
  | some s =>
    rw [maskSecret]
    split
    · -- an empty text is shown as it is, and is no sentinel
      next empty => rw [empty]; rfl
    · rfl

theorem AppSettings.mergeSecretsFrom_masked (self : AppSettings) : self.masked.mergeSecretsFrom self = self := by
  obtain ⟨_, ⟨_, _, _, _, _, _, _, _, _, _, _, _, _, _, _, _, transport⟩, _, _, _, _, _, _, _⟩ := self
  cases transport with
  | mqtt config =>
    simp [masked, mergeSecretsFrom, TransportConfig.masked, TransportConfig.asMqtt, mergeSecret_maskSecret]
  | tcp config | localRouter config => rfl

/-! ### What is shown -/

/-- Two secrets of which is shown the same: they are equal, or none of them is empty. -/
def Concealed (first second : Option String) : Prop :=
  first = second ∨ ∃ s t, first = some s ∧ second = some t ∧ s ≠ "" ∧ t ≠ ""

/-- Settings that differ in nothing but user names and passwords that are not empty. -/
def DifferInSecrets (first second : AppSettings) : Prop :=
  ∃ config username password, first.receiver.transport = .mqtt config ∧
    Concealed config.username username ∧ Concealed config.password password ∧
    second = { first with receiver := { first.receiver with
      transport := .mqtt { config with username := username, password := password } } }

theorem maskSecret_concealed (concealed : Concealed first second) : maskSecret first = maskSecret second := by
  rcases concealed with rfl | ⟨s, t, rfl, rfl, filled, filled'⟩
  · rfl
  · rw [maskSecret, maskSecret, if_neg filled, if_neg filled']

theorem masked_of_differInSecrets (differ : DifferInSecrets first second) : first.masked = second.masked := by
  obtain ⟨config, username, password, mqtt, names, passwords, rfl⟩ := differ
  rw [AppSettings.masked, AppSettings.masked, mqtt]
  simp [TransportConfig.masked, maskSecret_concealed names, maskSecret_concealed passwords]

/-- What the web UI shows can be posted back as it is, and tells nothing of the secrets but whether they
are empty. -/
theorem AppSettings.masked_json_faithful :
    (∀ self : AppSettings, (fromJson self.toMaskedJson).map (·.mergeSecretsFrom self) = some self) ∧
      ∀ first second : AppSettings, DifferInSecrets first second → first.toMaskedJson = second.toMaskedJson := by
  refine ⟨fun self => ?_, fun first second differ => ?_⟩
  · rw [toMaskedJson_eq, fromJson_toJson, Option.map_some, mergeSecretsFrom_masked]
  · rw [toMaskedJson_eq, toMaskedJson_eq, masked_of_differInSecrets differ]

/-- The defaults, with a broker that asks for a password. -/
def passwordSettings (password : String) : AppSettings :=
  { receiver := { transport := .mqtt { username := some "plc", password := some password } } }

theorem masked_json_hides_password : DifferInSecrets (passwordSettings "alpha") (passwordSettings "beta") ∧
      (passwordSettings "alpha").toMaskedJson = (passwordSettings "beta").toMaskedJson := by
  have differ : DifferInSecrets (passwordSettings "alpha") (passwordSettings "beta") :=
    ⟨_, some "plc", some "beta", rfl, .inl rfl, .inr ⟨"alpha", "beta", rfl, rfl, by decide, by decide⟩, rfl⟩
  exact ⟨differ, AppSettings.masked_json_faithful.2 _ _ differ⟩

end TcOtel.Config
