import CallWatch.Limits
import CallWatch.Settings.Layers

/-! The settings of the monitor, read once from their layers. The first setting, in the order of
their declaration, whose text is not valid decides the error. -/

namespace CallWatch

structure Settings where
  apiUrl : String
  apiToken : String
  batchSize : Nat
  flushMillis : Nat
  httpTimeoutMillis : Nat
  poolSize : Nat
  enabled : Bool
  captureRequest : Bool
  captureResponse : Bool
  maxPayloadBytes : Nat
  nameserverHost : String
  nameserverPort : UInt16
  scanSeconds : Nat
  scanEnabled : Bool
  trustAll : Bool
  queueCapacity : Nat
  correlationSeconds : Nat
  deriving DecidableEq

namespace SettingKey

def apiUrl : SettingKey := ⟨"monitor.api.url", "CORBA_MONITOR_API_URL"⟩
def apiToken : SettingKey := ⟨"monitor.api.token", "CORBA_MONITOR_API_TOKEN"⟩
def batchSize : SettingKey := ⟨"monitor.batch.size", "CORBA_MONITOR_BATCH_SIZE"⟩
def flushMillis : SettingKey := ⟨"monitor.flush.interval.ms", "CORBA_MONITOR_FLUSH_MS"⟩
def httpTimeoutMillis : SettingKey := ⟨"monitor.http.timeout.ms", "CORBA_MONITOR_HTTP_TIMEOUT"⟩
def poolSize : SettingKey := ⟨"monitor.http.pool.size", "CORBA_MONITOR_HTTP_POOL"⟩
def enabled : SettingKey := ⟨"monitor.enabled", "CORBA_MONITOR_ENABLED"⟩
def captureRequest : SettingKey := ⟨"monitor.capture.request", "CORBA_MONITOR_CAPTURE_REQ"⟩
def captureResponse : SettingKey := ⟨"monitor.capture.response", "CORBA_MONITOR_CAPTURE_RES"⟩
def maxPayloadBytes : SettingKey := ⟨"monitor.max.payload.bytes", "CORBA_MONITOR_MAX_PAYLOAD"⟩
def nameserverHost : SettingKey := ⟨"monitor.nameserver.host", "CORBA_NAMESERVER_HOST"⟩
def nameserverPort : SettingKey := ⟨"monitor.nameserver.port", "CORBA_NAMESERVER_PORT"⟩
def scanSeconds : SettingKey := ⟨"monitor.scan.interval.seconds", "CORBA_MONITOR_SCAN_INTERVAL"⟩
def scanEnabled : SettingKey := ⟨"monitor.scan.enabled", "CORBA_MONITOR_SCAN_ENABLED"⟩
def trustAll : SettingKey := ⟨"monitor.ssl.trust.all", "CORBA_MONITOR_SSL_TRUST_ALL"⟩
def queueCapacity : SettingKey := ⟨"monitor.queue.capacity", "CORBA_MONITOR_QUEUE_CAPACITY"⟩
def correlationSeconds : SettingKey :=
  ⟨"monitor.correlation.ttl.seconds", "CORBA_MONITOR_CORRELATION_TTL"⟩

/-- The names of all settings, in the order in which they are read. -/
def all : List SettingKey :=
  [apiUrl, apiToken, batchSize, flushMillis, httpTimeoutMillis, poolSize, enabled, captureRequest,
    captureResponse, maxPayloadBytes, nameserverHost, nameserverPort, scanSeconds, scanEnabled,
    trustAll, queueCapacity, correlationSeconds]

end SettingKey

namespace Settings

/-- The variable of the environment that names the properties file. -/
def fileVariable : String := "MONITOR_CONFIG_FILE"

/-- The properties file that is read where the variable is not set. -/
def standardFile : String := "monitor.properties"

/-- A URL without the slashes at its end. -/
def withoutTrailingSlashes (url : String) : String :=
  String.ofList (url.toList.reverse.dropWhile (· = '/')).reverse

/-- The range of counts and durations. -/
def word : IntegerRange := .unsigned 64

/-- The settings that hold where no layer gives another. -/
def standard : Settings where
  apiUrl := "http://localhost:8080/api"
  apiToken := ""
  batchSize := 50
  flushMillis := 1000
  httpTimeoutMillis := 5000
  poolSize := 4
  enabled := true
  captureRequest := true
  captureResponse := true
  maxPayloadBytes := 65536
  nameserverHost := "localhost"
  nameserverPort := 2809
  scanSeconds := 30
  scanEnabled := true
  trustAll := false
  queueCapacity := Limits.queueCapacity
  correlationSeconds := 300

def resolve (layers : Layers) : Except SettingError Settings := do
  let apiUrl := withoutTrailingSlashes (layers.string .apiUrl standard.apiUrl)
  let apiToken := layers.string .apiToken standard.apiToken
  let batchSize ← layers.positive word .batchSize standard.batchSize
  let flushMillis ← layers.positive word .flushMillis standard.flushMillis
  let httpTimeoutMillis ← layers.positive word .httpTimeoutMillis standard.httpTimeoutMillis
  let poolSize ← layers.positive word .poolSize standard.poolSize
  let enabled ← layers.flag .enabled standard.enabled
  let captureRequest ← layers.flag .captureRequest standard.captureRequest
  let captureResponse ← layers.flag .captureResponse standard.captureResponse
  let maxPayloadBytes ← layers.integer word .maxPayloadBytes standard.maxPayloadBytes
  let nameserverHost := layers.string .nameserverHost standard.nameserverHost
  let nameserverPort ← layers.integer (.unsigned 16) .nameserverPort standard.nameserverPort.toNat
  let scanSeconds ← layers.positive word .scanSeconds standard.scanSeconds
  let scanEnabled ← layers.flag .scanEnabled standard.scanEnabled
  let trustAll ← layers.flag .trustAll standard.trustAll
  let queueCapacity ← layers.positive word .queueCapacity standard.queueCapacity
  let correlationSeconds ← layers.positive word .correlationSeconds standard.correlationSeconds
  return {
    apiUrl, apiToken, enabled, captureRequest, captureResponse, nameserverHost, scanEnabled,
    trustAll
    batchSize := batchSize.toNat
    flushMillis := flushMillis.toNat
    httpTimeoutMillis := httpTimeoutMillis.toNat
    poolSize := poolSize.toNat
    maxPayloadBytes := maxPayloadBytes.toNat
    nameserverPort := UInt16.ofNat nameserverPort.toNat
    scanSeconds := scanSeconds.toNat
    queueCapacity := queueCapacity.toNat
    correlationSeconds := correlationSeconds.toNat }

/-- The settings of a process started with the given arguments and environment, and with what is
found at the place of its properties file. -/
def load (arguments : List String) (environment : Properties) (path : String)
    (file : Properties.File) : Except SettingError Settings := do
  let entries ← Properties.ofFile path file
  resolve ⟨Properties.ofArguments arguments, environment, entries⟩

def trafficUrl (s : Settings) : String := s.apiUrl ++ "/traffic"

def batchUrl (s : Settings) : String := s.apiUrl ++ "/traffic/batch"

def reportUrl (s : Settings) : String := s.apiUrl ++ "/nameserver/report"

def healthUrl (s : Settings) : String := s.apiUrl ++ "/health"

def number (n : Nat) : String := String.ofList (decimal n)

/-- The object URL of the naming service. -/
def nameserverReference (s : Settings) : String :=
  "corbaloc:iiop:" ++ s.nameserverHost ++ ":" ++ number s.nameserverPort.toNat ++ "/NameService"

def flagText (b : Bool) : String := if b then "true" else "false"

def summary (s : Settings) : String :=
  "MonitorConfig\x7bapi=" ++ s.apiUrl ++ ", batch=" ++ number s.batchSize ++
    ", flush=" ++ number s.flushMillis ++ "ms, capture_req=" ++ flagText s.captureRequest ++
    ", capture_res=" ++ flagText s.captureResponse ++ ", ns=" ++ s.nameserverHost ++ ":" ++
    number s.nameserverPort.toNat ++ ", scan=" ++ flagText s.scanEnabled ++ "/" ++
    number s.scanSeconds ++ "s\x7d"

end Settings

end CallWatch
