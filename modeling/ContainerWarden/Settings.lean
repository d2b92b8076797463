import ContainerWarden.Environment

namespace ContainerWarden

inductive Password where
  | configured (text : String)
  | drawn (length : Nat)
  deriving DecidableEq, Repr

structure Settings where
  dbPath : String := "hostreaper.db"
  metadataUrl : String := "http://rancher-metadata/2015-12-19"
  metadataTimeout : Float := 10.0
  changePollInterval : Int := 5
  changeConcurrency : Int := 5
  recheckInterval : Int := 300
  dedupMin : Float := 1.0
  dedupMax : Float := 300.0
  dedupFactor : Float := 1.5
  eventPoolSize : Int := 10
  enableEvents : Bool := true
  uuidLabel : String := "io.rancher.container.uuid"
  serviceNameLabel : String := "io.rancher.stack_service.name"
  metadataService : String := "network-services/metadata"
  dnsService : String := "network-services/metadata/dns"
  /-- The container that is never removed, whatever its labels say. -/
  agentName : String := "/rancher-agent"
  apiUser : String := "admin"
  apiPassword : Password := .drawn 22

namespace Settings

/-- An unset or empty password leaves the service closed: it is drawn. -/
def readPassword (env : Environment) : Password :=
  match env.text "HR_API_PASSWORD" "" with
  | "" => .drawn 22
  | text => .configured text

def ofEnvironment (env : Environment) : Settings where
  dbPath := env.text "HR_DB_PATH" "hostreaper.db"
  metadataUrl := env.text "HR_METADATA_URL" "http://rancher-metadata/2015-12-19"
  metadataTimeout := env.float "HR_METADATA_TIMEOUT_S" 10.0
  changePollInterval := env.int "HR_CHANGE_POLL_INTERVAL_S" 5
  changeConcurrency := env.int "HR_CHANGE_CONCURRENCY" 5
  recheckInterval := env.int "HR_RECHECK_INTERVAL_S" 300
  dedupMin := env.float "HR_DEDUP_MIN_S" 1.0
  dedupMax := env.float "HR_DEDUP_MAX_S" 300.0
  dedupFactor := env.float "HR_DEDUP_FACTOR" 1.5
  eventPoolSize := env.int "HR_EVENT_POOL_SIZE" 10
  enableEvents := env.switch "HR_ENABLE_EVENTS" true
  uuidLabel := env.text "HR_UUID_LABEL" "io.rancher.container.uuid"
  serviceNameLabel := env.text "HR_SERVICE_NAME_LABEL" "io.rancher.stack_service.name"
  metadataService := env.text "HR_METADATA_SERVICE" "network-services/metadata"
  dnsService := env.text "HR_DNS_SERVICE" "network-services/metadata/dns"
  agentName := env.text "HR_AGENT_NAME" "/rancher-agent"
  apiUser := env.text "HR_API_USER" "admin"
  apiPassword := readPassword env

def singletonServices (settings : Settings) : List String :=
  [settings.metadataService, settings.dnsService]

end Settings

end ContainerWarden
