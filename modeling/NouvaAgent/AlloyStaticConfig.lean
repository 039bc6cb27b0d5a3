import NouvaAgent.Text
import NouvaAgent.Docker

namespace NouvaAgent

open Text

structure AgentRedactionContextScopeVersion where
  kind : String
  id : String
  version : String
  deriving DecidableEq, Repr

structure AgentObservabilityConfig where
  enabled : Bool
  organizationId : Option String
  alloyImage : String
  scrapeIntervalSeconds : ℤ
  noneLabelValue : String

structure AlloyAgentConfig where
  observability : AgentObservabilityConfig
  localTraefikNetwork : String

structure AlloyRuntimeInput where
  dataDir : String
  dataVolume : String
  serverId : String
  apiUrl : String
  agentToken : String
  redactionContextVersion : Option String
  redactionContextScopeVersions : Option (List AgentRedactionContextScopeVersion)
  config : AlloyAgentConfig

namespace AlloyRuntime

def dockerSocket : String := "/var/run/docker.sock"

def observabilityNoneLabelValue : String := "__none__"

def redactionContextVersionDockerLabel : String := "nouva.redaction.context.version"

/-- `JSON.stringify` of a character, but for a lone surrogate, which a `Char` is not. -/
def quoteChar (c : Char) : List Char :=
  if c = '"' then ['\\', '"'] else if c = '\\' then ['\\', '\\']
  else if c = '\n' then ['\\', 'n'] else if c = '\r' then ['\\', 'r']
  else if c = '\t' then ['\\', 't'] else if c.toNat = 8 then ['\\', 'b']
  else if c.toNat = 12 then ['\\', 'f']
  else if c.toNat < 32 then
    ['\\', 'u', '0', '0'] ++ Nat.toDigits 16 (c.toNat / 16) ++ Nat.toDigits 16 (c.toNat % 16)
  else [c]

def quote (value : String) : String :=
  "\"" ++ String.ofList (value.toList.flatMap quoteChar) ++ "\""

def list (values : List String) : String := "[" ++ ", ".intercalate (values.map quote) ++ "]"

def spaces (n : ℕ) : String := String.ofList (List.replicate n ' ')

def fields (indent : ℕ) (entries : List (String × String)) : String :=
  let width := (entries.map fun entry => entry.1.length).foldl max 0
  "\n".intercalate (entries.map fun entry =>
    spaces indent ++ entry.1 ++ spaces (width - entry.1.length) ++ " = " ++ entry.2)

def block (indent : ℕ) (header body : String) : String :=
  spaces indent ++ header ++ " \x7b\n" ++ body ++ "\n" ++ spaces indent ++ "\x7d"

def rule (entries : List (String × String)) : String := block 2 "rule" (fields 4 entries)

def keepRule (source regex : String) : String :=
  rule [("source_labels", list [source]), ("action", quote "keep"), ("regex", quote regex)]

def setRule (label value : String) : String :=
  rule [("target_label", quote label), ("replacement", value)]

def mapRule (source label regex replacement : String) : String :=
  rule [("source_labels", list [source]), ("target_label", quote label), ("regex", quote regex),
    ("replacement", quote replacement)]

def copyRule (source label : String) : String := mapRule source label "(.+)" "$1"

def dropLabels (regex : String) : String :=
  rule [("action", quote "labeldrop"), ("regex", quote regex)]

section

variable (input : AlloyRuntimeInput)

def noneValue : String :=
  let given := input.config.observability.noneLabelValue
  quote (if given = "" then observabilityNoneLabelValue else given)

def organizationId : String :=
  quote (input.config.observability.organizationId.getD observabilityNoneLabelValue)

def scrapeInterval : String :=
  let given := input.config.observability.scrapeIntervalSeconds
  quote (toString (max 5 (if given = 0 then 30 else given)) ++ "s")

/-- The rules that give the series of a container their labels, where the container's own labels are
those after `source`, and its name is the label `name`. -/
def containerRules (source : String → String) (name : String) : List String :=
  let none := noneValue input
  [keepRule (source "managed") "true",
    keepRule (source "kind") "app|database|traefik|worker|worker_job",
    setRule "organization_id" (organizationId input), setRule "server_id" (quote input.serverId),
    setRule "project_id" none, copyRule (source "project_id") "project_id",
    setRule "service_id" none, copyRule (source "service_id") "service_id",
    setRule "deployment_id" none, copyRule (source "deployment_id") "deployment_id",
    setRule "environment_id" none, copyRule (source "environment_id") "environment_id",
    setRule "replica_index" none, copyRule (source "replica_index") "replica_index",
    setRule "schedule_id" none, copyRule (source "schedule_id") "schedule_id",
    setRule "schedule_run_id" none, copyRule (source "schedule_run_id") "schedule_run_id",
    copyRule (source "redaction_context_version") "redaction_context_version",
    setRule "service_type" (quote "system"), mapRule (source "kind") "service_type" "app" "app",
    mapRule (source "kind") "service_type" "database" "database",
    mapRule (source "kind") "service_type" "worker|worker_job" "worker",
    setRule "service_variant" none, mapRule (source "kind") "service_variant" "app" "app",
    mapRule (source "kind") "service_variant" "traefik" "traefik",
    copyRule (source "service_variant") "service_variant", setRule "container_name" none,
    mapRule name "container_name" "/?(.*)" "$1", setRule "runtime_kind" none,
    copyRule (source "kind") "runtime_kind"]

def buildRelabelRules : List String :=
  containerRules input (fun label => "__meta_docker_container_label_nouva_" ++ label)
    "__meta_docker_container_name"

def unset (labels : List String) : List String :=
  labels.map fun label => setRule label (noneValue input)

def logBlocks : List String :=
  [block 0 "discovery.docker \"nouva\"" (fields 2 [("host", quote ("unix://" ++ dockerSocket))]),
    block 0 "discovery.relabel \"nouva_logs\""
      (fields 2 [("targets", "discovery.docker.nouva.targets")] ++ "\n" ++
        "\n".intercalate (buildRelabelRules input)),
    block 0 "loki.source.docker \"nouva\"" (fields 2
      [("host", quote ("unix://" ++ dockerSocket)),
        ("targets", "discovery.relabel.nouva_logs.output"),
        ("forward_to", "[loki.relabel.nouva_redaction_context.receiver]")]),
    block 0 "loki.write \"nouva\"" ("\n\n".intercalate
      [block 2 "endpoint" ("\n\n".intercalate
        [fields 4 [("url", quote (input.apiUrl ++ "/api/agent/observability/logs")),
            ("bearer_token", quote input.agentToken), ("remote_timeout", quote "10s"),
            ("min_backoff_period", quote "1s"), ("max_backoff_period", quote "1m"),
            ("max_backoff_retries", "1200"), ("retry_on_http_429", "true")],
          block 4 "queue_config" (fields 6 [("capacity", quote "64MiB"), ("min_shards", "1"),
            ("block_on_overflow", "true"), ("drain_timeout", quote "1m")])]),
        block 2 "wal" (fields 4 [("enabled", "true"), ("max_segment_age", quote "24h"),
          ("drain_timeout", quote "1m")])])]

def forwardTo (receiver : String) : String × String := ("forward_to", "[" ++ receiver ++ ".receiver]")

def relabelBlock (name : String) (rules : List String) : String :=
  block 0 ("prometheus.relabel " ++ quote name) ("\n\n".intercalate
    (fields 2 [forwardTo "prometheus.relabel.nouva_redaction_context"] :: rules))

def scrapeBlock (name targets : String) : String :=
  block 0 ("prometheus.scrape " ++ quote name) (fields 2
    [("targets", targets), ("scrape_interval", scrapeInterval input),
      forwardTo ("prometheus.relabel." ++ name)])

def cadvisorBlocks : List String :=
  [block 0 "prometheus.exporter.cadvisor \"nouva\"" (fields 2
      [("docker_host", quote ("unix://" ++ dockerSocket)), ("docker_only", "true"),
        ("store_container_labels", "false"), ("disable_root_cgroup_stats", "true"),
        ("enabled_metrics", list ["cpu", "memory", "network", "diskIO"]),
        ("allowlisted_container_labels", list ["nouva.managed", "nouva.server.id",
          "nouva.project.id", "nouva.service.id", "nouva.deployment.id", "nouva.service.variant",
          "nouva.environment.id", "nouva.kind", "nouva.replica.index", "nouva.schedule.id",
          "nouva.schedule.run.id", redactionContextVersionDockerLabel])]),
    scrapeBlock input "nouva_cadvisor" "prometheus.exporter.cadvisor.nouva.targets",
    relabelBlock "nouva_cadvisor"
      (containerRules input (fun label => "container_label_nouva_" ++ label) "name" ++
        [dropLabels "container_label_.*|instance|job|id|name|image|container"])]

def explained (comments : List String) (rule : String) : String :=
  "\n".intercalate (comments.map ("  // " ++ ·) ++ [rule])

def traefikBlocks (traefikContainerName : String) (traefikAdminPort : ℕ) : List String :=
  [scrapeBlock input "nouva_traefik" ("[\x7b __address__ = " ++
      quote (traefikContainerName ++ ":" ++ toString traefikAdminPort) ++ " \x7d]"),
    relabelBlock "nouva_traefik" (
      [keepRule "__name__" "traefik_service_requests_total",
        explained ["A request counter belongs to a route, not to a container. Traefik is a system container and",
          "these are its metrics, so the series stays in the system scope exactly like the rest of",
          "Traefik's telemetry, and the routed service travels in a separate, non-authoritative label.",
          "Putting it in service_id instead would make an unowned series look like a service's own."]
          (setRule "organization_id" (organizationId input)),
        setRule "server_id" (quote input.serverId)] ++
      unset input ["project_id", "service_id", "deployment_id", "environment_id", "replica_index",
        "schedule_id", "schedule_run_id"] ++
      [setRule "service_type" (quote "system"), setRule "service_variant" (quote "traefik"),
        setRule "container_name" (quote traefikContainerName),
        setRule "runtime_kind" (quote "traefik")] ++
      unset input ["ingress_service_id"] ++
      [explained ["Route files are named by service id and the renderer names the load balancer svc-<serviceId>,",
          "so Traefik's own service label carries the id the dashboard queries by."]
          (mapRule "service" "ingress_service_id" "svc-(.+)@file" "$1"),
        explained ["Traefik's api, dashboard and ping endpoints are @internal, never match the rule above, and",
          "keep the none placeholder. They are not a service's traffic, so they are not shipped."]
          (rule [("source_labels", list ["ingress_service_id"]), ("action", quote "drop"),
            ("regex", noneValue input)]),
        explained ["Traefik's own service label would otherwise reach Mimir as a second copy of the id."]
          (dropLabels "instance|job|service")])]

def hostBlocks : List String :=
  [block 0 "prometheus.exporter.unix \"nouva\"" (fields 2
      [("rootfs_path", quote "/rootfs"), ("procfs_path", quote "/rootfs/proc"),
        ("sysfs_path", quote "/rootfs/sys"),
        ("set_collectors", list ["cpu", "diskstats", "filesystem", "loadavg", "meminfo", "netdev",
          "stat", "uname"])]),
    scrapeBlock input "nouva_host" "prometheus.exporter.unix.nouva.targets",
    relabelBlock "nouva_host" (
      [setRule "organization_id" (organizationId input),
        setRule "server_id" (quote input.serverId)] ++
      unset input ["project_id", "service_id", "deployment_id"] ++
      [setRule "service_type" (quote "system"), setRule "service_variant" (quote "host")] ++
      unset input ["environment_id"] ++
      [setRule "container_name" (quote "host"), setRule "runtime_kind" (quote "host"),
        dropLabels "instance|job"])]

def remoteWriteBlock : String :=
  block 0 "prometheus.remote_write \"nouva\"" (block 2 "endpoint" ("\n\n".intercalate
    [fields 4 [("url", quote (input.apiUrl ++ "/api/agent/observability/metrics")),
        ("bearer_token", quote input.agentToken)],
      block 4 "metadata_config" (fields 6 [("send", "false")])]))

def hasOrganization : Bool := input.config.observability.organizationId.any (· ≠ "")

def renderAlloyStaticConfig (traefikContainerName : String) (traefikAdminPort : ℕ) :
    Except String String :=
  if hasOrganization input then
    .ok ("\n\n".intercalate (logBlocks input ++ cadvisorBlocks input ++
      traefikBlocks input traefikContainerName traefikAdminPort ++ hostBlocks input ++
      [remoteWriteBlock input, ""]))
  else .error "Alloy observability config requires an organization ID."

end

end AlloyRuntime

end NouvaAgent
