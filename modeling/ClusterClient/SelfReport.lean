import ClusterClient.Json.Basic
import ClusterClient.Text.Basic
namespace ClusterClient.SelfReport

-- The chosen members of each section: the agent's name for one and the last part of the line's.
def configMembers : List (String × String) :=
  [("ACLDatacenter", "acl_datacenter"), ("ACLDefaultPolicy", "acl_default_policy"),
   ("ACLDownPolicy", "acl_down_policy"), ("ACLTtl", "acl_ttl"), ("ACLTtlRaw", "acl_ttl_raw"),
   ("AdvertiseAddr", "advertise_addr"), ("AdvertiseAddrWan", "advertise_addr_wan"),
   ("Atlas_endpoint", "atlas_endpoint"), ("Atlas_infrastructure", "atlas_infrastructure"),
   ("Atlas_join", "atlas_join"), ("BindAddr", "bind_addr"), ("BootStrap", "bootstrap"),
   ("BootstrapExpect", "bootstrap_expect"), ("CAFile", "ca_file"), ("CertFile", "cert_file"),
   ("CheckUpdateInterval", "check_update_interval"), ("ClientAddr", "client_addr"),
   ("DNSRecursor", "dns_recursor"), ("DNSRecursors", "dns_recursors"), ("DataDir", "data_dir"),
   ("Datacenter", "datacenter"), ("DisableAnonymousSignature", "disable_anonymous_signature"),
   ("DisableRemoteExec", "disable_remote_exec"), ("DisableUpdateCheck", "disable_update_check"),
   ("Disable_coordinates", "disable_coordinates"), ("DogStatsdAddr", "dog_statsd_addr"),
   ("DogStatsdTags", "dog_statsd_tags"), ("Domain", "domain"), ("EnableDebug", "enable_debug"),
   ("EnableSyslog", "enable_syslog"), ("HTTPAPIResponseHeaders", "http_api_response_headers"),
   ("KeyFile", "key_file"), ("LeaveOnTerm", "leave_on_term"), ("LogLevel", "log_level"),
   ("NodeName", "node_name"), ("PidFile", "pid_file"), ("Protocol", "protocol"),
   ("RejoinAfterLeave", "rejoin_after_leave"), ("RetryIntervalRaw", "retry_interval_raw"),
   ("RetryIntervalWanRaw", "retry_interval_wan_raw"), ("RetryJoin", "retry_join"),
   ("RetryJoinWan", "retry_join_wan"), ("RetryMaxAttempts", "retry_max_attempts"),
   ("RetryMaxAttemptsWan", "retry_max_attempts_wan"), ("Revision", "revision"), ("Server", "server"),
   ("ServerName", "server_name"), ("SessionTTLMin", "session_ttl_min"),
   ("SessionTTLMinRaw", "session_ttl_min_raw"), ("SkipLeaveOnInt", "skip_leave_on_int"),
   ("StartJoin", "start_join"), ("StartJoinWan", "start_join_wan"), ("StatsdAddr", "statsd_addr"),
   ("StatsiteAddr", "statsite_addr"), ("StatsitePrefix", "statsite_prefix"),
   ("SyslogFacility", "syslog_facility"), ("UIDir", "ui_dir"), ("VerifyIncoming", "verify_incoming"),
   ("VerifyOutgoing", "verify_outgoing"), ("VerifyServerHostname", "verify_server_hostname"),
   ("Version", "version"), ("VersionPrerelease", "version_prerelease"), ("Watches", "watches")]

def dnsMembers : List (String × String) :=
  [("AllowStale", "allow_stale"), ("EnableTruncate", "enable_truncate"), ("MaxStale", "max_stale"),
   ("NodeTTL", "node_ttl"), ("OnlyPassing", "only_passing"), ("ServiceTTL", "service_ttl")]

def advertiseMembers : List (String × String) :=
  [("RPC", "rpc"), ("RPCRaw", "rpc_raw"), ("SerfLan", "serf_lan"), ("SerfLanRaw", "serf_lan_raw"),
   ("SerfWan", "serf_wan"), ("SerfWanRaw", "serf_wan_raw")]

def portMembers : List (String × String) :=
  [("DNS", "dns"), ("HTTP", "http"), ("HTTPS", "https"), ("RPC", "rpc"), ("SerfLan", "serf_lan"),
   ("SerfWan", "serf_wan"), ("Server", "server")]

def addressMembers : List (String × String) :=
  [("DNS", "dns"), ("HTTP", "http"), ("HTTPS", "https"), ("RPC", "rpc")]

def socketMembers : List (String × String) :=
  [("Group", "grp"), ("Perms", "perms"), ("User", "usr")]

def coordinateMembers : List (String × String) :=
  [("Adjustment", "adjustment"), ("Error", "error"), ("Height", "height"), ("Vec", "vec")]

def memberMembers : List (String × String) :=
  [("Addr", "addr"), ("DelegateCur", "delegate_cur"), ("DelegateMax", "delegate_max"),
   ("DelegateMin", "delegate_min"), ("Name", "name"), ("Port", "port"), ("ProtocolCur", "protocol_cur"),
   ("ProtocolMax", "protocol_max"), ("ProtocolMin", "protocol_min"), ("Status", "status")]

def tagMembers : List (String × String) :=
  [("bootstrap", "bootstrap"), ("build", "build"), ("dc", "dc"), ("port", "port"), ("role", "role"),
   ("vsn", "vsn"), ("vsn_max", "vsn_max"), ("vsn_min", "vsn_min")]

structure Section where
  path : List String
  names : List String
  members : List (String × String)

def sections : List Section :=
  [⟨["Config"], ["config"], configMembers⟩,
   ⟨["Config", "DNSConfig"], ["config", "dns_config"], dnsMembers⟩,
   ⟨["Config", "AdvertiseAddrs"], ["config", "advertise_addrs"], advertiseMembers⟩,
   ⟨["Config", "Ports"], ["config", "ports"], portMembers⟩,
   ⟨["Config", "Addresses"], ["config", "addresses"], addressMembers⟩,
   ⟨["Config", "UnixSockets"], ["config", "unix_sockets"], socketMembers⟩,
   ⟨["Coord"], ["coord"], coordinateMembers⟩,
   ⟨["Member"], ["member"], memberMembers⟩,
   ⟨["Member", "Tags"], ["member", "tags"], tagMembers⟩]

def root : List String := ["consul", "agent", "status"]

def descend (doc : Json) (path : List String) : Json := path.foldl (fun v key => v.field key) doc

def joinNames (names : List String) : String := String.ofList (Text.join ['.'] (names.map String.toList))

def line (names : List String) (name : String) (value : Json) : String :=
  joinNames names ++ "." ++ name ++ "=" ++ value.text

def Section.lines (doc : Json) (s : Section) : List String :=
  s.members.map fun (key, name) => line (root ++ s.names) name ((descend doc s.path).field key)

-- A member that is not there is null.
def lines (doc : Json) : List String := sections.flatMap (Section.lines doc)

end ClusterClient.SelfReport
