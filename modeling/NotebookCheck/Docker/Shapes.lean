import NotebookCheck.Shape

namespace NotebookCheck.Docker

inductive Status where
  | empty
  | created
  | running
  | paused
  | restarting
  | removing
  | exited
  | dead
deriving Repr, DecidableEq, Inhabited

def Status.names : List (String × Status) :=
  [("", .empty), ("created", .created), ("running", .running), ("paused", .paused),
    ("restarting", .restarting), ("removing", .removing), ("exited", .exited), ("dead", .dead)]

def Status.ofName? (name : String) : Option Status := Status.names.lookup name

def Status.name : Status → String
  | empty => ""
  | created => "created"
  | running => "running"
  | paused => "paused"
  | restarting => "restarting"
  | removing => "removing"
  | exited => "exited"
  | dead => "dead"

inductive Health where
  | empty
  | none
  | starting
  | healthy
  | unhealthy
deriving Repr, DecidableEq, Inhabited

def Health.names : List (String × Health) :=
  [("", .empty), ("none", .none), ("starting", .starting), ("healthy", .healthy),
    ("unhealthy", .unhealthy)]

def Health.ofName? (name : String) : Option Health := Health.names.lookup name

open Shape

def texts : Shape := list text

def labels : Shape := map text

def mountKinds : List String := ["", "bind", "volume", "tmpfs", "npipe", "cluster"]

def healthcheckResult : Shape :=
  optionals "HealthcheckResult"
    [("Start", text), ("End", text), ("ExitCode", long), ("Output", text)]

def health : Shape :=
  optionals "Health"
    [("Status", choice (Health.names.map (·.1))), ("FailingStreak", long),
      ("Log", list healthcheckResult)]

def containerState : Shape :=
  optionals "ContainerState"
    [("Status", choice (Status.names.map (·.1))), ("Running", flag), ("Paused", flag),
      ("Restarting", flag), ("OOMKilled", flag), ("Dead", flag), ("Pid", long),
      ("ExitCode", long), ("Error", text), ("StartedAt", text), ("FinishedAt", text),
      ("Health", health)]

def throttleDevices : Shape := list (optionals "ThrottleDevice" [("Path", text), ("Rate", long)])

def portBinding : Shape := optionals "PortBinding" [("HostIp", text), ("HostPort", text)]

def portMap : Shape := map (optional (list portBinding))

def restartPolicy : Shape :=
  optionals "RestartPolicy"
    [("Name", choice ["", "no", "always", "unless-stopped", "on-failure"]),
      ("MaximumRetryCount", long)]

def mount : Shape :=
  optionals "Mount"
    [("Target", text), ("Source", text), ("Type", choice mountKinds), ("ReadOnly", flag),
      ("Consistency", text),
      ("BindOptions", optionals "MountBindOptions"
        [("Propagation", choice ["", "private", "rprivate", "shared", "rshared", "slave",
            "rslave"]),
          ("NonRecursive", flag), ("CreateMountpoint", flag), ("ReadOnlyNonRecursive", flag),
          ("ReadOnlyForceRecursive", flag)]),
      ("VolumeOptions", optionals "MountVolumeOptions"
        [("NoCopy", flag), ("Labels", labels),
          ("DriverConfig", optionals "MountVolumeOptionsDriverConfig"
            [("Name", text), ("Options", labels)]),
          ("Subpath", text)]),
      ("TmpfsOptions", optionals "MountTmpfsOptions"
        [("SizeBytes", long), ("Mode", long), ("Options", list texts)])]

def hostConfig : Shape :=
  optionals "HostConfig"
    [("CpuShares", long), ("Memory", long), ("CgroupParent", text), ("BlkioWeight", short),
      ("BlkioWeightDevice",
        list (optionals "ResourcesBlkioWeightDevice" [("Path", text), ("Weight", size)])),
      ("BlkioDeviceReadBps", throttleDevices), ("BlkioDeviceWriteBps", throttleDevices),
      ("BlkioDeviceReadIOps", throttleDevices), ("BlkioDeviceWriteIOps", throttleDevices),
      ("CpuPeriod", long), ("CpuQuota", long), ("CpuRealtimePeriod", long),
      ("CpuRealtimeRuntime", long), ("CpusetCpus", text), ("CpusetMems", text),
      ("Devices", list (optionals "DeviceMapping"
        [("PathOnHost", text), ("PathInContainer", text), ("CgroupPermissions", text)])),
      ("DeviceCgroupRules", texts),
      ("DeviceRequests", list (optionals "DeviceRequest"
        [("Driver", text), ("Count", long), ("DeviceIDs", texts), ("Capabilities", list texts),
          ("Options", labels)])),
      ("KernelMemoryTCP", long), ("MemoryReservation", long), ("MemorySwap", long),
      ("MemorySwappiness", long), ("NanoCpus", long), ("OomKillDisable", flag), ("Init", flag),
      ("PidsLimit", long),
      ("Ulimits", list (optionals "ResourcesUlimits"
        [("Name", text), ("Soft", long), ("Hard", long)])),
      ("CpuCount", long), ("CpuPercent", long), ("IOMaximumIOps", long),
      ("IOMaximumBandwidth", long), ("Binds", texts), ("ContainerIDFile", text),
      ("LogConfig", optionals "HostConfigLogConfig" [("Type", text), ("Config", labels)]),
      ("NetworkMode", text), ("PortBindings", portMap), ("RestartPolicy", restartPolicy),
      ("AutoRemove", flag), ("VolumeDriver", text), ("VolumesFrom", texts), ("Mounts", list mount),
      ("ConsoleSize", list int), ("Annotations", labels), ("CapAdd", texts), ("CapDrop", texts),
      ("CgroupnsMode", choice ["", "private", "host"]), ("Dns", texts), ("DnsOptions", texts),
      ("DnsSearch", texts), ("ExtraHosts", texts), ("GroupAdd", texts), ("IpcMode", text),
      ("Cgroup", text), ("Links", texts), ("OomScoreAdj", long), ("PidMode", text),
      ("Privileged", flag), ("PublishAllPorts", flag), ("ReadonlyRootfs", flag),
      ("SecurityOpt", texts), ("StorageOpt", labels), ("Tmpfs", labels), ("UTSMode", text),
      ("UsernsMode", text), ("ShmSize", long), ("Sysctls", labels), ("Runtime", text),
      ("Isolation", choice ["", "default", "process", "hyperv"]), ("MaskedPaths", texts),
      ("ReadonlyPaths", texts)]

def containerConfig : Shape :=
  optionals "ContainerConfig"
    [("Hostname", text), ("Domainname", text), ("User", text), ("AttachStdin", flag),
      ("AttachStdout", flag), ("AttachStderr", flag), ("ExposedPorts", map emptyMap), ("Tty", flag),
      ("OpenStdin", flag), ("StdinOnce", flag), ("Env", texts), ("Cmd", texts),
      ("Healthcheck", optionals "HealthConfig"
        [("Test", texts), ("Interval", long), ("Timeout", long), ("Retries", long),
          ("StartPeriod", long), ("StartInterval", long)]),
      ("ArgsEscaped", flag), ("Image", text), ("Volumes", map emptyMap), ("WorkingDir", text),
      ("Entrypoint", texts), ("NetworkDisabled", flag), ("MacAddress", text), ("OnBuild", texts),
      ("Labels", labels), ("StopSignal", text), ("StopTimeout", long), ("Shell", texts)]

def mountPoint : Shape :=
  optionals "MountPoint"
    [("Type", choice mountKinds), ("Name", text), ("Source", text), ("Destination", text),
      ("Driver", text), ("Mode", text), ("RW", flag), ("Propagation", text)]

def endpointSettings : Shape :=
  optionals "EndpointSettings"
    [("IPAMConfig", optionals "EndpointIpamConfig"
        [("IPv4Address", text), ("IPv6Address", text), ("LinkLocalIPs", texts)]),
      ("Links", texts), ("MacAddress", text), ("Aliases", texts), ("DriverOpts", labels),
      ("NetworkID", text), ("EndpointID", text), ("Gateway", text), ("IPAddress", text),
      ("IPPrefixLen", long), ("IPv6Gateway", text), ("GlobalIPv6Address", text),
      ("GlobalIPv6PrefixLen", long), ("DNSNames", texts)]

def address : Shape := optionals "Address" [("Addr", text), ("PrefixLen", long)]

def networkSettings : Shape :=
  optionals "NetworkSettings"
    [("Bridge", text), ("SandboxID", text), ("HairpinMode", flag),
      ("LinkLocalIPv6Address", text), ("LinkLocalIPv6PrefixLen", long), ("Ports", portMap),
      ("SandboxKey", text), ("SecondaryIPAddresses", list address),
      ("SecondaryIPv6Addresses", list address), ("EndpointID", text), ("Gateway", text),
      ("GlobalIPv6Address", text), ("GlobalIPv6PrefixLen", long), ("IPAddress", text),
      ("IPPrefixLen", long), ("IPv6Gateway", text), ("MacAddress", text),
      ("Networks", map endpointSettings)]

def container : Shape :=
  optionals "ContainerInspectResponse"
    [("Id", text), ("Created", text), ("Path", text), ("Args", texts), ("State", containerState),
      ("Image", text), ("ResolvConfPath", text), ("HostnamePath", text), ("HostsPath", text),
      ("LogPath", text), ("Name", text), ("RestartCount", long), ("Driver", text),
      ("Platform", text), ("MountLabel", text), ("ProcessLabel", text), ("AppArmorProfile", text),
      ("ExecIDs", texts), ("HostConfig", hostConfig),
      ("GraphDriver", strict "DriverData" [("Name", text), ("Data", nullable labels)]),
      ("SizeRw", long), ("SizeRootFs", long), ("Mounts", list mountPoint),
      ("Config", containerConfig), ("NetworkSettings", networkSettings)]

def createdExec : Shape := strict "CreateExecResults" [("Id", text)]

def exec : Shape :=
  optionals "ExecInspectResponse"
    [("CanRemove", flag), ("DetachKeys", text), ("ID", text), ("Running", flag),
      ("ExitCode", long),
      ("ProcessConfig", optionals "ProcessConfig"
        [("privileged", flag), ("user", text), ("tty", flag), ("entrypoint", text),
          ("arguments", texts)]),
      ("OpenStdin", flag), ("OpenStderr", flag), ("OpenStdout", flag), ("ContainerID", text),
      ("Pid", long)]

def refusal : Shape := strict "DockerServerErrorMessage" [("message", text)]

end NotebookCheck.Docker
