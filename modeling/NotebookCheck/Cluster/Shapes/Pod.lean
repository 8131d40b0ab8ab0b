import NotebookCheck.Cluster.Shapes.Volume

namespace NotebookCheck.Cluster

open Shape

def nodeRequirements : Shape :=
  list (entity "NodeSelectorRequirement" [("key", text), ("operator", text), ("values", texts)])

def nodeSelectorTerm : Shape :=
  entity "NodeSelectorTerm"
    [("matchExpressions", nodeRequirements), ("matchFields", nodeRequirements)]

def nodeAffinity : Shape :=
  entity "NodeAffinity"
    [("preferredDuringSchedulingIgnoredDuringExecution", list (entity "PreferredSchedulingTerm"
        [("preference", nodeSelectorTerm), ("weight", int)])),
      ("requiredDuringSchedulingIgnoredDuringExecution", entity "NodeSelector"
        [("nodeSelectorTerms", list nodeSelectorTerm)])]

def podAffinityTerm : Shape :=
  entity "PodAffinityTerm"
    [("labelSelector", labelSelector), ("matchLabelKeys", texts), ("mismatchLabelKeys", texts),
      ("namespaceSelector", labelSelector), ("namespaces", texts), ("topologyKey", text)]

def podAffinityFields : List (String × Shape) :=
  [("preferredDuringSchedulingIgnoredDuringExecution", list (entity "WeightedPodAffinityTerm"
      [("podAffinityTerm", podAffinityTerm), ("weight", int)])),
    ("requiredDuringSchedulingIgnoredDuringExecution", list podAffinityTerm)]

def affinity : Shape :=
  entity "Affinity"
    [("nodeAffinity", nodeAffinity), ("podAffinity", entity "PodAffinity" podAffinityFields),
      ("podAntiAffinity", entity "PodAntiAffinity" podAffinityFields)]

def podSecurityContext : Shape :=
  entity "PodSecurityContext"
    [("appArmorProfile", appArmorProfile), ("fsGroup", long), ("fsGroupChangePolicy", text),
      ("runAsGroup", long), ("runAsNonRoot", flag), ("runAsUser", long),
      ("seLinuxChangePolicy", text), ("seLinuxOptions", seLinuxOptions),
      ("seccompProfile", seccompProfile), ("supplementalGroups", list long),
      ("supplementalGroupsPolicy", text),
      ("sysctls", list (entity "Sysctl" [("name", text), ("value", text)])),
      ("windowsOptions", windowsOptions)]

def topologySpreadConstraint : Shape :=
  entity "TopologySpreadConstraint"
    [("labelSelector", labelSelector), ("matchLabelKeys", texts), ("maxSkew", int),
      ("minDomains", int), ("nodeAffinityPolicy", text), ("nodeTaintsPolicy", text),
      ("topologyKey", text), ("whenUnsatisfiable", text)]

def podSpec : Shape :=
  entity "PodSpec"
    [("activeDeadlineSeconds", long), ("affinity", affinity),
      ("automountServiceAccountToken", flag), ("containers", list container),
      ("dnsConfig", entity "PodDNSConfig"
        [("nameservers", texts),
          ("options", list (entity "PodDNSConfigOption" [("name", text), ("value", text)])),
          ("searches", texts)]),
      ("dnsPolicy", text), ("enableServiceLinks", flag),
      ("ephemeralContainers", list ephemeralContainer),
      ("hostAliases", list (entity "HostAlias" [("hostnames", texts), ("ip", text)])),
      ("hostIPC", flag), ("hostNetwork", flag), ("hostPID", flag), ("hostUsers", flag),
      ("hostname", text), ("imagePullSecrets", list localReference),
      ("initContainers", list container), ("nodeName", text), ("nodeSelector", labels),
      ("os", entity "PodOS" [("name", text)]), ("overhead", quantities),
      ("preemptionPolicy", text), ("priority", int), ("priorityClassName", text),
      ("readinessGates", list (entity "PodReadinessGate" [("conditionType", text)])),
      ("resourceClaims", list (entity "PodResourceClaim"
        [("name", text), ("resourceClaimName", text), ("resourceClaimTemplateName", text)])),
      ("resources", resourceRequirements), ("restartPolicy", text), ("runtimeClassName", text),
      ("schedulerName", text), ("schedulingGates", list (entity "PodSchedulingGate"
        [("name", text)])),
      ("securityContext", podSecurityContext), ("serviceAccount", text),
      ("serviceAccountName", text), ("setHostnameAsFQDN", flag), ("shareProcessNamespace", flag),
      ("subdomain", text), ("terminationGracePeriodSeconds", long),
      ("tolerations", list (entity "Toleration"
        [("effect", text), ("key", text), ("operator", text), ("tolerationSeconds", long),
          ("value", text)])),
      ("topologySpreadConstraints", list topologySpreadConstraint), ("volumes", list volume)]

def podStatus : Shape :=
  entity "PodStatus"
    [("conditions", list (entity "PodCondition"
        [("lastProbeTime", time), ("lastTransitionTime", time), ("message", text),
          ("reason", text), ("status", text), ("type", text)])),
      ("containerStatuses", list containerStatus),
      ("ephemeralContainerStatuses", list containerStatus), ("hostIP", text),
      ("hostIPs", list (entity "HostIP" [("ip", text)])),
      ("initContainerStatuses", list containerStatus), ("message", text),
      ("nominatedNodeName", text), ("phase", text), ("podIP", text),
      ("podIPs", list (entity "PodIP" [("ip", text)])), ("qosClass", text), ("reason", text),
      ("resize", text),
      ("resourceClaimStatuses", list (entity "PodResourceClaimStatus"
        [("name", text), ("resourceClaimName", text)])),
      ("startTime", time)]

def pod : Shape :=
  resource "Pod" [("metadata", objectMeta), ("spec", podSpec), ("status", podStatus)]

end NotebookCheck.Cluster
