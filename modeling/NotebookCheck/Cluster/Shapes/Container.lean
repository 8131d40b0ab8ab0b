import NotebookCheck.Cluster.Shapes.Metadata

namespace NotebookCheck.Cluster

open Shape

def localReference : Shape := entity "LocalObjectReference" [("name", text)]

def fieldSelector : Shape :=
  entity "ObjectFieldSelector" [("apiVersion", text), ("fieldPath", text)]

def resourceFieldSelector : Shape :=
  entity "ResourceFieldSelector" [("containerName", text), ("divisor", text), ("resource", text)]

def envVarSource : Shape :=
  entity "EnvVarSource"
    [("configMapKeyRef", entity "ConfigMapKeySelector"
        [("key", text), ("name", text), ("optional", flag)]),
      ("fieldRef", fieldSelector), ("resourceFieldRef", resourceFieldSelector),
      ("secretKeyRef", entity "SecretKeySelector"
        [("key", text), ("name", text), ("optional", flag)])]

def envVar : Shape :=
  entity "EnvVar" [("name", text), ("value", text), ("valueFrom", envVarSource)]

def envFromSource : Shape :=
  entity "EnvFromSource"
    [("configMapRef", entity "ConfigMapEnvSource" [("name", text), ("optional", flag)]),
      ("prefix", text),
      ("secretRef", entity "SecretEnvSource" [("name", text), ("optional", flag)])]

def execAction : Shape := entity "ExecAction" [("command", texts)]

def httpGetAction : Shape :=
  entity "HTTPGetAction"
    [("host", text), ("httpHeaders", list (entity "HTTPHeader" [("name", text), ("value", text)])),
      ("path", text), ("port", numberOrName), ("scheme", text)]

def tcpSocketAction : Shape := entity "TCPSocketAction" [("host", text), ("port", numberOrName)]

def lifecycleHandler : Shape :=
  entity "LifecycleHandler"
    [("exec", execAction), ("httpGet", httpGetAction),
      ("sleep", entity "SleepAction" [("seconds", long)]), ("tcpSocket", tcpSocketAction)]

def lifecycle : Shape :=
  entity "Lifecycle" [("postStart", lifecycleHandler), ("preStop", lifecycleHandler)]

def probe : Shape :=
  entity "Probe"
    [("exec", execAction), ("failureThreshold", int),
      ("grpc", entity "GRPCAction" [("port", int), ("service", text)]), ("httpGet", httpGetAction),
      ("initialDelaySeconds", int), ("periodSeconds", int), ("successThreshold", int),
      ("tcpSocket", tcpSocketAction), ("terminationGracePeriodSeconds", long),
      ("timeoutSeconds", int)]

def resourceRequirements : Shape :=
  entity "ResourceRequirements"
    [("claims", list (entity "ResourceClaim" [("name", text), ("request", text)])),
      ("limits", quantities), ("requests", quantities)]

def appArmorProfile : Shape :=
  entity "AppArmorProfile" [("localhostProfile", text), ("type", text)]

def seccompProfile : Shape := entity "SeccompProfile" [("localhostProfile", text), ("type", text)]

def seLinuxOptions : Shape :=
  entity "SELinuxOptions" [("level", text), ("role", text), ("type", text), ("user", text)]

def windowsOptions : Shape :=
  entity "WindowsSecurityContextOptions"
    [("gmsaCredentialSpec", text), ("gmsaCredentialSpecName", text), ("hostProcess", flag),
      ("runAsUserName", text)]

def securityContext : Shape :=
  entity "SecurityContext"
    [("allowPrivilegeEscalation", flag), ("appArmorProfile", appArmorProfile),
      ("capabilities", entity "Capabilities" [("add", texts), ("drop", texts)]),
      ("privileged", flag), ("procMount", text), ("readOnlyRootFilesystem", flag),
      ("runAsGroup", long), ("runAsNonRoot", flag), ("runAsUser", long),
      ("seLinuxOptions", seLinuxOptions), ("seccompProfile", seccompProfile),
      ("windowsOptions", windowsOptions)]

def containerFields : List (String × Shape) :=
  [("args", texts), ("command", texts), ("env", list envVar), ("envFrom", list envFromSource),
    ("image", text), ("imagePullPolicy", text), ("lifecycle", lifecycle), ("livenessProbe", probe),
    ("name", text),
    ("ports", list (entity "ContainerPort"
      [("containerPort", int), ("hostIP", text), ("hostPort", int), ("name", text),
        ("protocol", text)])),
    ("readinessProbe", probe),
    ("resizePolicy", list (entity "ContainerResizePolicy"
      [("resourceName", text), ("restartPolicy", text)])),
    ("resources", resourceRequirements), ("restartPolicy", text),
    ("securityContext", securityContext), ("startupProbe", probe), ("stdin", flag),
    ("stdinOnce", flag), ("terminationMessagePath", text), ("terminationMessagePolicy", text),
    ("tty", flag),
    ("volumeDevices", list (entity "VolumeDevice" [("devicePath", text), ("name", text)])),
    ("volumeMounts", list (entity "VolumeMount"
      [("mountPath", text), ("mountPropagation", text), ("name", text), ("readOnly", flag),
        ("recursiveReadOnly", text), ("subPath", text), ("subPathExpr", text)])),
    ("workingDir", text)]

def container : Shape := entity "Container" containerFields

def ephemeralContainer : Shape :=
  entity "EphemeralContainer" (containerFields ++ [("targetContainerName", text)])

def containerState : Shape :=
  entity "ContainerState"
    [("running", entity "ContainerStateRunning" [("startedAt", time)]),
      ("terminated", entity "ContainerStateTerminated"
        [("containerID", text), ("exitCode", int), ("finishedAt", time), ("message", text),
          ("reason", text), ("signal", int), ("startedAt", time)]),
      ("waiting", entity "ContainerStateWaiting" [("message", text), ("reason", text)])]

def containerStatus : Shape :=
  entity "ContainerStatus"
    [("allocatedResources", quantities),
      ("allocatedResourcesStatus", list (entity "ResourceStatus"
        [("name", text), ("resources", list (entity "ResourceHealth"
          [("health", text), ("resourceID", text)]))])),
      ("containerID", text), ("image", text), ("imageID", text), ("lastState", containerState),
      ("name", text), ("ready", flag), ("resources", resourceRequirements), ("restartCount", int),
      ("started", flag), ("state", containerState),
      ("user", entity "ContainerUser"
        [("linux", entity "LinuxContainerUser"
          [("gid", long), ("supplementalGroups", list long), ("uid", long)])]),
      ("volumeMounts", list (entity "VolumeMountStatus"
        [("mountPath", text), ("name", text), ("readOnly", flag), ("recursiveReadOnly", text)]))]

end NotebookCheck.Cluster
