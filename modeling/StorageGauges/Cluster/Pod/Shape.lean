import StorageGauges.Cluster.Object

/-!
# The Shape of Pods

The fields that a pod has in version v1 of the API, with their types. The
exporter reads few of them, but a pod in which any of them holds a value of a
wrong type is no pod.

## Main definitions

* `PodShape.container`: A container.
* `PodShape.volume`: A volume with its sources.
* `PodShape.spec`: What a pod is to be.
* `PodShape.status`: What a pod is.
* `PodShape.pod`: A pod.
-/

namespace StorageGauges

namespace PodShape

open Shape

/-- An object named in the same namespace. -/
def localReference : Shape :=
  record [("name", text)]

/-- A key of a config map or a secret. -/
def keySelector : Shape :=
  record [("key", text), ("name", text), ("optional", truth)]

/-- A field of the pod itself. -/
def fieldSelector : Shape :=
  record [("apiVersion", text), ("fieldPath", text)]

/-- A resource of a container. -/
def resourceSelector : Shape :=
  record [("containerName", text), ("divisor", text), ("resource", text)]

/-- An environment variable. -/
def environment : Shape :=
  record
    [("name", text), ("value", text),
      ("valueFrom",
        record
          [("configMapKeyRef", keySelector), ("fieldRef", fieldSelector),
            ("resourceFieldRef", resourceSelector), ("secretKeyRef", keySelector)])]

/-- A source of environment variables. -/
def environmentSource : Shape :=
  record
    [("configMapRef", record [("name", text), ("optional", truth)]), ("prefix", text),
      ("secretRef", record [("name", text), ("optional", truth)])]

/-- A request that asks a container how it is. -/
def httpGet : Shape :=
  record
    [("host", text), ("httpHeaders", list (record [("name", text), ("value", text)])),
      ("path", text), ("port", int32OrText), ("scheme", text)]

/-- A connection that asks a container how it is. -/
def tcpSocket : Shape :=
  record [("host", text), ("port", int32OrText)]

/-- A command in a container. -/
def command : Shape :=
  record [("command", list text)]

/-- What is done when a container starts or stops. -/
def handler : Shape :=
  record [("exec", command), ("httpGet", httpGet), ("tcpSocket", tcpSocket)]

/-- A probe of a container. -/
def probe : Shape :=
  record
    [("exec", command), ("failureThreshold", int32),
      ("grpc", record [("port", int32), ("service", text)]), ("httpGet", httpGet),
      ("initialDelaySeconds", int32), ("periodSeconds", int32), ("successThreshold", int32),
      ("tcpSocket", tcpSocket), ("terminationGracePeriodSeconds", int64),
      ("timeoutSeconds", int32)]

/-- What a container asks for and is limited to. -/
def resources : Shape :=
  record
    [("claims", list (record [("name", text)])), ("limits", map text), ("requests", map text)]

/-- Labels of a security module. -/
def seLinux : Shape :=
  record [("level", text), ("role", text), ("type", text), ("user", text)]

/-- A filter of system calls. -/
def seccomp : Shape :=
  record [("localhostProfile", text), ("type", text)]

/-- Settings of another operating system. -/
def windows : Shape :=
  record
    [("gmsaCredentialSpec", text), ("gmsaCredentialSpecName", text), ("hostProcess", truth),
      ("runAsUserName", text)]

/-- What a container may do. -/
def securityContext : Shape :=
  record
    [("allowPrivilegeEscalation", truth),
      ("capabilities", record [("add", list text), ("drop", list text)]),
      ("privileged", truth), ("procMount", text), ("readOnlyRootFilesystem", truth),
      ("runAsGroup", int64), ("runAsNonRoot", truth), ("runAsUser", int64),
      ("seLinuxOptions", seLinux), ("seccompProfile", seccomp), ("windowsOptions", windows)]

/-- A port of a container. -/
def port : Shape :=
  record
    [("containerPort", int32), ("hostIP", text), ("hostPort", int32), ("name", text),
      ("protocol", text)]

/-- A volume that is mounted into a container. -/
def mount : Shape :=
  record
    [("mountPath", text), ("mountPropagation", text), ("name", text), ("readOnly", truth),
      ("subPath", text), ("subPathExpr", text)]

/-- A container of any sort. -/
def container : Shape :=
  record
    [("args", list text), ("command", list text), ("env", list environment),
      ("envFrom", list environmentSource), ("image", text), ("imagePullPolicy", text),
      ("lifecycle", record [("postStart", handler), ("preStop", handler)]),
      ("livenessProbe", probe), ("name", text), ("ports", list port), ("readinessProbe", probe),
      ("resizePolicy", list (record [("resourceName", text), ("restartPolicy", text)])),
      ("resources", resources), ("restartPolicy", text), ("securityContext", securityContext),
      ("startupProbe", probe), ("stdin", truth), ("stdinOnce", truth),
      ("terminationMessagePath", text), ("terminationMessagePolicy", text), ("tty", truth),
      ("volumeDevices", list (record [("devicePath", text), ("name", text)])),
      ("volumeMounts", list mount), ("workingDir", text)]

/-- A file that a volume gets from a key. -/
def item : Shape :=
  record [("key", text), ("mode", int32), ("path", text)]

/-- A config map as a volume. -/
def configMap : Shape :=
  record [("defaultMode", int32), ("items", list item), ("name", text), ("optional", truth)]

/-- A secret as a volume. -/
def secret : Shape :=
  record
    [("defaultMode", int32), ("items", list item), ("optional", truth), ("secretName", text)]

/-- A file that a volume gets from the pod itself. -/
def downwardItem : Shape :=
  record
    [("fieldRef", fieldSelector), ("mode", int32), ("path", text),
      ("resourceFieldRef", resourceSelector)]

/-- Several sources as one volume. -/
def projected : Shape :=
  record
    [("defaultMode", int32),
      ("sources",
        list (record
          [("configMap", record [("items", list item), ("name", text), ("optional", truth)]),
            ("downwardAPI", record [("items", list downwardItem)]),
            ("secret", record [("items", list item), ("name", text), ("optional", truth)]),
            ("serviceAccountToken",
              record [("audience", text), ("expirationSeconds", int64), ("path", text)])]))]

/-- A claim for storage, made together with its pod. -/
def claimTemplate : Shape :=
  record
    [("metadata", Object.metadata),
      ("spec",
        record
          [("accessModes", list text),
            ("dataSource", record [("apiGroup", text), ("kind", text), ("name", text)]),
            ("dataSourceRef",
              record [("apiGroup", text), ("kind", text), ("name", text), ("namespace", text)]),
            ("resources", resources), ("selector", Object.selector),
            ("storageClassName", text), ("volumeMode", text), ("volumeName", text)])]

/-- The sources of volumes outside the cluster. -/
def externalSources : List (String × Shape) :=
  [("awsElasticBlockStore",
      record [("fsType", text), ("partition", int32), ("readOnly", truth), ("volumeID", text)]),
    ("azureDisk",
      record
        [("cachingMode", text), ("diskName", text), ("diskURI", text), ("fsType", text),
          ("kind", text), ("readOnly", truth)]),
    ("azureFile", record [("readOnly", truth), ("secretName", text), ("shareName", text)]),
    ("cephfs",
      record
        [("monitors", list text), ("path", text), ("readOnly", truth), ("secretFile", text),
          ("secretRef", localReference), ("user", text)]),
    ("cinder",
      record
        [("fsType", text), ("readOnly", truth), ("secretRef", localReference),
          ("volumeID", text)]),
    ("csi",
      record
        [("driver", text), ("fsType", text), ("nodePublishSecretRef", localReference),
          ("readOnly", truth), ("volumeAttributes", map text)]),
    ("fc",
      record
        [("fsType", text), ("lun", int32), ("readOnly", truth), ("targetWWNs", list text),
          ("wwids", list text)]),
    ("flexVolume",
      record
        [("driver", text), ("fsType", text), ("options", map text), ("readOnly", truth),
          ("secretRef", localReference)]),
    ("flocker", record [("datasetName", text), ("datasetUUID", text)]),
    ("gcePersistentDisk",
      record [("fsType", text), ("partition", int32), ("pdName", text), ("readOnly", truth)]),
    ("gitRepo", record [("directory", text), ("repository", text), ("revision", text)]),
    ("glusterfs", record [("endpoints", text), ("path", text), ("readOnly", truth)]),
    ("iscsi",
      record
        [("chapAuthDiscovery", truth), ("chapAuthSession", truth), ("fsType", text),
          ("initiatorName", text), ("iqn", text), ("iscsiInterface", text), ("lun", int32),
          ("portals", list text), ("readOnly", truth), ("secretRef", localReference),
          ("targetPortal", text)]),
    ("nfs", record [("path", text), ("readOnly", truth), ("server", text)]),
    ("photonPersistentDisk", record [("fsType", text), ("pdID", text)]),
    ("portworxVolume", record [("fsType", text), ("readOnly", truth), ("volumeID", text)]),
    ("quobyte",
      record
        [("group", text), ("readOnly", truth), ("registry", text), ("tenant", text),
          ("user", text), ("volume", text)]),
    ("rbd",
      record
        [("fsType", text), ("image", text), ("keyring", text), ("monitors", list text),
          ("pool", text), ("readOnly", truth), ("secretRef", localReference), ("user", text)]),
    ("scaleIO",
      record
        [("fsType", text), ("gateway", text), ("protectionDomain", text), ("readOnly", truth),
          ("secretRef", localReference), ("sslEnabled", truth), ("storageMode", text),
          ("storagePool", text), ("system", text), ("volumeName", text)]),
    ("storageos",
      record
        [("fsType", text), ("readOnly", truth), ("secretRef", localReference),
          ("volumeName", text), ("volumeNamespace", text)]),
    ("vsphereVolume",
      record
        [("fsType", text), ("storagePolicyID", text), ("storagePolicyName", text),
          ("volumePath", text)])]

/-- A volume. -/
def volume : Shape :=
  record
    ([("name", text), ("emptyDir", record [("medium", text), ("sizeLimit", text)]),
      ("configMap", configMap), ("secret", secret),
      ("downwardAPI", record [("defaultMode", int32), ("items", list downwardItem)]),
      ("projected", projected), ("hostPath", record [("path", text), ("type", text)]),
      ("persistentVolumeClaim", record [("claimName", text), ("readOnly", truth)]),
      ("ephemeral", record [("volumeClaimTemplate", claimTemplate)])] ++ externalSources)

/-- A requirement on the labels of a node. -/
def nodeTerm : Shape :=
  record
    [("matchExpressions", list Object.requirement), ("matchFields", list Object.requirement)]

/-- A rule about pods that are near each other. -/
def podTerm : Shape :=
  record
    [("labelSelector", Object.selector), ("namespaceSelector", Object.selector),
      ("namespaces", list text), ("topologyKey", text)]

/-- Rules about pods that are near each other. -/
def podAffinity : Shape :=
  record
    [("preferredDuringSchedulingIgnoredDuringExecution",
        list (record [("podAffinityTerm", podTerm), ("weight", int32)])),
      ("requiredDuringSchedulingIgnoredDuringExecution", list podTerm)]

/-- Where a pod may run. -/
def affinity : Shape :=
  record
    [("nodeAffinity",
        record
          [("preferredDuringSchedulingIgnoredDuringExecution",
              list (record [("preference", nodeTerm), ("weight", int32)])),
            ("requiredDuringSchedulingIgnoredDuringExecution",
              record [("nodeSelectorTerms", list nodeTerm)])]),
      ("podAffinity", podAffinity), ("podAntiAffinity", podAffinity)]

/-- How pods are spread. -/
def spread : Shape :=
  record
    [("labelSelector", Object.selector), ("matchLabelKeys", list text), ("maxSkew", int32),
      ("minDomains", int32), ("nodeAffinityPolicy", text), ("nodeTaintsPolicy", text),
      ("topologyKey", text), ("whenUnsatisfiable", text)]

/-- What all containers of a pod may do. -/
def podSecurityContext : Shape :=
  record
    [("fsGroup", int64), ("fsGroupChangePolicy", text), ("runAsGroup", int64),
      ("runAsNonRoot", truth), ("runAsUser", int64), ("seLinuxOptions", seLinux),
      ("seccompProfile", seccomp), ("supplementalGroups", list int64),
      ("sysctls", list (record [("name", text), ("value", text)])), ("windowsOptions", windows)]

/-- A taint that a pod tolerates. -/
def toleration : Shape :=
  record
    [("effect", text), ("key", text), ("operator", text), ("tolerationSeconds", int64),
      ("value", text)]

/-- What a pod is to be. -/
def spec : Shape :=
  record
    [("activeDeadlineSeconds", int64), ("affinity", affinity),
      ("automountServiceAccountToken", truth), ("containers", list container),
      ("dnsConfig",
        record
          [("nameservers", list text),
            ("options", list (record [("name", text), ("value", text)])),
            ("searches", list text)]),
      ("dnsPolicy", text), ("enableServiceLinks", truth), ("ephemeralContainers", list container),
      ("hostAliases", list (record [("hostnames", list text), ("ip", text)])),
      ("hostIPC", truth), ("hostNetwork", truth), ("hostPID", truth), ("hostUsers", truth),
      ("hostname", text), ("imagePullSecrets", list localReference),
      ("initContainers", list container), ("nodeName", text), ("nodeSelector", map text),
      ("os", record [("name", text)]), ("overhead", map text), ("preemptionPolicy", text),
      ("priority", int32), ("priorityClassName", text),
      ("readinessGates", list (record [("conditionType", text)])),
      ("resourceClaims",
        list (record
          [("name", text),
            ("source",
              record [("resourceClaimName", text), ("resourceClaimTemplateName", text)])])),
      ("restartPolicy", text), ("runtimeClassName", text), ("schedulerName", text),
      ("schedulingGates", list (record [("name", text)])),
      ("securityContext", podSecurityContext), ("serviceAccount", text),
      ("serviceAccountName", text), ("setHostnameAsFQDN", truth),
      ("shareProcessNamespace", truth), ("subdomain", text),
      ("terminationGracePeriodSeconds", int64), ("tolerations", list toleration),
      ("topologySpreadConstraints", list spread), ("volumes", list volume)]

/-- A state of a container. -/
def containerState : Shape :=
  record
    [("running", record [("startedAt", text)]),
      ("terminated",
        record
          [("containerID", text), ("exitCode", int32), ("finishedAt", text), ("message", text),
            ("reason", text), ("signal", int32), ("startedAt", text)]),
      ("waiting", record [("message", text), ("reason", text)])]

/-- What a container is. -/
def containerStatus : Shape :=
  record
    [("allocatedResources", map text), ("containerID", text), ("image", text),
      ("imageID", text), ("lastState", containerState), ("name", text), ("ready", truth),
      ("resources", resources), ("restartCount", int32), ("started", truth),
      ("state", containerState)]

/-- What a pod is. -/
def status : Shape :=
  record
    [("conditions",
        list (record
          [("lastProbeTime", text), ("lastTransitionTime", text), ("message", text),
            ("reason", text), ("status", text), ("type", text)])),
      ("containerStatuses", list containerStatus),
      ("ephemeralContainerStatuses", list containerStatus), ("hostIP", text),
      ("hostIPs", list (record [("ip", text)])),
      ("initContainerStatuses", list containerStatus), ("message", text),
      ("nominatedNodeName", text), ("phase", text), ("podIP", text),
      ("podIPs", list (record [("ip", text)])), ("qosClass", text), ("reason", text),
      ("resize", text),
      ("resourceClaimStatuses",
        list (record [("name", text), ("resourceClaimName", text)])),
      ("startTime", text)]

/-- A pod as the API server has it. -/
def pod : Shape :=
  Object.ofKind "Pod" [("spec", spec), ("status", status)]

end PodShape

end StorageGauges
