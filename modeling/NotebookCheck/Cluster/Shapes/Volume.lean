import NotebookCheck.Cluster.Shapes.Container

namespace NotebookCheck.Cluster

open Shape

def keysToPaths : Shape :=
  list (entity "KeyToPath" [("key", text), ("mode", int), ("path", text)])

def downwardFiles : Shape :=
  list (entity "DownwardAPIVolumeFile"
    [("fieldRef", fieldSelector), ("mode", int), ("path", text),
      ("resourceFieldRef", resourceFieldSelector)])

def claimTemplate : Shape :=
  entity "PersistentVolumeClaimTemplate"
    [("metadata", objectMeta),
      ("spec", entity "PersistentVolumeClaimSpec"
        [("accessModes", texts),
          ("dataSource", entity "TypedLocalObjectReference"
            [("apiGroup", text), ("kind", text), ("name", text)]),
          ("dataSourceRef", entity "TypedObjectReference"
            [("apiGroup", text), ("kind", text), ("name", text), ("namespace", text)]),
          ("resources", entity "VolumeResourceRequirements"
            [("limits", quantities), ("requests", quantities)]),
          ("selector", labelSelector), ("storageClassName", text),
          ("volumeAttributesClassName", text), ("volumeMode", text), ("volumeName", text)])]

def volumeProjection : Shape :=
  entity "VolumeProjection"
    [("clusterTrustBundle", entity "ClusterTrustBundleProjection"
        [("labelSelector", labelSelector), ("name", text), ("optional", flag), ("path", text),
          ("signerName", text)]),
      ("configMap", entity "ConfigMapProjection"
        [("items", keysToPaths), ("name", text), ("optional", flag)]),
      ("downwardAPI", entity "DownwardAPIProjection" [("items", downwardFiles)]),
      ("secret", entity "SecretProjection"
        [("items", keysToPaths), ("name", text), ("optional", flag)]),
      ("serviceAccountToken", entity "ServiceAccountTokenProjection"
        [("audience", text), ("expirationSeconds", long), ("path", text)])]

def volume : Shape :=
  entity "Volume"
    [("awsElasticBlockStore", entity "AWSElasticBlockStoreVolumeSource"
        [("fsType", text), ("partition", int), ("readOnly", flag), ("volumeID", text)]),
      ("azureDisk", entity "AzureDiskVolumeSource"
        [("cachingMode", text), ("diskName", text), ("diskURI", text), ("fsType", text),
          ("kind", text), ("readOnly", flag)]),
      ("azureFile", entity "AzureFileVolumeSource"
        [("readOnly", flag), ("secretName", text), ("shareName", text)]),
      ("cephfs", entity "CephFSVolumeSource"
        [("monitors", texts), ("path", text), ("readOnly", flag), ("secretFile", text),
          ("secretRef", localReference), ("user", text)]),
      ("cinder", entity "CinderVolumeSource"
        [("fsType", text), ("readOnly", flag), ("secretRef", localReference), ("volumeID", text)]),
      ("configMap", entity "ConfigMapVolumeSource"
        [("defaultMode", int), ("items", keysToPaths), ("name", text), ("optional", flag)]),
      ("csi", entity "CSIVolumeSource"
        [("driver", text), ("fsType", text), ("nodePublishSecretRef", localReference),
          ("readOnly", flag), ("volumeAttributes", labels)]),
      ("downwardAPI", entity "DownwardAPIVolumeSource"
        [("defaultMode", int), ("items", downwardFiles)]),
      ("emptyDir", entity "EmptyDirVolumeSource" [("medium", text), ("sizeLimit", text)]),
      ("ephemeral", entity "EphemeralVolumeSource" [("volumeClaimTemplate", claimTemplate)]),
      ("fc", entity "FCVolumeSource"
        [("fsType", text), ("lun", int), ("readOnly", flag), ("targetWWNs", texts),
          ("wwids", texts)]),
      ("flexVolume", entity "FlexVolumeSource"
        [("driver", text), ("fsType", text), ("options", labels), ("readOnly", flag),
          ("secretRef", localReference)]),
      ("flocker", entity "FlockerVolumeSource" [("datasetName", text), ("datasetUUID", text)]),
      ("gcePersistentDisk", entity "GCEPersistentDiskVolumeSource"
        [("fsType", text), ("partition", int), ("pdName", text), ("readOnly", flag)]),
      ("gitRepo", entity "GitRepoVolumeSource"
        [("directory", text), ("repository", text), ("revision", text)]),
      ("glusterfs", entity "GlusterfsVolumeSource"
        [("endpoints", text), ("path", text), ("readOnly", flag)]),
      ("hostPath", entity "HostPathVolumeSource" [("path", text), ("type", text)]),
      ("image", entity "ImageVolumeSource" [("pullPolicy", text), ("reference", text)]),
      ("iscsi", entity "ISCSIVolumeSource"
        [("chapAuthDiscovery", flag), ("chapAuthSession", flag), ("fsType", text),
          ("initiatorName", text), ("iqn", text), ("iscsiInterface", text), ("lun", int),
          ("portals", texts), ("readOnly", flag), ("secretRef", localReference),
          ("targetPortal", text)]),
      ("name", text),
      ("nfs", entity "NFSVolumeSource" [("path", text), ("readOnly", flag), ("server", text)]),
      ("persistentVolumeClaim", entity "PersistentVolumeClaimVolumeSource"
        [("claimName", text), ("readOnly", flag)]),
      ("photonPersistentDisk", entity "PhotonPersistentDiskVolumeSource"
        [("fsType", text), ("pdID", text)]),
      ("portworxVolume", entity "PortworxVolumeSource"
        [("fsType", text), ("readOnly", flag), ("volumeID", text)]),
      ("projected", entity "ProjectedVolumeSource"
        [("defaultMode", int), ("sources", list volumeProjection)]),
      ("quobyte", entity "QuobyteVolumeSource"
        [("group", text), ("readOnly", flag), ("registry", text), ("tenant", text),
          ("user", text), ("volume", text)]),
      ("rbd", entity "RBDVolumeSource"
        [("fsType", text), ("image", text), ("keyring", text), ("monitors", texts),
          ("pool", text), ("readOnly", flag), ("secretRef", localReference), ("user", text)]),
      ("scaleIO", entity "ScaleIOVolumeSource"
        [("fsType", text), ("gateway", text), ("protectionDomain", text), ("readOnly", flag),
          ("secretRef", localReference), ("sslEnabled", flag), ("storageMode", text),
          ("storagePool", text), ("system", text), ("volumeName", text)]),
      ("secret", entity "SecretVolumeSource"
        [("defaultMode", int), ("items", keysToPaths), ("optional", flag),
          ("secretName", text)]),
      ("storageos", entity "StorageOSVolumeSource"
        [("fsType", text), ("readOnly", flag), ("secretRef", localReference),
          ("volumeName", text), ("volumeNamespace", text)]),
      ("vsphereVolume", entity "VsphereVirtualDiskVolumeSource"
        [("fsType", text), ("storagePolicyID", text), ("storagePolicyName", text),
          ("volumePath", text)])]

end NotebookCheck.Cluster
