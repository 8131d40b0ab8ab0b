import NotebookCheck.Shape

namespace NotebookCheck.Cluster

open Shape

def texts : Shape := list text

def labels : Shape := map text

def quantities : Shape := map text

def managedFieldsEntry : Shape :=
  entity "ManagedFieldsEntry"
    [("apiVersion", text), ("fieldsType", text), ("fieldsV1", anything), ("manager", text),
      ("operation", text), ("subresource", text), ("time", time)]

def ownerReference : Shape :=
  entity "OwnerReference"
    [("apiVersion", text), ("blockOwnerDeletion", flag), ("controller", flag), ("kind", text),
      ("name", text), ("uid", text)]

def objectMeta : Shape :=
  entity "ObjectMeta"
    [("annotations", labels), ("creationTimestamp", time), ("deletionGracePeriodSeconds", long),
      ("deletionTimestamp", time), ("finalizers", texts), ("generateName", text),
      ("generation", long), ("labels", labels), ("managedFields", list managedFieldsEntry),
      ("name", text), ("namespace", text), ("ownerReferences", list ownerReference),
      ("resourceVersion", text), ("selfLink", text), ("uid", text)]

def listMeta : Shape :=
  entity "ListMeta"
    [("continue", text), ("remainingItemCount", long), ("resourceVersion", text),
      ("selfLink", text)]

def labelSelector : Shape :=
  entity "LabelSelector"
    [("matchExpressions", list (entity "LabelSelectorRequirement"
        [("key", text), ("operator", text), ("values", texts)])),
      ("matchLabels", labels)]

/-- An object of a kind, which it may name itself, with fields that may all be absent or null. -/
def resource (kind : String) (fields : List (String × Shape)) : Shape :=
  loose kind ([("apiVersion", constant "v1"), ("kind", constant kind)] ++
    fields.map fun (f : String × Shape) => (f.1, Shape.optional f.2))

def statusDetails : Shape :=
  entity "StatusDetails"
    [("causes", list (entity "StatusCause" [("field", text), ("message", text), ("reason", text)])),
      ("group", text), ("kind", text), ("name", text), ("retryAfterSeconds", int), ("uid", text)]

def status : Shape :=
  resource "Status"
    [("code", int), ("details", statusDetails), ("message", text), ("metadata", listMeta),
      ("reason", text), ("status", text)]

def refusal : Shape :=
  strict "ErrorResponse"
    [("status", text), ("message", defaulted text), ("reason", defaulted text), ("code", short)]

end NotebookCheck.Cluster
