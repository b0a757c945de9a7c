import ItemTable.Store.Remote.Shape

set_option autoImplicit false

/-! # Outputs of operations

The shapes of the replies to each operation: of its output, and of the failures that it is known to
report. -/

namespace ItemTable

namespace Remote

namespace Shape

/-- The capacity that a part of a table used. -/
def capacity : Shape :=
  .record [("CapacityUnits", .decimal), ("ReadCapacityUnits", .decimal),
    ("WriteCapacityUnits", .decimal)]

/-- The capacity that a call used. -/
def consumed : Shape :=
  .record [("TableName", .text), ("CapacityUnits", .decimal), ("ReadCapacityUnits", .decimal),
    ("WriteCapacityUnits", .decimal), ("Table", capacity),
    ("LocalSecondaryIndexes", .table capacity), ("GlobalSecondaryIndexes", .table capacity)]

/-- The estimated size of the items under one partition. -/
def collection : Shape :=
  .record [("ItemCollectionKey", item), ("SizeEstimateRangeGB", .list .decimal)]

/-- The keys of one table in a batch of reads. -/
def keys : Shape :=
  .record [("Keys", .list item), ("AttributesToGet", .list .text), ("ConsistentRead", .flag),
    ("ProjectionExpression", .text), ("ExpressionAttributeNames", .table .text)]

/-- An entry of a batch of writes. -/
def entry : Shape :=
  .record [("PutRequest", .record [("Item", item)]), ("DeleteRequest", .record [("Key", item)])]

/-- The elements of a key. -/
def keySchema : Shape := .list (.record [("AttributeName", .text), ("KeyType", .text)])

/-- The attributes that an index holds besides its key. -/
def projection : Shape :=
  .record [("ProjectionType", .text), ("NonKeyAttributes", .list .text)]

/-- The throughput that is provided. -/
def provisioned : Shape :=
  .record [("LastIncreaseDateTime", .instant), ("LastDecreaseDateTime", .instant),
    ("NumberOfDecreasesToday", .whole 64), ("ReadCapacityUnits", .whole 64),
    ("WriteCapacityUnits", .whole 64)]

/-- The limits of throughput on demand. -/
def onDemand : Shape :=
  .record [("MaxReadRequestUnits", .whole 64), ("MaxWriteRequestUnits", .whole 64)]

/-- The throughput that is kept ready. -/
def warm : Shape :=
  .record [("ReadUnitsPerSecond", .whole 64), ("WriteUnitsPerSecond", .whole 64),
    ("Status", .text)]

/-- A local secondary index. -/
def localIndex : Shape :=
  .record [("IndexName", .text), ("KeySchema", keySchema), ("Projection", projection),
    ("IndexSizeBytes", .whole 64), ("ItemCount", .whole 64), ("IndexArn", .text)]

/-- A global secondary index. -/
def globalIndex : Shape :=
  .record [("IndexName", .text), ("KeySchema", keySchema), ("Projection", projection),
    ("IndexStatus", .text), ("Backfilling", .flag), ("ProvisionedThroughput", provisioned),
    ("IndexSizeBytes", .whole 64), ("ItemCount", .whole 64), ("IndexArn", .text),
    ("OnDemandThroughput", onDemand), ("WarmThroughput", warm)]

/-- The class of a table. -/
def tableClass : Shape := .record [("TableClass", .text), ("LastUpdateDateTime", .instant)]

/-- Provided throughput that differs for a replica. -/
def provisionedOverride : Shape := .record [("ReadCapacityUnits", .whole 64)]

/-- Limits on demand that differ for a replica. -/
def onDemandOverride : Shape := .record [("MaxReadRequestUnits", .whole 64)]

/-- A replica of a table. -/
def replica : Shape :=
  .record [("RegionName", .text), ("ReplicaStatus", .text), ("ReplicaArn", .text),
    ("ReplicaStatusDescription", .text), ("ReplicaStatusPercentProgress", .text),
    ("KMSMasterKeyId", .text), ("ProvisionedThroughputOverride", provisionedOverride),
    ("OnDemandThroughputOverride", onDemandOverride), ("WarmThroughput", warm),
    ("GlobalSecondaryIndexes", .list (.record [("IndexName", .text),
      ("ProvisionedThroughputOverride", provisionedOverride),
      ("OnDemandThroughputOverride", onDemandOverride), ("WarmThroughput", warm)])),
    ("ReplicaInaccessibleDateTime", .instant), ("ReplicaTableClassSummary", tableClass),
    ("GlobalTableSettingsReplicationMode", .text)]

/-- The description of a table. -/
def description : Shape :=
  .record [
    ("AttributeDefinitions",
      .list (.record [("AttributeName", .text), ("AttributeType", .text)])),
    ("TableName", .text), ("KeySchema", keySchema), ("TableStatus", .text),
    ("CreationDateTime", .instant), ("ProvisionedThroughput", provisioned),
    ("TableSizeBytes", .whole 64), ("ItemCount", .whole 64), ("TableArn", .text),
    ("TableId", .text),
    ("BillingModeSummary",
      .record [("BillingMode", .text), ("LastUpdateToPayPerRequestDateTime", .instant)]),
    ("LocalSecondaryIndexes", .list localIndex), ("GlobalSecondaryIndexes", .list globalIndex),
    ("StreamSpecification", .record [("StreamEnabled", .flag), ("StreamViewType", .text)]),
    ("LatestStreamLabel", .text), ("LatestStreamArn", .text), ("GlobalTableVersion", .text),
    ("Replicas", .list replica),
    ("GlobalTableWitnesses",
      .list (.record [("RegionName", .text), ("WitnessStatus", .text)])),
    ("GlobalTableSettingsReplicationMode", .text),
    ("RestoreSummary",
      .record [("SourceBackupArn", .text), ("SourceTableArn", .text),
        ("RestoreDateTime", .instant), ("RestoreInProgress", .flag)]),
    ("SSEDescription",
      .record [("Status", .text), ("SSEType", .text), ("KMSMasterKeyArn", .text),
        ("InaccessibleEncryptionDateTime", .instant)]),
    ("ArchivalSummary",
      .record [("ArchivalDateTime", .instant), ("ArchivalReason", .text),
        ("ArchivalBackupArn", .text)]),
    ("TableClassSummary", tableClass), ("DeletionProtectionEnabled", .flag),
    ("OnDemandThroughput", onDemand), ("WarmThroughput", warm),
    ("MultiRegionConsistency", .text)]

/-- The output of an operation that reads one page. -/
def page : List (String × Shape) :=
  [("Items", .list item), ("Count", .whole 32), ("ScannedCount", .whole 32),
    ("LastEvaluatedKey", item), ("ConsumedCapacity", consumed)]

/-- The output of an operation that writes one item. -/
def written : List (String × Shape) :=
  [("Attributes", item), ("ConsumedCapacity", consumed), ("ItemCollectionMetrics", collection)]

/-- The members of an operation's output. -/
def output (operation : String) : List (String × Shape) :=
  match operation with
  | "GetItem" => [("Item", item), ("ConsumedCapacity", consumed)]
  | "PutItem" | "UpdateItem" | "DeleteItem" => written
  | "Query" | "Scan" => page
  | "BatchGetItem" =>
    [("Responses", .table (.list item)), ("UnprocessedKeys", .table keys),
      ("ConsumedCapacity", .list consumed)]
  | "BatchWriteItem" =>
    [("UnprocessedItems", .table (.list entry)),
      ("ItemCollectionMetrics", .table (.list collection)), ("ConsumedCapacity", .list consumed)]
  | "DescribeTable" => [("Table", description)]
  | _ => []

/-- The codes of failures that every operation reports. -/
def commonCodes : List String :=
  ["InternalServerError", "InvalidEndpointException", "ResourceNotFoundException"]

/-- The codes of failures that an operation on items reports when it is called too often. -/
def throttlingCodes : List String :=
  ["ProvisionedThroughputExceededException", "RequestLimitExceeded", "ThrottlingException"]

/-- The codes of failures that an operation reports and that a reply describes further. -/
def knownCodes (operation : String) : List String :=
  match operation with
  | "DescribeTable" => commonCodes
  | "PutItem" | "UpdateItem" | "DeleteItem" =>
    commonCodes ++ throttlingCodes
      ++ ["ConditionalCheckFailedException", "ItemCollectionSizeLimitExceededException",
        "ReplicatedWriteConflictException", "TransactionConflictException"]
  | "BatchWriteItem" =>
    commonCodes ++ throttlingCodes
      ++ ["ItemCollectionSizeLimitExceededException", "ReplicatedWriteConflictException"]
  | _ => commonCodes ++ throttlingCodes

/-- Why a call came too often. -/
def reasons : Shape := .list (.record [("reason", .text), ("resource", .text)])

/-- The members of a reply that reports a failure under a known code. -/
def failure (code : String) : List (String × Shape) :=
  match code with
  | "ConditionalCheckFailedException" => [("message", .text), ("Item", item)]
  | "ProvisionedThroughputExceededException" | "RequestLimitExceeded" =>
    [("message", .text), ("ThrottlingReasons", reasons)]
  | "ThrottlingException" => [("message", .text), ("throttlingReasons", reasons)]
  | "InvalidEndpointException" => [("Message", .text)]
  | _ => [("message", .text)]

end Shape

end Remote

end ItemTable
