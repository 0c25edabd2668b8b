/-
  File:      MatriXpost/Lifecycle/FrontEnds.lean
  Subject:   THE FRONT ENDS OF THE LIFECYCLE STORE: the daemon's routes, the CLI's commands, the MCP
             tools and the desktop's operations, as programs that call the repository.

  Sources: `matrixpostd/src/api.rs`, `matrixpost-cli/src/lifecycle.rs` with `parse_attributes` of
  `query.rs`, `matrixpost-mcp/src/service.rs`, `matrixpost-desktop/src/service.rs` with
  `projection.rs` and `lifecycle_error`. The clock a handler reads is an argument of its request.

  * `Handler α`: a handler, which calls operations of the repository and answers;
  * `FrontRequest.handler` is the handler of a request, `FrontRequest.intent` the one operation the
    request is for.
-/
import MatriXpost.Lib.Simulation
import MatriXpost.Lifecycle.Register
import MatriXpost.Lifecycle.Wire

namespace MatriXpost

/-! ## 1. Handlers -/

/-- A handler: a program of operations of the repository. -/
abbrev Handler (α : Type) := Prog BusinessCall BusinessCall.Reply α

namespace Handler

def call (c : BusinessCall) : Handler c.Reply := Prog.perform c

/-- `insert_business_object`, `insert_ledger_entry`, `insert_content_attribution` and
    `insert_business_relation`: the checks, and the INSERT. -/
def insert (record : LifecycleRecord) : Handler (BusinessCall.insert record).Reply := do
  match ← call (.check record) with
  | .error e => pure (.error e)
  | .ok _ => call (.insert record)

end Handler

/-! ## 2. The daemon -/

namespace Api

def lifecycleError : ApiResponse Json := invalidReply "lifecycle request could not be completed"

def objectNotFound : ApiResponse Json :=
  apiResponse 404 "not_found" .null "business object was not found"

/-- The `Err` arms of the routes that tell an unknown object apart. -/
def objectError : DomainError → ApiResponse Json
  | .unknownBusinessObject _ => objectNotFound
  | _ => lifecycleError

/-- `require_business_object`, and the rest of a route. -/
def requireBusinessObject (id : String) (rest : Handler (ApiResponse Json)) :
    Handler (ApiResponse Json) := do
  match ← Handler.call (.object id) with
  | .ok (some _) => rest
  | .ok none => pure objectNotFound
  | .error _ => pure lifecycleError

/-- An operation that answers with status 200. -/
def read (c : BusinessCall) (data : c.Value → Json) (message : String)
    (failed : DomainError → ApiResponse Json) : Handler (ApiResponse Json) := do
  match ← Handler.call c with
  | .ok found => pure (apiResponse 200 "ok" (data found) message)
  | .error e => pure (failed e)

/-- An insert that answers with status 201. -/
def create (record : LifecycleRecord) (data : Json) (message : String)
    (failed : DomainError → ApiResponse Json) : Handler (ApiResponse Json) := do
  match ← Handler.insert record with
  | .ok _ => pure (apiResponse 201 "created" data message)
  | .error e => pure (failed e)

def listBusinessObjects : Handler (ApiResponse Json) :=
  read .objects (fun objects => .array (objects.map BusinessObject.toJson))
    "business objects listed" fun _ => lifecycleError

def getBusinessObject (id : String) : Handler (ApiResponse Json) := do
  match ← Handler.call (.object id) with
  | .ok (some object) => pure (apiResponse 200 "ok" object.toJson "business object retrieved")
  | .ok none => pure objectNotFound
  | .error _ => pure lifecycleError

def listLedgerEntries (id : String) : Handler (ApiResponse Json) :=
  requireBusinessObject id <|
    read (.ledgerEntries id) (fun entries => .array (entries.map LedgerEntry.toJson))
      "ledger entries listed" fun _ => lifecycleError

def listContentAttributions (id : String) : Handler (ApiResponse Json) :=
  requireBusinessObject id <|
    read (.contentAttributions id)
      (fun attributions => .array (attributions.map ContentAttribution.toJson))
      "content attributions listed" fun _ => lifecycleError

def listBusinessRelations (id : String) : Handler (ApiResponse Json) :=
  requireBusinessObject id <|
    read (.businessRelations id) (fun relations => .array (relations.map BusinessRelation.toJson))
      "business relations listed" objectError

section Bodies
variable (readTime : String → Option DateTime)

def createBusinessObject (body : Body) : Handler (ApiResponse Json) :=
  match parseBusinessObject readTime body with
  | .error response => pure response
  | .ok object =>
    create (.object object) object.toJson "business object created" fun _ => lifecycleError

def transitionBusinessObject (id : String) (body : Body) : Handler (ApiResponse Json) :=
  match parseTransition readTime body with
  | .error response => pure response
  | .ok request =>
    read (.transition id request.expectedRevision request.lifecycleStatus request.approvalStatus
      request.updatedAt) BusinessObject.toJson "business object transitioned" objectError

def createLedgerEntry (id : String) (body : Body) : Handler (ApiResponse Json) :=
  match parseLedgerEntry readTime body with
  | .error response => pure response
  | .ok entry =>
    if entry.businessObjectId ≠ id then
      pure (invalidReply "ledger entry business_object_id must match the path")
    else requireBusinessObject id <|
      create (.ledgerEntry entry) entry.toJson "ledger entry created" fun _ => lifecycleError

def createContentAttribution (id : String) (body : Body) : Handler (ApiResponse Json) :=
  match parseContentAttribution readTime body with
  | .error response => pure response
  | .ok attribution =>
    if attribution.businessObjectId ≠ id then
      pure (invalidReply "content attribution business_object_id must match the path")
    else requireBusinessObject id <|
      create (.attribution attribution) attribution.toJson "content attribution created"
        fun _ => lifecycleError

/-- `request.created_at.unwrap_or_else(chrono::Utc::now)` among the fields. -/
def CreateBusinessRelationRequest.relation (request : CreateBusinessRelationRequest)
    (now : DateTime) : BusinessRelation :=
  ⟨request.id, request.sourceBusinessObjectId, request.targetBusinessObjectId,
    request.relationType, request.attributes, request.createdAt.getD now⟩

def createBusinessRelation (id : String) (body : Body) (now : DateTime) :
    Handler (ApiResponse Json) :=
  match parseBusinessRelation readTime body with
  | .error response => pure response
  | .ok request =>
    if request.sourceBusinessObjectId ≠ id then
      pure (invalidReply "business relation sourceBusinessObjectId must match the path")
    else
      let relation := CreateBusinessRelationRequest.relation request now
      requireBusinessObject id <|
        create (.relation relation) relation.toJson "business relation created" objectError

end Bodies

/-- The lifecycle routes, with what they extract. -/
inductive Request where
  | listBusinessObjects
  | createBusinessObject (body : Body)
  | getBusinessObject (id : String)
  | transitionBusinessObject (id : String) (body : Body)
  | listLedgerEntries (id : String)
  | createLedgerEntry (id : String) (body : Body)
  | listContentAttributions (id : String)
  | createContentAttribution (id : String) (body : Body)
  | listBusinessRelations (id : String)
  | createBusinessRelation (id : String) (body : Body) (now : DateTime)

def Request.handler (readTime : String → Option DateTime) : Request → Handler (ApiResponse Json)
  | listBusinessObjects => Api.listBusinessObjects
  | createBusinessObject body => Api.createBusinessObject readTime body
  | getBusinessObject id => Api.getBusinessObject id
  | transitionBusinessObject id body => Api.transitionBusinessObject readTime id body
  | listLedgerEntries id => Api.listLedgerEntries id
  | createLedgerEntry id body => Api.createLedgerEntry readTime id body
  | listContentAttributions id => Api.listContentAttributions id
  | createContentAttribution id body => Api.createContentAttribution readTime id body
  | listBusinessRelations id => Api.listBusinessRelations id
  | createBusinessRelation id body now => Api.createBusinessRelation readTime id body now

end Api

/-! ## 3. The CLI -/

namespace Cli

def requireNonEmpty (field value : String) : Except String Unit :=
  if isBlank value then .error (field ++ " must not be empty") else .ok ()

/-- `for (field, value) in [..] { require_non_empty(field, value)?; }`. -/
def requireAll : List (String × String) → Except String Unit
  | [] => .ok ()
  | (field, value) :: rest => do
    requireNonEmpty field value
    requireAll rest

/-- `for (field, value) in [..] { require_optional_non_empty(field, value)?; }`. -/
def requireAllOptional : List (String × Option String) → Except String Unit
  | [] => .ok ()
  | (_, none) :: rest => requireAllOptional rest
  | (field, some value) :: rest => do
    requireNonEmpty field value
    requireAllOptional rest

/-- The loop of `parse_attributes` over the map built so far. -/
def parseAttributesFrom (attributes : Attributes) : List String → Except String Attributes
  | [] => .ok attributes
  | value :: rest =>
    match splitOnce '=' value with
    | none => .error "attribute must use KEY=VALUE"
    | some (key, value) =>
      if isBlank key || !key.toList.all isAttributeKeyChar then
        .error ("attribute key is invalid: " ++ key)
      else if isBlank value then .error ("attribute value must not be empty: " ++ key)
      else if attributes.entries.any (fun e => e.1 = key) then
        .error ("attribute key is repeated: " ++ key)
      else parseAttributesFrom (attributes.insert key value) rest

def parseAttributes (values : List String) : Except String Attributes :=
  parseAttributesFrom SortedMap.empty values

/-- `lifecycle_input_error`. -/
def lifecycleInputError (error : String) : Emitted Json := emit 2 .null (some error)

/-- `lifecycle_repository_error`. -/
def lifecycleRepositoryError (error : DomainError) : Emitted Json :=
  emit 4 .null (some error.text)

structure ObjectCreateArgs where
  id : String
  kind : String
  displayName : String
  externalId : Option String
  lifecycleStatus : BusinessObjectStatus
  approvalStatus : ApprovalStatus
  attributes : List String

structure LedgerAddArgs where
  id : String
  businessObjectId : String
  direction : LedgerDirection
  category : String
  amountMinor : Int
  currency : String
  approvalStatus : ApprovalStatus
  occurredAt : Option DateTime
  counterparty : Option String
  reference : Option String
  description : Option String

structure AttributionAddArgs where
  businessObjectId : String
  historyId : String
  createdAt : Option DateTime

structure RelationAddArgs where
  id : String
  sourceBusinessObjectId : String
  targetBusinessObjectId : String
  relationType : String
  attributes : List String

structure TransitionArgs where
  id : String
  expectedRevision : Nat
  lifecycleStatus : BusinessObjectStatus
  approvalStatus : ApprovalStatus
  updatedAt : Option DateTime

/-- The subcommands of `lifecycle`; those of `object`, `ledger`, `attribution` and `relation`
    stand beside the others. -/
inductive LifecycleCommand where
  | objects
  | objectGet (id : String)
  | objectCreate (args : ObjectCreateArgs)
  | ledgerList (businessObjectId : String)
  | ledgerAdd (args : LedgerAddArgs)
  | attributionList (businessObjectId : String)
  | attributionAdd (args : AttributionAddArgs)
  | relationList (businessObjectId : String)
  | relationAdd (args : RelationAddArgs)
  | transition (args : TransitionArgs)

def ObjectCreateArgs.object (args : ObjectCreateArgs) (attributes : Attributes) (now : DateTime) :
    BusinessObject :=
  ⟨args.id, args.kind, args.externalId, args.displayName, args.lifecycleStatus,
    args.approvalStatus, 0, attributes, now, now⟩

def LedgerAddArgs.entry (args : LedgerAddArgs) (now : DateTime) : LedgerEntry :=
  ⟨args.id, args.businessObjectId, args.direction, args.category, args.amountMinor,
    args.currency, args.occurredAt.getD now, args.approvalStatus, args.counterparty,
    args.reference, args.description, now⟩

def AttributionAddArgs.attribution (args : AttributionAddArgs) (now : DateTime) :
    ContentAttribution :=
  ⟨args.businessObjectId, args.historyId, args.createdAt.getD now⟩

def RelationAddArgs.relation (args : RelationAddArgs) (attributes : Attributes) (now : DateTime) :
    BusinessRelation :=
  ⟨args.id, args.sourceBusinessObjectId, args.targetBusinessObjectId, args.relationType,
    attributes, now⟩

def TransitionArgs.call (args : TransitionArgs) (now : DateTime) : BusinessCall :=
  .transition args.id args.expectedRevision args.lifecycleStatus args.approvalStatus
    (args.updatedAt.getD now)

/-- An operation whose answer is emitted under a name. -/
def read (c : BusinessCall) (name : String) (data : c.Value → Json) : Handler (Emitted Json) := do
  match ← Handler.call c with
  | .ok found => pure (emit 0 (.object [(name, data found)]) none)
  | .error e => pure (lifecycleRepositoryError e)

/-- An insert whose record is emitted under a name. -/
def create (record : LifecycleRecord) (name : String) (data : Json) : Handler (Emitted Json) := do
  match ← Handler.insert record with
  | .ok _ => pure (emit 0 (.object [(name, data)]) none)
  | .error e => pure (lifecycleRepositoryError e)

/-- `object_or_not_found`, and the rest of a command. -/
def objectOrNotFound (id : String) (rest : BusinessObject → Handler (Emitted Json)) :
    Handler (Emitted Json) :=
  match requireNonEmpty "object id" id with
  | .error e => pure (lifecycleInputError e)
  | .ok _ => do
    match ← Handler.call (.object id) with
    | .ok (some object) => rest object
    | .ok none => pure (emit 4 .null (some "business object was not found"))
    | .error e => pure (lifecycleRepositoryError e)

/-- The input errors of a command, and the rest of it. -/
def checked {α : Type} (checks : Except String α) (rest : α → Handler (Emitted Json)) :
    Handler (Emitted Json) :=
  match checks with
  | .error e => pure (lifecycleInputError e)
  | .ok a => rest a

def ObjectCreateArgs.checks (args : ObjectCreateArgs) : Except String Attributes := do
  requireAll [("object id", args.id), ("object kind", args.kind),
    ("object display name", args.displayName)]
  requireAllOptional [("object external id", args.externalId)]
  parseAttributes args.attributes

def LedgerAddArgs.checks (args : LedgerAddArgs) : Except String Unit := do
  requireAll [("ledger entry id", args.id), ("object id", args.businessObjectId),
    ("ledger category", args.category)]
  requireAllOptional [("ledger counterparty", args.counterparty),
    ("ledger reference", args.reference), ("ledger description", args.description)]

def AttributionAddArgs.checks (args : AttributionAddArgs) : Except String Unit :=
  requireAll [("object id", args.businessObjectId), ("history id", args.historyId)]

def RelationAddArgs.checks (args : RelationAddArgs) : Except String Attributes := do
  requireAll [("business relation id", args.id),
    ("source object id", args.sourceBusinessObjectId),
    ("target object id", args.targetBusinessObjectId),
    ("business relation type", args.relationType)]
  parseAttributes args.attributes

/-- `execute_lifecycle`. -/
def executeLifecycle (command : LifecycleCommand) (now : DateTime) : Handler (Emitted Json) :=
  match command with
  | .objects =>
    read .objects "objects" fun objects => .array (objects.map BusinessObject.toJson)
  | .objectGet id =>
    objectOrNotFound id fun object => pure (emit 0 (.object [("object", object.toJson)]) none)
  | .objectCreate args =>
    checked args.checks fun attributes =>
      create (.object (args.object attributes now)) "object" (args.object attributes now).toJson
  | .ledgerList id =>
    objectOrNotFound id fun _ =>
      read (.ledgerEntries id) "ledger_entries" fun entries =>
        .array (entries.map LedgerEntry.toJson)
  | .ledgerAdd args =>
    checked args.checks fun _ =>
      create (.ledgerEntry (args.entry now)) "ledger_entry" (args.entry now).toJson
  | .attributionList id =>
    objectOrNotFound id fun _ =>
      read (.contentAttributions id) "content_attributions" fun attributions =>
        .array (attributions.map ContentAttribution.toJson)
  | .attributionAdd args =>
    checked args.checks fun _ =>
      create (.attribution (args.attribution now)) "content_attribution"
        (args.attribution now).toJson
  | .relationList id =>
    objectOrNotFound id fun _ =>
      read (.businessRelations id) "business_relations" fun relations =>
        .array (relations.map BusinessRelation.toJson)
  | .relationAdd args =>
    checked args.checks fun attributes =>
      create (.relation (args.relation attributes now)) "business_relation"
        (args.relation attributes now).toJson
  | .transition args =>
    checked (requireNonEmpty "object id" args.id) fun _ =>
      read (args.call now) "object" BusinessObject.toJson

end Cli

/-! ## 4. The MCP service -/

/-- A tool's result: structured content, or a structured error. -/
structure CallToolResult where
  structuredContent : Json
  isError : Bool

def structured (value : Json) : CallToolResult := ⟨value, false⟩

/-- `tool_error`: a `ToolFailure`. -/
def toolError (code message : String) : CallToolResult :=
  ⟨.object [("outcome", .string "rejected"), ("code", .string code), ("message", .string message)],
    true⟩

/-- The code in `lifecycle_tool_error`. -/
def lifecycleToolCode : DomainError → String
  | .unknownBusinessObject _ | .unknownHistoryRecord _ => "not_found"
  | .database _ | .serialization _ | .io _ | .repositoryPoisoned | .corruptState _
  | .concurrentBusinessObjectUpdate _ | .businessObjectRevisionOverflow _ => "failed"
  | _ => "invalid_input"

def lifecycleToolError (error : DomainError) : CallToolResult :=
  let code := lifecycleToolCode error
  let message :=
    if code = "not_found" then "the requested lifecycle record does not exist"
    else if code = "failed" then "the lifecycle operation could not be completed"
    else "the lifecycle input is invalid or conflicts with existing state"
  toolError code message

namespace Mcp

structure CreateBusinessObjectInput where
  id : String
  kind : String
  displayName : String
  externalId : Option String
  lifecycleStatus : Option BusinessObjectStatus
  approvalStatus : Option ApprovalStatus
  attributes : Option Attributes

structure AppendLedgerEntryInput where
  id : String
  businessObjectId : String
  direction : LedgerDirection
  category : String
  amountMinor : Int
  currency : String
  approvalStatus : Option ApprovalStatus
  occurredAt : Option DateTime
  counterparty : Option String
  reference : Option String
  description : Option String

structure AddContentAttributionInput where
  businessObjectId : String
  historyId : String
  createdAt : Option DateTime

structure AddBusinessRelationInput where
  id : String
  sourceBusinessObjectId : String
  targetBusinessObjectId : String
  relationType : String
  attributes : Option Attributes

structure TransitionBusinessObjectInput where
  id : String
  expectedRevision : Nat
  lifecycleStatus : BusinessObjectStatus
  approvalStatus : ApprovalStatus
  updatedAt : Option DateTime

def CreateBusinessObjectInput.object (input : CreateBusinessObjectInput) (now : DateTime) :
    BusinessObject :=
  ⟨input.id, input.kind, input.externalId, input.displayName,
    input.lifecycleStatus.getD .draft, input.approvalStatus.getD .pending, 0,
    input.attributes.getD default, now, now⟩

def AppendLedgerEntryInput.entry (input : AppendLedgerEntryInput) (now : DateTime) :
    LedgerEntry :=
  ⟨input.id, input.businessObjectId, input.direction, input.category, input.amountMinor,
    input.currency, input.occurredAt.getD now, input.approvalStatus.getD .pending,
    input.counterparty, input.reference, input.description, now⟩

def AddContentAttributionInput.attribution (input : AddContentAttributionInput)
    (now : DateTime) : ContentAttribution :=
  ⟨input.businessObjectId, input.historyId, input.createdAt.getD now⟩

def AddBusinessRelationInput.relation (input : AddBusinessRelationInput) (now : DateTime) :
    BusinessRelation :=
  ⟨input.id, input.sourceBusinessObjectId, input.targetBusinessObjectId, input.relationType,
    input.attributes.getD default, now⟩

def TransitionBusinessObjectInput.call (input : TransitionBusinessObjectInput) (now : DateTime) :
    BusinessCall :=
  .transition input.id input.expectedRevision input.lifecycleStatus input.approvalStatus
    (input.updatedAt.getD now)

/-- The lifecycle tools, with their inputs. -/
inductive Request where
  | listBusinessObjects
  | getBusinessObject (id : String)
  | createBusinessObject (input : CreateBusinessObjectInput)
  | listLedgerEntries (businessObjectId : String)
  | appendLedgerEntry (input : AppendLedgerEntryInput)
  | listContentAttributions (businessObjectId : String)
  | addContentAttribution (input : AddContentAttributionInput)
  | listBusinessRelations (businessObjectId : String)
  | addBusinessRelation (input : AddBusinessRelationInput)
  | transitionBusinessObject (input : TransitionBusinessObjectInput)

/-- A `*_result` function that passes on what one operation answers. -/
def read (c : BusinessCall) (data : c.Value → Json) : Handler (Except DomainError Json) := do
  match ← Handler.call c with
  | .ok found => pure (.ok (data found))
  | .error e => pure (.error e)

/-- `self.repository.insert_..(&record)?; Ok(record)`. -/
def create (record : LifecycleRecord) (data : Json) : Handler (Except DomainError Json) := do
  match ← Handler.insert record with
  | .ok _ => pure (.ok data)
  | .error e => pure (.error e)

/-- The `*_result` function of a tool. -/
def Request.result (now : DateTime) : Request → Handler (Except DomainError Json)
  | listBusinessObjects => read .objects fun objects => .array (objects.map BusinessObject.toJson)
  | getBusinessObject id => do
    match ← Handler.call (.object id) with
    | .ok (some object) => pure (.ok object.toJson)
    | .ok none => pure (.error (.unknownBusinessObject id))
    | .error e => pure (.error e)
  | createBusinessObject input => create (.object (input.object now)) (input.object now).toJson
  | listLedgerEntries id =>
    read (.ledgerEntries id) fun entries => .array (entries.map LedgerEntry.toJson)
  | appendLedgerEntry input => create (.ledgerEntry (input.entry now)) (input.entry now).toJson
  | listContentAttributions id =>
    read (.contentAttributions id) fun attributions =>
      .array (attributions.map ContentAttribution.toJson)
  | addContentAttribution input =>
    create (.attribution (input.attribution now)) (input.attribution now).toJson
  | listBusinessRelations id =>
    read (.businessRelations id) fun relations => .array (relations.map BusinessRelation.toJson)
  | addBusinessRelation input =>
    create (.relation (input.relation now)) (input.relation now).toJson
  | transitionBusinessObject input => read (input.call now) BusinessObject.toJson

/-- The tool: what the result is answered as. -/
def Request.handler (request : Request) (now : DateTime) : Handler CallToolResult := do
  match ← request.result now with
  | .ok value => pure (structured value)
  | .error e => pure (lifecycleToolError e)

end Mcp

/-! ## 5. The desktop -/

namespace Desktop

def lifecycleError : DomainError → DesktopError
  | .unknownBusinessObject _ | .unknownHistoryRecord _ =>
    .notFound "the requested lifecycle record does not exist"
  | _ => .invalidRequest "lifecycle request could not be completed"

/-- `LifecycleObjectEntry::from`, as the interface receives it. -/
def objectEntry (o : BusinessObject) : Json :=
  .object [("id", .string o.id), ("kind", .string o.kind),
    ("externalId", Json.ofOption .string o.externalId), ("displayName", .string o.displayName),
    ("lifecycleStatus", .string o.lifecycleStatus.db),
    ("approvalStatus", .string o.approvalStatus.db), ("revision", .number o.revision),
    ("attributes", o.attributes.toJson), ("createdAt", .string (DateTime.toRfc3339 o.createdAt)),
    ("updatedAt", .string (DateTime.toRfc3339 o.updatedAt))]

/-- `LifecycleLedgerEntry::from`. -/
def ledgerEntry (e : LedgerEntry) : Json :=
  .object [("id", .string e.id), ("businessObjectId", .string e.businessObjectId),
    ("direction", .string e.direction.db), ("category", .string e.category),
    ("amountMinor", .number e.amountMinor), ("currency", .string e.currency),
    ("occurredAt", .string (DateTime.toRfc3339 e.occurredAt)),
    ("approvalStatus", .string e.approvalStatus.db),
    ("counterparty", Json.ofOption .string e.counterparty),
    ("reference", Json.ofOption .string e.reference),
    ("description", Json.ofOption .string e.description),
    ("createdAt", .string (DateTime.toRfc3339 e.createdAt))]

/-- `LifecycleContentAttributionEntry::from`. -/
def contentAttributionEntry (a : ContentAttribution) : Json :=
  .object [("businessObjectId", .string a.businessObjectId), ("historyId", .string a.historyId),
    ("createdAt", .string (DateTime.toRfc3339 a.createdAt))]

/-- `LifecycleBusinessRelationEntry::from`. -/
def businessRelationEntry (b : BusinessRelation) : Json :=
  .object [("id", .string b.id), ("sourceBusinessObjectId", .string b.sourceBusinessObjectId),
    ("targetBusinessObjectId", .string b.targetBusinessObjectId),
    ("relationType", .string b.relationType), ("attributes", b.attributes.toJson),
    ("createdAt", .string (DateTime.toRfc3339 b.createdAt))]

structure CreateLifecycleObjectInput where
  id : String
  kind : String
  externalId : Option String
  displayName : String
  attributes : Attributes

structure AppendLifecycleLedgerEntryInput where
  id : String
  businessObjectId : String
  direction : LedgerDirection
  category : String
  amountMinor : Int
  currency : String
  approvalStatus : Option ApprovalStatus
  counterparty : Option String
  reference : Option String
  description : Option String

structure AddLifecycleContentAttributionInput where
  businessObjectId : String
  historyId : String

structure AddLifecycleBusinessRelationInput where
  id : String
  sourceBusinessObjectId : String
  targetBusinessObjectId : String
  relationType : String
  attributes : Attributes

structure TransitionLifecycleObjectInput where
  id : String
  expectedRevision : Nat
  lifecycleStatus : BusinessObjectStatus
  approvalStatus : ApprovalStatus

def CreateLifecycleObjectInput.object (input : CreateLifecycleObjectInput) (now : DateTime) :
    BusinessObject :=
  ⟨input.id, input.kind, input.externalId, input.displayName, .draft, .pending, 0,
    input.attributes, now, now⟩

def AppendLifecycleLedgerEntryInput.entry (input : AppendLifecycleLedgerEntryInput)
    (now : DateTime) : LedgerEntry :=
  ⟨input.id, input.businessObjectId, input.direction, input.category, input.amountMinor,
    input.currency, now, input.approvalStatus.getD .pending, input.counterparty,
    input.reference, input.description, now⟩

def AddLifecycleContentAttributionInput.attribution
    (input : AddLifecycleContentAttributionInput) (now : DateTime) : ContentAttribution :=
  ⟨input.businessObjectId, input.historyId, now⟩

def AddLifecycleBusinessRelationInput.relation (input : AddLifecycleBusinessRelationInput)
    (now : DateTime) : BusinessRelation :=
  ⟨input.id, input.sourceBusinessObjectId, input.targetBusinessObjectId, input.relationType,
    input.attributes, now⟩

def TransitionLifecycleObjectInput.call (input : TransitionLifecycleObjectInput)
    (now : DateTime) : BusinessCall :=
  .transition input.id input.expectedRevision input.lifecycleStatus input.approvalStatus now

/-- The lifecycle operations of the desktop service, with their inputs. -/
inductive Request where
  | lifecycleObjects
  | createLifecycleObject (input : CreateLifecycleObjectInput)
  | lifecycleLedgerEntries (businessObjectId : String)
  | appendLifecycleLedgerEntry (input : AppendLifecycleLedgerEntryInput)
  | lifecycleContentAttributions (businessObjectId : String)
  | addLifecycleContentAttribution (input : AddLifecycleContentAttributionInput)
  | lifecycleBusinessRelations (businessObjectId : String)
  | addLifecycleBusinessRelation (input : AddLifecycleBusinessRelationInput)
  | transitionLifecycleObject (input : TransitionLifecycleObjectInput)

def read (c : BusinessCall) (data : c.Value → Json) : Handler (Except DesktopError Json) := do
  match ← Handler.call c with
  | .ok found => pure (.ok (data found))
  | .error e => pure (.error (lifecycleError e))

def create (record : LifecycleRecord) (data : Json) : Handler (Except DesktopError Json) := do
  match ← Handler.insert record with
  | .ok _ => pure (.ok data)
  | .error e => pure (.error (lifecycleError e))

def Request.handler (request : Request) (now : DateTime) : Handler (Except DesktopError Json) :=
  match request with
  | lifecycleObjects => read .objects fun objects => .array (objects.map objectEntry)
  | createLifecycleObject input =>
    create (.object (input.object now)) (objectEntry (input.object now))
  | lifecycleLedgerEntries id =>
    read (.ledgerEntries id) fun entries => .array (entries.map ledgerEntry)
  | appendLifecycleLedgerEntry input =>
    create (.ledgerEntry (input.entry now)) (ledgerEntry (input.entry now))
  | lifecycleContentAttributions id =>
    read (.contentAttributions id) fun attributions =>
      .array (attributions.map contentAttributionEntry)
  | addLifecycleContentAttribution input =>
    create (.attribution (input.attribution now))
      (contentAttributionEntry (input.attribution now))
  | lifecycleBusinessRelations id =>
    read (.businessRelations id) fun relations => .array (relations.map businessRelationEntry)
  | addLifecycleBusinessRelation input =>
    create (.relation (input.relation now)) (businessRelationEntry (input.relation now))
  | transitionLifecycleObject input => read (input.call now) objectEntry

end Desktop

/-! ## 6. Requests -/

/-- What a front end answers. -/
inductive FrontReply where
  | api (response : ApiResponse Json)
  | cli (output : Emitted Json)
  | mcp (result : CallToolResult)
  | desktop (result : Except DesktopError Json)

/-- The reply reports that the request was done. -/
def FrontReply.success : FrontReply → Bool
  | api response => response.ok
  | cli output => output.ok
  | mcp result => !result.isError
  | desktop result => result.isOk

/-- A request of any front end. -/
inductive FrontRequest where
  | api (request : Api.Request)
  | cli (command : Cli.LifecycleCommand) (now : DateTime)
  | mcp (request : Mcp.Request) (now : DateTime)
  | desktop (request : Desktop.Request) (now : DateTime)

section Requests
variable (readTime : String → Option DateTime)

def FrontRequest.handler : FrontRequest → Handler FrontReply
  | api request => do return .api (← request.handler readTime)
  | cli command now => do return .cli (← Cli.executeLifecycle command now)
  | mcp request now => do return .mcp (← request.handler now)
  | desktop request now => do return .desktop (← request.handler now)

/-- The operation a route is for, once its body is accepted. -/
def Api.Request.intent : Api.Request → Option BusinessCall
  | listBusinessObjects => some .objects
  | createBusinessObject body =>
    (parseBusinessObject readTime body).toOption.map fun object => .insert (.object object)
  | getBusinessObject id => some (.object id)
  | transitionBusinessObject id body =>
    (parseTransition readTime body).toOption.map fun request =>
      .transition id request.expectedRevision request.lifecycleStatus request.approvalStatus
        request.updatedAt
  | listLedgerEntries id => some (.ledgerEntries id)
  | createLedgerEntry id body =>
    ((parseLedgerEntry readTime body).toOption.filter fun entry => entry.businessObjectId = id).map
      fun entry => .insert (.ledgerEntry entry)
  | listContentAttributions id => some (.contentAttributions id)
  | createContentAttribution id body =>
    ((parseContentAttribution readTime body).toOption.filter fun attribution =>
      attribution.businessObjectId = id).map fun attribution => .insert (.attribution attribution)
  | listBusinessRelations id => some (.businessRelations id)
  | createBusinessRelation id body now =>
    ((parseBusinessRelation readTime body).toOption.filter fun request =>
      request.sourceBusinessObjectId = id).map fun request =>
        .insert (.relation (CreateBusinessRelationRequest.relation request now))

/-- The operation a command is for, once its attributes are parsed. A blank id names no object. -/
def Cli.LifecycleCommand.intent (now : DateTime) : Cli.LifecycleCommand → Option BusinessCall
  | objects => some .objects
  | objectGet id => if isBlank id then none else some (.object id)
  | objectCreate args =>
    (parseAttributes args.attributes).toOption.map fun attributes =>
      .insert (.object (args.object attributes now))
  | ledgerList id => if isBlank id then none else some (.ledgerEntries id)
  | ledgerAdd args => some (.insert (.ledgerEntry (args.entry now)))
  | attributionList id => if isBlank id then none else some (.contentAttributions id)
  | attributionAdd args => some (.insert (.attribution (args.attribution now)))
  | relationList id => if isBlank id then none else some (.businessRelations id)
  | relationAdd args =>
    (parseAttributes args.attributes).toOption.map fun attributes =>
      .insert (.relation (args.relation attributes now))
  | transition args => if isBlank args.id then none else some (args.call now)

def Mcp.Request.intent (now : DateTime) : Mcp.Request → BusinessCall
  | listBusinessObjects => .objects
  | getBusinessObject id => .object id
  | createBusinessObject input => .insert (.object (input.object now))
  | listLedgerEntries id => .ledgerEntries id
  | appendLedgerEntry input => .insert (.ledgerEntry (input.entry now))
  | listContentAttributions id => .contentAttributions id
  | addContentAttribution input => .insert (.attribution (input.attribution now))
  | listBusinessRelations id => .businessRelations id
  | addBusinessRelation input => .insert (.relation (input.relation now))
  | transitionBusinessObject input => input.call now

def Desktop.Request.intent (now : DateTime) : Desktop.Request → BusinessCall
  | lifecycleObjects => .objects
  | createLifecycleObject input => .insert (.object (input.object now))
  | lifecycleLedgerEntries id => .ledgerEntries id
  | appendLifecycleLedgerEntry input => .insert (.ledgerEntry (input.entry now))
  | lifecycleContentAttributions id => .contentAttributions id
  | addLifecycleContentAttribution input => .insert (.attribution (input.attribution now))
  | lifecycleBusinessRelations id => .businessRelations id
  | addLifecycleBusinessRelation input => .insert (.relation (input.relation now))
  | transitionLifecycleObject input => input.call now

/-- The one operation a request is for; none where its input is refused. -/
def FrontRequest.intent : FrontRequest → Option BusinessCall
  | api request => request.intent readTime
  | cli command now => command.intent now
  | mcp request now => some (request.intent now)
  | desktop request now => some (request.intent now)

end Requests

end MatriXpost
