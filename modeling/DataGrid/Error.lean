-- SUMMARY: The causes of failure, their identifiers, texts and bodies.
import DataGrid.Complaint
import DataGrid.Decode

/-!
# Errors

An error is one of eight kinds with a cause. A collaborator, such as a remote
service, may state a cause in words of its own.
-/

namespace DataGrid

/-- What is wrong with a description of fields, remotes or grids. -/
inductive ConfigFault where
  | blankFieldName
  | notAColumn (field column : String)
  | joinModel (field model : String)
  | malformedJoin (field : String)
  | joinColumn (field column : String)
  | columnTwice (field column : String)
  | noFields
  | noAddress
  | remoteColumns (role cmd : String)
  | noParameters (role cmd : String)
  | strayField (role cmd field : String)
  | noKeyBudget (role cmd : String)
  | collectionName (grid collection : String)
  | claimedTwice (grid field role cmd : String)
  | undecodable (cause : DecodeError)
  | stated (text : String)

def ConfigFault.text : ConfigFault → String
  | .blankFieldName => "field name must not be empty"
  | .notAColumn field column => s!"field '{field}': databaseName '{column}' is not a column path"
  | .joinModel field model => s!"field '{field}': join model '{model}' is not an identifier"
  | .malformedJoin field => s!"field '{field}': malformed join"
  | .joinColumn field column => s!"field '{field}': join column '{column}' is not a column path"
  | .columnTwice field column => s!"field '{field}': databaseName '{column}' is used twice"
  | .noFields => "a collection needs at least one field"
  | .noAddress => "apiCall needs a role and a cmd"
  | .remoteColumns role cmd => s!"{role}.{cmd}: primaryKey and foreignKey must be column paths"
  | .noParameters role cmd => s!"{role}.{cmd}: no inputParameters"
  | .strayField role cmd field => s!"{role}.{cmd}: field '{field}' is not an input parameter"
  | .noKeyBudget role cmd => s!"{role}.{cmd}: maxKeys must be positive"
  | .collectionName grid collection => s!"grid '{grid}': collection '{collection}' is not an identifier"
  | .claimedTwice grid field role cmd =>
    s!"grid '{grid}': field '{field}' is claimed by both the collection and {role}.{cmd}"
  | .undecodable cause => cause.text
  | .stated text => text

/-- What is wrong with the shape of something handed in. -/
inductive InputFault where
  | notAnObject
  | clauseShape (key : String)
  | pageShape (key : String)
  | unknownClause (key : String)
  | rowShape (found : Json)
  | unknownGrid (name : String)
  | stated (text : String)

def InputFault.text : InputFault → String
  | .notAnObject => "query input must be an object"
  | .clauseShape key => s!"'{key}' must be an object"
  | .pageShape key => s!"'{key}' must be numeric"
  | .unknownClause key => s!"unknown clause '{key}'"
  | .rowShape found => s!"a row must be an object, got {found.text}"
  | .unknownGrid name => s!"unknown grid '{name}'"
  | .stated text => text

/-- Why the query language refuses a statement. Offsets into its text are in bytes. -/
inductive StatementFault where
  /-- The text cannot be read at an offset. -/
  | misplaced (near text : String) (offset : Nat)
  /-- The parameter at an offset is one too many. -/
  | surplusParameter (text : String) (offset : Nat)
  | tooDeep
  /-- A table has the name of the function that the statement calls. -/
  | notAFunction (name : String)
  | tooManyOrderings
  | patternTooLong

def StatementFault.text : StatementFault → String
  | .misplaced near text offset => s!"near \"{near}\": syntax error in {text} at offset {offset}"
  | .surplusParameter text offset => s!"too many SQL variables in {text} at offset {offset}"
  | .tooDeep => "Expression tree is too large (maximum depth 1000)"
  | .notAFunction name => s!"'{name}' is not a function"
  | .tooManyOrderings => "too many terms in ORDER BY clause"
  | .patternTooLong => "LIKE or GLOB pattern too complex"

/-- Why stored or remote records could not be had. -/
inductive StoreFault where
  | collectionName (name : String)
  | notAColumn (column : String)
  | reservedName (name : String)
  | statement (fault : StatementFault)
  | noRecordList
  | notARecordList (found : Json)
  | notARecord (found : Json)
  | stated (text : String)

def StoreFault.text : StoreFault → String
  | .collectionName name => s!"'{name}' is not a collection name"
  | .notAColumn column => s!"'{column}' is not a column path"
  | .reservedName name => s!"object name reserved for internal use: {name}"
  | .statement fault => fault.text
  | .noRecordList => "remote data has no record list"
  | .notARecordList found => s!"remote data is not a record list: {found.text}"
  | .notARecord found => s!"remote record is not an object: {found.text}"
  | .stated text => text

/-- A step taken out of turn. -/
inductive PhaseFault where
  | alreadyFetched (collection : String)
  | alreadyRun (phase : String)
  | stated (text : String)

def PhaseFault.text : PhaseFault → String
  | .alreadyFetched collection => s!"grid over '{collection}' was already fetched"
  | .alreadyRun phase => s!"composite grid already ran to {phase}"
  | .stated text => text

inductive GridError where
  | config (fault : ConfigFault)
  | input (fault : InputFault)
  | rejected (complaints : Complaints)
  | unavailable (role cmd reason : String)
  | noOutput
  | store (fault : StoreFault)
  | phase (fault : PhaseFault)
  | lock (text : String)

namespace GridError

/-- The identifier of the kind of error. -/
def id : GridError → String
  | .config _ => "config_error"
  | .input _ => "invalid_input"
  | .rejected _ => "validation_failed"
  | .unavailable .. => "remote_unavailable"
  | .noOutput => "no_output_found"
  | .store _ => "store_error"
  | .phase _ => "phase_error"
  | .lock _ => "lock_poisoned"

/-- The text shown for an error. -/
def message : GridError → String
  | .config fault => "Config error: " ++ fault.text
  | .input fault => "Invalid input: " ++ fault.text
  | .rejected complaints => "Validation failed for " ++ ", ".intercalate (Keyed.keys complaints)
  | .unavailable role cmd reason => s!"Remote {role}.{cmd} unavailable: {reason}"
  | .noOutput => "no output found"
  | .store fault => "Store error: " ++ fault.text
  | .phase fault => "Phase error: " ++ fault.text
  | .lock text => "Lock poisoned: " ++ text

/-- What a caller is told: the complaints themselves, or the text. -/
def body : GridError → Json
  | .rejected complaints => complaints.toJson
  | error => .str error.message

/-- Whether the caller made the mistake. -/
def isClientError : GridError → Bool
  | .input _ | .rejected _ => true
  | _ => false

end GridError

/-- The outcome of a step that may fail. -/
abbrev Result := Except GridError

end DataGrid
