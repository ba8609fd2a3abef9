import VaultLocator.AuditTrail
import VaultLocator.Extraction
import VaultLocator.Screening.Rules
import VaultLocator.Settings

/-!
# Gateways to a vault

A gateway stands between those who ask for values and the vault that holds them. It screens what it
is asked, reads the locator, finds the value in the vault and keeps an audit trail. Its operations
are `VaultLocator.Gateway.resolve`, `VaultLocator.Gateway.readRecord`,
`VaultLocator.Gateway.readFields` and `VaultLocator.Gateway.search`; each gives a
`VaultLocator.Outcome`: the result, the entries of the trail, and the state of the vault after it.

A locator of a field is looked up natively first. If the vault refuses because several records
match the reference, all records are asked for, and the first record with the uid, or else the
first that matches at all, is taken. A locator of a file is always answered from the records.
-/

namespace VaultLocator

/-- What an operation leaves behind. -/
structure Outcome (σ α : Type) where
  result : Except Error α
  /-- The entries of the audit trail, oldest first. -/
  trail : List AuditEntry
  /-- The state of the vault. -/
  state : σ

/-- What a search tells of a record. -/
structure SearchHit where
  uid : String
  title : String
  recordType : String
  deriving DecidableEq

/-- A record as a hit of a search. -/
def SearchHit.ofRecord (r : Record) : SearchHit :=
  ⟨r.uid, r.title, r.recordType⟩

/-- The JSON form of a hit. -/
def SearchHit.toJson (hit : SearchHit) : Json :=
  .obj [("uid", .str hit.uid), ("title", .str hit.title), ("type", .str hit.recordType)]

/-- A gateway: a vault with settings for the access to it. -/
structure Gateway (σ : Type) where
  vault : Vault σ
  settings : AccessSettings := {}

namespace Gateway

variable {σ α : Type}

/-! ### The audit trail -/

/-- The most characters of an input that an entry of the trail shows. -/
def targetLimit : Nat := 256

/-- The beginning of an input, as entries of the trail show it. -/
def targetOf (input : String) : String :=
  Text.firstChars input targetLimit

/-- The entries that are kept of those that could be. -/
def kept (g : Gateway σ) (entries : List AuditEntry) : List AuditEntry :=
  if g.settings.audits then entries else []

/-- Whether an error is entered as a denial: the input was rejected, or there is nothing at the
place. -/
def isDenial : Error → Bool
  | .rejected _ => true
  | e => e.meansAbsence

/-- The entry that tells of a result. -/
def resultEntry (g : Gateway σ) (target : String) (unmask : Bool) (result : Except Error α) :
    AuditEntry :=
  match result with
  | .ok _ => .granted g.settings.service target unmask
  | .error e =>
    if isDenial e then .denied g.settings.service target e.message
    else .failure g.settings.service e.message

/-- The outcome of an access with its two entries. -/
def audited (g : Gateway σ) (attempt : AuditEntry) (target : String) (unmask : Bool)
    (answer : Except Error α × σ) : Outcome σ α :=
  ⟨answer.1, g.kept [attempt, g.resultEntry target unmask answer.1], answer.2⟩

/-! ### Finding records -/

/-- The record that a reference selects: the first with the uid, or else the first that matches. -/
def selectRecord? (reference : Reference) (records : List Record) : Option Record :=
  (records.find? fun record => reference.uid? == some record.uid).or
    (records.find? fun record => reference.names record)

/-- The value at a place, among records. -/
def resolveAmong (strict : Bool) (l : Locator) (unmask : Bool) (records : List Record) :
    Except Error ShownValue :=
  match selectRecord? l.reference records with
  | some record => Extraction.valueAt strict record l unmask
  | none => .error (.recordNotFound l.reference.text)

/-- The value at a place, among all records of the vault. -/
def resolveAmongAll (g : Gateway σ) (l : Locator) (unmask : Bool) (state : σ) :
    Except Error ShownValue × σ :=
  match g.vault.everything state with
  | (.ok records, state) => (resolveAmong g.settings.strictIndex l unmask records, state)
  | (.error e, state) => (.error (.vault e), state)

/-- The record with a uid. -/
def recordWithUid (g : Gateway σ) (uid : String) (state : σ) : Except Error Record × σ :=
  match Screening.checkUid uid with
  | .error reason => (.error (.rejected reason), state)
  | .ok () =>
    match g.vault.withUids [uid] state with
    | (.error e, state) => (.error (.vault e), state)
    | (.ok records, state) =>
      match records.find? fun record => record.uid == uid with
      | some record => (.ok record, state)
      | none => (.error (.recordNotFound uid), state)

/-! ### Resolving -/

/-- The value at a place: natively for a field, and from the records for a file or if the native
lookup is refused as ambiguous. -/
def resolveLocator (g : Gateway σ) (text : String) (l : Locator) (unmask : Bool) (state : σ) :
    Except Error ShownValue × σ :=
  if l.kind = .file then
    g.resolveAmongAll l unmask state
  else
    match g.vault.lookup text state with
    | (.ok found, state) => (Extraction.valueFound l found unmask, state)
    | (.error e, state) =>
      match Error.ofLookup e with
      | .ambiguousRecord _ => g.resolveAmongAll l unmask state
      | e => (.error e, state)

/-- The value that a written locator leads to, without the audit. -/
def resolveText (g : Gateway σ) (text : String) (unmask : Bool) (state : σ) :
    Except Error ShownValue × σ :=
  match Screening.checkLocator text with
  | .error reason => (.error (.rejected reason), state)
  | .ok () =>
    match Locator.parse text with
    | .error e => (.error (.grammar e), state)
    | .ok l => g.resolveLocator text l unmask state

/-- **Resolving a locator.** -/
def resolve (g : Gateway σ) (text : String) (unmask : Bool) (state : σ) :
    Outcome σ ShownValue :=
  g.audited (.attempt g.settings.service (targetOf text)) (targetOf text) unmask
    (g.resolveText text unmask state)

/-! ### Reading records -/

/-- **Reading a whole record** by its uid. -/
def readRecord (g : Gateway σ) (uid : String) (unmask : Bool) (state : σ) :
    Outcome σ RecordView :=
  let found := g.recordWithUid uid state
  g.audited (.attempt g.settings.service (targetOf uid)) (targetOf uid) unmask
    (found.1.map fun record => RecordView.ofRecord record unmask, found.2)

/-- Screens the names of fields; the first reason to reject one of them counts. -/
def checkNames (names : List String) : Except Rejection Unit :=
  names.forM Screening.checkTitle

/-- The values under some names of the record with a uid, without the audit. -/
def valuesOf (g : Gateway σ) (uid : String) (names : List String) (unmask : Bool) (state : σ) :
    Except Error (Dict ShownValue) × σ :=
  match checkNames names with
  | .error reason => (.error (.rejected reason), state)
  | .ok () =>
    let found := g.recordWithUid uid state
    (found.1.map fun record => Extraction.valuesNamed record names unmask, found.2)

/-- **Reading the values under some names** of the record with a uid. -/
def readFields (g : Gateway σ) (uid : String) (names : List String) (unmask : Bool)
    (state : σ) : Outcome σ (Dict ShownValue) :=
  g.audited
    ((AuditEntry.attempt g.settings.service (targetOf uid)).annotate "fields"
      (Text.decimal names.length))
    (targetOf uid) unmask (g.valuesOf uid names unmask state)

/-! ### Searching -/

/-- Whether the title of a record holds a text, both in lower case. -/
def titleHolds (needle : List Char) (record : Record) : Bool :=
  Text.occurs needle (Text.lowercase record.title.toList)

/-- The records whose title holds a query. -/
def hits (query : String) (records : List Record) : List SearchHit :=
  (records.filter (titleHolds (Text.lowercase query.toList))).map SearchHit.ofRecord

/-- **Searching** for records by title. -/
def search (g : Gateway σ) (query : String) (state : σ) : Outcome σ (List SearchHit) :=
  match Screening.checkSearchQuery query with
  | .error reason =>
    ⟨.error (.rejected reason),
      g.kept [.denied g.settings.service (targetOf query) reason.message], state⟩
  | .ok () =>
    match g.vault.everything state with
    | (.error e, state) => ⟨.error (.vault e), [], state⟩
    | (.ok records, state) =>
      let found := hits query records
      ⟨.ok found,
        g.kept
          [(AuditEntry.notice g.settings.service "record search").annotate "hits"
            (Text.decimal found.length)], state⟩

end Gateway

/-! ### Sessions -/

/-- A request to a gateway. -/
inductive Request
  | value (locator : String) (unmask : Bool)
  | record (uid : String) (unmask : Bool)
  | fields (uid : String) (names : List String) (unmask : Bool)
  | search (query : String)

/-- What a request is answered with. -/
inductive Answer
  | value (value : ShownValue)
  | record (view : RecordView)
  | fields (values : Dict ShownValue)
  | hits (hits : List SearchHit)

namespace Gateway

variable {σ α : Type}

/-- An outcome with its result turned into an answer. -/
def answering (answer : α → Answer) (outcome : Outcome σ α) : Outcome σ Answer :=
  ⟨outcome.result.map answer, outcome.trail, outcome.state⟩

/-- Serves a single request. -/
def serve (g : Gateway σ) (request : Request) (state : σ) : Outcome σ Answer :=
  match request with
  | .value locator unmask => answering .value (g.resolve locator unmask state)
  | .record uid unmask => answering .record (g.readRecord uid unmask state)
  | .fields uid names unmask => answering .fields (g.readFields uid names unmask state)
  | .search query => answering .hits (g.search query state)

/-- Serves requests one after the other; gives their outcomes in the same order. -/
def serveAll (g : Gateway σ) : List Request → σ → List (Outcome σ Answer)
  | [], _ => []
  | request :: rest, state =>
    let outcome := g.serve request state
    outcome :: g.serveAll rest outcome.state

end Gateway

end VaultLocator
