import Arcade.Text.Quoted

/-!
# Faults

A fault is the cause for which an operation gives no result. Faults of one kind are told apart
only where someone reads the difference: a missing key, a refused write and a rejected document
say what was wrong, while a value of the wrong kind is just that.
-/

namespace Arcade

/-- What is wrong with a text that should hold one JSON value. -/
inductive JsonFlaw where
  | valueExpected
  | nameExpected
  | colonExpected
  | commaExpected
  | openText
  | controlCharacter
  | badEscape
  | badCodeEscape
  | moreThanOneValue
  | byteOrderMark
deriving DecidableEq, Repr

/-- The wording of a flaw. -/
def JsonFlaw.message : JsonFlaw → String
  | .valueExpected => "Expecting value"
  | .nameExpected => "Expecting property name enclosed in double quotes"
  | .colonExpected => "Expecting ':' delimiter"
  | .commaExpected => "Expecting ',' delimiter"
  | .openText => "Unterminated string starting at"
  | .controlCharacter => "Invalid control character at"
  | .badEscape => "Invalid \\escape"
  | .badCodeEscape => "Invalid \\uXXXX escape"
  | .moreThanOneValue => "Extra data"
  | .byteOrderMark => "Unexpected UTF-8 BOM (decode using utf-8-sig)"

/-- The calls on a key-value storage. -/
inductive StorageCall where
  | get
  | set
  | remove
deriving DecidableEq, Repr

def StorageCall.name : StorageCall → String
  | .get => "get"
  | .set => "set"
  | .remove => "remove"

/-- What a call does to a file. -/
def StorageCall.verb : StorageCall → String
  | .get => "read"
  | .set => "write"
  | .remove => "delete"

/-- Why a storage call failed. -/
inductive StorageFault where
  /-- The storage refused the call before doing anything. -/
  | refused (call : StorageCall) (key : String)
  /-- The write would have brought the storage to a size above its limit. -/
  | full (key : String) (size : Nat) (limit : String)
  /-- The file behind the storage cannot do what was asked. -/
  | failed (call : StorageCall) (key reason : String)
  /-- No file behind the storage can be opened at a path. -/
  | unopened (path : String)
  /-- A folder on the path of the file has a name that is too long. -/
  | noFolder (path folder : String)
deriving DecidableEq, Repr

/-- The wording of a failed storage call. -/
def StorageFault.message : StorageFault → String
  | .refused call key => s!"{call.name} {key} refused"
  | .full key size limit => s!"quota exceeded writing {key} ({size} > {limit} bytes)"
  | .failed call key reason => s!"{call.verb} {key} failed: {reason}"
  | .unopened path => s!"cannot open {path}: unable to open database file"
  | .noFolder path folder =>
    s!"cannot open {path}: [Errno 36] File name too long: {Text.quoted folder}"

/-- The causes for which an operation gives no result. -/
inductive Fault where
  /-- A value of the wrong kind. -/
  | wrongKind
  /-- A value of the right kind that cannot be used. -/
  | badValue
  /-- An operation that values of this kind do not have. -/
  | noOperation
  /-- A number or date beyond what its type can hold. -/
  | outOfRange
  /-- An integer written with more digits than are read. -/
  | tooManyDigits (digits : Nat)
  /-- A value with too many lists and objects inside each other. -/
  | tooDeep
  /-- A text that holds half of a pair of surrogates and so cannot be written to a file. -/
  | notEncodable
  /-- A path with a name that is too long for a folder or file. -/
  | nameTooLong
  | missingKey (key : String)
  | malformed (flaw : JsonFlaw) (line column offset : Nat)
  /-- Something else where the text of a document should be, by the name of its kind. -/
  | notText (kind : String)
  | storage (cause : StorageFault)
  /-- A document that cannot replace the current one. -/
  | rejectedImport (cause : Fault)
  | documentNotObject
  | progressNotObject
  | badgesNotList
  | negativeReward (challenge : String)
  | unknownComparator (comparator : String)
  | unknownRole (shown : String)
  | unknownOrder (order : String)
  | unknownBackend (backend : String)
  /-- A device that refused to start, stop or speak. -/
  | device
  /-- A failure in code of the host. -/
  | host
deriving DecidableEq, Repr

/-- The wording of a fault, empty where only its kind is told. -/
def Fault.message : Fault → String
  | .tooManyDigits digits =>
    "Exceeds the limit (4300 digits) for integer string conversion: value has " ++
      toString digits ++ " digits; use sys.set_int_max_str_digits() to increase the limit"
  | .missingKey key => Text.quoted key
  | .malformed flaw line column offset =>
    s!"{flaw.message}: line {line} column {column} (char {offset})"
  | .notText kind => "the JSON object must be str, bytes or bytearray, not " ++ kind
  | .storage cause => cause.message
  | .rejectedImport cause => "Invalid GameVerse data file: " ++ cause.message
  | .documentNotObject => "GameData document must be an object"
  | .progressNotObject => "gameProgress must be an object"
  | .badgesNotList => "badges must be a list"
  | .negativeReward challenge => "negative rewardCoins for challenge " ++ challenge
  | .unknownComparator comparator => "unsupported comparator: " ++ comparator
  | .unknownRole shown => "role must be user or assistant, got " ++ shown
  | .unknownOrder order => "unknown sort order: " ++ order
  | .unknownBackend backend => "unknown storage backend: " ++ backend
  | .wrongKind | .badValue | .noOperation | .outOfRange | .tooDeep | .notEncodable
  | .nameTooLong | .device | .host => ""

/-! ## Results that build on each other -/

variable {ε α β : Type}

theorem bind_eq_ok {r : Except ε α} {f : α → Except ε β} {y : β} :
    r >>= f = .ok y ↔ ∃ x, r = .ok x ∧ f x = .ok y := by
  cases r with
  | error e => exact ⟨fun h => (nomatch h), fun ⟨_, h, _⟩ => (nomatch h)⟩
  | ok x => exact ⟨fun h => ⟨x, rfl, h⟩, fun ⟨_, hx, h⟩ => Except.ok.inj hx ▸ h⟩

theorem bind_eq_error {r : Except Fault α} {f : α → Except Fault β} {e : Fault} :
    r >>= f = .error e ↔ r = .error e ∨ ∃ x, r = .ok x ∧ f x = .error e := by
  cases r with
  | error e' =>
    refine ⟨fun h => .inl (congrArg Except.error (Except.error.inj h)), fun h => ?_⟩
    rcases h with h | ⟨_, h, _⟩
    · exact congrArg Except.error (Except.error.inj h)
    · cases h
  | ok x =>
    refine ⟨fun h => .inr ⟨x, rfl, h⟩, fun h => ?_⟩
    rcases h with h | ⟨_, hx, h⟩
    · cases h
    · exact Except.ok.inj hx ▸ h

end Arcade
