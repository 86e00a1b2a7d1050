import AgenticIdentity.Boundary.Native

/-!
# The exception hierarchy

`errors.py` declares `AidError` and six subclasses. Each subclass fixes its code and
builds its message from what it was given, then hands both to `AidError.__init__`. None of
the wrapper's functions raises one of them: they raise `AgenticIdentityError` of `_ffi.py`,
which is not a subclass of `AidError`.

## Main definitions

* `AidErrorClass`, `AidError`: a class of the hierarchy with its own attributes, and an
  instance by its class, `str(err)` and `err.code`
* `identityNotFoundError`, ..., `validationError`: the constructors
-/

namespace AgenticIdentity

/-- The classes of `errors.py`, each with the attributes its `__init__` adds. -/
inductive AidErrorClass where
  | aidError
  | identityNotFoundError (path : String)
  | cryptoError
  | passphraseError
  | libraryNotFoundError (searched : List String)
  | serializationError
  | validationError
  deriving DecidableEq, Repr

/-- An instance of the hierarchy: its class, `str(err)`, and `err.code`. -/
structure AidError where
  cls : AidErrorClass
  message : String
  code : Int
  deriving DecidableEq, Repr

/-- `AidError(message, code)`; `code` defaults to `-1`. -/
def aidError (message : String) (code : Int) : AidError := ⟨.aidError, message, code⟩

/-- `IdentityNotFoundError(path)`. -/
def identityNotFoundError (path : String) : AidError :=
  ⟨.identityNotFoundError path, "Identity file not found: " ++ path, -4⟩

/-- `CryptoError(detail)`; `detail` defaults to `"Cryptographic operation failed"`. -/
def cryptoError (detail : String) : AidError := ⟨.cryptoError, detail, -3⟩

/-- `PassphraseError(path)`; `path` defaults to `""`, which the message leaves out. -/
def passphraseError (path : String) : AidError :=
  let msg := "Wrong passphrase or decryption failed"
  ⟨.passphraseError, if path ≠ "" then msg ++ ": " ++ path else msg, -3⟩

/-- `LibraryNotFoundError(searched)`; `searched` defaults to `None`, and `searched or []`
stores an empty list for it. -/
def libraryNotFoundError (searched : Option (List String)) : AidError :=
  let searched := searched.getD []
  let locations := if searched ≠ [] then ", ".intercalate searched else "default paths"
  ⟨.libraryNotFoundError searched,
    "Native library not found. Searched: " ++ locations ++ ". " ++
      "Build with: cargo build --release -p agentic-identity-ffi", -1⟩

/-- `SerializationError(detail)`; `detail` defaults to `"Serialization failed"`. -/
def serializationError (detail : String) : AidError := ⟨.serializationError, detail, -5⟩

/-- `ValidationError(message, code)`, which keeps `AidError.__init__`. -/
def validationError (message : String) (code : Int) : AidError :=
  ⟨.validationError, message, code⟩

end AgenticIdentity
