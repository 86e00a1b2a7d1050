import AgenticIdentity.Boundary.Native

/-!
# The `ctypes` layer

`_ffi.py` mirrors the engine's error codes, turns a nonzero return code into an
`AgenticIdentityError` (`_check`), reads and frees the strings the library allocates
(`_take_string`), and locates the shared library when the package is imported
(`_find_library`).

## Main definitions

* `aidOk`, ..., `aidErrSerialization`, `errorMessages`: the mirrored error taxonomy
* `check`, `takeString`: the two helpers every wrapper function ends with
* `callTakeString`: a native call that stores a string, then both helpers
* `findLibrary`: the library search, over an uninterpreted `Loader`

## Main results

* `check_spec`, `takeString_spec`: `_check` makes no native call and returns only on
  `AID_OK`; the one native call of `_take_string` frees the string it was handed
-/

namespace AgenticIdentity

open Native

/-! ## Error codes -/

/-- `AID_OK`. -/
def aidOk : Int := 0
/-- `AID_ERR_NULL_PTR`. -/
def aidErrNullPtr : Int := -1
/-- `AID_ERR_INVALID_UTF8`. -/
def aidErrInvalidUtf8 : Int := -2
/-- `AID_ERR_CRYPTO`. -/
def aidErrCrypto : Int := -3
/-- `AID_ERR_IO`. -/
def aidErrIo : Int := -4
/-- `AID_ERR_SERIALIZATION`. -/
def aidErrSerialization : Int := -5

/-- `_ERROR_MESSAGES`. -/
def errorMessages : List (Int × String) :=
  [(aidErrNullPtr, "A required pointer argument was null"),
   (aidErrInvalidUtf8, "A string argument contained invalid UTF-8"),
   (aidErrCrypto, "A cryptographic operation failed"),
   (aidErrIo, "A filesystem I/O operation failed"),
   (aidErrSerialization, "JSON serialization or deserialization failed")]

/-- `_ERROR_MESSAGES.get(rc, f"Unknown FFI error code {rc}")`. -/
def errorMessage (rc : Int) : String :=
  (errorMessages.lookup rc).getD ("Unknown FFI error code " ++ toString rc)

/-- `_check(rc)`: raise `AgenticIdentityError` unless `rc` is `AID_OK`. -/
def check (rc : Int) : Native Unit :=
  if rc ≠ aidOk then throw (.agenticIdentityError rc (errorMessage rc)) else pure ()

/-- `_take_string(ptr)`: read a library-owned string, then free it with `aid_free_string`.
`value` is what `ptr.value` reads at `ptr`. -/
def takeString (ptr : Ptr) (value : Bytes) : Native String :=
  if ptr = 0 then
    throw (.agenticIdentityError aidErrNullPtr "Received null string pointer from FFI")
  else
    match decode value with
    | none => throw .unicodeDecodeError
    | some s => do
      let _ ← ffi (.aidFreeString ptr)
      pure s

variable {P : Call → Prop}

theorem check_ok : check aidOk = ret () := rfl

theorem check_of_ne {rc : Int} (h : rc ≠ aidOk) :
    check rc = raise (.agenticIdentityError rc (errorMessage rc)) := if_pos h

/-- `_check` makes no native call, and lets the caller go on only on `AID_OK`. -/
theorem check_spec (rc : Int) : (check rc).Spec P fun _ => rc = aidOk := by
  unfold check
  split
  · trivial
  · exact not_not.mp ‹_›

/-- The one native call `_take_string` can make frees the string it was handed. -/
theorem takeString_spec (ptr : Ptr) (value : Bytes) :
    (takeString ptr value).Spec (fun c => c = .aidFreeString ptr) fun _ => True := by
  unfold takeString
  split
  · trivial
  · split <;> simp [ffi]

/-- The tail of every string-returning function of `__init__.py`: the native call `c`,
`_check(rc)`, then `_take_string` of the pointer `c` stored. -/
def callTakeString (c : Call) : Native String := do
  let out ← ffi c
  check out.rc
  takeString out.out out.value

/-! ## Locating the library -/

/-- `_lib_filename()`, from `platform.system()`. -/
def libFilename (system : String) : String :=
  if system = "Darwin" then "libagentic_identity_ffi.dylib"
  else if system = "Windows" then "agentic_identity_ffi.dll"
  else "libagentic_identity_ffi.so"

/-- What `_find_library` reads of the process, uninterpreted. -/
structure Loader where
  /-- `os.environ.get`. -/
  environ : String → Option String
  /-- `os.path.isfile`, which answers `False` for a path it cannot inspect. -/
  isFile : String → Bool
  /-- `Path.is_file`, which may raise `OSError`, a `PermissionError` for one, on a path it
  cannot inspect. -/
  pathIsFile : String → Except PyExc Bool
  /-- `ctypes.util.find_library`. -/
  findLibrary : String → Option String
  /-- `platform.system()`. -/
  system : String
  /-- `Path(__file__).resolve().parent.parent.parent.parent`, as a string. -/
  repoRoot : String

namespace Loader

variable (ld : Loader)

/-- The separator `pathlib` writes on the platform. -/
def sep : String := if ld.system = "Windows" then "\\" else "/"

/-- `str(path / name)`: a separator between the two, unless `path` already ends with one, as a
root does. -/
def join (path name : String) : String :=
  if path.endsWith ld.sep then path ++ name else path ++ ld.sep ++ name

/-- `str(repo_root / "target" / profile / lib_name)`. -/
def targetPath (profile : String) : String :=
  ld.join (ld.join (ld.join ld.repoRoot "target") profile) (libFilename ld.system)

/-- `os.environ.get("AGENTIC_IDENTITY_LIB")`, with `None` read as the empty string: the
two are the falsy values the search skips. -/
def envPath : String := (ld.environ "AGENTIC_IDENTITY_LIB").getD ""

/-- `ctypes.util.find_library("agentic_identity_ffi")`, with `None` read as `""`. -/
def found : String := (ld.findLibrary "agentic_identity_ffi").getD ""

/-- The `for profile in ("release", "debug")` loop: the first build holding the library, or
the exception of `candidate.is_file()`. -/
def searchProfiles : List String → Except PyExc (Option String)
  | [] => .ok none
  | profile :: profiles => do
    if ← ld.pathIsFile (ld.targetPath profile) then pure (some (ld.targetPath profile))
    else searchProfiles profiles

/-- The `OSError` raised when no place holds the library. -/
def notFound : PyExc :=
  .osError ("Cannot locate " ++ libFilename ld.system ++ ". Set the AGENTIC_IDENTITY_LIB " ++
    "environment variable to the absolute path of the shared library, or build the " ++
    "Rust crate with `cargo build --release -p agentic-identity-ffi`.")

end Loader

/-- `_find_library()`. -/
def findLibrary (ld : Loader) : Except PyExc String :=
  if ld.envPath != "" && ld.isFile ld.envPath then .ok ld.envPath
  else do
    match ← ld.searchProfiles ["release", "debug"] with
    | some candidate => .ok candidate
    | none => if ld.found != "" then .ok ld.found else .error ld.notFound

end AgenticIdentity
