import AgenticIdentity.Boundary.Ffi
import AgenticIdentity.Json

/-!
# The `Identity` wrapper

`__init__.py` wraps the opaque `IdentityAnchor` pointer in an `Identity` object whose one
attribute, `_handle`, is the pointer until `close` frees it and sets it to `None`. Every
method that needs the pointer gets it from `_require_handle`, which raises on a closed
object before anything else happens; the four such properties and methods then build the
native call's arguments, which may raise (`json.dumps` of a payload, `str.encode` of a string
holding a lone surrogate), make the call with the pointer, check the code and take the string
the library stored. This module translates the class and the three module-level functions;
`Wrapper.Lifecycle` runs the methods in sequence.

## Main definitions

* `Identity`: the object, by its `_handle`
* `Identity.handleCall`: the shape shared by `identity_id`, `public_key`, `sign_action`
  and `create_trust_grant`
* `Identity.close`, `Identity.repr`, `Identity.load`, `version`, `verifyCall`

## Main results

* `Identity.handleCall_closed`: on a closed object every handle-using method raises the
  closed-handle error before any native call
* `Identity.handleCall_spec`, `Identity.repr_spec`: on any object these methods never
  free an identity handle
* `Identity.load_ok`: a loaded `Identity` holds exactly the non-NULL anchor that
  `aid_identity_load` stored, after it returned `AID_OK`
-/

namespace AgenticIdentity

open Native

/-! ## Module-level functions -/

/-- `version()`: the static string of `aid_version`, never freed. A NULL pointer and an
empty string are both falsy, and both are refused. -/
def version : Native String := do
  let raw ← ffi .aidVersion
  if raw.out = 0 ∨ raw.value = [] then
    throw (.agenticIdentityError (-1) "aid_version returned null")
  match decode raw.value with
  | none => throw .unicodeDecodeError
  | some s => pure s

/-- The shape shared by `verify_receipt` and `verify_trust_grant`: one native call that
stores `is_valid`, its code checked, then `is_valid.value == 1`. -/
def verifyCall (c : Call) : Native Bool := do
  let r ← ffi c
  check r.rc
  pure (r.isValid == 1)

/-- `verify_receipt(receipt_json)`. -/
def verifyReceipt (receiptJson : PyStr) : Native Bool := do
  let receiptBytes ← MonadExcept.ofExcept (encode receiptJson)
  verifyCall (.aidReceiptVerify receiptBytes)

/-- `verify_trust_grant(grant_json, capability)`. -/
def verifyTrustGrant (grantJson capability : PyStr) : Native Bool := do
  let grantBytes ← MonadExcept.ofExcept (encode grantJson)
  let capabilityBytes ← MonadExcept.ofExcept (encode capability)
  verifyCall (.aidTrustVerify grantBytes capabilityBytes)

/-! ## The class -/

/-- An `Identity` object, by its `_handle`: the anchor pointer, `none` once closed. -/
structure Identity where
  handle : Option Ptr
  deriving DecidableEq, Repr

namespace Identity

/-- `Identity.__init__(handle)`: a NULL handle is refused. -/
def init (handle : Ptr) : Native Identity :=
  if handle = 0 then throw (.agenticIdentityError (-1) "Cannot create Identity with a null handle")
  else pure ⟨some handle⟩

/-- The native call of `Identity.create(path, passphrase, name)`: an empty name is falsy, and
is passed as NULL like no name; each string is encoded in turn, and may raise. -/
def createCall (path passphrase : PyStr) (name : Option PyStr) : Except PyExc Call := do
  let nameBytes ← match name.filter (!·.isEmpty) with
    | some n => do
      let b ← encode n
      pure (some b)
    | none => pure none
  let passphraseBytes ← encode passphrase
  let pathBytes ← encode path
  pure (.aidIdentityCreate nameBytes passphraseBytes pathBytes)

/-- `Identity.create(path, passphrase, name)`. -/
def create (path passphrase : PyStr) (name : Option PyStr) : Native String := do
  let c ← MonadExcept.ofExcept (createCall path passphrase name)
  callTakeString c

/-- `Identity.load(path, passphrase)`: the anchor `aid_identity_load` stored, wrapped by
`cls(anchor_out)`. -/
def load (path passphrase : PyStr) : Native Identity := do
  let pathBytes ← MonadExcept.ofExcept (encode path)
  let passphraseBytes ← MonadExcept.ofExcept (encode passphrase)
  let anchorOut ← ffi (.aidIdentityLoad pathBytes passphraseBytes)
  check anchorOut.rc
  init anchorOut.out

/-- `Identity.close`: free the anchor, once, and forget it. -/
def close (self : Identity) : Native Identity :=
  match self.handle with
  | some h => do
    let _ ← ffi (.aidIdentityFree h)
    pure ⟨none⟩
  | none => pure self

/-- `Identity.__del__`. -/
def del (self : Identity) : Native Identity := self.close

/-- `Identity.__exit__(*exc)`, which ignores the exception it is given. -/
def exit (self : Identity) : Native Identity := self.close

/-- `Identity.__enter__`. -/
def enter (self : Identity) : Native Identity := pure self

/-- `Identity._require_handle`. -/
def requireHandle (self : Identity) : Native Ptr :=
  match self.handle with
  | none => throw (.agenticIdentityError (-1) "Identity handle has been closed")
  | some h => pure h

/-- A handle-using method: take the handle, build the native call from it (`prepare`
serialises and encodes the arguments, and may raise, but makes no native call), then make
the call and take its string. -/
def handleCall (self : Identity) (prepare : Ptr → Except PyExc Call) : Native String := do
  let handle ← self.requireHandle
  let c ← MonadExcept.ofExcept (prepare handle)
  callTakeString c

/-- The `identity_id` property. -/
def identityId (self : Identity) : Native String :=
  self.handleCall fun handle => pure (.aidIdentityGetId handle)

/-- The `public_key` property. -/
def publicKey (self : Identity) : Native String :=
  self.handleCall fun handle => pure (.aidIdentityGetPublicKey handle)

/-- The native call of `sign_action` on `handle`, with `room` levels of recursion left to
`json.dumps`: `data`, unless it is `None`, is serialised and encoded, then the two strings are
encoded, each of which may raise. -/
def signActionCall (handle : Ptr) (actionType description : PyStr) (data : PyObj)
    (room : Nat) : Except PyExc Call := do
  let dataJson ← match data with
    | .none => pure none
    | data => do
      let s ← dumps room data
      let b ← encode (.ofString s)
      pure (some b)
  let actionTypeBytes ← encode actionType
  let descriptionBytes ← encode description
  pure (.aidActionSign handle actionTypeBytes descriptionBytes dataJson)

/-- `Identity.sign_action(action_type, description, data)`. -/
def signAction (self : Identity) (actionType description : PyStr) (data : PyObj)
    (room : Nat) : Native String :=
  self.handleCall fun handle => signActionCall handle actionType description data room

/-- The native call of `create_trust_grant` on `handle`, with `room` levels of recursion left
to `json.dumps`: the capabilities serialised and encoded, then the two strings encoded. -/
def createTrustGrantCall (handle : Ptr) (granteeId granteeKey : PyStr)
    (capabilities : List PyStr) (room : Nat) : Except PyExc Call := do
  let capsJson ← dumps room (.list (capabilities.map .str))
  let capsBytes ← encode (.ofString capsJson)
  let granteeIdBytes ← encode granteeId
  let granteeKeyBytes ← encode granteeKey
  pure (.aidTrustGrant handle granteeIdBytes granteeKeyBytes capsBytes)

/-- `Identity.create_trust_grant(grantee_id, grantee_key, capabilities)`. -/
def createTrustGrant (self : Identity) (granteeId granteeKey : PyStr)
    (capabilities : List PyStr) (room : Nat) : Native String :=
  self.handleCall fun handle => createTrustGrantCall handle granteeId granteeKey capabilities room

/-- `Identity.__repr__`, given Python's `repr` of a `str` (the `!r` conversion). Only an
`AgenticIdentityError` is caught. -/
def repr (strRepr : String → String) (self : Identity) : Native String :=
  match self.handle with
  | none => pure "Identity(<closed>)"
  | some _ =>
    try
      let id ← self.identityId
      pure ("Identity(id=" ++ strRepr id ++ ")")
    catch e =>
      match e with
      | .agenticIdentityError _ _ => pure "Identity(<error reading id>)"
      | e => throw e

/-! ## Spec lemmas -/

/-- The error of a handle-using method on a closed object. -/
def closedError : PyExc := .agenticIdentityError (-1) "Identity handle has been closed"

variable {P : Call → Prop}

/-- **On a closed object a handle-using method raises before any native call.** -/
@[simp] theorem handleCall_closed (prepare : Ptr → Except PyExc Call) :
    handleCall ⟨none⟩ prepare = raise closedError := rfl

/-- On a live object a handle-using method is its preparation, then the call it built. -/
theorem handleCall_some (h : Ptr) (prepare : Ptr → Except PyExc Call) :
    handleCall ⟨some h⟩ prepare = MonadExcept.ofExcept (prepare h) >>= callTakeString := rfl

/-- A handle-using method frees no identity handle, when the call it prepares frees none. -/
theorem handleCall_spec (self : Identity) {prepare : Ptr → Except PyExc Call}
    (hp : ∀ h c, prepare h = .ok c → c.isFree = false) :
    (self.handleCall prepare).Spec (fun c => c.isFree = false) fun _ => True := by
  obtain ⟨_ | h⟩ := self
  · trivial
  · rw [handleCall_some]
    refine Spec.bind (spec_ofExcept _ (hp h)) fun c hc => ?_
    simp only [callTakeString, ffi_bind, spec_call]
    exact ⟨hc, fun r => Spec.bind (check_spec r.rc) fun _ _ =>
      Spec.mono (takeString_spec _ _) (fun c hc => by rw [hc]; rfl) fun _ _ => trivial⟩

/-- Neither property frees an identity handle. -/
theorem identityId_spec (self : Identity) :
    self.identityId.Spec (fun c => c.isFree = false) fun _ => True :=
  handleCall_spec self fun _ _ h => by cases h; rfl

theorem publicKey_spec (self : Identity) :
    self.publicKey.Spec (fun c => c.isFree = false) fun _ => True :=
  handleCall_spec self fun _ _ h => by cases h; rfl

/-- What `sign_action` prepares is `aid_action_sign` on the handle. -/
theorem signActionCall_ok {h : Ptr} {actionType description : PyStr} {data : PyObj}
    {room : Nat} {c : Call} (hc : signActionCall h actionType description data room = .ok c) :
    ∃ a d dj, c = .aidActionSign h a d dj := by
  unfold signActionCall at hc
  split at hc <;> simp only [except_bind_eq_ok] at hc
  · obtain ⟨dj, -, a, -, d, -, hc⟩ := hc
    exact ⟨a, d, dj, by cases hc; rfl⟩
  · obtain ⟨-, -, -, -, dj, -, a, -, d, -, hc⟩ := hc
    exact ⟨a, d, dj, by cases hc; rfl⟩

/-- What `create_trust_grant` prepares is `aid_trust_grant` on the handle. -/
theorem createTrustGrantCall_ok {h : Ptr} {granteeId granteeKey : PyStr}
    {capabilities : List PyStr} {room : Nat} {c : Call}
    (hc : createTrustGrantCall h granteeId granteeKey capabilities room = .ok c) :
    ∃ i k cs, c = .aidTrustGrant h i k cs := by
  simp only [createTrustGrantCall, except_bind_eq_ok] at hc
  obtain ⟨-, -, cs, -, i, -, k, -, hc⟩ := hc
  exact ⟨i, k, cs, by cases hc; rfl⟩

/-- What `Identity.create` prepares is `aid_identity_create`. -/
theorem createCall_ok {path passphrase : PyStr} {name : Option PyStr} {c : Call}
    (hc : createCall path passphrase name = .ok c) : ∃ n q p, c = .aidIdentityCreate n q p := by
  unfold createCall at hc
  split at hc <;> simp only [except_bind_eq_ok] at hc
  · obtain ⟨-, -, n, -, q, -, p, -, hc⟩ := hc
    exact ⟨n, q, p, by cases hc; rfl⟩
  · obtain ⟨n, -, q, -, p, -, hc⟩ := hc
    exact ⟨n, q, p, by cases hc; rfl⟩

/-- The serialisation of the payload makes no native call and frees nothing. -/
theorem signAction_spec (self : Identity) (actionType description : PyStr)
    (data : PyObj) (room : Nat) :
    (self.signAction actionType description data room).Spec (fun c => c.isFree = false)
      fun _ => True :=
  handleCall_spec self fun _ _ hc => by
    obtain ⟨_, _, _, rfl⟩ := signActionCall_ok hc
    rfl

theorem createTrustGrant_spec (self : Identity) (granteeId granteeKey : PyStr)
    (capabilities : List PyStr) (room : Nat) :
    (self.createTrustGrant granteeId granteeKey capabilities room).Spec
      (fun c => c.isFree = false) fun _ => True :=
  handleCall_spec self fun _ _ hc => by
    obtain ⟨_, _, _, rfl⟩ := createTrustGrantCall_ok hc
    rfl

/-- `__repr__` frees no identity handle, whatever the property it reads raises. -/
theorem repr_spec (strRepr : String → String) (self : Identity) :
    (self.repr strRepr).Spec (fun c => c.isFree = false) fun _ => True := by
  obtain ⟨_ | h⟩ := self
  · trivial
  · refine Spec.tryCatch (Spec.bind (identityId_spec _) fun _ _ => trivial) fun e => ?_
    cases e <;> trivial

/-! ## Building an `Identity` -/

theorem init_eq_ret_iff {handle : Ptr} {self : Identity} :
    init handle = ret self ↔ handle ≠ 0 ∧ self = ⟨some handle⟩ := by
  unfold init
  split <;> simp [*, eq_comm]

/-- **A loaded `Identity` holds the anchor `aid_identity_load` stored**: `load` returns
only after both strings encoded and its one native call answered `AID_OK` with a non-NULL
anchor, and the object wraps exactly that anchor. -/
theorem load_ok (lib : Lib) (past : List Call) (path passphrase : PyStr) {self : Identity}
    {calls : List Call} (h : (load path passphrase).run lib past = (.ok self, calls)) :
    ∃ pathBytes passphraseBytes, encode path = .ok pathBytes ∧
      encode passphrase = .ok passphraseBytes ∧
      let c := Call.aidIdentityLoad pathBytes passphraseBytes
      calls = [c] ∧ (lib past c).rc = aidOk ∧ (lib past c).out ≠ 0 ∧
        self.handle = some (lib past c).out := by
  cases hp : encode path with
  | error e => simp [load, hp] at h
  | ok pathBytes =>
    cases hq : encode passphrase with
    | error e => simp [load, hp, hq] at h
    | ok passphraseBytes =>
      refine ⟨pathBytes, passphraseBytes, rfl, rfl, ?_⟩
      intro c
      simp only [load, hp, hq, ofExcept_ok, ret_bind, ffi_bind, run_call] at h
      by_cases hrc : (lib past c).rc = aidOk
      · simp only [hrc, check_ok, ret_bind] at h
        by_cases hout : (lib past c).out = 0
        · simp [init, hout] at h
        · simp only [init, hout, if_false, pure_eq, run_ret, Prod.mk.injEq, Except.ok.injEq] at h
          exact ⟨h.2.symm, hrc, hout, by rw [← h.1]⟩
      · simp [check_of_ne hrc] at h

end Identity

end AgenticIdentity
