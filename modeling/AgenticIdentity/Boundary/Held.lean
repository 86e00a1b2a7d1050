import AgenticIdentity.Boundary.Ffi

/-!
# What the caller holds

The docstring of `_ffi.py` states the memory rules of the native library. A string stored
through a `*mut c_char` out-parameter must be freed with `aid_free_string`; an identity
handle stored through a `*mut c_void` out-parameter must be freed with `aid_identity_free`;
the static string of `aid_version` must not be freed. `Held` is what a caller holds under
these rules after a transcript of calls and replies: the anchors the library allocated and
the caller has not freed, and the strings it handed over and the caller has not freed.
`Held.step` fails on a call that breaks a rule: a free of an anchor or of a string that is
not held, or an anchor passed to the library that is not held.

The library hands something over only with `AID_OK` and a non-NULL pointer: the Rust side
writes an out-parameter only on success, and the Python side starts each one at NULL.

## Main definitions

* `Lib.replies`: the calls of a run, each with the library's reply
* `Held`, `Held.step`, `Held.run`: the memory rules, as a machine over transcripts
-/

namespace AgenticIdentity

/-- The calls `calls`, made after the calls `past`, each with the library's reply. -/
def Lib.replies (lib : Lib) (past : List Call) : List Call → List (Call × Reply)
  | [] => []
  | c :: cs => (c, lib past c) :: lib.replies (past ++ [c]) cs

@[simp] theorem Lib.replies_nil (lib : Lib) (past : List Call) : lib.replies past [] = [] := rfl

@[simp] theorem Lib.replies_cons (lib : Lib) (past : List Call) (c : Call) (cs : List Call) :
    lib.replies past (c :: cs) = (c, lib past c) :: lib.replies (past ++ [c]) cs := rfl

theorem Lib.replies_append (lib : Lib) (past xs ys : List Call) :
    lib.replies past (xs ++ ys) = lib.replies past xs ++ lib.replies (past ++ xs) ys := by
  induction xs generalizing past with
  | nil => simp
  | cons x xs ih => simp [ih]

/-- What a caller holds: the anchors the library allocated that it has not freed, and the
strings the library handed over that it has not freed, each with its bytes, the most recent
first. -/
structure Held where
  anchors : List Ptr
  strings : List (Ptr × Bytes)

namespace Held

/-- Whether a reply hands over what it stored: `AID_OK` and a non-NULL pointer. -/
def Hands (r : Reply) : Prop := r.rc = aidOk ∧ r.out ≠ 0

instance (r : Reply) : Decidable (Hands r) := inferInstanceAs (Decidable (_ ∧ _))

/-- The string a reply hands over, if any, is held. -/
def receive (s : Held) (r : Reply) : Held :=
  if Hands r then ⟨s.anchors, (r.out, r.value) :: s.strings⟩ else s

/-- The anchor a reply hands over, if any, is held. -/
def allocate (s : Held) (r : Reply) : Held :=
  if Hands r then ⟨r.out :: s.anchors, s.strings⟩ else s

/-- A call that passes the anchor `h` and stores a string: `h` must be held. -/
def use (s : Held) (h : Ptr) (r : Reply) : Option Held :=
  if h ∈ s.anchors then some (s.receive r) else none

/-- `aid_identity_free(h)`: `h` must be held, and is no longer. -/
def release (s : Held) (h : Ptr) : Option Held :=
  if h ∈ s.anchors then some ⟨s.anchors.erase h, s.strings⟩ else none

/-- `aid_free_string(p)`: `p` must be a held string; the most recent one handed over at `p`
is no longer held. -/
def freeString (s : Held) (p : Ptr) : Option Held :=
  if p ∈ s.strings.map Prod.fst then some ⟨s.anchors, s.strings.eraseP (·.1 = p)⟩ else none

/-- One call and its reply, under the memory rules: `none` if the call breaks one. -/
def step (s : Held) : Call × Reply → Option Held
  | (.aidVersion, _) => some s
  | (.aidIdentityCreate _ _ _, r) => some (s.receive r)
  | (.aidIdentityLoad _ _, r) => some (s.allocate r)
  | (.aidIdentityFree h, _) => s.release h
  | (.aidIdentityGetId h, r) => s.use h r
  | (.aidIdentityGetPublicKey h, r) => s.use h r
  | (.aidActionSign h _ _ _, r) => s.use h r
  | (.aidReceiptVerify _, _) => some s
  | (.aidTrustGrant h _ _ _, r) => s.use h r
  | (.aidTrustVerify _ _, _) => some s
  | (.aidFreeString p, _) => s.freeString p

@[simp] theorem step_identityLoad (s : Held) (path passphrase : Bytes) (r : Reply) :
    s.step (.aidIdentityLoad path passphrase, r) = some (s.allocate r) := rfl

@[simp] theorem step_identityFree (s : Held) (h : Ptr) (r : Reply) :
    s.step (.aidIdentityFree h, r) = s.release h := rfl

@[simp] theorem step_freeString (s : Held) (p : Ptr) (r : Reply) :
    s.step (.aidFreeString p, r) = s.freeString p := rfl

/-- A whole transcript under the memory rules: `none` if some call breaks one. -/
def run (s : Held) : List (Call × Reply) → Option Held
  | [] => some s
  | e :: es => (s.step e).bind fun s' => s'.run es

@[simp] theorem run_nil (s : Held) : s.run [] = some s := rfl

@[simp] theorem run_cons (s : Held) (e : Call × Reply) (es : List (Call × Reply)) :
    s.run (e :: es) = (s.step e).bind fun s' => s'.run es := rfl

theorem run_append (s : Held) (xs ys : List (Call × Reply)) :
    s.run (xs ++ ys) = (s.run xs).bind fun s' => s'.run ys := by
  induction xs generalizing s with
  | nil => rfl
  | cons x xs ih => cases h : s.step x <;> simp [h, ih]

theorem receive_of_not_hands {s : Held} {r : Reply} (h : ¬Hands r) : s.receive r = s := if_neg h

theorem allocate_of_not_hands {s : Held} {r : Reply} (h : ¬Hands r) : s.allocate r = s :=
  if_neg h

/-- A string received and freed at once leaves what is held as it was. -/
theorem freeString_receive (s : Held) {r : Reply} (h : Hands r) :
    (s.receive r).freeString r.out = some s := by
  simp [receive, freeString, h]

end Held

end AgenticIdentity
