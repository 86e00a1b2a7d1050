import Mathlib.Data.List.Basic

/-!
# The native boundary

The Python package reaches the Rust engine only through `ctypes` calls into
`libagentic_identity_ffi` (`_ffi.py`). The library is not part of the package, so it is
uninterpreted here: a native call is a value of `Call`, the library answers it with a
`Reply`, and the answer may depend on every call made before it, which makes every
stateful library one of these oracles.

A function of the wrapper is a computation in `Native`, the free monad over native calls
with Python's exceptions: it has returned, has raised, or waits on a native call and
continues with the reply. The native calls a computation makes are then explicit data, so
"no native call happens" is a statement about the computation, and a property of every
call it can reach is proved once, by induction on it.

The wrapper's text arguments reach the library as the bytes of `str.encode("utf-8")`. A
Python `str` is a sequence of code points, and unlike a Lean `String` it may hold a
surrogate; encoding one raises `UnicodeEncodeError` before any native call.

## Main definitions

* `PyExc`: the exceptions a wrapper function can raise
* `PyStr`, `encode`: a Python `str`, and `str.encode("utf-8")`
* `Call`, `Reply`: a native function with its arguments, and what it leaves behind
* `Native`: computations of the wrapper; `Native.ffi` makes one native call
* `Native.run`: a computation against a library, with the calls it made
* `Native.Spec P Q`: every call the computation can reach satisfies `P`, every value it
  can return satisfies `Q`

## Main results

* `Native.Spec.bind`, `Native.Spec.tryCatch`: the program logic is compositional
* `Native.Spec.run_calls`, `Native.Spec.run_ok`: what `Spec` promises of every run
-/

namespace AgenticIdentity

/-- A C pointer, by its address; `0` is `NULL`. -/
abbrev Ptr := Nat

/-- A Python `bytes` value. -/
abbrev Bytes := List UInt8

/-- The exceptions a function of the package can raise. -/
inductive PyExc where
  /-- `AgenticIdentityError(code, message)` of `_ffi.py`. -/
  | agenticIdentityError (code : Int) (message : String)
  /-- `UnicodeEncodeError`, from `str.encode("utf-8")`. -/
  | unicodeEncodeError
  /-- `UnicodeDecodeError`, from `bytes.decode("utf-8")`. -/
  | unicodeDecodeError
  /-- `TypeError(message)`. -/
  | typeError (message : String)
  /-- `ValueError(message)`. -/
  | valueError (message : String)
  /-- `RecursionError(message)`. -/
  | recursionError (message : String)
  /-- `AttributeError(message)`. -/
  | attributeError (message : String)
  /-- `OSError(message)`. -/
  | osError (message : String)
  deriving DecidableEq, Repr

/-- A code point of a Python `str`: a Unicode scalar value, or the lone surrogate
`0xd800 + n`, which a `str` may hold and UTF-8 cannot encode. -/
inductive PyChar where
  | char (c : Char)
  | surrogate (n : Fin 0x800)
  deriving DecidableEq, Repr

/-- A Python `str`, by its code points. -/
abbrev PyStr := List PyChar

/-- A Lean string as a Python `str`, which then holds no surrogate. -/
def PyStr.ofString (s : String) : PyStr := s.data.map .char

/-- The characters of a `str` that holds no surrogate. -/
def PyStr.chars? : PyStr → Option (List Char)
  | [] => some []
  | .char c :: s => (chars? s).map (c :: ·)
  | .surrogate _ :: _ => none

/-- `str.encode("utf-8")`, which raises `UnicodeEncodeError` on a lone surrogate. -/
def encode (s : PyStr) : Except PyExc Bytes :=
  match s.chars? with
  | some cs => .ok (String.mk cs).toUTF8.data.toList
  | none => .error .unicodeEncodeError

/-- `bytes.decode("utf-8")`: `none` where Python raises `UnicodeDecodeError`. -/
def decode (b : Bytes) : Option String := String.fromUTF8? ⟨b.toArray⟩

/-- A computation of `Except` returns `b` exactly when its first step returns a value from
which the rest returns `b`. -/
theorem except_bind_eq_ok {ε α β : Type} {x : Except ε α} {f : α → Except ε β} {b : β} :
    x >>= f = .ok b ↔ ∃ a, x = .ok a ∧ f a = .ok b := by
  cases x <;> simp [bind, Except.bind]

/-- A function of `libagentic_identity_ffi` with the arguments the wrapper passes, in the
order `_load_library` declares them; a nullable `c_char_p` is `none` for `NULL`. The
out-parameters are not arguments: what the callee stores through them is in its `Reply`. -/
inductive Call where
  | aidVersion
  | aidIdentityCreate (name : Option Bytes) (passphrase path : Bytes)
  | aidIdentityLoad (path passphrase : Bytes)
  | aidIdentityFree (anchor : Ptr)
  | aidIdentityGetId (anchor : Ptr)
  | aidIdentityGetPublicKey (anchor : Ptr)
  | aidActionSign (anchor : Ptr) (actionType description : Bytes) (dataJson : Option Bytes)
  | aidReceiptVerify (receiptJson : Bytes)
  | aidTrustGrant (grantorAnchor : Ptr) (granteeId granteeKey capabilitiesJson : Bytes)
  | aidTrustVerify (grantJson capability : Bytes)
  | aidFreeString (ptr : Ptr)
  deriving DecidableEq, Repr

/-- Whether a call releases an identity handle. -/
def Call.isFree : Call → Bool
  | .aidIdentityFree _ => true
  | _ => false

/-- What a native call leaves for the wrapper. -/
structure Reply where
  /-- The `c_int` return code; the `void` functions' is never read. -/
  rc : Int
  /-- The pointer the callee stored through its `c_char_p` or `c_void_p` out-parameter, or
  returned as `aid_version`'s `c_char_p`; `0` when it stored none. -/
  out : Ptr
  /-- The bytes of the NUL-terminated string at `out`, as `c_char_p.value` reads them. -/
  value : Bytes
  /-- The `c_int` stored through `is_valid_out`, which starts at `0`. -/
  isValid : Int
  deriving DecidableEq, Repr

/-- The native library, uninterpreted: its reply to a call may depend on every call made
before it. -/
def Lib := List Call → Call → Reply

/-- A computation of the wrapper: it has returned, has raised, or waits on a native call
and continues with the reply. -/
inductive Native (α : Type) where
  | ret (a : α)
  | raise (e : PyExc)
  | call (c : Call) (k : Reply → Native α)

namespace Native

variable {α β : Type}

/-- Sequencing; an exception skips the rest. -/
def bind : Native α → (α → Native β) → Native β
  | ret a, f => f a
  | raise e, _ => raise e
  | call c k, f => call c fun r => (k r).bind f

/-- `try ... except`: the handler sees what the body raised, after the calls it made. -/
def tryCatch : Native α → (PyExc → Native α) → Native α
  | ret a, _ => ret a
  | raise e, h => h e
  | call c k, h => call c fun r => (k r).tryCatch h

instance : Monad Native where
  pure := ret
  bind := bind

instance : MonadExceptOf PyExc Native where
  throw := raise
  tryCatch := tryCatch

/-- `_lib.<function>(...)`: one native call, answering its reply. -/
def ffi (c : Call) : Native Reply := call c ret

@[simp] theorem pure_eq (a : α) : (pure a : Native α) = ret a := rfl
@[simp] theorem throw_eq (e : PyExc) : (throw e : Native α) = raise e := rfl
@[simp] theorem ret_bind (a : α) (f : α → Native β) : (ret a >>= f) = f a := rfl
@[simp] theorem raise_bind (e : PyExc) (f : α → Native β) : (raise e >>= f) = raise e := rfl
@[simp] theorem call_bind (c : Call) (k : Reply → Native α) (f : α → Native β) :
    (call c k >>= f) = call c fun r => k r >>= f := rfl
@[simp] theorem ffi_bind (c : Call) (f : Reply → Native β) : (ffi c >>= f) = call c f := rfl
@[simp] theorem ofExcept_ok (a : α) : (MonadExcept.ofExcept (.ok a) : Native α) = ret a := rfl
@[simp] theorem ofExcept_error (e : PyExc) :
    (MonadExcept.ofExcept (.error e) : Native α) = raise e := rfl

@[simp] theorem tryCatch_eq (x : Native α) (h : PyExc → Native α) :
    (MonadExcept.tryCatch x h : Native α) = x.tryCatch h := rfl
@[simp] theorem tryCatch_ret (a : α) (h : PyExc → Native α) :
    (tryCatch (ret a) h) = ret a := rfl
@[simp] theorem tryCatch_raise (e : PyExc) (h : PyExc → Native α) :
    (tryCatch (raise e) h) = h e := rfl
@[simp] theorem tryCatch_call (c : Call) (k : Reply → Native α) (h : PyExc → Native α) :
    (tryCatch (call c k) h) = call c fun r => (k r).tryCatch h := rfl

/-! ## Running against a library -/

/-- Run a computation against `lib` after the calls `past`: how it ended, and the native
calls it made, in order. -/
def run (lib : Lib) : Native α → List Call → Except PyExc α × List Call
  | ret a, _ => (.ok a, [])
  | raise e, _ => (.error e, [])
  | call c k, past =>
    let r := (k (lib past c)).run lib (past ++ [c])
    (r.1, c :: r.2)

@[simp] theorem run_ret (lib : Lib) (a : α) (past : List Call) :
    (ret a).run lib past = (.ok a, []) := rfl
@[simp] theorem run_raise (lib : Lib) (e : PyExc) (past : List Call) :
    (raise e : Native α).run lib past = (.error e, []) := rfl
@[simp] theorem run_call (lib : Lib) (c : Call) (k : Reply → Native α) (past : List Call) :
    (call c k).run lib past =
      (((k (lib past c)).run lib (past ++ [c])).1, c :: ((k (lib past c)).run lib (past ++ [c])).2) :=
  rfl

/-- A computation followed by a pure step makes the computation's calls. -/
theorem run_bind_ret_calls (lib : Lib) (x : Native α) (f : α → β) (past : List Call) :
    ((x >>= fun a => pure (f a)).run lib past).2 = (x.run lib past).2 := by
  induction x generalizing past with
  | ret a => rfl
  | raise e => rfl
  | call c k ih => exact congrArg (c :: ·) (ih _ _)

/-! ## The program logic -/

/-- **What a computation can do**, whatever the library replies: every native call it can
reach satisfies `P`, and every value it can return satisfies `Q`. -/
def Spec (P : Call → Prop) (Q : α → Prop) : Native α → Prop
  | ret a => Q a
  | raise _ => True
  | call c k => P c ∧ ∀ r, (k r).Spec P Q

variable {P : Call → Prop} {Q : α → Prop} {R : β → Prop}

@[simp] theorem spec_ret (a : α) : (ret a).Spec P Q ↔ Q a := Iff.rfl
@[simp] theorem spec_raise (e : PyExc) : (raise e : Native α).Spec P Q := trivial
@[simp] theorem spec_call (c : Call) (k : Reply → Native α) :
    (call c k).Spec P Q ↔ P c ∧ ∀ r, (k r).Spec P Q := Iff.rfl

theorem Spec.bind {x : Native α} {f : α → Native β} (hx : x.Spec P Q)
    (hf : ∀ a, Q a → (f a).Spec P R) : (x >>= f).Spec P R := by
  induction x with
  | ret a => exact hf a hx
  | raise e => trivial
  | call c k ih => exact ⟨hx.1, fun r => ih r (hx.2 r)⟩

theorem Spec.tryCatch {x : Native α} {h : PyExc → Native α} (hx : x.Spec P Q)
    (hh : ∀ e, (h e).Spec P Q) : (x.tryCatch h).Spec P Q := by
  induction x with
  | ret a => exact hx
  | raise e => exact hh e
  | call c k ih => exact ⟨hx.1, fun r => ih r (hx.2 r)⟩

theorem Spec.mono {x : Native α} {P' : Call → Prop} {Q' : α → Prop} (hx : x.Spec P Q)
    (hP : ∀ c, P c → P' c) (hQ : ∀ a, Q a → Q' a) : x.Spec P' Q' := by
  induction x with
  | ret a => exact hQ a hx
  | raise e => trivial
  | call c k ih => exact ⟨hP c hx.1, fun r => ih r (hx.2 r)⟩

theorem spec_ofExcept (x : Except PyExc α) (hx : ∀ a, x = .ok a → Q a) :
    (MonadExcept.ofExcept x : Native α).Spec P Q := by
  cases x with
  | ok a => exact hx a rfl
  | error e => trivial

/-- Every call of a run is one the computation can reach. -/
theorem Spec.run_calls {x : Native α} (hx : x.Spec P Q) (lib : Lib) (past : List Call) :
    ∀ c ∈ (x.run lib past).2, P c := by
  induction x generalizing past with
  | ret a => simp
  | raise e => simp
  | call c k ih =>
    simp only [run_call, List.mem_cons, forall_eq_or_imp]
    exact ⟨hx.1, ih _ (hx.2 _) _⟩

/-- A handler that makes no native call adds no call to what the body makes. -/
theorem run_tryCatch_calls (lib : Lib) {x : Native α} {h : PyExc → Native α}
    (hh : ∀ e, (h e).Spec (fun _ => False) fun _ => True) (past : List Call) :
    ((x.tryCatch h).run lib past).2 = (x.run lib past).2 := by
  induction x generalizing past with
  | ret a => rfl
  | raise e => exact List.eq_nil_iff_forall_not_mem.mpr fun c hc => (hh e).run_calls lib past c hc
  | call c k ih => simp [ih]

/-- Every value a run returns is one the computation can return. -/
theorem Spec.run_ok {x : Native α} (hx : x.Spec P Q) (lib : Lib) (past : List Call) {a : α}
    (h : (x.run lib past).1 = .ok a) : Q a := by
  induction x generalizing past with
  | ret b => cases h; exact hx
  | raise e => cases h
  | call c k ih => exact ih _ (hx.2 _) _ h

end Native

end AgenticIdentity
