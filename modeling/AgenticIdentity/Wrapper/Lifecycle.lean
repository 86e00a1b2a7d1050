import AgenticIdentity.Wrapper.Identity

/-!
# The lifetime of an `Identity`

Spec §4.3 and §9 ask two things of a loaded anchor: it is released explicitly, and a use
after release is an error (`InvalidHandle`), never an operation on freed memory. `Contract`
states this one method call at a time, over the lines of a run's transcript: on a live
anchor no method frees anything, except a releasing one, whose last native call frees the
anchor; on a released anchor no method makes a native call, and each answers as a released
anchor should.

The wrapper refines the contract. Its state is abstracted to an anchor by its `_handle`,
and every step of `Identity.step` is a step of the contract (`step_refines`): this needs no
invariant, since the abstraction carries the handle. Runs of any length follow by induction
(`runs_refines`), and what the contract forbids, the wrapper never does
(`handle_freed_once`). The library is universally quantified and may answer from the
whole history of calls, so every sequence of replies, failing ones included, is covered.
A `with` block is `__enter__`, a body whose next call may depend on how the earlier ones
ended, caught exceptions included, and `__exit__`: it is a run of the contract too, so it
releases the anchor on every exit path (spec §5), exactly once (`withBlock_frees_once`).

## Main definitions

* `Method`, `Value`, `Entry`: a method call, what it returns, a line of a transcript
* `Identity.step`, `Identity.runs`: method calls on one object, in sequence
* `Body`, `Identity.withBlock`: `with self as ident:` around a body that calls methods and
  may catch what they raise
* `Anchor`, `Contract`, `Contract.Run`: the spec's liveness contract

## Main results

* `Contract.Run.free_last`, `Contract.Run.closed_after_free`: under the contract the
  anchor is freed at most once, by the last native call, and every later call is
  answered without one
* `Contract.Run.freed_once`: a run that ends released freed the anchor exactly once
* `Identity.step_refines`, `Identity.runs_refines`: the wrapper refines the contract
* `Identity.withBlock_frees_once`: a `with` block frees the anchor exactly once, by its
  last native call, whatever the body does
* `handle_freed_once`: the handle given to the constructor is freed at most once, no
  native call follows, and every later method answers as on a closed object
-/

namespace AgenticIdentity

open Native

/-- A method call on an `Identity`. -/
inductive Method where
  | close
  | exit
  | del
  | enter
  | identityId
  | publicKey
  /-- `sign_action`, with `data` the `None` of its default when it is not given, and the levels
  of recursion left to its `json.dumps`, which the caller's stack decides. -/
  | signAction (actionType description : PyStr) (data : PyObj) (room : Nat)
  /-- `create_trust_grant`, and the levels of recursion left to its `json.dumps`. -/
  | createTrustGrant (granteeId granteeKey : PyStr) (capabilities : List PyStr) (room : Nat)
  | repr

/-- `close`, `__exit__` and `__del__`: the methods that release the anchor. -/
def Method.releases : Method → Bool
  | .close | .exit | .del => true
  | _ => false

/-- What a method returns: `None`, a string, or the object itself (`__enter__`). -/
inductive Value where
  | none
  | str (s : String)
  | self
  deriving DecidableEq, Repr

/-- A line of a run's transcript: the method, the native calls it made, how it ended. -/
structure Entry where
  method : Method
  calls : List Call
  outcome : Except PyExc Value

/-- The body of a `with` block, by what it does with the object: each method call's outcome
decides what the body does next, so a body may catch an exception and go on calling. -/
inductive Body where
  /-- The body ends normally: it runs to its end, or leaves by `return` or `break`. -/
  | done
  /-- The body raises an exception that no method call raised. -/
  | raise (e : PyExc)
  /-- The body calls `m`, then goes on as `k` says of the call's outcome; a body that does not
  catch an exception goes on with `raise` of it. -/
  | call (m : Method) (k : Except PyExc Value → Body)

namespace Identity

/-- Dispatch a method call: what it returns, and the object after it. -/
def invoke (strRepr : String → String) (self : Identity) : Method → Native (Value × Identity)
  | .close => do let s ← self.close; pure (.none, s)
  | .exit => do let s ← self.exit; pure (.none, s)
  | .del => do let s ← self.del; pure (.none, s)
  | .enter => do let s ← self.enter; pure (.self, s)
  | .identityId => do let v ← self.identityId; pure (.str v, self)
  | .publicKey => do let v ← self.publicKey; pure (.str v, self)
  | .signAction a d data room => do
    let v ← self.signAction a d data room
    pure (.str v, self)
  | .createTrustGrant i k caps room => do
    let v ← self.createTrustGrant i k caps room
    pure (.str v, self)
  | .repr => do let v ← self.repr strRepr; pure (.str v, self)

section Runs

variable (lib : Lib) (strRepr : String → String)

/-- One method call after the native calls `past`: its transcript line, and the object
after it. A method that raises leaves the object as it was. -/
def step (past : List Call) (self : Identity) (m : Method) : Entry × Identity :=
  let r := (self.invoke strRepr m).run lib past
  (⟨m, r.2, r.1.map Prod.fst⟩, match r.1 with
    | .ok p => p.2
    | .error _ => self)

/-- Method calls on one object, in sequence: the transcript, and the object at the end. -/
def runs (past : List Call) (self : Identity) : List Method → List Entry × Identity
  | [] => ([], self)
  | m :: ms =>
    let s := step lib strRepr past self m
    let r := runs (past ++ s.1.calls) s.2 ms
    (s.1 :: r.1, r.2)

/-- The body of a `with` block on the object: its transcript, the object after it, and the
exception it raises, if any. -/
def body (past : List Call) (self : Identity) : Body → List Entry × Identity × Option PyExc
  | .done => ([], self, none)
  | .raise e => ([], self, some e)
  | .call m k =>
    let s := step lib strRepr past self m
    let r := body (past ++ s.1.calls) s.2 (k s.1.outcome)
    (s.1 :: r.1, r.2)

/-- `with self as ident:` around such a body: `__enter__`, the body, and `__exit__` on
either exit path. `__exit__` returns `None`, so an exception of the body is raised again. -/
def withBlock (past : List Call) (self : Identity) (b : Body) :
    List Entry × Identity × Except PyExc Unit :=
  let e := step lib strRepr past self .enter
  let b := body lib strRepr (past ++ e.1.calls) e.2 b
  let x := step lib strRepr (past ++ e.1.calls ++ b.1.flatMap Entry.calls) b.2.1 .exit
  (e.1 :: (b.1 ++ [x.1]), x.2, match b.2.2 with
    | some exc => .error exc
    | none => .ok ())

/-- A body that catches the failure of `identity_id`, then closes the object and asks for its
key: its calls go on after the caught exception. -/
example : (withBlock (fun _ _ => ⟨aidErrCrypto, 0, [], 0⟩) id [] ⟨some 1⟩
    (.call .identityId fun _ => .call .close fun _ => .call .publicKey fun _ => .done)).1.flatMap
      Entry.calls = [.aidIdentityGetId 1, .aidIdentityFree 1] := rfl

end Runs

end Identity

/-! ## The contract -/

/-- The spec's anchor as the boundary sees it (§4.3, §9): live on its handle, or
released. -/
inductive Anchor where
  | live (h : Ptr)
  | released
  deriving DecidableEq, Repr

/-- The anchor an `Identity` stands for. -/
def Identity.anchor (self : Identity) : Anchor :=
  match self.handle with
  | some h => .live h
  | none => .released

/-- What a call on a released anchor may answer: a method that needs the anchor fails with
the invalid-handle error, an `AgenticIdentityError` of code `-1`; `__repr__` answers a
string; the releasing methods return `None`; `__enter__` returns the object. -/
def Method.ClosedAnswer : Method → Except PyExc Value → Prop
  | .close, out | .exit, out | .del, out => out = .ok .none
  | .enter, out => out = .ok .self
  | .repr, out => ∃ s, out = .ok (.str s)
  | _, out => ∃ msg, out = .error (.agenticIdentityError (-1) msg)

/-- **The liveness contract** of spec §4.3 and §9, one method call at a time. -/
inductive Contract : Anchor → Entry → Anchor → Prop
  /-- On a live anchor, a method that does not release it frees nothing. -/
  | use {h : Ptr} {e : Entry} (hm : e.method.releases = false)
      (hc : ∀ c ∈ e.calls, c.isFree = false) : Contract (.live h) e (.live h)
  /-- A releasing method frees the anchor by its last native call, and nothing before. -/
  | release {h : Ptr} {m : Method} {pre : List Call} {out : Except PyExc Value}
      (hm : m.releases = true) (hc : ∀ c ∈ pre, c.isFree = false) :
      Contract (.live h) ⟨m, pre ++ [.aidIdentityFree h], out⟩ .released
  /-- On a released anchor, no native call. -/
  | closed {e : Entry} (hc : e.calls = []) (ho : e.method.ClosedAnswer e.outcome) :
      Contract .released e .released

/-- The transcripts the contract allows, from an anchor to an anchor. -/
inductive Contract.Run : Anchor → List Entry → Anchor → Prop
  | nil (a : Anchor) : Run a [] a
  | cons {a b c : Anchor} {e : Entry} {es : List Entry} :
      Contract a e b → Run b es c → Run a (e :: es) c

namespace Contract.Run

theorem of_append {a c : Anchor} {es₂ : List Entry} :
    ∀ {es₁ : List Entry}, Run a (es₁ ++ es₂) c → ∃ b, Run a es₁ b ∧ Run b es₂ c
  | [], h => ⟨a, .nil a, h⟩
  | _ :: _, .cons he hr =>
    let ⟨b, h₁, h₂⟩ := of_append hr
    ⟨b, .cons he h₁, h₂⟩

theorem append {a b c : Anchor} {es₁ es₂ : List Entry} (h₁ : Run a es₁ b)
    (h₂ : Run b es₂ c) : Run a (es₁ ++ es₂) c := by
  induction h₁ with
  | nil => exact h₂
  | cons he _ ih => exact .cons he (ih h₂)

/-- On a released anchor nothing more happens. -/
theorem released : ∀ {es : List Entry} {c : Anchor}, Run .released es c →
    c = .released ∧ es.flatMap Entry.calls = []
  | [], _, .nil _ => ⟨rfl, rfl⟩
  | _ :: _, _, .cons he hr => by
    cases he with
    | closed hc _ => simpa [hc] using released hr

/-- A call that frees nothing is not the free of `h`. -/
theorem free_not_mem {h : Ptr} {l : List Call} (hl : ∀ c ∈ l, c.isFree = false) :
    .aidIdentityFree h ∉ l := fun hm => by simpa [Call.isFree] using hl _ hm

/-- A call absent from `l₁` that occurs in `l₁ ++ l₂` occurs in `l₂`, before the same
suffix. -/
theorem suffix_of_not_mem {x : Call} {l₁ l₂ pre post : List Call} (hx : x ∉ l₁)
    (h : l₁ ++ l₂ = pre ++ x :: post) : ∃ pre', l₂ = pre' ++ x :: post := by
  rcases List.append_eq_append_iff.mp h with ⟨a', -, rfl⟩ | ⟨c', rfl, hc⟩
  · exact ⟨a', rfl⟩
  · cases c' with
    | nil => exact ⟨[], by simpa using hc.symm⟩
    | cons y c' =>
      obtain ⟨rfl, -⟩ := List.cons_eq_cons.mp hc
      exact absurd (List.mem_append_right _ (List.mem_cons_self _ _)) hx

variable {h : Ptr}

/-- From a live anchor, the anchor ends released exactly when it has been freed. -/
theorem released_iff_freed : ∀ {es : List Entry} {c : Anchor}, Run (.live h) es c →
    (c = .released ↔ .aidIdentityFree h ∈ es.flatMap Entry.calls)
  | [], _, .nil _ => by simp
  | _ :: _, _, .cons (.use _ hc) hr => by
    simp [released_iff_freed hr, free_not_mem hc]
  | _ :: _, _, .cons (.release _ _) hr => by simp [(released hr).1]

/-- From a live anchor, the anchor stays on its handle until it is released. -/
theorem live_or_released : ∀ {es : List Entry} {c : Anchor}, Run (.live h) es c →
    c = .live h ∨ c = .released
  | [], _, .nil _ => .inl rfl
  | _ :: _, _, .cons (.use _ _) hr => live_or_released hr
  | _ :: _, _, .cons (.release _ _) hr => .inr (released hr).1

/-- **The anchor is freed at most once, by the last native call**: no native call
follows the free. -/
theorem free_last : ∀ {es : List Entry} {c : Anchor}, Run (.live h) es c →
    ∀ pre post, es.flatMap Entry.calls = pre ++ .aidIdentityFree h :: post → post = []
  | [], _, .nil _, pre, post, hs => by simp at hs
  | _ :: _, _, .cons (.use _ hc) hr, pre, post, hs => by
    obtain ⟨pre', hs'⟩ := suffix_of_not_mem (free_not_mem hc) hs
    exact free_last hr pre' post hs'
  | _ :: _, _, .cons (.release _ hc) hr, pre, post, hs => by
    simp only [List.flatMap_cons, (released hr).2, List.append_nil] at hs
    obtain ⟨pre', hs'⟩ := suffix_of_not_mem (free_not_mem hc) hs
    rcases pre' with _ | ⟨y, ys⟩
    · exact (List.cons_eq_cons.mp hs').2.symm
    · simp at hs'

/-- **Once the anchor is freed, every later call is answered without a native call**, as
on a released anchor. -/
theorem closed_after_free {c : Anchor} {es₁ es₂ : List Entry} {e : Entry}
    (hr : Run (.live h) (es₁ ++ e :: es₂) c)
    (hf : .aidIdentityFree h ∈ es₁.flatMap Entry.calls) :
    e.calls = [] ∧ e.method.ClosedAnswer e.outcome := by
  obtain ⟨b, h₁, h₂⟩ := of_append hr
  obtain rfl := (released_iff_freed h₁).mpr hf
  cases h₂ with
  | cons he _ => cases he with
    | closed hc ho => exact ⟨hc, ho⟩

/-- **A run that ends released freed the anchor exactly once, by its last native call.** -/
theorem freed_once {es : List Entry} (hr : Run (.live h) es .released) :
    ∃ pre, es.flatMap Entry.calls = pre ++ [.aidIdentityFree h] ∧ .aidIdentityFree h ∉ pre := by
  obtain ⟨pre, post, hs⟩ := List.append_of_mem ((released_iff_freed hr).mp rfl)
  obtain rfl := free_last hr pre post hs
  refine ⟨pre, hs, fun hm => ?_⟩
  obtain ⟨p₁, p₂, rfl⟩ := List.append_of_mem hm
  have := free_last hr p₁ (p₂ ++ [.aidIdentityFree h]) (by simp [hs])
  simp at this

end Contract.Run

/-! ## The wrapper refines the contract -/

/-- What a closed object answers, exactly. -/
def Method.onClosed : Method → Except PyExc Value
  | .close | .exit | .del => .ok .none
  | .enter => .ok .self
  | .repr => .ok (.str "Identity(<closed>)")
  | _ => .error Identity.closedError

theorem Method.closedAnswer_onClosed (m : Method) : m.ClosedAnswer m.onClosed := by
  cases m <;> simp [Method.ClosedAnswer, Method.onClosed, Identity.closedError]

namespace Identity

theorem anchor_eq_live_iff {self : Identity} {h : Ptr} :
    self.anchor = .live h ↔ self.handle = some h := by
  obtain ⟨_ | h'⟩ := self <;> simp [anchor]

theorem anchor_eq_released_iff {self : Identity} : self.anchor = .released ↔ self.handle = none := by
  obtain ⟨_ | h'⟩ := self <;> simp [anchor]

variable (lib : Lib) (strRepr : String → String)

/-- A method that does not release the object frees no handle and leaves the object as it
was. -/
theorem invoke_spec (self : Identity) {m : Method} (hm : m.releases = false) :
    (self.invoke strRepr m).Spec (fun c => c.isFree = false) fun r => r.2 = self := by
  cases m with
  | close | exit | del => cases hm
  | enter => rfl
  | identityId => exact (identityId_spec self).bind fun _ _ => rfl
  | publicKey => exact (publicKey_spec self).bind fun _ _ => rfl
  | signAction a d data room => exact (signAction_spec self a d data room).bind fun _ _ => rfl
  | createTrustGrant i k caps room =>
    exact (createTrustGrant_spec self i k caps room).bind fun _ _ => rfl
  | repr => exact (repr_spec strRepr self).bind fun _ _ => rfl

/-- **A closed object answers every method without a native call**, and stays closed. -/
theorem step_closed (past : List Call) (m : Method) :
    step lib strRepr past ⟨none⟩ m = (⟨m, [], m.onClosed⟩, ⟨none⟩) := by
  cases m <;> rfl

/-- A releasing method on a live object frees its handle, by its only native call. -/
theorem step_release (past : List Call) {h : Ptr} {m : Method} (hm : m.releases = true) :
    step lib strRepr past ⟨some h⟩ m = (⟨m, [.aidIdentityFree h], .ok .none⟩, ⟨none⟩) := by
  cases m <;> first | rfl | cases hm

theorem step_of_spec (past : List Call) {self : Identity} {m : Method}
    (hs : (self.invoke strRepr m).Spec (fun c => c.isFree = false) fun r => r.2 = self) :
    (∀ c ∈ (step lib strRepr past self m).1.calls, c.isFree = false) ∧
      (step lib strRepr past self m).2 = self := by
  refine ⟨hs.run_calls lib past, ?_⟩
  simp only [step]
  split
  · next p hp => exact hs.run_ok lib past hp
  · rfl

/-- **Each step of the wrapper is a step of the contract.** -/
theorem step_refines (past : List Call) (self : Identity) (m : Method) :
    Contract self.anchor (step lib strRepr past self m).1 (step lib strRepr past self m).2.anchor := by
  obtain ⟨_ | h⟩ := self
  · rw [step_closed]
    exact .closed rfl m.closedAnswer_onClosed
  · cases hm : m.releases
    · obtain ⟨hc, hself⟩ := step_of_spec lib strRepr past (invoke_spec strRepr _ hm)
      rw [hself]
      exact .use hm hc
    · rw [step_release lib strRepr past hm]
      exact @Contract.release h m [] _ hm (by simp)

/-- **Every run of the wrapper is a run of the contract.** -/
theorem runs_refines (past : List Call) (self : Identity) (ms : List Method) :
    Contract.Run self.anchor (runs lib strRepr past self ms).1
      (runs lib strRepr past self ms).2.anchor := by
  induction ms generalizing past self with
  | nil => exact .nil _
  | cons m ms ih => exact .cons (step_refines lib strRepr past self m) (ih _ _)

/-- **A closed object answers any sequence of calls as `Method.onClosed` says**, with no
native call, and stays closed. -/
theorem runs_closed (past : List Call) (ms : List Method) :
    runs lib strRepr past ⟨none⟩ ms = (ms.map fun m => ⟨m, [], m.onClosed⟩, ⟨none⟩) := by
  induction ms generalizing past with
  | nil => rfl
  | cons m ms ih => simp only [runs, step_closed, ih, List.map_cons]

/-- **A loaded identity keeps the contract from its anchor**: `Identity.load` returns an
object only after both strings encoded and `aid_identity_load` answered `AID_OK` with a
non-NULL anchor, and every sequence of method calls on that object is a run of the contract
from that anchor. -/
theorem load_runs_contract (past : List Call) (path passphrase : PyStr) {self : Identity}
    {calls : List Call} (hload : (load path passphrase).run lib past = (.ok self, calls))
    (ms : List Method) :
    ∃ pathBytes passphraseBytes, encode path = .ok pathBytes ∧
      encode passphrase = .ok passphraseBytes ∧
      let c := Call.aidIdentityLoad pathBytes passphraseBytes
      (lib past c).rc = aidOk ∧ (lib past c).out ≠ 0 ∧
        Contract.Run (.live (lib past c).out) (runs lib strRepr (past ++ calls) self ms).1
          (runs lib strRepr (past ++ calls) self ms).2.anchor := by
  obtain ⟨pathBytes, passphraseBytes, hp, hq, -, hrc, hout, hself⟩ :=
    load_ok lib past path passphrase hload
  refine ⟨pathBytes, passphraseBytes, hp, hq, hrc, hout, ?_⟩
  have hr := runs_refines lib strRepr (past ++ calls) self ms
  rwa [anchor_eq_live_iff.mpr hself] at hr

/-- Loading `"a.aid"` from a library that answers `AID_OK` with anchor `7`, then closing. -/
theorem load_runs_contract_close :
    let lib : Lib := fun _ _ => ⟨0, 7, [], 0⟩
    let c := Call.aidIdentityLoad "a.aid".toUTF8.data.toList "p".toUTF8.data.toList
    (load (.ofString "a.aid") (.ofString "p")).run lib [] = (.ok ⟨some 7⟩, [c]) ∧
      ∃ pathBytes passphraseBytes, encode (.ofString "a.aid") = .ok pathBytes ∧
        encode (.ofString "p") = .ok passphraseBytes ∧
        let c := Call.aidIdentityLoad pathBytes passphraseBytes
        (lib [] c).rc = aidOk ∧ (lib [] c).out ≠ 0 ∧
          Contract.Run (.live (lib [] c).out) (runs lib id ([] ++ [c]) ⟨some 7⟩ [.close]).1
            (runs lib id ([] ++ [c]) ⟨some 7⟩ [.close]).2.anchor := by
  intro lib c
  have hload : (load (.ofString "a.aid") (.ofString "p")).run lib [] = (.ok ⟨some 7⟩, [c]) := rfl
  exact ⟨hload, load_runs_contract lib id [] _ _ hload [.close]⟩

/-! ## The `with` statement -/

/-- The body of a `with` block is a run of the contract, whatever it catches. -/
theorem body_refines (past : List Call) (self : Identity) (b : Body) :
    Contract.Run self.anchor (body lib strRepr past self b).1
      (body lib strRepr past self b).2.1.anchor := by
  induction b generalizing past self with
  | done | raise _ => exact .nil _
  | call m k ih => exact .cons (step_refines lib strRepr past self m) (ih _ _ _)

/-- `__exit__` leaves the object closed, whatever it was. -/
theorem step_exit (past : List Call) (self : Identity) :
    (step lib strRepr past self .exit).2 = ⟨none⟩ := by
  obtain ⟨_ | h⟩ := self <;> rfl

/-- A `with` block is a run of the contract: `__enter__`, the body, then `__exit__`. -/
theorem withBlock_refines (past : List Call) (self : Identity) (b : Body) :
    Contract.Run self.anchor (withBlock lib strRepr past self b).1
      (withBlock lib strRepr past self b).2.1.anchor :=
  .cons (step_refines lib strRepr past self .enter)
    ((body_refines lib strRepr _ _ b).append (.cons (step_refines lib strRepr _ _ .exit) (.nil _)))

/-- **A `with` block releases the anchor exactly once, on every exit path**: whatever the
body does, whichever of its method calls raise, which exceptions it catches and goes on after,
and however the library answers, the object ends closed, and `aid_identity_free(h)` occurs
once among the block's native calls, as the last. -/
theorem withBlock_frees_once (past : List Call) {self : Identity} {h : Ptr}
    (hself : self.handle = some h) (b : Body) :
    let r := withBlock lib strRepr past self b
    r.2.1.handle = none ∧
      ∃ pre, r.1.flatMap Entry.calls = pre ++ [.aidIdentityFree h] ∧ .aidIdentityFree h ∉ pre := by
  have hr := withBlock_refines lib strRepr past self b
  have hclosed : (withBlock lib strRepr past self b).2.1 = ⟨none⟩ := step_exit lib strRepr _ _
  rw [hclosed, anchor_eq_live_iff.mpr hself] at hr
  exact ⟨by rw [hclosed], hr.freed_once⟩

/-- A body on handle `1`, against a library that fails every call with `AID_ERR_CRYPTO`: it
asks for the id and catches the error, closes the object, then asks for the key and lets the
closed-handle error escape; the block frees the handle once, by `close`. -/
theorem withBlock_frees_once_after_caught :
    (⟨some 1⟩ : Identity).handle = some 1 ∧
      let b : Body := .call .identityId fun _ => .call .close fun _ => .call .publicKey fun
        | .ok _ => .done
        | .error e => .raise e
      let r := withBlock (fun _ _ => ⟨aidErrCrypto, 0, [], 0⟩) id [] ⟨some 1⟩ b
      r.2.1.handle = none ∧
        ∃ pre, r.1.flatMap Entry.calls = pre ++ [.aidIdentityFree 1] ∧ .aidIdentityFree 1 ∉ pre :=
  ⟨rfl, withBlock_frees_once _ _ [] rfl _⟩

end Identity

/-- **The handle given to the constructor is freed at most once, and never used after.**
Along any sequence of method calls on the object the constructor built from `h`: `_handle`
is `None` exactly once `aid_identity_free(h)` has been called, and `h` until then; no
native call follows that free; and every method called after it makes no native call and
answers as on a closed object: a handle-using method raises `AgenticIdentityError` of code
`-1`, and `__repr__` returns a string. -/
theorem handle_freed_once (lib : Lib) (strRepr : String → String) {h : Ptr}
    {self : Identity} (hinit : Identity.init h = .ret self) (past : List Call)
    (ms : List Method) :
    let r := self.runs lib strRepr past ms
    (r.2.handle = if .aidIdentityFree h ∈ r.1.flatMap Entry.calls then none else some h) ∧
    (∀ pre post, r.1.flatMap Entry.calls = pre ++ .aidIdentityFree h :: post → post = []) ∧
    (∀ es₁ e es₂, r.1 = es₁ ++ e :: es₂ → .aidIdentityFree h ∈ es₁.flatMap Entry.calls →
      e.calls = [] ∧ e.method.ClosedAnswer e.outcome) := by
  obtain ⟨-, rfl⟩ := Identity.init_eq_ret_iff.mp hinit
  have hr := Identity.runs_refines lib strRepr past ⟨some h⟩ ms
  refine ⟨?_, hr.free_last, fun es₁ e es₂ hes hf => (hes ▸ hr).closed_after_free hf⟩
  rcases hr.live_or_released with hl | hl
  · rw [if_neg fun hf => by simp [hr.released_iff_freed.mpr hf] at hl]
    exact Identity.anchor_eq_live_iff.mp hl
  · rw [if_pos (hr.released_iff_freed.mp hl)]
    exact Identity.anchor_eq_released_iff.mp hl

/-- The object built on handle `1`, closed and then asked for its id, against a library
that answers `AID_OK` to everything. -/
theorem handle_freed_once_close_then_id :
    Identity.init 1 = .ret ⟨some 1⟩ ∧
      let r := (⟨some 1⟩ : Identity).runs (fun _ _ => ⟨0, 0, [], 0⟩) id [] [.close, .identityId]
      (r.2.handle = if .aidIdentityFree 1 ∈ r.1.flatMap Entry.calls then none else some 1) ∧
      (∀ pre post, r.1.flatMap Entry.calls = pre ++ .aidIdentityFree 1 :: post → post = []) ∧
      (∀ es₁ e es₂, r.1 = es₁ ++ e :: es₂ → .aidIdentityFree 1 ∈ es₁.flatMap Entry.calls →
        e.calls = [] ∧ e.method.ClosedAnswer e.outcome) :=
  ⟨rfl, handle_freed_once _ _ (show Identity.init 1 = .ret ⟨some 1⟩ from rfl) _ _⟩

end AgenticIdentity
