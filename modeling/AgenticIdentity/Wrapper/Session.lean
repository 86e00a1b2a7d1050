import AgenticIdentity.Wrapper.Lifecycle
import AgenticIdentity.Boundary.Held

/-!
# Client sessions

A client of the package calls its module-level functions and the methods of the `Identity`
objects it has loaded, in any order, and goes on after an exception. `Session.runs` runs such
a session after the native calls made before it. Against every library, every session keeps
the memory rules of `_ffi.py` (`Boundary.Held`): no anchor is freed twice, or passed to the
library once freed; no string is freed that the library did not hand over, or that was freed
already; the version string is never freed. What is held after it is what the session still
owns: the anchors of its open objects, and the strings `_take_string` could not decode.

The proof is a step lemma per operation and one induction over the operations. An operation
that raises while it encodes or serialises its arguments makes no native call. A method on
a live object makes the calls of one `callTakeString`, the tail every string-returning
function shares, or none; the releasing methods free the object's anchor, which is held
because it is the handle of an open object.

## Main definitions

* `Op`: an operation of a session
* `Session.step`, `Session.runs`: sessions, against a library
* `Held.Matches`: what is held matches the session's objects

## Main results

* `Session.session_keeps_rules`: every session keeps the memory rules, and what is held after
  it matches its objects
-/

namespace AgenticIdentity

open Native

/-- An operation of a client session: a module-level function of the package, or a method
called on the `i`-th object the session has loaded. -/
inductive Op where
  | load (path passphrase : PyStr)
  | create (path passphrase : PyStr) (name : Option PyStr)
  | version
  | verifyReceipt (receiptJson : PyStr)
  | verifyTrustGrant (grantJson capability : PyStr)
  | call (i : Nat) (m : Method)

/-- What is held matches a session's objects: the anchors held are the handles of its open
objects, as a multiset, and every string held is one that is not UTF-8. -/
structure Held.Matches (s : Held) (objs : List Identity) : Prop where
  anchors_perm : s.anchors.Perm (objs.filterMap Identity.handle)
  strings_undecodable : ∀ p ∈ s.strings, decode p.2 = none

/-- Setting a list's entry to what it holds leaves the list as it was. -/
theorem List.set_of_getElem? {α : Type} {l : List α} {i : Nat} {a : α} (h : l[i]? = some a) :
    l.set i a = l := by
  apply List.ext_getElem?
  intro j
  rw [List.getElem?_set]
  by_cases hij : i = j
  · subst hij
    simp [(List.getElem?_eq_some_iff.mp h).1, h]
  · simp [hij]

/-- The handles of the objects, after closing the `i`-th one on the anchor `h`, are one `h`
fewer. -/
theorem handles_perm_set_none {h : Ptr} : ∀ {objs : List Identity} {i : Nat},
    objs[i]? = some ⟨some h⟩ →
      (objs.filterMap Identity.handle).Perm (h :: (objs.set i ⟨none⟩).filterMap Identity.handle)
  | _ :: _, 0, hi => by
    simp only [List.getElem?_cons_zero, Option.some.injEq] at hi
    subst hi
    simp
  | ⟨o⟩ :: os, i + 1, hi => by
    have ih := @handles_perm_set_none h os i (by simpa using hi)
    cases o with
    | none => simpa using ih
    | some h' => simpa using (ih.cons h').trans (.swap _ _ _)

namespace Held.Matches

variable {s : Held} {objs : List Identity}

theorem of_keeps {s' : Held} (hs : s.Matches objs) (ha : s'.anchors = s.anchors)
    (hstr : ∀ p ∈ s'.strings, p ∈ s.strings ∨ decode p.2 = none) : s'.Matches objs :=
  ⟨ha ▸ hs.anchors_perm, fun p hp => (hstr p hp).elim (hs.strings_undecodable p) id⟩

/-- An anchor handed over by a load is the handle of the object added. -/
theorem allocate {r : Reply} (hs : s.Matches objs) (hh : Held.Hands r) :
    (s.allocate r).Matches (objs ++ [⟨some r.out⟩]) := by
  refine ⟨?_, by simpa [Held.allocate, hh] using hs.strings_undecodable⟩
  simpa [Held.allocate, hh, List.filterMap_append] using
    (hs.anchors_perm.cons r.out).trans (List.perm_append_singleton _ _).symm

/-- The anchor freed by closing the `i`-th object is the one its handle held. -/
theorem release {i : Nat} {h : Ptr} (hs : s.Matches objs) (hi : objs[i]? = some ⟨some h⟩) :
    (⟨s.anchors.erase h, s.strings⟩ : Held).Matches (objs.set i ⟨none⟩) :=
  ⟨by simpa using (hs.anchors_perm.trans (handles_perm_set_none hi)).erase h,
    hs.strings_undecodable⟩

theorem mem_anchors {i : Nat} {h : Ptr} (hs : s.Matches objs) (hi : objs[i]? = some ⟨some h⟩) :
    h ∈ s.anchors :=
  hs.anchors_perm.mem_iff.mpr (List.mem_filterMap.mpr ⟨_, List.mem_iff_getElem?.mpr ⟨i, hi⟩, rfl⟩)

end Held.Matches

namespace Session

variable (lib : Lib) (strRepr : String → String)

/-- One operation after the native calls `past`, on the objects `objs` the session has
loaded: its native calls, and the objects after it. `Identity.load` adds the object it
returns; an exception ends the operation, not the session. -/
def step (past : List Call) (objs : List Identity) : Op → List Call × List Identity
  | .load path passphrase =>
    let r := (Identity.load path passphrase).run lib past
    (r.2, match r.1 with
      | .ok o => objs ++ [o]
      | .error _ => objs)
  | .create path passphrase name =>
    (((Identity.create path passphrase name).run lib past).2, objs)
  | .version => ((AgenticIdentity.version.run lib past).2, objs)
  | .verifyReceipt receiptJson => (((verifyReceipt receiptJson).run lib past).2, objs)
  | .verifyTrustGrant grantJson capability =>
    (((verifyTrustGrant grantJson capability).run lib past).2, objs)
  | .call i m =>
    match objs[i]? with
    | some o =>
      let s := Identity.step lib strRepr past o m
      (s.1.calls, objs.set i s.2)
    | none => ([], objs)

/-- Operations in sequence: the native calls of the session, and its objects at the end. -/
def runs (past : List Call) (objs : List Identity) : List Op → List Call × List Identity
  | [] => ([], objs)
  | op :: ops =>
    let s := step lib strRepr past objs op
    let r := runs (past ++ s.1) s.2 ops
    (s.1 ++ r.1, r.2)

/-! ## Calls that keep what is held -/

variable (past : List Call) (s : Held)

/-- The calls `calls`, made after `past`, break no rule from `s`, leave the anchors held as
they were, and leave no new string held but one that is not UTF-8. -/
def Keeps (calls : List Call) : Prop :=
  ∃ s', s.run (lib.replies past calls) = some s' ∧ s'.anchors = s.anchors ∧
    ∀ p ∈ s'.strings, p ∈ s.strings ∨ decode p.2 = none

theorem keeps_nil : Keeps lib past s [] := ⟨s, rfl, rfl, fun _ hp => .inl hp⟩

/-- The calls of `callTakeString c`: `c`, then the free of the string it handed over when
that string decodes. -/
theorem callTakeString_calls (c : Call) :
    ((callTakeString c).run lib past).2 = c ::
      if Held.Hands (lib past c) ∧ (decode (lib past c).value).isSome then
        [.aidFreeString (lib past c).out] else [] := by
  by_cases hrc : (lib past c).rc = aidOk
  · by_cases hout : (lib past c).out = 0
    · simp [callTakeString, ffi, hrc, hout, check_ok, takeString, Held.Hands]
    · cases hd : decode (lib past c).value <;>
        simp [callTakeString, ffi, hrc, hout, hd, check_ok, takeString, Held.Hands]
  · simp [callTakeString, ffi, hrc, check_of_ne hrc, Held.Hands]

/-- `callTakeString c` keeps what is held, from a state in which `c` may be made and holds
what it hands over. -/
theorem callTakeString_keeps {c : Call} (hc : ∀ r, s.step (c, r) = some (s.receive r)) :
    Keeps lib past s ((callTakeString c).run lib past).2 := by
  rw [callTakeString_calls]
  by_cases hh : Held.Hands (lib past c)
  · cases hd : decode (lib past c).value with
    | none =>
      refine ⟨s.receive (lib past c), by simp [hc, hd], by simp [Held.receive, hh], ?_⟩
      simp only [Held.receive, hh, if_true, List.mem_cons]
      rintro p (rfl | hp)
      exacts [.inr hd, .inl hp]
    | some v =>
      refine ⟨s, ?_, rfl, fun _ hp => .inl hp⟩
      simp [hc, hd, hh, Held.freeString_receive s hh]
  · refine ⟨s, ?_, rfl, fun _ hp => .inl hp⟩
    simp [hc, hh, Held.receive_of_not_hands hh]

/-- A computation that first runs `x`, which makes no native call, keeps what is held when
each continuation of a value of `x` does. -/
theorem keeps_ofExcept_bind {α β : Type} {x : Except PyExc α} {f : α → Native β}
    (hf : ∀ a, x = .ok a → Keeps lib past s ((f a).run lib past).2) :
    Keeps lib past s ((MonadExcept.ofExcept x >>= f).run lib past).2 := by
  cases x with
  | error e => exact keeps_nil lib past s
  | ok a => exact hf a rfl

/-- A handle-using method on a live object keeps what is held, when every call it prepares
may be made and holds what it hands over. -/
theorem handleCall_keeps {h : Ptr} {prepare : Ptr → Except PyExc Call}
    (hp : ∀ c, prepare h = .ok c → ∀ r, s.step (c, r) = some (s.receive r)) :
    Keeps lib past s (((⟨some h⟩ : Identity).handleCall prepare).run lib past).2 := by
  rw [Identity.handleCall_some]
  exact keeps_ofExcept_bind lib past s fun c hc => callTakeString_keeps lib past s (hp c hc)

/-- On a live object whose anchor is held, a method that does not release it keeps what is
held. -/
theorem invoke_keeps {h : Ptr} (hh : h ∈ s.anchors) {m : Method} (hm : m.releases = false) :
    Keeps lib past s (((⟨some h⟩ : Identity).invoke strRepr m).run lib past).2 := by
  have use : ∀ r, s.use h r = some (s.receive r) := fun _ => if_pos hh
  have id : Keeps lib past s ((Identity.identityId ⟨some h⟩).run lib past).2 :=
    handleCall_keeps lib past s fun _ hc r => by cases hc; exact use r
  cases m with
  | close | exit | del => cases hm
  | enter => exact keeps_nil lib past s
  | identityId => rw [Identity.invoke, run_bind_ret_calls]; exact id
  | publicKey =>
    rw [Identity.invoke, run_bind_ret_calls]
    exact handleCall_keeps lib past s fun _ hc r => by cases hc; exact use r
  | signAction a d data room =>
    rw [Identity.invoke, run_bind_ret_calls]
    refine handleCall_keeps lib past s fun _ hc r => ?_
    obtain ⟨_, _, _, rfl⟩ := Identity.signActionCall_ok hc
    exact use r
  | createTrustGrant i k caps room =>
    rw [Identity.invoke, run_bind_ret_calls]
    refine handleCall_keeps lib past s fun _ hc r => ?_
    obtain ⟨_, _, _, rfl⟩ := Identity.createTrustGrantCall_ok hc
    exact use r
  | repr =>
    simp only [Identity.invoke, run_bind_ret_calls, Identity.repr, tryCatch_eq]
    rw [run_tryCatch_calls, run_bind_ret_calls]
    · exact id
    · intro e
      cases e <;> trivial

/-! ## Sessions keep the rules -/

variable {lib past s}

theorem matches_of_keeps {objs : List Identity} {calls : List Call} (hs : s.Matches objs)
    (hk : Keeps lib past s calls) :
    ∃ s', s.run (lib.replies past calls) = some s' ∧ s'.Matches objs :=
  let ⟨s', hrun, ha, hstr⟩ := hk
  ⟨s', hrun, hs.of_keeps ha hstr⟩

variable (lib past)

theorem version_calls : (AgenticIdentity.version.run lib past).2 = [.aidVersion] := by
  by_cases hnull : (lib past .aidVersion).out = 0 ∨ (lib past .aidVersion).value = []
  · simp [AgenticIdentity.version, ffi, hnull]
  · cases hd : decode (lib past .aidVersion).value <;>
      simp [AgenticIdentity.version, ffi, hnull, hd]

theorem verifyCall_calls (c : Call) : ((verifyCall c).run lib past).2 = [c] := by
  by_cases hrc : (lib past c).rc = aidOk
  · simp [verifyCall, ffi, hrc, check_ok]
  · simp [verifyCall, ffi, check_of_ne hrc]

/-- `Identity.load` on encoded strings makes one native call, and adds an object exactly when
the library hands over an anchor. -/
theorem step_load (objs : List Identity) {path passphrase : PyStr} {p q : Bytes}
    (hp : encode path = .ok p) (hq : encode passphrase = .ok q) :
    step lib strRepr past objs (.load path passphrase) =
      ([.aidIdentityLoad p q],
        if Held.Hands (lib past (.aidIdentityLoad p q)) then
          objs ++ [⟨some (lib past (.aidIdentityLoad p q)).out⟩]
        else objs) := by
  by_cases hrc : (lib past (.aidIdentityLoad p q)).rc = aidOk
  · by_cases hout : (lib past (.aidIdentityLoad p q)).out = 0 <;>
      simp [step, Identity.load, hp, hq, ffi, hrc, hout, check_ok, Identity.init, Held.Hands]
  · simp [step, Identity.load, hp, hq, ffi, hrc, check_of_ne hrc, Held.Hands]

/-- A verification keeps what is held: its one call hands nothing over. -/
theorem verifyCall_keeps {c : Call} (hc : ∀ r, s.step (c, r) = some s) :
    Keeps lib past s ((verifyCall c).run lib past).2 := by
  rw [verifyCall_calls]
  exact ⟨s, by simp [hc], rfl, fun _ hp => .inl hp⟩

/-- One operation keeps the memory rules, from a state that matches the session's objects,
and leaves a state that matches them after it. -/
theorem step_matches {objs : List Identity} (hs : s.Matches objs) (op : Op) :
    ∃ s', s.run (lib.replies past (step lib strRepr past objs op).1) = some s' ∧
      s'.Matches (step lib strRepr past objs op).2 := by
  cases op with
  | load path passphrase =>
    cases hp : encode path with
    | error e => exact ⟨s, by simp [step, Identity.load, hp], by simpa [step, Identity.load, hp] using hs⟩
    | ok p =>
      cases hq : encode passphrase with
      | error e =>
        exact ⟨s, by simp [step, Identity.load, hp, hq], by simpa [step, Identity.load, hp, hq] using hs⟩
      | ok q =>
        rw [step_load lib strRepr past objs hp hq]
        by_cases hh : Held.Hands (lib past (.aidIdentityLoad p q))
        · rw [if_pos hh]
          exact ⟨_, by simp, hs.allocate hh⟩
        · rw [if_neg hh]
          exact ⟨s, by simp [Held.allocate_of_not_hands hh], hs⟩
  | create path passphrase name =>
    refine matches_of_keeps hs (keeps_ofExcept_bind lib past s fun c hc => ?_)
    obtain ⟨_, _, _, rfl⟩ := Identity.createCall_ok hc
    exact callTakeString_keeps lib past s fun _ => rfl
  | version => exact ⟨s, by simp [step, version_calls, Held.step], hs⟩
  | verifyReceipt j =>
    exact matches_of_keeps hs
      (keeps_ofExcept_bind lib past s fun _ _ => verifyCall_keeps lib past fun _ => rfl)
  | verifyTrustGrant j c =>
    exact matches_of_keeps hs (keeps_ofExcept_bind lib past s fun _ _ =>
      keeps_ofExcept_bind lib past s fun _ _ => verifyCall_keeps lib past fun _ => rfl)
  | call i m =>
    cases hi : objs[i]? with
    | none => exact ⟨s, by simp [step, hi], by simpa [step, hi] using hs⟩
    | some o =>
      simp only [step, hi]
      obtain ⟨_ | h⟩ := o
      · rw [Identity.step_closed, List.set_of_getElem? hi]
        exact ⟨s, rfl, hs⟩
      · cases hm : m.releases
        · obtain ⟨-, hself⟩ :=
            Identity.step_of_spec lib strRepr past (Identity.invoke_spec strRepr ⟨some h⟩ hm)
          rw [hself, List.set_of_getElem? hi]
          exact matches_of_keeps hs (invoke_keeps lib strRepr past s (hs.mem_anchors hi) hm)
        · rw [Identity.step_release lib strRepr past hm]
          exact ⟨_, by simp [Held.release, hs.mem_anchors hi], hs.release hi⟩

/-- **No client session breaks the library's memory rules.** From a state that matches the
session's objects, whatever operations the session makes and however the library answers:
no anchor is freed that is not held, and none is passed to the library once freed; no string
is freed that the library did not hand over, or that is freed already; the version string is
never freed. After the session, the anchors held are the handles of its open objects, and the
only strings held are those that were not UTF-8. -/
theorem session_keeps_rules {objs : List Identity} (hs : s.Matches objs) (ops : List Op) :
    ∃ s', s.run (lib.replies past (runs lib strRepr past objs ops).1) = some s' ∧
      s'.Matches (runs lib strRepr past objs ops).2 := by
  induction ops generalizing past s objs with
  | nil => exact ⟨s, rfl, hs⟩
  | cons op ops ih =>
    obtain ⟨s₁, h₁, hs₁⟩ := step_matches lib strRepr past hs op
    obtain ⟨s₂, h₂, hs₂⟩ := ih _ hs₁
    refine ⟨s₂, ?_, hs₂⟩
    simp only [runs, Lib.replies_append, Held.run_append, h₁, Option.bind_some]
    exact h₂

/-- A session against a library that answers `AID_OK` with the pointer `7` and the empty
string to everything: it loads an identity, asks for its id, and closes it twice. -/
theorem session_keeps_rules_load_close :
    let lib : Lib := fun _ _ => ⟨0, 7, [], 0⟩
    let ops : List Op :=
      [.load (.ofString "a.aid") (.ofString "p"), .call 0 .identityId, .call 0 .close, .call 0 .close]
    (⟨[], []⟩ : Held).Matches [] ∧
      ∃ s', (⟨[], []⟩ : Held).run (lib.replies [] (runs lib id [] [] ops).1) = some s' ∧
        s'.Matches (runs lib id [] [] ops).2 := by
  intro lib ops
  have h0 : (⟨[], []⟩ : Held).Matches [] := ⟨.nil, fun _ h => nomatch h⟩
  exact ⟨h0, session_keeps_rules lib id [] h0 ops⟩

end Session

end AgenticIdentity
