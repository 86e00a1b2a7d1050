import AgenticIdentity.Json

/-!
# The typed models

`models.py` defines frozen dataclasses for what the engine returns as JSON, and two
helpers that build them from a dictionary `json.loads` produced: `parse_receipt` and
`parse_trust_grant`. A dataclass checks no field type, so every field holds whatever the
dictionary held, or its default; the helpers fail only where they call a method that the
value at hand lacks, in the order of their keyword arguments.

## Main definitions

* `dictGet`, `PyObj.get`, `PyObj.lower`, `PyObj.tupleOf`: `dict.get`, `str.lower` and
  `tuple()` on an arbitrary value
* `ActionReceipt`, `parseReceipt`; `TrustGrant`, `parseTrustGrant`
-/

namespace AgenticIdentity

/-- `d.get(key, default)` for a `str` key: the value of the first item whose key is that
string; a key of another type never equals a `str`. -/
def dictGet (items : List (PyObj × PyObj)) (key : PyStr) (default : PyObj) : PyObj :=
  match items.find? fun kv => match kv.1 with
    | .str k => k == key
    | _ => false with
  | some kv => kv.2
  | none => default

namespace PyObj

/-- `o.get(key, default)`: only a dictionary has `get`. -/
def get (o : PyObj) (key : String) (default : PyObj) : Except PyExc PyObj :=
  match o with
  | .dict items => .ok (dictGet items (.ofString key) default)
  | o => .error (.attributeError ("'" ++ o.typeName ++ "' object has no attribute 'get'"))

/-- `o.lower()`, given Python's `str.lower`: only a string has `lower`. -/
def lower (strLower : PyStr → PyStr) : PyObj → Except PyExc PyObj
  | .str s => .ok (.str (strLower s))
  | o => .error (.attributeError ("'" ++ o.typeName ++ "' object has no attribute 'lower'"))

/-- `tuple(o)`: the items of a list or a tuple, the one-character strings of a string, the
keys of a dictionary. -/
def tupleOf : PyObj → Except PyExc (List PyObj)
  | .list xs | .tuple xs => .ok xs
  | .str s => .ok (s.map fun c => .str [c])
  | .dict items => .ok (items.map Prod.fst)
  | o => .error (.typeError ("'" ++ o.typeName ++ "' object is not iterable"))

end PyObj

/-! ## Receipts -/

/-- `ActionReceipt`, a frozen dataclass. -/
structure ActionReceipt where
  id : PyObj
  actor : PyObj
  actorKey : PyObj
  actionType : PyObj
  description : PyObj
  timestamp : PyObj
  signature : PyObj
  receiptHash : PyObj
  data : PyObj
  previousReceipt : PyObj
  deriving Repr

/-- `ActionReceipt.is_chained`: `previous_receipt is not None`. -/
def ActionReceipt.isChained (r : ActionReceipt) : Bool :=
  match r.previousReceipt with
  | .none => false
  | _ => true

/-- `parse_receipt(data)`, given Python's `str.lower`. -/
def parseReceipt (strLower : PyStr → PyStr) (data : List (PyObj × PyObj)) :
    Except PyExc ActionReceipt := do
  let action := dictGet data (.ofString "action") (.dict [])
  let actionType ← (dictGet data (.ofString "action_type") (.str (.ofString "custom"))).lower strLower
  let description ← action.get "description" (.str (.ofString ""))
  let actionData ← action.get "data" .none
  pure { id := dictGet data (.ofString "id") (.str (.ofString ""))
         actor := dictGet data (.ofString "actor") (.str (.ofString ""))
         actorKey := dictGet data (.ofString "actor_key") (.str (.ofString ""))
         actionType
         description
         timestamp := dictGet data (.ofString "timestamp") (.int 0)
         signature := dictGet data (.ofString "signature") (.str (.ofString ""))
         receiptHash := dictGet data (.ofString "receipt_hash") (.str (.ofString ""))
         data := actionData
         previousReceipt := dictGet data (.ofString "previous_receipt") .none }

/-! ## Trust grants -/

/-- `TrustGrant`, a frozen dataclass. -/
structure TrustGrant where
  id : PyObj
  grantor : PyObj
  grantee : PyObj
  capabilities : List PyObj
  signature : PyObj
  createdAt : PyObj
  notBefore : PyObj
  notAfter : PyObj
  maxUses : PyObj
  delegationAllowed : PyObj
  maxDelegationDepth : PyObj
  deriving Repr

/-- `parse_trust_grant(data)`. -/
def parseTrustGrant (data : List (PyObj × PyObj)) : Except PyExc TrustGrant := do
  let constraints := dictGet data (.ofString "constraints") (.dict [])
  let delegation := dictGet data (.ofString "delegation") (.dict [])
  let capabilities ← (dictGet data (.ofString "capabilities") (.list [])).tupleOf
  let notBefore ← constraints.get "not_before" .none
  let notAfter ← constraints.get "not_after" .none
  let maxUses ← constraints.get "max_uses" .none
  let delegationAllowed ← delegation.get "allowed" (.bool false)
  let maxDelegationDepth ← delegation.get "max_depth" (.int 0)
  pure { id := dictGet data (.ofString "id") (.str (.ofString ""))
         grantor := dictGet data (.ofString "grantor") (.str (.ofString ""))
         grantee := dictGet data (.ofString "grantee") (.str (.ofString ""))
         capabilities
         signature := dictGet data (.ofString "signature") (.str (.ofString ""))
         createdAt := dictGet data (.ofString "created_at") (.str (.ofString ""))
         notBefore, notAfter, maxUses, delegationAllowed, maxDelegationDepth }

end AgenticIdentity
