import AgenticIdentity.Boundary.Native

/-!
# Python values and `json.dumps`

The wrapper serialises two of its arguments before it calls the library: `sign_action`'s
optional `data` and `create_trust_grant`'s capability list, each with `json.dumps` and its
defaults (`ensure_ascii=True`, separators `", "` and `": "`, `allow_nan=True`). With these
defaults `json.dumps` runs the C encoder of `_json`, which this module follows: a tuple is
written as an array; a dictionary key that is not a `str` is written as the text of its
value if it is a `float`, `True`, `False`, `None` or an `int`, and raises `TypeError`
otherwise; an `int` is written by `int.__repr__`, which raises `ValueError` past the
interpreter's limit on digits; and every array and object spends one level of the
interpreter's recursion depth, which raises `RecursionError` once none is left. The parsing
helpers of `models.py` read the dictionaries that `json.loads` produces. Both work on the
values of `PyObj`.

## Main definitions

* `PyObj`: the Python values JSON sees, and `object` for any other one
* `encodeBasestringAscii`: `json.encoder.encode_basestring_ascii`
* `intRepr`, `dumpsKey`: an integer's text, and a dictionary key's
* `dumps`: `json.dumps` with its defaults, given the recursion depth left to it
-/

namespace AgenticIdentity

/-- A Python value as JSON sees it: what `json.dumps` serialises and `json.loads`
produces, and `object` for any other value. A dictionary is its items in order. -/
inductive PyObj where
  | none
  | bool (b : Bool)
  | int (n : Int)
  /-- A `float`, by its `repr`: `"nan"`, `"inf"` and `"-inf"` for the special values. -/
  | float (repr : String)
  | str (s : PyStr)
  | list (xs : List PyObj)
  | tuple (xs : List PyObj)
  | dict (items : List (PyObj × PyObj))
  /-- Any other Python object, by the name of its class. -/
  | object (typeName : String)
  deriving Repr, Inhabited

/-- `type(o).__name__`. -/
def PyObj.typeName : PyObj → String
  | .none => "NoneType"
  | .bool _ => "bool"
  | .int _ => "int"
  | .float _ => "float"
  | .str _ => "str"
  | .list _ => "list"
  | .tuple _ => "tuple"
  | .dict _ => "dict"
  | .object t => t

/-! ## `json.dumps` -/

/-- `'\\u{0:04x}'.format(n)`: a JSON unicode escape, in lowercase hex. -/
def uEscape (n : Nat) : String :=
  let ds := Nat.toDigits 16 n
  "\\u" ++ String.mk (List.replicate (4 - ds.length) '0' ++ ds)

/-- One code point of `encode_basestring_ascii`: printable ASCII stays, the short escapes of
`ESCAPE_DCT` replace their characters, everything else becomes `\uXXXX`, a UTF-16 surrogate
pair past the basic plane; a lone surrogate is written as its own code unit. -/
def escapeAscii : PyChar → String
  | .char c =>
    if c = '\\' then "\\\\"
    else if c = '"' then "\\\""
    else if c = '\x08' then "\\b"
    else if c = '\x0c' then "\\f"
    else if c = '\n' then "\\n"
    else if c = '\r' then "\\r"
    else if c = '\t' then "\\t"
    else if ' ' ≤ c ∧ c ≤ '~' then c.toString
    else if c.toNat < 0x10000 then uEscape c.toNat
    else
      let n := c.toNat - 0x10000
      uEscape (0xd800 ||| ((n >>> 10) &&& 0x3ff)) ++ uEscape (0xdc00 ||| (n &&& 0x3ff))
  | .surrogate n => uEscape (0xd800 + n)

/-- `json.encoder.encode_basestring_ascii`: a string as an ASCII JSON literal. -/
def encodeBasestringAscii (s : PyStr) : String :=
  "\"" ++ String.join (s.map escapeAscii) ++ "\""

/-- `floatstr` of the encoder, with `allow_nan=True`. -/
def floatstr (repr : String) : String :=
  if repr = "nan" then "NaN"
  else if repr = "inf" then "Infinity"
  else if repr = "-inf" then "-Infinity"
  else repr

/-- `sys.get_int_max_str_digits()`, at the interpreter's default. -/
def intMaxStrDigits : Nat := 4300

/-- `int.__repr__`, which raises `ValueError` for more than `intMaxStrDigits` digits. -/
def intRepr (n : Int) : Except PyExc String :=
  if intMaxStrDigits < (toString n.natAbs).length then
    .error (.valueError ("Exceeds the limit (" ++ toString intMaxStrDigits ++
      " digits) for integer string conversion; use sys.set_int_max_str_digits() to " ++
      "increase the limit"))
  else .ok (toString n)

/-- The text of a dictionary key (`encoder_encode_key_value`): a `str` as it is; a `float`,
`True`, `False`, `None` and an `int` by their JSON texts, `True` and `False` before the `int`
they also are; any other key a `TypeError`, naming its type in at most 100 characters. -/
def dumpsKey : PyObj → Except PyExc PyStr
  | .str s => .ok s
  | .float r => .ok (.ofString (floatstr r))
  | .bool b => .ok (.ofString (if b then "true" else "false"))
  | .none => .ok (.ofString "null")
  | .int n => (intRepr n).map .ofString
  | k => .error (.typeError ("keys must be str, int, float, bool or None, not " ++
      k.typeName.take 100))

/-- `_Py_EnterRecursiveCall(" while encoding a JSON object")`: one level of the `room` left
to the encoder, or `RecursionError` when none is left. -/
def enterRecursiveCall : Nat → Except PyExc Nat
  | 0 => .error (.recursionError "maximum recursion depth exceeded while encoding a JSON object")
  | room + 1 => .ok room

mutual

/-- `json.dumps(o)`, with `room` levels of recursion left: a value the encoder does not know
raises the `TypeError` of `JSONEncoder.default`, and the first failure in document order is
the one raised. -/
def dumps (room : Nat) : PyObj → Except PyExc String
  | .none => pure "null"
  | .bool b => pure (if b then "true" else "false")
  | .int n => intRepr n
  | .float r => pure (floatstr r)
  | .str s => pure (encodeBasestringAscii s)
  | .list xs | .tuple xs => do
    let room ← enterRecursiveCall room
    let items ← dumpsList room xs
    pure ("[" ++ ", ".intercalate items ++ "]")
  | .dict kvs => do
    let room ← enterRecursiveCall room
    let items ← dumpsDict room kvs
    pure ("\x7b" ++ ", ".intercalate items ++ "\x7d")
  | .object t => throw (.typeError ("Object of type " ++ t ++ " is not JSON serializable"))

/-- The items of a list or a tuple, each serialised. -/
def dumpsList (room : Nat) : List PyObj → Except PyExc (List String)
  | [] => pure []
  | x :: xs => do
    let item ← dumps room x
    let items ← dumpsList room xs
    pure (item :: items)

/-- The items of a dictionary, each as `key: value`, the key's text before the value's. -/
def dumpsDict (room : Nat) : List (PyObj × PyObj) → Except PyExc (List String)
  | [] => pure []
  | (k, v) :: kvs => do
    let key ← dumpsKey k
    let item ← dumps room v
    let items ← dumpsDict room kvs
    pure ((encodeBasestringAscii key ++ ": " ++ item) :: items)

end

/-- A tuple is written as an array, an integer key and a `nan` key as strings. -/
example : dumps 2 (.dict [(.int 1, .tuple [.none]), (.float "nan", .bool true)]) =
    .ok "\x7b\"1\": [null], \"NaN\": true\x7d" := rfl

end AgenticIdentity
