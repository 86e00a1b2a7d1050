import AgenticIdentity.Json

/-!
# Reading JSON text

The wrapper hands the library the text that `json.dumps` writes, and the library parses it;
the program itself never parses JSON. This module is that reading side, written from the
grammar of RFC 8259 rather than translated from the program. A text reads as the `PyObj` of
its value: an object as its members in order, each key a `str`, an integer as an `int`, and
a number with a fraction or an exponent as a `float` by its text. String literals are read
by a machine over characters with one state per place in an escape, so that the two `\u`
escapes of a surrogate pair make one character; a lone surrogate, which no `Char` is, is not
read.

## Main definitions

* `Json.litStep`, `Json.readChars`: the characters of a string literal
* `Json.isNumber`, `Json.readNumber`: a number
* `Json.readValue`, `Json.readJson`: a value, and a whole text
-/

namespace AgenticIdentity

namespace Json

/-- The value of a hexadecimal digit of either case. -/
def hexDigitVal (c : Char) : Option Nat :=
  if '0' ≤ c ∧ c ≤ '9' then some (c.toNat - '0'.toNat)
  else if 'a' ≤ c ∧ c ≤ 'f' then some (c.toNat - 'a'.toNat + 10)
  else if 'A' ≤ c ∧ c ≤ 'F' then some (c.toNat - 'A'.toNat + 10)
  else none

/-- The character a two-character escape `\e` stands for. -/
def shortEscape : Char → Option Char
  | '"' => some '"'
  | '\\' => some '\\'
  | '/' => some '/'
  | 'b' => some '\x08'
  | 'f' => some '\x0c'
  | 'n' => some '\n'
  | 'r' => some '\r'
  | 't' => some '\t'
  | _ => none

/-- Where a reader of a string literal is: in plain text, after a backslash, in the digits of
a `\u` escape (`n` of them read, with the value `acc`), or past a high surrogate `high`,
before the backslash, the `u` or the digits of the escape of its low surrogate. -/
inductive LitState where
  | plain
  | escape
  | hex (n acc : Nat)
  | lowBackslash (high : Nat)
  | lowU (high : Nat)
  | lowHex (high n acc : Nat)
  deriving DecidableEq, Repr

/-- What one character of a string literal does. -/
inductive LitStep where
  /-- The closing quotation mark. -/
  | close
  /-- The characters `out` are read, and the reader goes on in `st`. -/
  | next (out : List Char) (st : LitState)
  /-- The text is not a string literal. -/
  | fail
  deriving DecidableEq, Repr

/-- The code unit `u` of a whole `\u` escape: a character of the basic plane, or, for a high
surrogate, the wait for the escape of its low one. A lone low surrogate fails: no `Char` is
one. -/
def codeUnit (u : Nat) : LitStep :=
  if u < 0xd800 ∨ 0xdfff < u then .next [Char.ofNat u] .plain
  else if u < 0xdc00 then .next [] (.lowBackslash u)
  else .fail

/-- The code unit `l` of the escape after the high surrogate `high`: with a low surrogate, the
character past the basic plane that the pair stands for. -/
def lowUnit (high l : Nat) : LitStep :=
  if 0xdc00 ≤ l ∧ l ≤ 0xdfff then
    .next [Char.ofNat (0x10000 + (high - 0xd800) * 0x400 + (l - 0xdc00))] .plain
  else .fail

/-- One character of a string literal (RFC 8259 §7). -/
def litStep : LitState → Char → LitStep
  | .plain, c =>
    if c = '"' then .close
    else if c = '\\' then .next [] .escape
    else if c.toNat < 0x20 then .fail
    else .next [c] .plain
  | .escape, e =>
    if e = 'u' then .next [] (.hex 0 0)
    else match shortEscape e with
      | some x => .next [x] .plain
      | none => .fail
  | .hex n acc, d =>
    match hexDigitVal d with
    | none => .fail
    | some v => if n < 3 then .next [] (.hex (n + 1) (acc * 16 + v)) else codeUnit (acc * 16 + v)
  | .lowBackslash high, c => if c = '\\' then .next [] (.lowU high) else .fail
  | .lowU high, c => if c = 'u' then .next [] (.lowHex high 0 0) else .fail
  | .lowHex high n acc, d =>
    match hexDigitVal d with
    | none => .fail
    | some v => if n < 3 then .next [] (.lowHex high (n + 1) (acc * 16 + v)) else lowUnit high (acc * 16 + v)

/-- The characters of a string literal from the state `st` up to its closing quotation
mark, and the text after that. -/
def readLit : LitState → List Char → Option (List Char × List Char)
  | _, [] => none
  | st, c :: cs =>
    match litStep st c with
    | .close => some ([], cs)
    | .next out st' => (readLit st' cs).map fun p => (out ++ p.1, p.2)
    | .fail => none

/-- The characters of a string literal after its opening quotation mark, and the text after
its closing one. -/
def readChars (cs : List Char) : Option (List Char × List Char) := readLit .plain cs

/-- Whitespace of RFC 8259: space, tab, line feed and carriage return. -/
def isWs (c : Char) : Bool := c = ' ' || c = '\t' || c = '\n' || c = '\r'

/-- A character that can stand in a number. -/
def isNumChar (c : Char) : Bool := c.isDigit || c = '-' || c = '+' || c = '.' || c = 'e' || c = 'E'

/-- A character that makes a number a `float`: a decimal point or an exponent. -/
def isFloatChar (c : Char) : Bool := c = '.' || c = 'e' || c = 'E'

/-- One or more decimal digits. -/
def isDigits (ds : List Char) : Bool := !ds.isEmpty && ds.all Char.isDigit

/-- An exponent, `e` or `E`, an optional sign and digits, or nothing. -/
def isExponent : List Char → Bool
  | [] => true
  | e :: cs =>
    (e = 'e' || e = 'E') && isDigits (if cs.head? = some '+' ∨ cs.head? = some '-' then cs.tail else cs)

/-- An optional fraction, a point and digits, then an optional exponent. -/
def isFractionExponent : List Char → Bool
  | [] => true
  | c :: cs =>
    if c = '.' then isDigits (cs.takeWhile Char.isDigit) && isExponent (cs.dropWhile Char.isDigit)
    else isExponent (c :: cs)

/-- A number without its sign: `0` or digits from `1`, then a fraction and an exponent. -/
def isUnsignedNumber : List Char → Bool
  | [] => false
  | c :: cs =>
    if c = '0' then isFractionExponent cs
    else c.isDigit && isFractionExponent (cs.dropWhile Char.isDigit)

/-- A number of RFC 8259: an optional minus, then an unsigned number. -/
def isNumber (cs : List Char) : Bool :=
  isUnsignedNumber (if cs.head? = some '-' then cs.tail else cs)

/-- The value of decimal digits. -/
def decimalValue (ds : List Char) : Nat := ds.foldl (fun n d => n * 10 + (d.toNat - '0'.toNat)) 0

/-- The value of an integer, with an optional minus. -/
def intValue (cs : List Char) : Int :=
  if cs.head? = some '-' then -(decimalValue cs.tail : Int) else decimalValue cs

/-- A number at the head of the text, as `json.loads` reads it: an integer as an `int`, any
other number as a `float`, here by its text. -/
def readNumber (cs : List Char) : Option (PyObj × List Char) :=
  let tok := cs.takeWhile isNumChar
  if isNumber tok then
    some (if tok.any isFloatChar then .float (String.mk tok) else .int (intValue tok),
      cs.dropWhile isNumChar)
  else none

/-- A literal name: `w` stands for `v`. -/
def readWord (w : List Char) (v : PyObj) (cs : List Char) : Option (PyObj × List Char) :=
  if w.isPrefixOf cs then some (v, cs.drop w.length) else none

/-- After an item of an array or an object, past whitespace: a comma and more items
(`true`), or the closing character `close` (`false`). -/
def readSep (close : Char) (cs : List Char) : Option (Bool × List Char) :=
  match cs.dropWhile isWs with
  | [] => none
  | c :: cs => if c = ',' then some (true, cs) else if c = close then some (false, cs) else none

/-- The name of a member of an object and the colon after it, past whitespace. -/
def readKey (cs : List Char) : Option (PyStr × List Char) :=
  match cs.dropWhile isWs with
  | [] => none
  | q :: cs =>
    if q = '"' then do
      let (k, cs) ← readChars cs
      match cs.dropWhile isWs with
      | [] => none
      | c :: cs => if c = ':' then some (k.map .char, cs) else none
    else none

/-- The items of an array, from its first, each read by `read`, up to the closing bracket;
`fuel` bounds their number. -/
def readElements (read : List Char → Option (PyObj × List Char)) :
    Nat → List Char → Option (List PyObj × List Char)
  | 0, _ => none
  | fuel + 1, cs => do
    let (x, cs) ← read cs
    let (more, cs) ← readSep ']' cs
    if more then
      let (xs, cs) ← readElements read fuel cs
      pure (x :: xs, cs)
    else pure ([x], cs)

/-- The members of an object, from its first, each value read by `read`, up to the closing
brace; `fuel` bounds their number. -/
def readMembers (read : List Char → Option (PyObj × List Char)) :
    Nat → List Char → Option (List (PyObj × PyObj) × List Char)
  | 0, _ => none
  | fuel + 1, cs => do
    let (k, cs) ← readKey cs
    let (v, cs) ← read cs
    let (more, cs) ← readSep '}' cs
    if more then
      let (kvs, cs) ← readMembers read fuel cs
      pure ((.str k, v) :: kvs, cs)
    else pure ([(.str k, v)], cs)

/-- A value past whitespace, and the text after it; `fuel` bounds the nesting. -/
def readValue : Nat → List Char → Option (PyObj × List Char)
  | 0, _ => none
  | fuel + 1, cs =>
    match cs.dropWhile isWs with
    | [] => none
    | c :: cs =>
      if c = '"' then (readChars cs).map fun p => (.str (p.1.map .char), p.2)
      else if c = '[' then
        if (cs.dropWhile isWs).head? = some ']' then some (.list [], (cs.dropWhile isWs).tail)
        else (readElements (readValue fuel) fuel cs).map fun p => (.list p.1, p.2)
      else if c = '{' then
        if (cs.dropWhile isWs).head? = some '}' then some (.dict [], (cs.dropWhile isWs).tail)
        else (readMembers (readValue fuel) fuel cs).map fun p => (.dict p.1, p.2)
      else if c = 'n' then readWord "ull".toList .none cs
      else if c = 't' then readWord "rue".toList (.bool true) cs
      else if c = 'f' then readWord "alse".toList (.bool false) cs
      else readNumber (c :: cs)

/-- A JSON text: one value, with only whitespace around it. -/
def readJson (t : String) : Option PyObj :=
  match readValue (t.length + 1) t.toList with
  | some (o, rest) => if rest.all isWs then some o else none
  | none => none

example : (readJson "[1, -2, 1.5e3, \"\\u00e9\\ud83d\\ude00\", \x7b\"k\": null\x7d]").isSome = true := by
  decide

example : (readJson "\"\\udc00\"").isNone ∧ (readJson "01").isNone ∧ (readJson "1.").isNone := by
  decide

end Json

end AgenticIdentity
