import AgenticIdentity.Json.Escape

/-!
# `json.dumps` read back

`sign_action` and `create_trust_grant` send the library the text of `json.dumps`. This module
says what that text reads as, by the reader of `Json.Read`, whenever every float among the
value's items is finite: the value itself, with every tuple read as a list, every dictionary
key read as the string `json.dumps` wrote for it (`1` as `"1"`, `nan` as `"NaN"`), and every
string read from the UTF-16 code units of its escapes, so that a surrogate pair held as two
code points reads as one character and a lone surrogate leaves the text unread
(`PyObj.readBack?`). A float is modelled by its `repr`, which writes a finite float as a JSON
number with a fraction or an exponent, and the special values as `nan`, `inf` and `-inf`;
`json.dumps` turns those into `NaN`, `Infinity` and `-Infinity`, which RFC 8259 does not allow,
so a value holding one among its items is written as text that is not JSON. A key is no item:
a `nan` key is written as the string `"NaN"`.

## Main definitions

* `PyObj.allFloats`, `finiteRepr`, `floatRepr`: what the `repr`s of the floats among a value's
  items are
* `PyObj.readBack?`: what the text of a value reads back as

## Main results

* `Json.intToken_spec`: the text of an integer is a JSON integer of the same value
* `Json.readValue_dumps`: the text of a value reads back as `PyObj.readBack?` says, before any
  text that does not continue a number
* `Json.readJson_dumps`: the text of `json.dumps` reads back as `PyObj.readBack?` says
* `Json.readJson_dumps_nonFinite`: a value holding `nan` or an infinity among its items is
  written as text that is not JSON
-/

namespace AgenticIdentity

mutual

/-- Every `float` among the items of the value, in its lists, tuples and dictionary values,
has a `repr` that `p` accepts; the keys are no items. -/
def PyObj.allFloats (p : String → Bool) : PyObj → Bool
  | .float r => p r
  | .list xs | .tuple xs => allFloatsList p xs
  | .dict kvs => allFloatsDict p kvs
  | _ => true

/-- Every item of a list passes `PyObj.allFloats p`. -/
def allFloatsList (p : String → Bool) : List PyObj → Bool
  | [] => true
  | x :: xs => x.allFloats p && allFloatsList p xs

/-- Every value of a dictionary passes `PyObj.allFloats p`. -/
def allFloatsDict (p : String → Bool) : List (PyObj × PyObj) → Bool
  | [] => true
  | (_, v) :: kvs => v.allFloats p && allFloatsDict p kvs

end

/-- The `repr` of a finite float: a JSON number with a fraction or an exponent. -/
def finiteRepr (r : String) : Bool := Json.isNumber r.toList && r.toList.any Json.isFloatChar

/-- The `repr` of any float: a finite one, or `nan`, `inf` or `-inf`. -/
def floatRepr (r : String) : Bool := finiteRepr r || r == "nan" || r == "inf" || r == "-inf"

mutual

/-- What the text `json.dumps` writes for a value reads back as: a tuple as a list, a key as the
string `json.dumps` wrote for it, a string as `PyStr.scalars?` says; `none` when a string, a
value's or a key's, holds a surrogate that is not half of a pair. -/
def PyObj.readBack? : PyObj → Option PyObj
  | .str s => s.scalars?.map fun cs => .str (cs.map .char)
  | .list xs | .tuple xs => (readBackList? xs).map .list
  | .dict kvs => (readBackDict? kvs).map .dict
  | o => some o

/-- The items of a list, each read back. -/
def readBackList? : List PyObj → Option (List PyObj)
  | [] => some []
  | x :: xs => do
    let y ← x.readBack?
    let ys ← readBackList? xs
    pure (y :: ys)

/-- The items of a dictionary, each key read back as the string `json.dumps` wrote for it. -/
def readBackDict? : List (PyObj × PyObj) → Option (List (PyObj × PyObj))
  | [] => some []
  | (k, v) :: kvs => do
    let key ← (dumpsKey k).toOption
    let cs ← key.scalars?
    let w ← v.readBack?
    let rest ← readBackDict? kvs
    pure ((.str (cs.map .char), w) :: rest)

end

theorem readBackList?_cons (x : PyObj) (xs : List PyObj) :
    readBackList? (x :: xs) = x.readBack?.bind fun y => (readBackList? xs).map (y :: ·) := by
  rw [readBackList?]
  cases x.readBack? <;> cases readBackList? xs <;> rfl

theorem readBackDict?_cons (k v : PyObj) (kvs : List (PyObj × PyObj)) :
    readBackDict? ((k, v) :: kvs) = (dumpsKey k).toOption.bind fun key => key.scalars?.bind fun cs =>
      v.readBack?.bind fun w => (readBackDict? kvs).map ((.str (cs.map .char), w) :: ·) := by
  rw [readBackDict?]
  cases (dumpsKey k).toOption <;> try rfl
  rename_i key
  cases PyStr.scalars? key <;> cases v.readBack? <;> cases readBackDict? kvs <;> rfl

namespace Json

/-! ## Numbers -/

theorem digitChar_spec : ∀ d < 10, isNumChar (Nat.digitChar d) ∧ isFloatChar (Nat.digitChar d) = false ∧
    (Nat.digitChar d).isDigit ∧ (Nat.digitChar d).toNat - '0'.toNat = d ∧ (d ≠ 0 → Nat.digitChar d ≠ '0') := by
  decide

theorem isNumChar_start {c : Char} (h : isNumChar c) :
    isWs c = false ∧ c ≠ '"' ∧ c ≠ '[' ∧ c ≠ '{' ∧ c ≠ 'n' ∧ c ≠ 't' ∧ c ≠ 'f' ∧ c ≠ ']' := by
  refine ⟨?_, ?_, ?_, ?_, ?_, ?_, ?_, ?_⟩ <;>
    first
    | (cases hw : isWs c; · rfl
       simp only [isWs, Bool.or_eq_true, decide_eq_true_eq] at hw
       rcases hw with ((rfl | rfl) | rfl) | rfl <;> revert h <;> decide)
    | (rintro rfl; revert h; decide)

theorem decimalValue_map {L : List Nat} (h : ∀ d ∈ L, d < 10) (acc : Nat) :
    (L.map Nat.digitChar).foldl (fun n d => n * 10 + (d.toNat - '0'.toNat)) acc =
      L.foldl (fun n d => n * 10 + d) acc := by
  induction L generalizing acc with
  | nil => rfl
  | cons d L ih =>
    simp only [List.map_cons, List.foldl_cons, (digitChar_spec d (h d (List.mem_cons_self _ _))).2.2.2.1]
    exact ih (fun d hd => h d (List.mem_cons_of_mem _ hd)) _

/-- **What `repr` writes for a natural number**: a JSON number of its digits, of value `m`. -/
theorem natDigits_spec (m : Nat) :
    (∀ c ∈ Nat.toDigits 10 m, isNumChar c ∧ isFloatChar c = false) ∧
      isUnsignedNumber (Nat.toDigits 10 m) ∧ decimalValue (Nat.toDigits 10 m) = m ∧
      (Nat.toDigits 10 m).head? ≠ some '-' ∧ Nat.toDigits 10 m ≠ [] := by
  obtain ⟨L, hds, hlt, hval, hne, hlead⟩ := toDigits_spec (by decide : 1 < 10) m
  have hc : ∀ c ∈ L.map Nat.digitChar, c.isDigit ∧ isNumChar c ∧ isFloatChar c = false := by
    simp only [List.mem_map]
    rintro _ ⟨d, hd, rfl⟩
    have := digitChar_spec d (hlt d hd)
    exact ⟨this.2.2.1, this.1, this.2.1⟩
  rw [hds]
  refine ⟨fun c h => (hc c h).2, ?_, by rw [decimalValue, decimalValue_map hlt, hval], ?_, by simpa using hne⟩
  · obtain ⟨d, L', rfl⟩ := List.exists_cons_of_ne_nil hne
    by_cases hd : d = 0
    · subst hd
      rw [hlead rfl]
      rfl
    · have := digitChar_spec d (hlt d (List.mem_cons_self _ _))
      simp only [List.map_cons, isUnsignedNumber, this.2.2.2.2 hd, if_false, this.2.2.1, Bool.true_and]
      rw [List.dropWhile_eq_nil_iff.mpr fun c h => (hc c (List.mem_cons_of_mem _ h)).1]
      rfl
  · obtain ⟨d, L', rfl⟩ := List.exists_cons_of_ne_nil hne
    have := (digitChar_spec d (hlt d (List.mem_cons_self _ _))).2.2.1
    simp only [List.map_cons, List.head?_cons, ne_eq, Option.some.injEq]
    intro h
    rw [h] at this
    exact absurd this (by decide)

/-- **What `repr` writes for an integer**: a JSON number without a fraction or an exponent,
of value `n`. -/
theorem intToken_spec (n : Int) :
    (∀ c ∈ (toString n).data, isNumChar c ∧ isFloatChar c = false) ∧ isNumber (toString n).data ∧
      intValue (toString n).data = n ∧ (toString n).data ≠ [] := by
  cases n with
  | ofNat m =>
    obtain ⟨h₁, h₂, h₃, h₄, h₅⟩ := natDigits_spec m
    have ht : (toString (Int.ofNat m)).data = Nat.toDigits 10 m := rfl
    rw [ht]
    exact ⟨h₁, by simp [isNumber, h₄, h₂], by simp [intValue, h₄, h₃], h₅⟩
  | negSucc m =>
    obtain ⟨h₁, h₂, h₃, -, -⟩ := natDigits_spec (m + 1)
    have ht : (toString (Int.negSucc m)).data = '-' :: Nat.toDigits 10 (m + 1) := rfl
    rw [ht]
    refine ⟨?_, by simpa [isNumber] using h₂, by simp [intValue, h₃, Int.negSucc_eq], by simp⟩
    simpa using ⟨by decide, h₁⟩

theorem isDigits_all {ds : List Char} (h : isDigits ds) : ∀ c ∈ ds, isNumChar c := by
  simp only [isDigits, Bool.and_eq_true, List.all_eq_true] at h
  exact fun c hc => by simp [isNumChar, h.2 c hc]

theorem isExponent_all : ∀ {cs : List Char}, isExponent cs → ∀ c ∈ cs, isNumChar c
  | [], _ => by simp
  | e :: cs, h => by
    simp only [isExponent, Bool.and_eq_true, Bool.or_eq_true, decide_eq_true_eq] at h
    obtain ⟨he, hd⟩ := h
    intro c hc
    rcases List.mem_cons.mp hc with rfl | hc
    · rcases he with rfl | rfl <;> rfl
    · split at hd
      · rename_i hs
        cases cs with
        | nil => simp at hs
        | cons s ds =>
          rcases List.mem_cons.mp hc with rfl | hc
          · simp only [List.head?_cons, Option.some.injEq] at hs
            rcases hs with rfl | rfl <;> rfl
          · exact isDigits_all hd c hc
      · exact isDigits_all hd c hc

theorem isFractionExponent_all : ∀ {cs : List Char}, isFractionExponent cs → ∀ c ∈ cs, isNumChar c
  | [], _ => by simp
  | c :: cs, h => by
    rw [isFractionExponent] at h
    split at h
    · rename_i hc
      subst hc
      simp only [Bool.and_eq_true] at h
      intro x hx
      rcases List.mem_cons.mp hx with rfl | hx
      · rfl
      rw [← List.takeWhile_append_dropWhile Char.isDigit cs] at hx
      rcases List.mem_append.mp hx with hx | hx
      · exact isDigits_all h.1 x hx
      · exact isExponent_all h.2 x hx
    · exact isExponent_all h

theorem isUnsignedNumber_all : ∀ {cs : List Char}, isUnsignedNumber cs → ∀ c ∈ cs, isNumChar c
  | [], h => absurd h (by decide)
  | c :: cs, h => by
    rw [isUnsignedNumber] at h
    intro x hx
    split at h
    · rename_i hc
      rcases List.mem_cons.mp hx with rfl | hx
      · rw [hc]; rfl
      · exact isFractionExponent_all h x hx
    · simp only [Bool.and_eq_true] at h
      rcases List.mem_cons.mp hx with rfl | hx
      · simp [isNumChar, h.1]
      rw [← List.takeWhile_append_dropWhile Char.isDigit cs] at hx
      rcases List.mem_append.mp hx with hx | hx
      · simp [isNumChar, List.mem_takeWhile_imp hx]
      · exact isFractionExponent_all h.2 x hx

theorem isNumber_all {cs : List Char} (h : isNumber cs) : ∀ c ∈ cs, isNumChar c := by
  unfold isNumber at h
  split at h
  · rename_i hs
    cases cs with
    | nil => simp at hs
    | cons s cs =>
      simp only [List.head?_cons, Option.some.injEq] at hs
      subst hs
      intro c hc
      rcases List.mem_cons.mp hc with rfl | hc
      · rfl
      · exact isUnsignedNumber_all h c hc
  · exact isUnsignedNumber_all h

theorem isNumber_ne_nil {cs : List Char} (h : isNumber cs) : cs ≠ [] := by
  rintro rfl
  exact absurd h (by decide)

theorem readNumber_append {tok rest : List Char} (ht : ∀ c ∈ tok, isNumChar c)
    (hr : rest.takeWhile isNumChar = []) (hn : isNumber tok) :
    readNumber (tok ++ rest) = some (if tok.any isFloatChar then .float (String.mk tok)
      else .int (intValue tok), rest) := by
  have hd : rest.dropWhile isNumChar = rest := by
    simpa [hr] using List.takeWhile_append_dropWhile isNumChar rest
  simp [readNumber, List.takeWhile_append_of_pos ht, List.dropWhile_append_of_pos ht, hr, hd, hn]

/-! ## The text of `json.dumps` -/

theorem intercalate_go_data (s : String) :
    ∀ (acc : String) (l : List String),
      (String.intercalate.go acc s l).data = acc.data ++ (l.map fun b => s.data ++ b.data).flatten
  | acc, [] => by simp [String.intercalate.go]
  | acc, b :: l => by simp [String.intercalate.go, intercalate_go_data s _ l, String.data]

theorem intercalate_cons (s a : String) (l : List String) :
    (s.intercalate (a :: l)).data = a.data ++ (l.map fun b => s.data ++ b.data).flatten :=
  intercalate_go_data s a l

theorem intercalate_cons_cons (s a b : String) (l : List String) :
    (s.intercalate (a :: b :: l)).data = a.data ++ s.data ++ (s.intercalate (b :: l)).data := by
  simp [intercalate_cons]

theorem length_le_intercalate : ∀ l : List String, l.length ≤ (", ".intercalate l).data.length + 1
  | [] => by simp
  | [_] => by simp
  | a :: b :: l => by
    have := length_le_intercalate (b :: l)
    rw [intercalate_cons_cons]
    simp only [List.length_append, List.length_cons] at this ⊢
    have : (", " : String).data.length = 2 := rfl
    omega

theorem intRepr_ok {n : Int} {t : String} (h : intRepr n = .ok t) : t = toString n := by
  unfold intRepr at h
  split at h
  · cases h
  · exact (Except.ok.inj h).symm

theorem dumps_tuple (room : Nat) (xs : List PyObj) :
    dumps room (.tuple xs) = dumps room (.list xs) := by
  simp only [dumps]

theorem dumps_list_ok {room : Nat} {xs : List PyObj} {t : String}
    (h : dumps room (.list xs) = .ok t) :
    ∃ room' items, dumpsList room' xs = .ok items ∧ t = "[" ++ ", ".intercalate items ++ "]" := by
  simp only [dumps, except_bind_eq_ok] at h
  obtain ⟨room', -, items, hitems, h⟩ := h
  exact ⟨room', items, hitems, by cases h; rfl⟩

theorem dumps_dict_ok {room : Nat} {kvs : List (PyObj × PyObj)} {t : String}
    (h : dumps room (.dict kvs) = .ok t) :
    ∃ room' items, dumpsDict room' kvs = .ok items ∧
      t = "\x7b" ++ ", ".intercalate items ++ "\x7d" := by
  simp only [dumps, except_bind_eq_ok] at h
  obtain ⟨room', -, items, hitems, h⟩ := h
  exact ⟨room', items, hitems, by cases h; rfl⟩

theorem dumpsList_cons_ok {room : Nat} {x : PyObj} {xs : List PyObj} {items : List String}
    (h : dumpsList room (x :: xs) = .ok items) :
    ∃ i is, dumps room x = .ok i ∧ dumpsList room xs = .ok is ∧ items = i :: is := by
  simp only [dumpsList, except_bind_eq_ok] at h
  obtain ⟨i, hi, is, his, h⟩ := h
  exact ⟨i, is, hi, his, by cases h; rfl⟩

theorem dumpsDict_cons_ok {room : Nat} {k v : PyObj} {kvs : List (PyObj × PyObj)}
    {items : List String} (h : dumpsDict room ((k, v) :: kvs) = .ok items) :
    ∃ key i is, dumpsKey k = .ok key ∧ dumps room v = .ok i ∧ dumpsDict room kvs = .ok is ∧
      items = (encodeBasestringAscii key ++ ": " ++ i) :: is := by
  simp only [dumpsDict, except_bind_eq_ok] at h
  obtain ⟨key, hk, i, hi, is, his, h⟩ := h
  exact ⟨key, i, is, hk, hi, his, by cases h; rfl⟩

theorem floatstr_of_isNumber {r : String} (h : isNumber r.data) : floatstr r = r := by
  unfold floatstr
  split_ifs with h₁ h₂ h₃ <;> first | rfl | (subst_vars; exact absurd h (by decide))

theorem token_head {tok : List Char} (ht : ∀ c ∈ tok, isNumChar c) (hne : tok ≠ []) :
    ∃ c cs, tok = c :: cs ∧ isWs c = false ∧ c ≠ ']' := by
  obtain ⟨c, cs, rfl⟩ := List.exists_cons_of_ne_nil hne
  have := isNumChar_start (ht c (List.mem_cons_self _ _))
  exact ⟨c, cs, rfl, this.1, this.2.2.2.2.2.2.2⟩

/-- The text of a value whose floats are `repr`s starts with a character that is neither
whitespace nor `]`. -/
theorem dumps_head {o : PyObj} {room : Nat} {t : String} {p : String → Bool}
    (hp : ∀ r, p r → floatRepr r) (h : dumps room o = .ok t) (hf : o.allFloats p) :
    ∃ c cs, t.data = c :: cs ∧ isWs c = false ∧ c ≠ ']' := by
  cases o with
  | none => cases h; exact ⟨'n', _, rfl, rfl, by decide⟩
  | bool b => cases h; cases b <;> exact ⟨_, _, rfl, rfl, by decide⟩
  | int n =>
    obtain rfl := intRepr_ok h
    obtain ⟨h₁, -, -, h₄⟩ := intToken_spec n
    exact token_head (fun c hc => (h₁ c hc).1) h₄
  | float r =>
    cases h
    have hr := hp r hf
    simp only [floatRepr, finiteRepr, Bool.or_eq_true, Bool.and_eq_true, beq_iff_eq,
      String.toList] at hr
    rcases hr with ((hn | rfl) | rfl) | rfl
    · rw [floatstr_of_isNumber hn.1]
      exact token_head (isNumber_all hn.1) (isNumber_ne_nil hn.1)
    all_goals exact ⟨_, _, rfl, rfl, by decide⟩
  | str s => cases h; exact ⟨_, _, encodeBasestringAscii_data s, rfl, by decide⟩
  | list xs =>
    obtain ⟨-, items, -, rfl⟩ := dumps_list_ok h
    exact ⟨'[', (", ".intercalate items).data ++ [']'], by simp, rfl, by decide⟩
  | tuple xs =>
    obtain ⟨-, items, -, rfl⟩ := dumps_list_ok (dumps_tuple room xs ▸ h)
    exact ⟨'[', (", ".intercalate items).data ++ [']'], by simp, rfl, by decide⟩
  | dict kvs =>
    obtain ⟨-, items, -, rfl⟩ := dumps_dict_ok h
    exact ⟨'\x7b', (", ".intercalate items).data ++ ['\x7d'], by simp, rfl, by decide⟩
  | object _ => cases h

/-! ## Reading each kind of value -/

theorem readValue_space (f : Nat) (cs : List Char) : readValue f (' ' :: cs) = readValue f cs := by
  cases f <;> rfl

theorem readElements_space (f g : Nat) (cs : List Char) :
    readElements (readValue f) g (' ' :: cs) = readElements (readValue f) g cs := by
  cases g <;> simp only [readElements, readValue_space]

theorem readMembers_space (read : List Char → Option (PyObj × List Char)) (g : Nat) (cs : List Char) :
    readMembers read g (' ' :: cs) = readMembers read g cs := by
  cases g <;> rfl

theorem readValue_number {tok rest : List Char} (f : Nat) (ht : ∀ c ∈ tok, isNumChar c)
    (hr : rest.takeWhile isNumChar = []) (hn : isNumber tok) :
    readValue (f + 1) (tok ++ rest) = some (if tok.any isFloatChar then .float (String.mk tok)
      else .int (intValue tok), rest) := by
  obtain ⟨c, cs, rfl⟩ := List.exists_cons_of_ne_nil (isNumber_ne_nil hn)
  obtain ⟨h₁, h₂, h₃, h₄, h₅, h₆, h₇, -⟩ := isNumChar_start (ht c (List.mem_cons_self _ _))
  rw [← readNumber_append ht hr hn]
  simp [readValue, h₁, h₂, h₃, h₄, h₅, h₆, h₇]

theorem readValue_str (f : Nat) (s : PyStr) (rest : List Char) :
    readValue (f + 1) ((encodeBasestringAscii s).data ++ rest) =
      s.scalars?.map fun cs => (.str (cs.map .char), rest) := by
  rw [encodeBasestringAscii_data]
  simp [readValue, isWs, readChars_escaped, Option.map_map, Function.comp_def]

theorem readValue_none (f : Nat) (rest : List Char) :
    readValue (f + 1) ("null".data ++ rest) = some (.none, rest) := by
  simp [readValue, isWs, readWord, List.isPrefixOf]

theorem readValue_bool (f : Nat) (b : Bool) (rest : List Char) :
    readValue (f + 1) ((if b then "true" else "false").data ++ rest) = some (.bool b, rest) := by
  cases b <;> simp [readValue, isWs, readWord, List.isPrefixOf]

theorem readValue_list_nil (f : Nat) (rest : List Char) :
    readValue (f + 1) ('[' :: ']' :: rest) = some (.list [], rest) := by
  simp [readValue, isWs]

theorem readValue_dict_nil (f : Nat) (rest : List Char) :
    readValue (f + 1) ('\x7b' :: '\x7d' :: rest) = some (.dict [], rest) := by
  simp [readValue, isWs]

theorem readValue_list {f : Nat} {inner : List Char} {c : Char} {cs : List Char}
    (rest : List Char) (hi : inner = c :: cs) (hc : isWs c = false) (hb : c ≠ ']') :
    readValue (f + 1) ('[' :: (inner ++ ']' :: rest)) =
      (readElements (readValue f) f (inner ++ ']' :: rest)).map fun p => (.list p.1, p.2) := by
  subst hi
  have hd : (c :: (cs ++ ']' :: rest)).dropWhile isWs = c :: (cs ++ ']' :: rest) :=
    List.dropWhile_cons_of_neg (by simp [hc])
  simp [readValue, isWs, hd, hb]

theorem readValue_dict {f : Nat} {inner cs : List Char} (rest : List Char) (hi : inner = '"' :: cs) :
    readValue (f + 1) ('\x7b' :: (inner ++ '\x7d' :: rest)) =
      (readMembers (readValue f) f (inner ++ '\x7d' :: rest)).map fun p => (.dict p.1, p.2) := by
  subst hi
  simp [readValue, isWs]

/-- An array whose first item starts with `c`, neither whitespace nor `]`, reads its items. -/
theorem readValue_bracket {f : Nat} {i : String} {is : List String} {c : Char} {cs : List Char}
    (hc : i.data = c :: cs) (hws : isWs c = false) (hb : c ≠ ']') (rest : List Char) :
    readValue (f + 1) (("[" ++ ", ".intercalate (i :: is) ++ "]").data ++ rest) =
      (readElements (readValue f) f ((", ".intercalate (i :: is)).data ++ ']' :: rest)).map
        fun p => (.list p.1, p.2) := by
  have hin : (", ".intercalate (i :: is)).data =
      c :: (cs ++ (is.map fun b => ", ".data ++ b.data).flatten) := by
    rw [intercalate_cons, hc, List.cons_append]
  simp only [String.data_append, List.append_assoc, List.singleton_append, List.cons_append,
    List.nil_append]
  exact readValue_list rest hin hws hb

/-- An object whose first member's key is written as `k` reads its members. -/
theorem readValue_brace {f : Nat} (k : PyStr) (i : String) (is : List String) (rest : List Char) :
    readValue (f + 1) (("\x7b" ++ ", ".intercalate ((encodeBasestringAscii k ++ ": " ++ i) :: is) ++
      "\x7d").data ++ rest) =
      (readMembers (readValue f) f ((", ".intercalate ((encodeBasestringAscii k ++ ": " ++ i) :: is)).data ++
        '\x7d' :: rest)).map fun p => (.dict p.1, p.2) := by
  have hin : (", ".intercalate ((encodeBasestringAscii k ++ ": " ++ i) :: is)).data =
      '"' :: ((k.map fun c => (escapeAscii c).data).flatten ++ ['"'] ++ ": ".data ++ i.data ++
        (is.map fun b => ", ".data ++ b.data).flatten) := by
    rw [intercalate_cons, String.data_append, String.data_append, encodeBasestringAscii_data]
    rfl
  simp only [String.data_append, List.append_assoc, List.singleton_append, List.cons_append,
    List.nil_append]
  exact readValue_dict rest hin

theorem readKey_encode (k : PyStr) (cs : List Char) :
    readKey ((encodeBasestringAscii k).data ++ ':' :: cs) =
      k.scalars?.map fun ks => (ks.map .char, cs) := by
  rw [encodeBasestringAscii_data]
  cases h : PyStr.scalars? k <;> simp [readKey, isWs, readChars_escaped, h]

/-- The last item of an array, then its closing bracket. -/
theorem readElements_last {f g : Nat} {o : Option PyObj} {cs rest : List Char}
    (hx : readValue f cs = o.map (·, ']' :: rest)) :
    readElements (readValue f) (g + 1) cs = o.map fun x => ([x], rest) := by
  cases o <;> simp [readElements, hx, readSep, isWs]

/-- An item of an array, then `, ` and the items after it. -/
theorem readElements_comma {f g : Nat} {o : Option PyObj} {cs tail : List Char}
    (hx : readValue f cs = o.map (·, ", ".data ++ tail)) :
    readElements (readValue f) (g + 1) cs =
      o.bind fun x => (readElements (readValue f) g tail).map fun p => (x :: p.1, p.2) := by
  cases o with
  | none => simp [readElements, hx]
  | some x =>
    simp [readElements, hx, readSep, isWs, readElements_space]
    cases readElements (readValue f) g tail <;> rfl

theorem readElements_of_none {f g : Nat} {cs : List Char} (hx : readValue f cs = none) :
    readElements (readValue f) g cs = none := by
  cases g <;> simp [readElements, hx]

/-- The last member of an object, then its closing brace. -/
theorem readMembers_last {f g : Nat} {k : PyStr} {i : String} {o : Option PyObj} {rest : List Char}
    (hv : readValue f (i.data ++ '\x7d' :: rest) = o.map (·, '\x7d' :: rest)) :
    readMembers (readValue f) (g + 1) ((encodeBasestringAscii k ++ ": " ++ i).data ++ '\x7d' :: rest) =
      k.scalars?.bind fun ks => o.map fun v => ([(.str (ks.map .char), v)], rest) := by
  simp only [String.data_append, List.append_assoc]
  rw [readMembers, List.cons_append, List.singleton_append, readKey_encode]
  cases PyStr.scalars? k <;> cases o <;> simp [readValue_space, hv, readSep, isWs]

/-- A member of an object, then `, ` and the members after it. -/
theorem readMembers_comma {f g : Nat} {k : PyStr} {i : String} {o : Option PyObj} {tail : List Char}
    (hv : readValue f (i.data ++ (", ".data ++ tail)) = o.map (·, ", ".data ++ tail)) :
    readMembers (readValue f) (g + 1) ((encodeBasestringAscii k ++ ": " ++ i).data ++ (", ".data ++ tail)) =
      k.scalars?.bind fun ks => o.bind fun v =>
        (readMembers (readValue f) g tail).map fun p => ((.str (ks.map .char), v) :: p.1, p.2) := by
  simp only [String.data_append, List.append_assoc, List.cons_append, List.nil_append] at hv ⊢
  rw [readMembers, readKey_encode]
  cases PyStr.scalars? k with
  | none => rfl
  | some ks =>
    cases o with
    | none => simp [readValue_space, hv]
    | some v =>
      simp [readValue_space, hv, readSep, isWs, readMembers_space]
      cases readMembers (readValue f) g tail <;> rfl

theorem readMembers_of_none {f g : Nat} {k : PyStr} {i : String} {tail : List Char}
    (hv : readValue f (i.data ++ tail) = none) :
    readMembers (readValue f) g ((encodeBasestringAscii k ++ ": " ++ i).data ++ tail) = none := by
  cases g with
  | zero => rfl
  | succ g =>
    simp only [String.data_append, List.append_assoc]
    rw [readMembers, List.cons_append, List.singleton_append, readKey_encode]
    cases PyStr.scalars? k <;> simp [readValue_space, hv]

/-! ## The round trip -/

/-- An array's text reads back as its items do. -/
theorem readValue_items {xs : List PyObj} {room : Nat} {t : String} {f : Nat}
    (hxs : ∀ (room : Nat) {items : List String}, dumpsList room xs = .ok items →
      allFloatsList finiteRepr xs → xs ≠ [] → ∀ (f g : Nat), (", ".intercalate items).data.length ≤ f →
      items.length ≤ g → ∀ (rest : List Char),
        readElements (readValue (f + 1)) g ((", ".intercalate items).data ++ ']' :: rest) =
          (readBackList? xs).map (·, rest))
    (h : dumps room (.list xs) = .ok t) (hf : allFloatsList finiteRepr xs) (hl : t.data.length ≤ f)
    (rest : List Char) :
    readValue (f + 1) (t.data ++ rest) = ((readBackList? xs).map .list).map (·, rest) := by
  obtain ⟨room', items, hitems, rfl⟩ := dumps_list_ok h
  cases xs with
  | nil =>
    cases hitems
    exact readValue_list_nil f rest
  | cons x xs =>
    obtain ⟨i, is, hi, -, rfl⟩ := dumpsList_cons_ok hitems
    have hx : x.allFloats finiteRepr := by
      simp only [allFloatsList, Bool.and_eq_true] at hf
      exact hf.1
    obtain ⟨c, cs, hc, hws, hb⟩ := dumps_head (fun r h => by simp [floatRepr, h]) hi hx
    simp only [String.data_append, List.length_append, List.length_singleton] at hl
    obtain ⟨f, rfl⟩ : ∃ f', f = f' + 1 := ⟨f - 1, by omega⟩
    rw [readValue_bracket hc hws hb, hxs room' hitems hf (List.cons_ne_nil _ _) f (f + 1) (by omega)
      (by have := length_le_intercalate (i :: is); omega) rest]
    cases readBackList? (x :: xs) <;> rfl

/-- An object's text reads back as its members do. -/
theorem readValue_members {kvs : List (PyObj × PyObj)} {room : Nat} {t : String} {f : Nat}
    (hkvs : ∀ (room : Nat) {items : List String}, dumpsDict room kvs = .ok items →
      allFloatsDict finiteRepr kvs → kvs ≠ [] → ∀ (f g : Nat), (", ".intercalate items).data.length ≤ f →
      items.length ≤ g → ∀ (rest : List Char),
        readMembers (readValue (f + 1)) g ((", ".intercalate items).data ++ '\x7d' :: rest) =
          (readBackDict? kvs).map (·, rest))
    (h : dumps room (.dict kvs) = .ok t) (hf : allFloatsDict finiteRepr kvs) (hl : t.data.length ≤ f)
    (rest : List Char) :
    readValue (f + 1) (t.data ++ rest) = ((readBackDict? kvs).map .dict).map (·, rest) := by
  obtain ⟨room', items, hitems, rfl⟩ := dumps_dict_ok h
  cases kvs with
  | nil =>
    cases hitems
    exact readValue_dict_nil f rest
  | cons kv kvs =>
    obtain ⟨k, v⟩ := kv
    obtain ⟨key, i, is, -, -, -, rfl⟩ := dumpsDict_cons_ok hitems
    simp only [String.data_append, List.length_append, List.length_singleton] at hl
    obtain ⟨f, rfl⟩ : ∃ f', f = f' + 1 := ⟨f - 1, by omega⟩
    have := length_le_intercalate ((encodeBasestringAscii key ++ ": " ++ i) :: is)
    rw [readValue_brace, hkvs room' hitems hf (List.cons_ne_nil _ _) f (f + 1) (by omega) (by omega) rest]
    cases readBackDict? ((k, v) :: kvs) <;> rfl

mutual

theorem readValue_dumps : ∀ (o : PyObj) (room : Nat) {t : String}, dumps room o = .ok t →
    o.allFloats finiteRepr → ∀ (f : Nat), t.data.length ≤ f → ∀ (rest : List Char),
      rest.takeWhile isNumChar = [] → readValue (f + 1) (t.data ++ rest) = o.readBack?.map (·, rest)
  | .none, _, _, h, _, f, _, rest, _ => by cases h; exact readValue_none f rest
  | .bool b, _, _, h, _, f, _, rest, _ => by cases h; exact readValue_bool f b rest
  | .int n, _, _, h, _, f, _, rest, hr => by
    obtain rfl := intRepr_ok h
    obtain ⟨h₁, h₂, h₃, -⟩ := intToken_spec n
    have hfl : (toString n).data.any isFloatChar = false :=
      List.any_eq_false.mpr fun c hc => by simp [(h₁ c hc).2]
    rw [readValue_number f (fun c hc => (h₁ c hc).1) hr h₂, hfl, h₃]
    rfl
  | .float r, _, _, h, hf, f, _, rest, hr => by
    cases h
    simp only [PyObj.allFloats, finiteRepr, Bool.and_eq_true, String.toList] at hf
    rw [floatstr_of_isNumber hf.1, readValue_number f (isNumber_all hf.1) hr hf.1, if_pos hf.2]
    rfl
  | .str s, _, _, h, _, f, _, rest, _ => by
    cases h
    rw [readValue_str, PyObj.readBack?, Option.map_map]
    rfl
  | .list xs, _, _, h, hf, _, hl, rest, _ => readValue_items (readElements_dumpsList xs) h hf hl rest
  | .tuple xs, room, _, h, hf, _, hl, rest, _ =>
    readValue_items (readElements_dumpsList xs) (dumps_tuple room xs ▸ h) hf hl rest
  | .dict kvs, _, _, h, hf, _, hl, rest, _ => readValue_members (readMembers_dumpsDict kvs) h hf hl rest
  | .object _, _, _, h, _, _, _, _, _ => by cases h

theorem readElements_dumpsList : ∀ (xs : List PyObj) (room : Nat) {items : List String},
    dumpsList room xs = .ok items → allFloatsList finiteRepr xs → xs ≠ [] → ∀ (f g : Nat),
    (", ".intercalate items).data.length ≤ f → items.length ≤ g → ∀ (rest : List Char),
      readElements (readValue (f + 1)) g ((", ".intercalate items).data ++ ']' :: rest) =
        (readBackList? xs).map (·, rest)
  | [], _, _, _, _, hne, _, _, _, _, _ => absurd rfl hne
  | [x], room, _, h, hf, _, f, g, hl, hg, rest => by
    obtain ⟨i, is, hi, his, rfl⟩ := dumpsList_cons_ok h
    cases his
    obtain ⟨g, rfl⟩ : ∃ g', g = g' + 1 := ⟨g - 1, by simp at hg; omega⟩
    simp only [allFloatsList, Bool.and_true] at hf
    rw [show ", ".intercalate [i] = i from rfl,
      readElements_last (readValue_dumps x room hi hf f hl (']' :: rest) (by simp [isNumChar])),
      readBackList?_cons]
    cases x.readBack? <;> rfl
  | x :: y :: ys, room, _, h, hf, _, f, g, hl, hg, rest => by
    obtain ⟨i, is, hi, his, rfl⟩ := dumpsList_cons_ok h
    obtain ⟨j, js, -, -, rfl⟩ := dumpsList_cons_ok his
    rw [allFloatsList, Bool.and_eq_true] at hf
    obtain ⟨g, rfl⟩ : ∃ g', g = g' + 1 := ⟨g - 1, by simp at hg; omega⟩
    rw [intercalate_cons_cons] at hl ⊢
    simp only [List.length_append] at hl
    rw [List.append_assoc, List.append_assoc,
      readElements_comma (readValue_dumps x room hi hf.1 f (by omega) _ (by simp [isNumChar])),
      readElements_dumpsList (y :: ys) room his hf.2 (List.cons_ne_nil _ _) f g (by omega)
        (by simpa using hg) rest]
    rw [readBackList?_cons x (y :: ys)]
    cases x.readBack? <;> cases readBackList? (y :: ys) <;> rfl

theorem readMembers_dumpsDict : ∀ (kvs : List (PyObj × PyObj)) (room : Nat) {items : List String},
    dumpsDict room kvs = .ok items → allFloatsDict finiteRepr kvs → kvs ≠ [] → ∀ (f g : Nat),
    (", ".intercalate items).data.length ≤ f → items.length ≤ g → ∀ (rest : List Char),
      readMembers (readValue (f + 1)) g ((", ".intercalate items).data ++ '\x7d' :: rest) =
        (readBackDict? kvs).map (·, rest)
  | [], _, _, _, _, hne, _, _, _, _, _ => absurd rfl hne
  | [(k, v)], room, _, h, hf, _, f, g, hl, hg, rest => by
    obtain ⟨key, i, is, hk, hi, his, rfl⟩ := dumpsDict_cons_ok h
    cases his
    obtain ⟨g, rfl⟩ : ∃ g', g = g' + 1 := ⟨g - 1, by simp at hg; omega⟩
    simp only [allFloatsDict, Bool.and_true] at hf
    simp only [intercalate_cons, List.map_nil, List.flatten_nil, List.append_nil, String.data_append,
      List.length_append] at hl
    rw [show ", ".intercalate [encodeBasestringAscii key ++ ": " ++ i] = _ ++ _ ++ i from rfl,
      readMembers_last (readValue_dumps v room hi hf f (by omega) _ (by simp [isNumChar])),
      readBackDict?_cons, hk]
    simp only [Except.toOption, Option.some_bind]
    cases PyStr.scalars? key <;> cases v.readBack? <;> rfl
  | (k, v) :: kv :: kvs, room, _, h, hf, _, f, g, hl, hg, rest => by
    obtain ⟨key, i, is, hk, hi, his, rfl⟩ := dumpsDict_cons_ok h
    obtain ⟨k', v'⟩ := kv
    obtain ⟨key', j, js, -, -, -, rfl⟩ := dumpsDict_cons_ok his
    rw [allFloatsDict, Bool.and_eq_true] at hf
    obtain ⟨g, rfl⟩ : ∃ g', g = g' + 1 := ⟨g - 1, by simp at hg; omega⟩
    rw [intercalate_cons_cons] at hl ⊢
    simp only [String.data_append, List.length_append] at hl
    rw [List.append_assoc, List.append_assoc,
      readMembers_comma (readValue_dumps v room hi hf.1 f (by omega) _ (by simp [isNumChar])),
      readMembers_dumpsDict ((k', v') :: kvs) room his hf.2 (List.cons_ne_nil _ _) f g (by omega)
        (by simpa using hg) rest]
    rw [readBackDict?_cons k v, hk]
    simp only [Except.toOption, Option.some_bind]
    cases PyStr.scalars? key <;> cases v.readBack? <;> cases readBackDict? ((k', v') :: kvs) <;> rfl

end

/-- **The text of `json.dumps` reads back as the value**, when every float among its items is
finite: with its tuples as lists, its keys as the strings `json.dumps` wrote for them, its
strings from the UTF-16 code units of their escapes, and nothing at all when one of them holds
a surrogate that is not half of a pair. -/
theorem readJson_dumps {room : Nat} {o : PyObj} {t : String} (h : dumps room o = .ok t)
    (hf : o.allFloats finiteRepr) : readJson t = o.readBack? := by
  have := readValue_dumps o room h hf t.length le_rfl [] rfl
  rw [List.append_nil] at this
  unfold readJson
  rw [String.toList, this]
  cases o.readBack? <;> rfl

/-- A dictionary with an integer key and a `nan` key, holding a tuple of a finite float and the
two code points of the surrogate pair of `😀`, reads back with its keys as strings, its tuple
as a list and the pair as one character. -/
theorem readJson_dumps_keys_tuple :
    let o : PyObj := .dict [(.int 1, .tuple [.float "1.5", .str [.surrogate 0x3d, .surrogate 0x600]]),
      (.float "nan", .none)]
    dumps 2 o = .ok "\x7b\"1\": [1.5, \"\\ud83d\\ude00\"], \"NaN\": null\x7d" ∧ o.allFloats finiteRepr ∧
      readJson "\x7b\"1\": [1.5, \"\\ud83d\\ude00\"], \"NaN\": null\x7d" =
        some (.dict [(.str (.ofString "1"), .list [.float "1.5", .str (.ofString "😀")]),
          (.str (.ofString "NaN"), .none)]) := by
  intro o
  exact ⟨rfl, rfl, (@readJson_dumps 2 o _ rfl rfl).trans rfl⟩

/-! ## `nan` and the infinities -/

theorem readValue_nonFinite {r : String} (hr : r = "nan" ∨ r = "inf" ∨ r = "-inf") (f : Nat)
    (rest : List Char) : readValue (f + 1) ((floatstr r).data ++ rest) = none := by
  rcases hr with rfl | rfl | rfl <;>
    simp [floatstr, readValue, isWs, readNumber, isNumChar, isNumber, isUnsignedNumber]

/-- An array with an item that does not read does not read. -/
theorem readValue_items_none {xs : List PyObj} {room : Nat} {t : String} {f : Nat}
    (hxs : ∀ (room : Nat) {items : List String}, dumpsList room xs = .ok items → ∀ (f g : Nat),
      (", ".intercalate items).data.length ≤ f → ∀ (rest : List Char),
        readElements (readValue (f + 1)) g ((", ".intercalate items).data ++ ']' :: rest) = none)
    (h : dumps room (.list xs) = .ok t) (hr : allFloatsList floatRepr xs)
    (hn : allFloatsList finiteRepr xs = false) (hl : t.data.length ≤ f) (rest : List Char) :
    readValue (f + 1) (t.data ++ rest) = none := by
  obtain ⟨room', items, hitems, rfl⟩ := dumps_list_ok h
  cases xs with
  | nil => exact absurd hn (by decide)
  | cons x xs =>
    obtain ⟨i, is, hi, -, rfl⟩ := dumpsList_cons_ok hitems
    have hx : x.allFloats floatRepr := by
      simp only [allFloatsList, Bool.and_eq_true] at hr
      exact hr.1
    obtain ⟨c, cs, hc, hws, hb⟩ := dumps_head (fun _ => id) hi hx
    simp only [String.data_append, List.length_append, List.length_singleton] at hl
    obtain ⟨f, rfl⟩ : ∃ f', f = f' + 1 := ⟨f - 1, by omega⟩
    rw [readValue_bracket hc hws hb, hxs room' hitems f (f + 1) (by omega) rest]
    rfl

/-- An object with a value that does not read does not read. -/
theorem readValue_members_none {kvs : List (PyObj × PyObj)} {room : Nat} {t : String} {f : Nat}
    (hkvs : ∀ (room : Nat) {items : List String}, dumpsDict room kvs = .ok items → ∀ (f g : Nat),
      (", ".intercalate items).data.length ≤ f → ∀ (rest : List Char),
        readMembers (readValue (f + 1)) g ((", ".intercalate items).data ++ '\x7d' :: rest) = none)
    (h : dumps room (.dict kvs) = .ok t) (hn : allFloatsDict finiteRepr kvs = false)
    (hl : t.data.length ≤ f) (rest : List Char) : readValue (f + 1) (t.data ++ rest) = none := by
  obtain ⟨room', items, hitems, rfl⟩ := dumps_dict_ok h
  cases kvs with
  | nil => exact absurd hn (by decide)
  | cons kv kvs =>
    obtain ⟨key, i, is, -, -, -, rfl⟩ := dumpsDict_cons_ok hitems
    simp only [String.data_append, List.length_append, List.length_singleton] at hl
    obtain ⟨f, rfl⟩ : ∃ f', f = f' + 1 := ⟨f - 1, by omega⟩
    rw [readValue_brace, hkvs room' hitems f (f + 1) (by omega) rest]
    rfl

mutual

theorem readValue_dumps_none : ∀ (o : PyObj) (room : Nat) {t : String}, dumps room o = .ok t →
    o.allFloats floatRepr → o.allFloats finiteRepr = false → ∀ (f : Nat), t.data.length ≤ f →
      ∀ (rest : List Char), readValue (f + 1) (t.data ++ rest) = none
  | .float r, _, _, h, hr, hn, f, _, rest => by
    cases h
    simp only [PyObj.allFloats] at hr hn
    simp only [floatRepr, hn, Bool.false_or, Bool.or_eq_true, beq_iff_eq] at hr
    exact readValue_nonFinite (or_assoc.mp hr) f rest
  | .list xs, _, _, h, hr, hn, _, hl, rest =>
    readValue_items_none (fun room _ h => readElements_dumps_none xs room h hr hn) h hr hn hl rest
  | .tuple xs, room, _, h, hr, hn, _, hl, rest =>
    readValue_items_none (fun room _ h => readElements_dumps_none xs room h hr hn)
      (dumps_tuple room xs ▸ h) hr hn hl rest
  | .dict kvs, _, _, h, hr, hn, _, hl, rest =>
    readValue_members_none (fun room _ h => readMembers_dumps_none kvs room h hr hn) h hn hl rest
  | .none, _, _, _, _, hn, _, _, _ | .bool _, _, _, _, _, hn, _, _, _ | .int _, _, _, _, _, hn, _, _, _
  | .str _, _, _, _, _, hn, _, _, _ => absurd hn (by simp [PyObj.allFloats])
  | .object _, _, _, h, _, _, _, _, _ => by cases h

theorem readElements_dumps_none : ∀ (xs : List PyObj) (room : Nat) {items : List String},
    dumpsList room xs = .ok items → allFloatsList floatRepr xs → allFloatsList finiteRepr xs = false →
    ∀ (f g : Nat), (", ".intercalate items).data.length ≤ f → ∀ (rest : List Char),
      readElements (readValue (f + 1)) g ((", ".intercalate items).data ++ ']' :: rest) = none
  | [], _, _, _, _, hn, _, _, _, _ => absurd hn (by decide)
  | [x], room, _, h, hr, hn, f, _, hl, _ => by
    obtain ⟨i, is, hi, his, rfl⟩ := dumpsList_cons_ok h
    cases his
    simp only [allFloatsList, Bool.and_true] at hr hn
    exact readElements_of_none (readValue_dumps_none x room hi hr hn f hl _)
  | x :: y :: ys, room, _, h, hr, hn, f, g, hl, rest => by
    obtain ⟨i, is, hi, his, rfl⟩ := dumpsList_cons_ok h
    obtain ⟨j, js, -, -, rfl⟩ := dumpsList_cons_ok his
    rw [allFloatsList, Bool.and_eq_true] at hr
    rw [allFloatsList, Bool.and_eq_false_iff] at hn
    rw [intercalate_cons_cons] at hl ⊢
    simp only [List.length_append] at hl
    rw [List.append_assoc, List.append_assoc]
    by_cases hx : x.allFloats finiteRepr
    · cases g with
      | zero => rfl
      | succ g =>
        rw [readElements_comma (readValue_dumps x room hi hx f (by omega) _ (by simp [isNumChar])),
          readElements_dumps_none (y :: ys) room his hr.2 (by simpa [hx] using hn) f g (by omega) rest]
        cases x.readBack? <;> rfl
    · exact readElements_of_none (readValue_dumps_none x room hi hr.1 (by simpa using hx) f (by omega) _)

theorem readMembers_dumps_none : ∀ (kvs : List (PyObj × PyObj)) (room : Nat) {items : List String},
    dumpsDict room kvs = .ok items → allFloatsDict floatRepr kvs → allFloatsDict finiteRepr kvs = false →
    ∀ (f g : Nat), (", ".intercalate items).data.length ≤ f → ∀ (rest : List Char),
      readMembers (readValue (f + 1)) g ((", ".intercalate items).data ++ '\x7d' :: rest) = none
  | [], _, _, _, _, hn, _, _, _, _ => absurd hn (by decide)
  | [(_, v)], room, _, h, hr, hn, f, _, hl, _ => by
    obtain ⟨key, i, is, -, hi, his, rfl⟩ := dumpsDict_cons_ok h
    cases his
    simp only [allFloatsDict, Bool.and_true] at hr hn
    simp only [intercalate_cons, List.map_nil, List.flatten_nil, List.append_nil, String.data_append,
      List.length_append] at hl
    exact readMembers_of_none (readValue_dumps_none v room hi hr hn f (by omega) _)
  | (_, v) :: (k', v') :: kvs, room, _, h, hr, hn, f, g, hl, rest => by
    obtain ⟨key, i, is, -, hi, his, rfl⟩ := dumpsDict_cons_ok h
    obtain ⟨key', j, js, -, -, -, rfl⟩ := dumpsDict_cons_ok his
    rw [allFloatsDict, Bool.and_eq_true] at hr
    rw [allFloatsDict, Bool.and_eq_false_iff] at hn
    rw [intercalate_cons_cons] at hl ⊢
    simp only [String.data_append, List.length_append] at hl
    rw [List.append_assoc, List.append_assoc]
    by_cases hx : v.allFloats finiteRepr
    · cases g with
      | zero => rfl
      | succ g =>
        rw [readMembers_comma (readValue_dumps v room hi hx f (by omega) _ (by simp [isNumChar])),
          readMembers_dumps_none ((k', v') :: kvs) room his hr.2 (by simpa [hx] using hn) f g (by omega)
            rest]
        cases PyStr.scalars? key <;> cases v.readBack? <;> rfl
    · exact readMembers_of_none (readValue_dumps_none v room hi hr.1 (by simpa using hx) f (by omega) _)

end

end Json

end AgenticIdentity
