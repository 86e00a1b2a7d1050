import AgenticIdentity.Json.Read
import Mathlib.Data.Nat.Digits
import Mathlib.Data.String.Basic

/-!
# Escapes read back

`encode_basestring_ascii` writes a string as an ASCII JSON literal: the short escapes of
`ESCAPE_DCT`, printable ASCII as it is, and `\uXXXX` for every other code point, as a UTF-16
surrogate pair past the basic plane. A Python `str` may also hold lone surrogates, which it
writes as their own `\u` escapes. The string reader of `Json.Read` takes the escapes as UTF-16
code units: it gives back every character from its escape, a high surrogate followed by a low
one as the character past the basic plane they stand for, and nothing for any other surrogate.

## Main definitions

* `PyStr.scalars?`: the characters a `str` reads back as from its escapes, if it does

## Main results

* `Json.toDigits_spec`: the digits `Nat.toDigits` writes, their value, and no leading zero
* `Json.uEscape_data`: a `\u` escape is four hexadecimal digits of its code unit
* `Json.readChars_escapeAscii`: each character reads back from its escape
* `Json.readChars_escaped`: a string reads back from the escapes of its code points as
  `PyStr.scalars?` says
-/

namespace AgenticIdentity

/-- The characters the escapes of a `str`'s code points read back as, taken as UTF-16 code
units: a character as itself, a high surrogate followed by a low one as the character past the
basic plane the two stand for, and any other surrogate as nothing the text can be read as. -/
def PyStr.scalars? : PyStr → Option (List Char)
  | [] => some []
  | .char c :: s => (scalars? s).map (c :: ·)
  | .surrogate h :: .surrogate l :: s =>
    if h.val < 0x400 ∧ 0x400 ≤ l.val then
      (scalars? s).map (Char.ofNat (0x10000 + h.val * 0x400 + (l.val - 0x400)) :: ·)
    else none
  | .surrogate _ :: _ => none

/-- The high and the low surrogate of `😀`, two code points of a `str`, read as `😀`. -/
example : PyStr.scalars? [.surrogate 0x3d, .surrogate 0x600] = some ['😀'] := by decide


namespace Json

/-! ## Digits -/

theorem toDigitsCore_eq_digits {b : Nat} (hb : 1 < b) :
    ∀ {f n : Nat} (ds : List Char), n < f → 0 < n →
      Nat.toDigitsCore b f n ds = (Nat.digits b n).reverse.map Nat.digitChar ++ ds
  | 0, _, _, h, _ => absurd h (Nat.not_lt_zero _)
  | f + 1, n, ds, hf, hn => by
    rw [Nat.toDigitsCore, Nat.digits_def' hb hn]
    by_cases hq : n / b = 0
    · have hnb : n < b := by rwa [Nat.div_eq_zero_iff (by omega)] at hq
      simp [hq, Nat.mod_eq_of_lt hnb]
    · have hlt : n / b < n := Nat.div_lt_self hn hb
      simp only [hq, if_false]
      rw [toDigitsCore_eq_digits hb _ (by omega) (Nat.pos_of_ne_zero hq)]
      simp

theorem toDigits_eq_digits {b n : Nat} (hb : 1 < b) (hn : 0 < n) :
    Nat.toDigits b n = (Nat.digits b n).reverse.map Nat.digitChar :=
  (toDigitsCore_eq_digits hb [] (Nat.lt_succ_self n) hn).trans (List.append_nil _)

theorem foldl_digits_reverse (b : Nat) (l : List Nat) :
    l.reverse.foldl (fun a d => a * b + d) 0 = Nat.ofDigits b l := by
  rw [List.foldl_reverse]
  induction l with
  | nil => rfl
  | cons d l ih => rw [List.foldr_cons, ih, Nat.ofDigits_cons]; ring

/-- **What `Nat.toDigits` writes**: digits below the base, most significant first, with the
value `n` and no leading zero unless `n = 0`. -/
theorem toDigits_spec {b : Nat} (hb : 1 < b) (n : Nat) :
    ∃ L : List Nat, Nat.toDigits b n = L.map Nat.digitChar ∧ (∀ d ∈ L, d < b) ∧
      L.foldl (fun a d => a * b + d) 0 = n ∧ L ≠ [] ∧ (L.head? = some 0 → L = [0]) := by
  rcases Nat.eq_zero_or_pos n with rfl | hn
  · refine ⟨[0], ?_, by simpa using by omega, by simp, by simp, fun _ => rfl⟩
    simp [Nat.toDigits, Nat.toDigitsCore]
  · have hne : Nat.digits b n ≠ [] := Nat.digits_ne_nil_iff_ne_zero.mpr hn.ne'
    refine ⟨(Nat.digits b n).reverse, toDigits_eq_digits hb hn, fun d hd => ?_, ?_, by simpa, ?_⟩
    · exact Nat.digits_lt_base hb (List.mem_reverse.mp hd)
    · rw [foldl_digits_reverse, Nat.ofDigits_digits]
    · rw [List.head?_reverse, List.getLast?_eq_getLast _ hne, Option.some.injEq]
      exact fun h => absurd h (Nat.getLast_digit_ne_zero b hn.ne')

theorem hexDigitVal_digitChar : ∀ d < 16, hexDigitVal (Nat.digitChar d) = some d := by decide

theorem foldl_replicate_zero (b k : Nat) (L : List Nat) :
    (List.replicate k 0 ++ L).foldl (fun a d => a * b + d) 0 = L.foldl (fun a d => a * b + d) 0 := by
  induction k with
  | zero => rfl
  | succ k ih => simpa [List.replicate_succ] using ih

theorem exists_of_length_eq_four {α : Type} {l : List α} (h : l.length = 4) :
    ∃ a b c d, l = [a, b, c, d] :=
  match l, h with
  | [a, b, c, d], _ => ⟨a, b, c, d, rfl⟩

/-- **A `\u` escape is four hexadecimal digits of its code unit.** -/
theorem uEscape_data {n : Nat} (hn : n < 0x10000) :
    ∃ d₀ d₁ d₂ d₃, (d₀ < 16 ∧ d₁ < 16 ∧ d₂ < 16 ∧ d₃ < 16) ∧
      ((d₀ * 16 + d₁) * 16 + d₂) * 16 + d₃ = n ∧
      (uEscape n).data = '\\' :: 'u' :: [d₀, d₁, d₂, d₃].map Nat.digitChar := by
  obtain ⟨L, hds, hlt, hval, -, -⟩ := toDigits_spec (by decide : 1 < 16) n
  have hlen : L.length ≤ 4 := by
    have := Nat.toDigitsCore_length 16 (by decide) (n + 1) n 4 hn (by decide)
    rwa [← Nat.toDigits, hds, List.length_map] at this
  obtain ⟨d₀, d₁, d₂, d₃, hM⟩ := exists_of_length_eq_four
    (show (List.replicate (4 - L.length) 0 ++ L).length = 4 by simp; omega)
  have hdig : ∀ d ∈ [d₀, d₁, d₂, d₃], d < 16 := by
    rw [← hM]
    intro d hd
    rcases List.mem_append.mp hd with h | h
    · rw [List.eq_of_mem_replicate h]; decide
    · exact hlt d h
  refine ⟨d₀, d₁, d₂, d₃, by simpa using hdig, ?_, ?_⟩
  · rw [← hval, ← foldl_replicate_zero 16 (4 - L.length), hM]
    simp
  · rw [← hM, List.map_append, List.map_replicate]
    simp [uEscape, hds]
    exact .inr rfl

/-! ## String literals -/

theorem readChars_uEscape {n : Nat} (cs : List Char) (hn : n < 0x10000)
    (hs : n < 0xd800 ∨ 0xdfff < n) :
    readChars ((uEscape n).data ++ cs) = (readChars cs).map fun p => (Char.ofNat n :: p.1, p.2) := by
  obtain ⟨d₀, d₁, d₂, d₃, hd, hval, hu⟩ := uEscape_data hn
  rw [hu]
  simp (disch := omega) [readChars, readLit, litStep, hexDigitVal_digitChar, hval, codeUnit, hs,
    Function.comp_def]

/-- The escape of a high surrogate leaves the reader waiting for its low one. -/
theorem readChars_uEscape_high {h : Nat} (cs : List Char) (hh : 0xd800 ≤ h ∧ h < 0xdc00) :
    readChars ((uEscape h).data ++ cs) = readLit (.lowBackslash h) cs := by
  obtain ⟨d₀, d₁, d₂, d₃, hd, hval, hu⟩ := uEscape_data (by omega : h < 0x10000)
  rw [hu]
  simp (disch := omega) [readChars, readLit, litStep, hexDigitVal_digitChar, hval, codeUnit,
    show ¬(h < 0xd800 ∨ 0xdfff < h) by omega, hh.2]

/-- The escape of a low surrogate with no high one before it is not read. -/
theorem readChars_uEscape_low {l : Nat} (cs : List Char) (hl : 0xdc00 ≤ l ∧ l ≤ 0xdfff) :
    readChars ((uEscape l).data ++ cs) = none := by
  obtain ⟨d₀, d₁, d₂, d₃, hd, hval, hu⟩ := uEscape_data (by omega : l < 0x10000)
  rw [hu]
  simp (disch := omega) [readChars, readLit, litStep, hexDigitVal_digitChar, hval, codeUnit,
    show ¬(l < 0xd800 ∨ 0xdfff < l) by omega, show ¬l < 0xdc00 by omega]

/-- After a high surrogate, a `\u` escape is read only as its low surrogate. -/
theorem readLit_lowBackslash_uEscape {h l : Nat} (cs : List Char) (hl : l < 0x10000) :
    readLit (.lowBackslash h) ((uEscape l).data ++ cs) =
      if 0xdc00 ≤ l ∧ l ≤ 0xdfff then
        (readChars cs).map fun p => (Char.ofNat (0x10000 + (h - 0xd800) * 0x400 + (l - 0xdc00)) :: p.1, p.2)
      else none := by
  obtain ⟨e₀, e₁, e₂, e₃, he, hval, hu⟩ := uEscape_data hl
  rw [hu]
  by_cases hlow : 0xdc00 ≤ l ∧ l ≤ 0xdfff <;>
    simp (disch := omega) [readChars, readLit, litStep, hexDigitVal_digitChar, hval, lowUnit, hlow,
      Function.comp_def]

theorem readChars_plain {c : Char} (cs : List Char) (h₁ : c ≠ '"') (h₂ : c ≠ '\\')
    (h₃ : 0x20 ≤ c.toNat) : readChars (c :: cs) = (readChars cs).map fun p => (c :: p.1, p.2) := by
  simp [readChars, readLit, litStep, h₁, h₂, show ¬c.toNat < 0x20 by omega, Function.comp_def]

theorem readChars_shortEscape {e x : Char} (cs : List Char) (he : e ≠ 'u')
    (hx : shortEscape e = some x) :
    readChars ('\\' :: e :: cs) = (readChars cs).map fun p => (x :: p.1, p.2) := by
  simp [readChars, readLit, litStep, he, hx, Function.comp_def]

theorem readLit_lowBackslash_shortEscape {h : Nat} {e : Char} (cs : List Char) (he : e ≠ 'u') :
    readLit (.lowBackslash h) ('\\' :: e :: cs) = none := by
  simp [readLit, litStep, he]

theorem readChars_surrogates {h l : Nat} (cs : List Char) (hh : 0xd800 ≤ h ∧ h < 0xdc00)
    (hl : 0xdc00 ≤ l ∧ l ≤ 0xdfff) :
    readChars ((uEscape h).data ++ ((uEscape l).data ++ cs)) = (readChars cs).map fun p =>
      (Char.ofNat (0x10000 + (h - 0xd800) * 0x400 + (l - 0xdc00)) :: p.1, p.2) := by
  rw [readChars_uEscape_high _ hh, readLit_lowBackslash_uEscape _ (by omega), if_pos hl]

theorem surrogates_eq {n : Nat} (hn : n < 0x100000) :
    0xd800 ||| ((n >>> 10) &&& 0x3ff) = 0xd800 + n / 0x400 ∧
      0xdc00 ||| (n &&& 0x3ff) = 0xdc00 + n % 0x400 := by
  have hmask : ∀ x, x &&& 0x3ff = x % 2 ^ 10 := fun x => Nat.and_pow_two_sub_one_eq_mod x 10
  rw [hmask, hmask, Nat.shiftRight_eq_div_pow]
  constructor
  · rw [show (0xd800 : Nat) = 2 ^ 10 * 54 by norm_num,
      ← Nat.mul_add_lt_is_or (Nat.mod_lt (n / 2 ^ 10) (by decide : 2 ^ 10 > 0))]
    omega
  · rw [show (0xdc00 : Nat) = 2 ^ 10 * 55 by norm_num,
      ← Nat.mul_add_lt_is_or (Nat.mod_lt n (by decide : 2 ^ 10 > 0))]

/-- A character is a scalar value: below the surrogates, or above them and below
`0x110000`. -/
theorem toNat_scalar (c : Char) : c.toNat < 0xd800 ∨ (0xdfff < c.toNat ∧ c.toNat < 0x110000) := by
  have hv := c.valid
  simp only [Char.toNat, UInt32.isValidChar, Nat.isValidChar] at hv ⊢
  omega

/-- What each character of a `str` is escaped as: one of the short escapes, a printable ASCII
character, the escape of a character of the basic plane, or the escapes of the surrogate pair
of a character past it. -/
theorem escapeAscii_cases (c : Char) :
    (∃ e x, e ≠ 'u' ∧ shortEscape e = some x ∧ x = c ∧ (escapeAscii (.char c)).data = ['\\', e]) ∨
      (c ≠ '"' ∧ c ≠ '\\' ∧ 0x20 ≤ c.toNat ∧ (escapeAscii (.char c)).data = [c]) ∨
      (c.toNat < 0xd800 ∧ escapeAscii (.char c) = uEscape c.toNat) ∨
      (0xdfff < c.toNat ∧ c.toNat < 0x10000 ∧ escapeAscii (.char c) = uEscape c.toNat) ∨
      (0x10000 ≤ c.toNat ∧ escapeAscii (.char c) =
        uEscape (0xd800 + (c.toNat - 0x10000) / 0x400) ++ uEscape (0xdc00 + (c.toNat - 0x10000) % 0x400)) := by
  by_cases h₁ : c = '\\'; · subst h₁; exact .inl ⟨'\\', _, by decide, rfl, rfl, rfl⟩
  by_cases h₂ : c = '"'; · subst h₂; exact .inl ⟨'"', _, by decide, rfl, rfl, rfl⟩
  by_cases h₃ : c = '\x08'; · subst h₃; exact .inl ⟨'b', _, by decide, rfl, rfl, rfl⟩
  by_cases h₄ : c = '\x0c'; · subst h₄; exact .inl ⟨'f', _, by decide, rfl, rfl, rfl⟩
  by_cases h₅ : c = '\n'; · subst h₅; exact .inl ⟨'n', _, by decide, rfl, rfl, rfl⟩
  by_cases h₆ : c = '\r'; · subst h₆; exact .inl ⟨'r', _, by decide, rfl, rfl, rfl⟩
  by_cases h₇ : c = '\t'; · subst h₇; exact .inl ⟨'t', _, by decide, rfl, rfl, rfl⟩
  rw [escapeAscii, if_neg h₁, if_neg h₂, if_neg h₃, if_neg h₄, if_neg h₅, if_neg h₆, if_neg h₇]
  by_cases h₈ : ' ' ≤ c ∧ c ≤ '~'
  · rw [if_pos h₈]
    exact .inr (.inl ⟨h₂, h₁, h₈.1, rfl⟩)
  rw [if_neg h₈]
  by_cases h₉ : c.toNat < 0x10000
  · rw [if_pos h₉]
    rcases toNat_scalar c with hc | ⟨hc, -⟩
    · exact .inr (.inr (.inl ⟨hc, rfl⟩))
    · exact .inr (.inr (.inr (.inl ⟨hc, h₉, rfl⟩)))
  · obtain ⟨hh, hl⟩ := surrogates_eq (show c.toNat - 0x10000 < 0x100000 by
      have := toNat_scalar c; omega)
    rw [if_neg h₉]
    dsimp only
    rw [hh, hl]
    exact .inr (.inr (.inr (.inr ⟨by omega, rfl⟩)))

/-- **Each character reads back from its escape.** -/
theorem readChars_escapeAscii (c : Char) (cs : List Char) :
    readChars ((escapeAscii (.char c)).data ++ cs) = (readChars cs).map fun p => (c :: p.1, p.2) := by
  rcases escapeAscii_cases c with ⟨e, x, he, hx, rfl, hd⟩ | ⟨h₁, h₂, h₃, hd⟩ | ⟨hc, hd⟩ | ⟨h₁, h₂, hd⟩ |
    ⟨hc, hd⟩
  · rw [hd]
    exact readChars_shortEscape cs he hx
  · rw [hd]
    exact readChars_plain cs h₁ h₂ h₃
  · rw [hd, readChars_uEscape cs (by omega) (.inl hc), Char.ofNat_toNat]
  · rw [hd, readChars_uEscape cs h₂ (.inr h₁), Char.ofNat_toNat]
  · have hv := toNat_scalar c
    have hpair : Char.ofNat (0x10000 + (0xd800 + (c.toNat - 0x10000) / 0x400 - 0xd800) * 0x400 +
        (0xdc00 + (c.toNat - 0x10000) % 0x400 - 0xdc00)) = c := by
      rw [show 0x10000 + (0xd800 + (c.toNat - 0x10000) / 0x400 - 0xd800) * 0x400 +
        (0xdc00 + (c.toNat - 0x10000) % 0x400 - 0xdc00) = c.toNat by omega, Char.ofNat_toNat]
    rw [hd, String.data_append, List.append_assoc, readChars_surrogates cs (by omega) (by omega), hpair]

/-- **After a high surrogate, the escape of a character is not read**: no character is a low
surrogate, nor does its escape start with one. -/
theorem readLit_lowBackslash_escapeAscii {h : Nat} (c : Char) (cs : List Char) :
    readLit (.lowBackslash h) ((escapeAscii (.char c)).data ++ cs) = none := by
  rcases escapeAscii_cases c with ⟨e, x, he, -, -, hd⟩ | ⟨-, h₂, -, hd⟩ | ⟨hc, hd⟩ | ⟨h₁, h₂, hd⟩ |
    ⟨hc, hd⟩
  · rw [hd]
    exact readLit_lowBackslash_shortEscape cs he
  · rw [hd]
    simp [readLit, litStep, h₂]
  · rw [hd, readLit_lowBackslash_uEscape cs (by omega), if_neg (by omega)]
  · rw [hd, readLit_lowBackslash_uEscape cs h₂, if_neg (by omega)]
  · have hv := toNat_scalar c
    rw [hd, String.data_append, List.append_assoc, readLit_lowBackslash_uEscape _ (by omega),
      if_neg (by omega)]

/-- The escape of a lone surrogate `0xd800 + n` of a `str`: a high one waits for its low one,
a low one is not read. -/
theorem readChars_surrogate (n : Fin 0x800) (cs : List Char) :
    readChars ((escapeAscii (.surrogate n)).data ++ cs) =
      if n.val < 0x400 then readLit (.lowBackslash (0xd800 + n)) cs else none := by
  have := n.isLt
  by_cases hn : n.val < 0x400
  · rw [if_pos hn, escapeAscii, readChars_uEscape_high cs (by omega)]
  · rw [if_neg hn, escapeAscii, readChars_uEscape_low cs (by omega)]

/-- **A string reads back from the escapes of its code points**, up to the closing quotation
mark, as `PyStr.scalars?` says. -/
theorem readChars_escaped (rest : List Char) :
    ∀ s : PyStr, readChars ((s.map fun c => (escapeAscii c).data).flatten ++ '"' :: rest) =
      s.scalars?.map fun cs => (cs, rest)
  | [] => rfl
  | .char c :: s => by
    rw [List.map_cons, List.flatten_cons, List.append_assoc, readChars_escapeAscii,
      readChars_escaped rest s, PyStr.scalars?, Option.map_map, Option.map_map]
    rfl
  | [.surrogate h] => by
    rw [List.map_cons, List.map_nil, List.flatten_cons, List.flatten_nil, List.append_nil,
      readChars_surrogate]
    split <;> simp [readLit, litStep, PyStr.scalars?]
  | .surrogate h :: .char c :: s => by
    rw [List.map_cons, List.map_cons, List.flatten_cons, List.flatten_cons, List.append_assoc,
      readChars_surrogate]
    split
    · rw [List.append_assoc, readLit_lowBackslash_escapeAscii]; rfl
    · rfl
  | .surrogate h :: .surrogate l :: s => by
    have := h.isLt
    have := l.isLt
    rw [List.map_cons, List.map_cons, List.flatten_cons, List.flatten_cons, List.append_assoc,
      readChars_surrogate, PyStr.scalars?]
    split
    · rw [List.append_assoc, escapeAscii, readLit_lowBackslash_uEscape _ (by omega),
        readChars_escaped rest s]
      by_cases hl : 0x400 ≤ l.val
      · rw [if_pos (by omega), if_pos ⟨by assumption, hl⟩]
        cases PyStr.scalars? s with
        | none => rfl
        | some cs =>
          rw [show 0x10000 + (0xd800 + h.val - 0xd800) * 0x400 + (0xd800 + l.val - 0xdc00) =
            0x10000 + h.val * 0x400 + (l.val - 0x400) by omega]
          rfl
      · rw [if_neg (by omega), if_neg fun hc => hl hc.2]
        rfl
    · rw [if_neg fun hc => by omega]
      rfl

theorem encodeBasestringAscii_data (s : PyStr) :
    (encodeBasestringAscii s).data =
      '"' :: (s.map fun c => (escapeAscii c).data).flatten ++ ['"'] := by
  simp [encodeBasestringAscii, String.data, List.map_map, Function.comp_def]

end Json

end AgenticIdentity
