import Ayane.Ca.Decimal
import Ayane.Service
import Ayane.Testca.Server

/-!
# The numbers that serial numbers stand for

A serial number comes as the bytes of a certificate or as a text, in decimal or in hexadecimal
digits. Both are turned into the decimal text of the number, the one by long multiplication,
and the other by removing zeros or by decoding bytes first, so that they agree.
-/

namespace Ayane

open Effect

/-! ## Hexadecimal texts -/

def hexDigit (c : Char) : Option ℕ :=
  if '0' ≤ c ∧ c ≤ '9' then some (c.toNat - '0'.toNat)
  else if 'a' ≤ c ∧ c ≤ 'f' then some (c.toNat - 'a'.toNat + 10)
  else if 'A' ≤ c ∧ c ≤ 'F' then some (c.toNat - 'A'.toNat + 10)
  else none

/-- The bytes of pairs of hexadecimal digits. -/
def hexBytes : List Char → Option Bytes
  | [] => some []
  | [_] => none
  | c :: c' :: cs => do
    let high ← hexDigit c
    let low ← hexDigit c'
    let bytes ← hexBytes cs
    return UInt8.ofNat (16 * high + low) :: bytes

/-- A codec decodes pairs of hexadecimal digits, of either case, and nothing else. -/
def DecodesHex (codec : TextCodec) : Prop :=
  ∀ s bytes, codec.decode s = .ok bytes ↔ hexBytes s.toList = some bytes

theorem hexDigit_eq_some {c : Char} {d : ℕ} (h : hexDigit c = some d) : d < 16 ∧ c.toNat < 128 := by
  have hle : ∀ a b : Char, a ≤ b → a.toNat ≤ b.toNat := fun a b h => h
  unfold hexDigit at h
  split_ifs at h with hdec hlow hup
  · have := hle _ _ hdec.2
    have : '9'.toNat = 57 := rfl
    have : '0'.toNat = 48 := rfl
    cases h
    omega
  · have := hle _ _ hlow.2
    have : 'f'.toNat = 102 := rfl
    have : 'a'.toNat = 97 := rfl
    cases h
    omega
  · have := hle _ _ hup.2
    have : 'F'.toNat = 70 := rfl
    have : 'A'.toNat = 65 := rfl
    cases h
    omega

/-- The decoded bytes have the number of the digits as their magnitude. -/
theorem of_hexBytes {cs : List Char} {bytes : Bytes} (h : hexBytes cs = some bytes) :
    ∃ ds, cs.mapM hexDigit = some ds ∧
      ∀ n, Radix.valueFrom 256 n (digitsOf bytes) = Radix.valueFrom 16 n ds := by
  fun_induction hexBytes cs generalizing bytes with
  | case1 =>
    cases h
    exact ⟨[], rfl, fun _ => rfl⟩
  | case2 => cases h
  | case3 c c' cs ih =>
    simp only [Option.bind_eq_bind, Option.bind_eq_some_iff, Option.pure_def, Option.some.injEq] at h
    obtain ⟨high, hhigh, low, hlow, rest, hrest, rfl⟩ := h
    obtain ⟨ds, hds, hvalue⟩ := ih hrest
    refine ⟨high :: low :: ds, by simp [List.mapM_cons, hhigh, hlow, hds], fun n => ?_⟩
    have hbyte : (UInt8.ofNat (16 * high + low)).toNat = 16 * high + low := by
      have := (hexDigit_eq_some hhigh).1
      have := (hexDigit_eq_some hlow).1
      rw [UInt8.toNat_ofNat']
      omega
    have hpair : 256 * n + (16 * high + low) = 16 * (16 * n + high) + low := by ring
    rw [digitsOf_cons, hbyte, Radix.valueFrom_cons, hvalue, hpair, Radix.valueFrom_cons,
      Radix.valueFrom_cons]

theorem exists_hexBytes {cs : List Char} {ds : List ℕ} (h : cs.mapM hexDigit = some ds)
    (heven : cs.length % 2 = 0) : ∃ bytes, hexBytes cs = some bytes := by
  fun_induction hexBytes cs generalizing ds with
  | case1 => exact ⟨[], rfl⟩
  | case2 => cases heven
  | case3 c c' cs ih =>
    simp only [List.mapM_cons, Option.bind_eq_bind, Option.bind_eq_some_iff] at h
    obtain ⟨high, hhigh, _, ⟨low, hlow, ds', hds, -⟩, -⟩ := h
    have hrest : cs.length % 2 = 0 := by
      rw [List.length_cons, List.length_cons] at heven
      omega
    obtain ⟨bytes, hbytes⟩ := ih hds hrest
    refine ⟨UInt8.ofNat (16 * high + low) :: bytes, ?_⟩
    rw [hhigh, hlow, hbytes]
    rfl

/-! ## Texts -/

/-- The texts of a number: decimal digits, or hexadecimal digits after `0x`, between white space. -/
inductive Denotes (input : String) : ℕ → Prop where
  | decimal {cs : List Char} (h : (Text.trim input).toList = cs) (hne : cs ≠ [])
      (hdigits : ∀ c ∈ cs, c.isDigit) : Denotes input (Nat.ofDigitChars 10 cs 0)
  | hex {x : Char} {cs : List Char} {ds : List ℕ} (h : (Text.trim input).toList = '0' :: x :: cs)
      (hx : x = 'x' ∨ x = 'X') (hne : cs ≠ []) (hdigits : cs.mapM hexDigit = some ds) :
      Denotes input (Radix.value 16 ds)

/-- A hexadecimal text without any digit. -/
def Bare (input : String) : Prop := Text.trim input = "0x" ∨ Text.trim input = "0X"

/-- What follows `0x`. -/
def hexPart (trimmed : String) : Option String :=
  (Text.stripPrefix "0x" trimmed).or (Text.stripPrefix "0X" trimmed)

theorem hexPart_eq_some {trimmed rest : String} :
    hexPart trimmed = some rest ↔
      ∃ x, (x = 'x' ∨ x = 'X') ∧ trimmed.toList = '0' :: x :: rest.toList := by
  have hlow := @Text.stripPrefix_eq_some "0x" trimmed
  have hup := @Text.stripPrefix_eq_some "0X" trimmed
  unfold hexPart
  rw [Option.or_eq_some_iff]
  constructor
  · rintro (h | ⟨-, h⟩)
    · exact ⟨'x', .inl rfl, hlow.mp h⟩
    · exact ⟨'X', .inr rfl, hup.mp h⟩
  · rintro ⟨x, rfl | rfl, h⟩
    · exact .inl (hlow.mpr h)
    · refine .inr ⟨Option.eq_none_iff_forall_ne_some.mpr fun rest' h' => ?_, hup.mpr h⟩
      have heq := (hlow.mp h').symm.trans h
      exact absurd (List.cons.inj (List.cons.inj heq).2).1 (by decide)

theorem length_utf8_of_ascii {cs : List Char} (h : ∀ c ∈ cs, c.toNat < 128) :
    (utf8 (String.ofList cs)).length = cs.length := by
  induction cs with
  | nil => rfl
  | cons c cs ih =>
    obtain ⟨hc, hcs⟩ := List.forall_mem_cons.mp h
    have hsize : (utf8 (String.ofList [c])).length = 1 := by
      have hone : c.utf8Size = 1 := Char.utf8Size_eq_one_iff.mpr (Nat.le_of_lt_succ hc)
      simpa [utf8, List.utf8Encode_singleton] using hone
    rw [← List.singleton_append, String.ofList_append, utf8_append, List.length_append, hsize, ih hcs,
      List.length_append, List.length_singleton]

/-- A text of hexadecimal digits has a byte for each. -/
theorem length_utf8 {s : String} {ds : List ℕ} (h : s.toList.mapM hexDigit = some ds) :
    (utf8 s).length = s.toList.length := by
  have hascii : ∀ c ∈ s.toList, c.toNat < 128 := by
    generalize s.toList = cs at h
    induction cs generalizing ds with
    | nil => exact nofun
    | cons c cs ih =>
      simp only [List.mapM_cons, Option.bind_eq_bind, Option.bind_eq_some_iff] at h
      obtain ⟨d, hd, ds', hds, -⟩ := h
      exact List.forall_mem_cons.mpr ⟨(hexDigit_eq_some hd).2, ih hds⟩
  have hlength := length_utf8_of_ascii hascii
  rwa [String.ofList_toList] at hlength

/-- Odd-length hexadecimal, padded with a digit on the left. -/
def padded (hex : String) : String := if (utf8 hex).length % 2 = 1 then "0" ++ hex else hex

theorem toList_zero_append (hex : String) : ("0" ++ hex).toList = '0' :: hex.toList := String.toList_append

theorem mapM_zero_cons {cs : List Char} {ds : List ℕ} :
    ('0' :: cs).mapM hexDigit = some ds ↔ ∃ ds', cs.mapM hexDigit = some ds' ∧ 0 :: ds' = ds := by
  have hdigit : hexDigit '0' = some 0 := rfl
  rw [List.mapM_cons, hdigit]
  change (cs.mapM hexDigit).bind (fun ds' => some (0 :: ds')) = some ds ↔ _
  simp only [Option.bind_eq_some_iff, Option.some.injEq]

/-- Padding changes no number. -/
theorem padded_digits {hex : String} {n : ℕ} :
    (∃ ds, (padded hex).toList.mapM hexDigit = some ds ∧ Radix.value 16 ds = n) ↔
      ∃ ds, hex.toList.mapM hexDigit = some ds ∧ Radix.value 16 ds = n := by
  unfold padded
  split_ifs
  · rw [toList_zero_append]
    constructor
    · rintro ⟨ds, hds, rfl⟩
      obtain ⟨ds', hds', rfl⟩ := mapM_zero_cons.mp hds
      exact ⟨ds', hds', (Radix.value_zero_cons 16 ds').symm⟩
    · rintro ⟨ds, hds, rfl⟩
      exact ⟨0 :: ds, mapM_zero_cons.mpr ⟨ds, hds, rfl⟩, Radix.value_zero_cons 16 ds⟩
  · exact Iff.rfl

/-- Padding makes the length even. -/
theorem length_padded {hex : String} {ds : List ℕ} (h : hex.toList.mapM hexDigit = some ds) :
    (padded hex).toList.length % 2 = 0 := by
  have hlength := length_utf8 h
  unfold padded
  split_ifs with hodd
  · rw [toList_zero_append, List.length_cons]
    omega
  · omega

theorem decode_padded {crates : ServerCrates} (hhex : DecodesHex crates.hex) {hex : String} {n : ℕ} :
    (∃ bytes, crates.hex.decode (padded hex) = .ok bytes ∧ serialValue bytes = n) ↔
      ∃ ds, hex.toList.mapM hexDigit = some ds ∧ Radix.value 16 ds = n := by
  rw [← padded_digits]
  constructor
  · rintro ⟨bytes, hdecode, rfl⟩
    obtain ⟨ds, hds, hvalue⟩ := of_hexBytes ((hhex _ _).mp hdecode)
    exact ⟨ds, hds, (hvalue 0).symm⟩
  · intro h
    obtain ⟨_, hdigits, -⟩ := padded_digits.mp h
    obtain ⟨ds, hds, rfl⟩ := h
    obtain ⟨bytes, hbytes⟩ := exists_hexBytes hds (length_padded hdigits)
    obtain ⟨ds', hds', hvalue⟩ := of_hexBytes hbytes
    cases hds.symm.trans hds'
    exact ⟨bytes, (hhex _ _).mpr hbytes, hvalue 0⟩

theorem denotes_of_hexPart {input hex : String} (h : hexPart (Text.trim input) = some hex) {n : ℕ} :
    Denotes input n ↔
      hex ≠ "" ∧ ∃ ds, hex.toList.mapM hexDigit = some ds ∧ Radix.value 16 ds = n := by
  obtain ⟨x, hx, htrimmed⟩ := hexPart_eq_some.mp h
  have hempty : hex.toList ≠ [] ↔ hex ≠ "" := by simp
  constructor
  · intro hn
    cases hn with
    | decimal hcs hne hdigits =>
      have hmem : x ∈ '0' :: x :: hex.toList := by simp
      have hdigit := hdigits x (hcs ▸ htrimmed ▸ hmem)
      obtain rfl | rfl := hx <;> exact absurd hdigit (by decide)
    | hex hcs hx' hne hdigits =>
      obtain ⟨-, htail⟩ := List.cons.inj (htrimmed.symm.trans hcs)
      obtain ⟨-, rfl⟩ := List.cons.inj htail
      exact ⟨hempty.mp hne, _, hdigits, rfl⟩
  · rintro ⟨hne, ds, hds, rfl⟩
    exact .hex htrimmed hx (hempty.mpr hne) hds

theorem denotes_of_hexPart_eq_none {input : String} (h : hexPart (Text.trim input) = none) {n : ℕ} :
    Denotes input n ↔ Text.trim input ≠ "" ∧ (Text.trim input).toList.all Char.isDigit ∧
      Nat.ofDigitChars 10 (Text.trim input).toList 0 = n := by
  have hempty : (Text.trim input).toList ≠ [] ↔ Text.trim input ≠ "" := by simp
  constructor
  · intro hn
    cases hn with
    | decimal hcs hne hdigits =>
      subst hcs
      exact ⟨hempty.mp hne, List.all_eq_true.mpr hdigits, rfl⟩
    | @hex x cs ds hcs hx hne hdigits =>
      have hpart : hexPart (Text.trim input) = some (String.ofList cs) :=
        hexPart_eq_some.mpr ⟨x, hx, by rw [hcs, String.toList_ofList]⟩
      cases h.symm.trans hpart
  · rintro ⟨hne, hdigits, rfl⟩
    exact .decimal rfl (hempty.mpr hne) (List.all_eq_true.mp hdigits)

theorem bare_iff {input : String} : Bare input ↔ hexPart (Text.trim input) = some "" := by
  rw [hexPart_eq_some]
  constructor
  · rintro (h | h)
    · exact ⟨'x', .inl rfl, h ▸ rfl⟩
    · exact ⟨'X', .inr rfl, h ▸ rfl⟩
  · rintro ⟨x, rfl | rfl, h⟩
    · exact .inl (String.toList_inj.mp h)
    · exact .inr (String.toList_inj.mp h)

section

variable {crates : ServerCrates} {input result hex : String}

theorem normalizeSerial_of_hexPart (h : hexPart (Text.trim input) = some hex) :
    normalizeSerial crates input = .ok result ↔
      ∃ bytes, crates.hex.decode (padded hex) = .ok bytes ∧ serialToDecimal bytes = result := by
  unfold hexPart at h
  unfold normalizeSerial padded
  simp only [h, except_bind_eq_ok, mapErr_eq_ok, Except.ok.injEq]

theorem normalizeSerial_of_hexPart_eq_none (h : hexPart (Text.trim input) = none) :
    normalizeSerial crates input = .ok result ↔ Text.trim input ≠ "" ∧
      (Text.trim input).toList.all Char.isDigit ∧
        String.ofList (Radix.stripZeros (Text.trim input).toList) = result := by
  have htext : ∀ cs : List Char, (if String.ofList cs = "" then "0" else String.ofList cs) =
      String.ofList (if cs = [] then ['0'] else cs) := by
    intro cs
    cases cs with
    | nil => rfl
    | cons c cs => simp
  unfold hexPart at h
  unfold normalizeSerial Radix.stripZeros
  simp only [h, htext]
  by_cases hbad : Text.trim input = "" ∨ ¬(Text.trim input).toList.all Char.isDigit
  · rw [if_pos hbad]
    refine iff_of_false nofun ?_
    rintro ⟨hne, hdigits, -⟩
    exact hbad.elim hne (absurd hdigits)
  · rw [if_neg hbad, Except.ok.injEq]
    rw [not_or, not_not] at hbad
    exact ⟨fun hresult => ⟨hbad.1, hbad.2, hresult⟩, fun hresult => hresult.2.2⟩

/-- The result is the decimal text of the number, and `0` for a text without any digit. -/
theorem normalizeSerial_eq_ok (hhex : DecodesHex crates.hex) :
    normalizeSerial crates input = .ok result ↔
      (∃ n, Denotes input n ∧ result = n.repr) ∨ Bare input ∧ result = "0" := by
  rw [bare_iff]
  cases hpart : hexPart (Text.trim input) with
  | some hex =>
    rw [normalizeSerial_of_hexPart hpart]
    constructor
    · rintro ⟨bytes, hdecode, rfl⟩
      obtain ⟨ds, hds, hvalue⟩ := (decode_padded hhex).mp ⟨bytes, hdecode, rfl⟩
      by_cases hempty : hex = ""
      · subst hempty
        obtain rfl : ds = [] := (Option.some.inj hds).symm
        exact .inr ⟨rfl, by rw [serialToDecimal_eq, ← hvalue]; rfl⟩
      · refine .inl ⟨_, (denotes_of_hexPart hpart).mpr ⟨hempty, ds, hds, hvalue⟩, ?_⟩
        exact serialToDecimal_eq bytes
    · rintro (⟨n, hn, rfl⟩ | ⟨hbare, rfl⟩)
      · obtain ⟨-, hdigits⟩ := (denotes_of_hexPart hpart).mp hn
        obtain ⟨bytes, hdecode, rfl⟩ := (decode_padded hhex).mpr hdigits
        exact ⟨bytes, hdecode, serialToDecimal_eq bytes⟩
      · cases hbare
        obtain ⟨bytes, hdecode, hvalue⟩ := (@decode_padded crates hhex "" 0).mpr ⟨[], rfl, rfl⟩
        exact ⟨bytes, hdecode, by rw [serialToDecimal_eq, hvalue]; rfl⟩
  | none =>
    rw [normalizeSerial_of_hexPart_eq_none hpart]
    constructor
    · rintro ⟨hne, hdigits, rfl⟩
      refine .inl ⟨_, (denotes_of_hexPart_eq_none hpart).mpr ⟨hne, hdigits, rfl⟩, ?_⟩
      rw [Radix.stripZeros_eq (List.all_eq_true.mp hdigits), Nat.repr_eq_ofList_toDigits]
    · rintro (⟨n, hn, rfl⟩ | ⟨⟨⟩, -⟩)
      obtain ⟨hne, hdigits, rfl⟩ := (denotes_of_hexPart_eq_none hpart).mp hn
      refine ⟨hne, hdigits, ?_⟩
      rw [Radix.stripZeros_eq (List.all_eq_true.mp hdigits), Nat.repr_eq_ofList_toDigits]

end

/-! ## The grammar -/

theorem Denotes.unique {input : String} {m n : ℕ} (hm : Denotes input m) (hn : Denotes input n) :
    m = n := by
  cases hpart : hexPart (Text.trim input) with
  | some hex =>
    obtain ⟨-, ds, hds, rfl⟩ := (denotes_of_hexPart hpart).mp hm
    obtain ⟨-, ds', hds', rfl⟩ := (denotes_of_hexPart hpart).mp hn
    rw [Option.some.inj (hds.symm.trans hds')]
  | none =>
    obtain ⟨-, -, rfl⟩ := (denotes_of_hexPart_eq_none hpart).mp hm
    obtain ⟨-, -, rfl⟩ := (denotes_of_hexPart_eq_none hpart).mp hn
    rfl

theorem not_denotes_of_bare {input : String} (h : Bare input) (n : ℕ) : ¬Denotes input n :=
  fun hn => ((denotes_of_hexPart (bare_iff.mp h)).mp hn).1 rfl

theorem isWhitespace_of_isDigit {c : Char} (h : c.isDigit) : Text.isWhitespace c = false := by
  obtain ⟨hlow, hhigh⟩ := Char.isDigit_iff_toNat.mp h
  have hlow : 48 ≤ c.toNat := hlow
  have hhigh : c.toNat ≤ 57 := hhigh
  simp only [Text.isWhitespace, Bool.or_eq_false_iff, Bool.and_eq_false_iff, beq_eq_false_iff_ne,
    decide_eq_false_iff_not]
  omega

/-- The decimal text of a number denotes it. -/
theorem denotes_repr (n : ℕ) : Denotes n.repr n := by
  have hdigits : ∀ c ∈ Nat.toDigits 10 n, c.isDigit := fun c hc =>
    Nat.isDigit_of_mem_toDigits (by decide) (by decide) hc
  have htrim : Text.trim n.repr = n.repr := by
    refine Text.trim_eq_self (fun c hc => ?_) (fun c hc => ?_)
    · rw [Nat.toList_repr] at hc
      exact isWhitespace_of_isDigit (hdigits c (List.mem_of_mem_head? hc))
    · rw [Nat.toList_repr] at hc
      exact isWhitespace_of_isDigit (hdigits c (List.mem_of_mem_getLast? hc))
  have hdenotes : Denotes n.repr (Nat.ofDigitChars 10 (Nat.toDigits 10 n) 0) :=
    .decimal (by rw [htrim, Nat.toList_repr]) Nat.toDigits_ne_nil hdigits
  rwa [Nat.ofDigitChars_ten_toDigits] at hdenotes

/-- A text is accepted when it denotes a number, and then the result is the decimal text of that
number, which is left alone. -/
structure FollowsGrammar (crates : ServerCrates) (input : String) : Prop where
  accepts : (∃ result, normalizeSerial crates input = .ok result) ↔ ∃ n, Denotes input n
  canonical : ∀ result, normalizeSerial crates input = .ok result →
    ∃ n, Denotes input n ∧ result = n.repr
  idempotent : ∀ result, normalizeSerial crates input = .ok result →
    normalizeSerial crates result = .ok result

theorem followsGrammar_iff {crates : ServerCrates} (hhex : DecodesHex crates.hex) {input : String} :
    FollowsGrammar crates input ↔ ¬Bare input := by
  constructor
  · intro h hbare
    obtain ⟨n, hn⟩ := h.accepts.mp ⟨"0", (normalizeSerial_eq_ok hhex).mpr (.inr ⟨hbare, rfl⟩)⟩
    exact not_denotes_of_bare hbare n hn
  · intro hbare
    have hresult : ∀ result, normalizeSerial crates input = .ok result ↔
        ∃ n, Denotes input n ∧ result = n.repr := by
      intro result
      rw [normalizeSerial_eq_ok hhex, or_iff_left fun h => hbare h.1]
    refine ⟨?_, fun result => (hresult result).mp, fun result h => ?_⟩
    · constructor
      · rintro ⟨result, h⟩
        obtain ⟨n, hn, -⟩ := (hresult result).mp h
        exact ⟨n, hn⟩
      · rintro ⟨n, hn⟩
        exact ⟨n.repr, (hresult _).mpr ⟨n, hn, rfl⟩⟩
    · obtain ⟨n, -, rfl⟩ := (hresult result).mp h
      exact (normalizeSerial_eq_ok hhex).mpr (.inl ⟨n, denotes_repr n, rfl⟩)

/-- Two texts follow the grammar, with the same result exactly when they denote the same number, unless
one of them is `0x` alone. -/
theorem normalizeSerial_grammar_iff {crates : ServerCrates} (hhex : DecodesHex crates.hex)
    (s t : String) :
    (FollowsGrammar crates s ∧ FollowsGrammar crates t ∧
      ∀ result result', normalizeSerial crates s = .ok result → normalizeSerial crates t = .ok result' →
        (result = result' ↔ ∃ n, Denotes s n ∧ Denotes t n)) ↔
      ¬Bare s ∧ ¬Bare t := by
  rw [followsGrammar_iff hhex, followsGrammar_iff hhex, ← and_assoc, and_iff_left_of_imp]
  rintro ⟨hs, ht⟩ result result' hresult hresult'
  obtain ⟨m, hm, rfl⟩ := ((followsGrammar_iff hhex).mpr hs).canonical _ hresult
  obtain ⟨n, hn, rfl⟩ := ((followsGrammar_iff hhex).mpr ht).canonical _ hresult'
  constructor
  · intro heq
    obtain rfl := repr_inj.mp heq
    exact ⟨m, hm, hn⟩
  · rintro ⟨k, hs, ht⟩
    rw [hm.unique hs, hn.unique ht]

/-! ## A serial number without digits -/

theorem decodesHex_hex : DecodesHex Testca.hex := by
  have hdecode : ∀ cs bytes, Testca.hexDecode cs = .ok bytes ↔ hexBytes cs = some bytes := by
    intro cs
    fun_induction hexBytes cs with
    | case1 => simp [Testca.hexDecode, eq_comm]
    | case2 => simp [Testca.hexDecode]
    | case3 c c' cs ih =>
      intro bytes
      have hvalue : ∀ c, Testca.hexValue c = hexDigit c := fun _ => rfl
      unfold Testca.hexDecode
      rw [hvalue, hvalue]
      cases hexDigit c with
      | none => simp
      | some high =>
        cases hexDigit c' with
        | none => simp
        | some low =>
          cases hrest : Testca.hexDecode cs with
          | error e =>
            have hnone : hexBytes cs = none := Option.eq_none_iff_forall_ne_some.mpr fun bytes h => by
              cases hrest.symm.trans ((ih bytes).mpr h)
            simp [Except.map, hnone]
          | ok bytes' =>
            have hsome : hexBytes cs = some bytes' := (ih bytes').mp hrest
            simp [Except.map, hsome]
  exact fun s bytes => hdecode s.toList bytes

def hexCrates : ServerCrates := Testca.serverCrates [] [] []

/-- The texts `0x0A` and `10`. -/
theorem normalizeSerial_grammar_iff_ten :
    (FollowsGrammar hexCrates " 0x0A" ∧ FollowsGrammar hexCrates "010" ∧
      ∀ result result', normalizeSerial hexCrates " 0x0A" = .ok result →
        normalizeSerial hexCrates "010" = .ok result' →
        (result = result' ↔ ∃ n, Denotes " 0x0A" n ∧ Denotes "010" n)) ↔
      ¬Bare " 0x0A" ∧ ¬Bare "010" :=
  normalizeSerial_grammar_iff decodesHex_hex " 0x0A" "010"

/-- The text `0x` is accepted as the number 0, which it does not denote. -/
theorem accepted_bare :
    normalizeSerial hexCrates "0x" = .ok "0" ∧ (∀ n, ¬Denotes "0x" n) ∧
      ¬FollowsGrammar hexCrates "0x" :=
  have hbare : Bare "0x" := .inl (by decide)
  ⟨rfl, not_denotes_of_bare hbare, fun h => (followsGrammar_iff decodesHex_hex).mp h hbare⟩

end Ayane
