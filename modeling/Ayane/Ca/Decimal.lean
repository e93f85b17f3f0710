import Ayane.Ca
import Ayane.Lib.Radix

/-!
# The decimal text of a serial number

The bytes of a serial number are pushed, one by one, onto decimal digits that are kept with the
least significant first. The value of the digits is that of the bytes so far, and no carry is
greater than a byte, so that sixteen bits hold every product.
-/

namespace Ayane

open Effect

/-! ## Bytes -/

/-- Digits of eight bits, as numbers. -/
def digitsOf (ds : List UInt8) : List ℕ := ds.map UInt8.toNat

/-- The magnitude of a serial number. -/
def serialValue (bytes : Bytes) : ℕ := Radix.value 256 (digitsOf bytes)

@[simp] theorem digitsOf_cons (d : UInt8) (ds : List UInt8) :
    digitsOf (d :: ds) = d.toNat :: digitsOf ds := rfl

@[simp] theorem digitsOf_append (ds ds' : List UInt8) :
    digitsOf (ds ++ ds') = digitsOf ds ++ digitsOf ds' := List.map_append

/-- The product of a digit and the carry fit sixteen bits, and leave a carry that is a byte. -/
theorem toNat_product {d : UInt8} {carry : UInt16} (hd : d.toNat < 10) (hcarry : carry.toNat < 256) :
    (d.toUInt16 * 256 + carry).toNat = d.toNat * 256 + carry.toNat ∧
      ((d.toUInt16 * 256 + carry) / 10).toNat = (d.toNat * 256 + carry.toNat) / 10 ∧
      ((d.toUInt16 * 256 + carry) % 10).toUInt8.toNat = (d.toNat * 256 + carry.toNat) % 10 := by
  have hv : (d.toUInt16 * 256 + carry).toNat = d.toNat * 256 + carry.toNat := by
    simp only [UInt16.toNat_add, UInt16.toNat_mul, UInt8.toNat_toUInt16, UInt16.reduceToNat]
    omega
  refine ⟨hv, ?_, ?_⟩
  · rw [UInt16.toNat_div, hv]
    rfl
  · rw [UInt16.toNat_toUInt8, UInt16.toNat_mod, hv]
    change (d.toNat * 256 + carry.toNat) % 10 % 2 ^ 8 = _
    omega

theorem pushByteDigits_eq {ds : List UInt8} (h : ∀ d ∈ ds, d.toNat < 10) {carry : UInt16}
    (hcarry : carry.toNat < 256) :
    (digitsOf (pushByteDigits ds carry).1, (pushByteDigits ds carry).2.toNat) =
        Radix.mulAdd 10 256 (digitsOf ds) carry.toNat ∧
      (pushByteDigits ds carry).2.toNat < 256 := by
  induction ds generalizing carry with
  | nil => exact ⟨rfl, hcarry⟩
  | cons d ds ih =>
    obtain ⟨hd, hds⟩ := List.forall_mem_cons.mp h
    obtain ⟨-, hquot, hrem⟩ := toNat_product hd hcarry
    have hnext : ((d.toUInt16 * 256 + carry) / 10).toNat < 256 := by omega
    obtain ⟨hrest, hlt⟩ := ih hds hnext
    refine ⟨?_, hlt⟩
    rw [hquot] at hrest
    simp only [pushByteDigits, digitsOf_cons, Radix.mulAdd, ← hrest, hrem]

theorem carryDigits_eq {fuel : ℕ} {carry : UInt16} (h : carry.toNat < 10 ^ fuel) :
    digitsOf (carryDigits fuel carry) = Nat.digits 10 carry.toNat := by
  induction fuel generalizing carry with
  | zero =>
    have hzero : carry.toNat = 0 := by simpa using h
    rw [hzero, Nat.digits_zero]
    rfl
  | succ fuel ih =>
    unfold carryDigits
    split_ifs with hpos
    · have hpos : 0 < carry.toNat := hpos
      have hquot : (carry / 10).toNat = carry.toNat / 10 := by simp
      have hrem : (carry % 10).toUInt8.toNat = carry.toNat % 10 := by
        rw [UInt16.toNat_toUInt8, UInt16.toNat_mod]
        change carry.toNat % 10 % 2 ^ 8 = _
        omega
      have hnext : (carry / 10).toNat < 10 ^ fuel := by
        rw [hquot]
        rw [pow_succ] at h
        omega
      rw [digitsOf_cons, ih hnext, hrem, hquot, ← Nat.digits_def' (by decide) hpos]
    · have hzero : carry.toNat = 0 := Nat.eq_zero_of_not_pos hpos
      rw [hzero, Nat.digits_zero]
      rfl

/-- A byte is pushed by long multiplication, without leaving the sixteen bits. -/
theorem pushByte_eq {ds : List UInt8} (h : ∀ d ∈ ds, d.toNat < 10) (byte : UInt8) :
    digitsOf (pushByte ds byte) = Radix.push 10 256 (digitsOf ds) byte.toNat := by
  have hbyte : byte.toUInt16.toNat < 256 := by
    rw [UInt8.toNat_toUInt16]
    exact byte.toNat_lt
  obtain ⟨heq, hlt⟩ := pushByteDigits_eq h hbyte
  have hcarry : (pushByteDigits ds byte.toUInt16).2.toNat < 10 ^ 5 := by omega
  rw [UInt8.toNat_toUInt16] at heq
  unfold pushByte Radix.push
  rw [digitsOf_append, carryDigits_eq hcarry, ← heq]

theorem lt_ten_of_numeral {ds : List UInt8} {n : ℕ} (h : digitsOf ds = Radix.numeral 10 n) :
    ∀ d ∈ ds, d.toNat < 10 := by
  intro d hd
  have hmem : d.toNat ∈ digitsOf ds := List.mem_map_of_mem hd
  rw [h] at hmem
  exact Radix.lt_of_mem_numeral (by decide) hmem

theorem foldl_pushByte (bytes : Bytes) {ds : List UInt8} {n : ℕ} (h : digitsOf ds = Radix.numeral 10 n) :
    digitsOf (bytes.foldl pushByte ds) =
      (digitsOf bytes).foldl (Radix.push 10 256) (Radix.numeral 10 n) := by
  induction bytes generalizing ds n with
  | nil => exact h
  | cons byte bytes ih =>
    have hpush : Radix.push 10 256 (Radix.numeral 10 n) byte.toNat =
        Radix.numeral 10 (256 * n + byte.toNat) := Radix.push_numeral (by decide) (by decide) n byte.toNat
    have hbyte : digitsOf (pushByte ds byte) = Radix.numeral 10 (256 * n + byte.toNat) := by
      rw [pushByte_eq (lt_ten_of_numeral h), h, hpush]
    rw [List.foldl_cons, ih hbyte, digitsOf_cons, List.foldl_cons, hpush]

/-- The digits in the end are the numeral of the magnitude. -/
theorem digitsOf_pushed (bytes : Bytes) :
    digitsOf (bytes.foldl pushByte [0]) = Radix.numeral 10 (serialValue bytes) :=
  (@foldl_pushByte bytes [0] 0 rfl).trans (Radix.foldl_push (by decide) (by decide) 0 _)

/-- The bytes of a serial number are turned into the decimal text of its magnitude. -/
theorem serialToDecimal_eq (bytes : Bytes) : serialToDecimal bytes = (serialValue bytes).repr := by
  have hnumeral := digitsOf_pushed bytes
  have hchar : ∀ n < 10, Char.ofNat ('0'.toNat + n) = Nat.digitChar n := by decide
  unfold serialToDecimal
  rw [Nat.repr_eq_ofList_toDigits, ← Radix.map_reverse_numeral (by decide), ← hnumeral, digitsOf,
    ← List.map_reverse, List.map_map]
  refine congrArg String.ofList (List.map_congr_left fun d hd => hchar _ ?_)
  exact lt_ten_of_numeral hnumeral d (List.mem_reverse.mp hd)

/-! ## Arithmetic that is checked -/

/-- The operators of a build that panics where a result does not fit its type. -/
def mulU16 (a b : UInt16) : Outcome UInt16 :=
  if a.toNat * b.toNat < 2 ^ 16 then .ok (a * b)
  else .error (.panic "attempt to multiply with overflow")

def addU16 (a b : UInt16) : Outcome UInt16 :=
  if a.toNat + b.toNat < 2 ^ 16 then .ok (a + b) else .error (.panic "attempt to add with overflow")

def addU8 (a b : UInt8) : Outcome UInt8 :=
  if a.toNat + b.toNat < 2 ^ 8 then .ok (a + b) else .error (.panic "attempt to add with overflow")

/-- `pushByteDigits` in such a build. -/
def pushByteDigitsChecked : List UInt8 → UInt16 → Outcome (List UInt8 × UInt16)
  | [], carry => .ok ([], carry)
  | d :: ds, carry => do
    let product ← mulU16 d.toUInt16 256
    let v ← addU16 product carry
    let (rest, carry) ← pushByteDigitsChecked ds (v / 10)
    .ok ((v % 10).toUInt8 :: rest, carry)

def pushByteChecked (digits : List UInt8) (byte : UInt8) : Outcome (List UInt8) := do
  let (digits, carry) ← pushByteDigitsChecked digits byte.toUInt16
  .ok (digits ++ carryDigits 5 carry)

/-- `serialToDecimal` in such a build. -/
def serialToDecimalChecked (bytes : Bytes) : Outcome String := do
  let digits ← bytes.foldlM pushByteChecked [0]
  let texts ← digits.reverse.mapM fun d => addU8 48 d
  .ok (String.ofList (texts.map fun text => Char.ofNat text.toNat))

theorem pushByteDigitsChecked_eq {ds : List UInt8} (h : ∀ d ∈ ds, d.toNat < 10) {carry : UInt16}
    (hcarry : carry.toNat < 256) : pushByteDigitsChecked ds carry = .ok (pushByteDigits ds carry) := by
  induction ds generalizing carry with
  | nil => rfl
  | cons d ds ih =>
    obtain ⟨hd, hds⟩ := List.forall_mem_cons.mp h
    obtain ⟨hv, hquot, -⟩ := toNat_product hd hcarry
    have hmul : mulU16 d.toUInt16 256 = .ok (d.toUInt16 * 256) := by
      refine if_pos ?_
      rw [UInt8.toNat_toUInt16]
      change d.toNat * 256 < 2 ^ 16
      omega
    have hadd : addU16 (d.toUInt16 * 256) carry = .ok (d.toUInt16 * 256 + carry) := by
      refine if_pos ?_
      rw [UInt16.toNat_mul, UInt8.toNat_toUInt16]
      change d.toNat * 256 % 2 ^ 16 + carry.toNat < 2 ^ 16
      omega
    have hrest := ih hds (by omega : ((d.toUInt16 * 256 + carry) / 10).toNat < 256)
    simp only [pushByteDigitsChecked, pushByteDigits, hmul, hadd, hrest, bind, Except.bind]

theorem pushByteChecked_eq {ds : List UInt8} (h : ∀ d ∈ ds, d.toNat < 10) (byte : UInt8) :
    pushByteChecked ds byte = .ok (pushByte ds byte) := by
  have hbyte : byte.toUInt16.toNat < 256 := by
    rw [UInt8.toNat_toUInt16]
    exact byte.toNat_lt
  simp only [pushByteChecked, pushByte, pushByteDigitsChecked_eq h hbyte, bind, Except.bind]

theorem foldlM_pushByteChecked (bytes : Bytes) {ds : List UInt8} {n : ℕ}
    (h : digitsOf ds = Radix.numeral 10 n) :
    bytes.foldlM pushByteChecked ds = .ok (bytes.foldl pushByte ds) := by
  induction bytes generalizing ds n with
  | nil => rfl
  | cons byte bytes ih =>
    have hdigits := lt_ten_of_numeral h
    have hpushed : digitsOf (pushByte ds byte) = Radix.numeral 10 (256 * n + byte.toNat) := by
      rw [pushByte_eq hdigits, h, Radix.push_numeral (by decide) (by decide)]
    rw [List.foldlM_cons, pushByteChecked_eq hdigits]
    exact ih hpushed

theorem mapM_addU8 {ds : List UInt8} (h : ∀ d ∈ ds, d.toNat < 10) :
    ds.mapM (fun d => addU8 48 d) = .ok (ds.map fun d => 48 + d) := by
  induction ds with
  | nil => rfl
  | cons d ds ih =>
    obtain ⟨hd, hds⟩ := List.forall_mem_cons.mp h
    refine mapM_cons_eq_ok.mpr ⟨48 + d, _, if_pos ?_, ih hds, rfl⟩
    change 48 + d.toNat < 2 ^ 8
    omega

/-- Nothing overflows. -/
theorem serialToDecimalChecked_eq (bytes : Bytes) :
    serialToDecimalChecked bytes = .ok (serialToDecimal bytes) := by
  have hlt := lt_ten_of_numeral (digitsOf_pushed bytes)
  have htexts := mapM_addU8 fun d hd => hlt d (List.mem_reverse.mp hd)
  have hchars : ∀ d ∈ (bytes.foldl pushByte [0]).reverse,
      Char.ofNat (48 + d).toNat = Char.ofNat ('0'.toNat + d.toNat) := by
    intro d hd
    have hd := hlt d (List.mem_reverse.mp hd)
    have hsum : (48 + d).toNat = '0'.toNat + d.toNat := by
      rw [UInt8.toNat_add]
      change (48 + d.toNat) % 2 ^ 8 = 48 + d.toNat
      omega
    rw [hsum]
  unfold serialToDecimalChecked serialToDecimal
  rw [@foldlM_pushByteChecked bytes [0] 0 rfl]
  simp only [bind, Except.bind, htexts, List.map_map]
  exact congrArg (fun cs => Except.ok (String.ofList cs)) (List.map_congr_left hchars)

/-! ## Exactness -/

/-- The digits while a byte is pushed: the first `i` are multiplied, and once all are, `j` digits are
carried out. -/
def digitsDuring (ds : List UInt8) (byte : UInt8) (i j : ℕ) : List UInt8 :=
  let (done, carry) := pushByteDigits (ds.take i) byte.toUInt16
  done ++ ds.drop i ++ if i < ds.length then [] else (carryDigits 5 carry).take j

/-- The text is the canonical numeral of the number. -/
structure IsNumeral (text : String) (n : ℕ) : Prop where
  nonempty : text ≠ ""
  digits : ∀ c ∈ text.toList, c.isDigit
  value : Nat.ofDigitChars 10 text.toList 0 = n
  noLeadingZero : text.toList.head? = some '0' → text = "0"

theorem isNumeral_repr (n : ℕ) : IsNumeral n.repr n where
  nonempty h := Nat.toDigits_ne_nil (by rw [← Nat.toList_repr, h, String.toList_empty])
  digits c hc := Nat.isDigit_of_mem_toDigits (by decide) (by decide) (Nat.toList_repr ▸ hc)
  value := by rw [Nat.toList_repr, Nat.ofDigitChars_ten_toDigits]
  noLeadingZero h := by
    obtain rfl | hn := Nat.eq_zero_or_pos n
    · rfl
    · exact absurd (Nat.toList_repr ▸ h) (Radix.head?_toDigits_ne hn)

theorem repr_inj {m n : ℕ} : m.repr = n.repr ↔ m = n := by
  refine ⟨fun h => ?_, congrArg Nat.repr⟩
  rw [← (isNumeral_repr m).value, h, (isNumeral_repr n).value]

/-- Zero bytes in front count for nothing. -/
theorem serialValue_replicate_append (k : ℕ) (bytes : Bytes) :
    serialValue (List.replicate k 0 ++ bytes) = serialValue bytes := by
  induction k with
  | zero => rfl
  | succ k ih =>
    rw [← ih]
    exact Radix.value_zero_cons 256 _

theorem lt_ten_of_pushByteDigits {ds : List UInt8} (h : ∀ d ∈ ds, d.toNat < 10) {carry : UInt16}
    (hcarry : carry.toNat < 256) : ∀ d ∈ (pushByteDigits ds carry).1, d.toNat < 10 := by
  induction ds generalizing carry with
  | nil => exact nofun
  | cons d ds ih =>
    obtain ⟨hd, hds⟩ := List.forall_mem_cons.mp h
    obtain ⟨-, hquot, hrem⟩ := toNat_product hd hcarry
    refine List.forall_mem_cons.mpr ⟨?_, ih hds (by omega)⟩
    omega

theorem lt_ten_of_carryDigits {fuel : ℕ} {carry : UInt16} (h : carry.toNat < 10 ^ fuel) :
    ∀ d ∈ carryDigits fuel carry, d.toNat < 10 := by
  intro d hd
  have hmem : d.toNat ∈ digitsOf (carryDigits fuel carry) := List.mem_map_of_mem hd
  rw [carryDigits_eq h] at hmem
  exact Nat.digits_lt_base (by decide) hmem

/-- Every digit is below ten all the time. -/
theorem lt_ten_of_digitsDuring {ds : List UInt8} (h : ∀ d ∈ ds, d.toNat < 10) (byte : UInt8) (i j : ℕ) :
    ∀ d ∈ digitsDuring ds byte i j, d.toNat < 10 := by
  have hbyte : byte.toUInt16.toNat < 256 := by
    rw [UInt8.toNat_toUInt16]
    exact byte.toNat_lt
  have htake : ∀ d ∈ ds.take i, d.toNat < 10 := fun d hd => h d (List.mem_of_mem_take hd)
  have hcarry : (pushByteDigits (ds.take i) byte.toUInt16).2.toNat < 10 ^ 5 := by
    have := (pushByteDigits_eq htake hbyte).2
    omega
  intro d hd
  simp only [digitsDuring, List.mem_append] at hd
  rcases hd with (hdone | hrest) | hcarried
  · exact lt_ten_of_pushByteDigits htake hbyte d hdone
  · exact h d (List.mem_of_mem_drop hrest)
  · split_ifs at hcarried
    · cases hcarried
    · exact lt_ten_of_carryDigits hcarry d (List.mem_of_mem_take hcarried)

theorem length_carryDigits_le (fuel : ℕ) (carry : UInt16) : (carryDigits fuel carry).length ≤ fuel := by
  fun_induction carryDigits fuel carry <;> grind

/-- The digits in the end are those that the byte leaves. -/
theorem digitsDuring_eq (ds : List UInt8) (byte : UInt8) :
    digitsDuring ds byte ds.length 5 = pushByte ds byte := by
  simp [digitsDuring, pushByte, List.take_of_length_le (length_carryDigits_le 5 _)]

/-- The text is the canonical numeral of the magnitude, whatever zeros are in front of it, tells
magnitudes apart, and is computed without an overflow from digits below ten. -/
theorem serialToDecimal_exact (bytes : Bytes) :
    IsNumeral (serialToDecimal bytes) (serialValue bytes) ∧
      (∀ k, serialToDecimal (List.replicate k 0 ++ bytes) = serialToDecimal bytes) ∧
      (∀ bytes', serialToDecimal bytes = serialToDecimal bytes' ↔
        serialValue bytes = serialValue bytes') ∧
      serialToDecimalChecked bytes = .ok (serialToDecimal bytes) ∧
      ∀ pushed byte rest, bytes = pushed ++ byte :: rest →
        ∀ i j, ∀ d ∈ digitsDuring (pushed.foldl pushByte [0]) byte i j, d.toNat < 10 := by
  refine ⟨?_, fun k => ?_, fun bytes' => ?_, serialToDecimalChecked_eq bytes, ?_⟩
  · rw [serialToDecimal_eq]
    exact isNumeral_repr _
  · rw [serialToDecimal_eq, serialToDecimal_eq, serialValue_replicate_append]
  · rw [serialToDecimal_eq, serialToDecimal_eq, repr_inj]
  · intro pushed byte _ _ i j
    exact lt_ten_of_digitsDuring (lt_ten_of_numeral (digitsOf_pushed pushed)) byte i j

end Ayane
