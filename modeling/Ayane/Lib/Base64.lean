import Mathlib.Data.List.DropRight

/-!
# Base 64

Three bytes are written as four digits of six bits, and what is left over as two or three digits. The
text is padded to a multiple of four characters. It is read with its padding or without, and no bits may
be left over; what was written is read back.
-/

namespace Base64

def alphabet : List Char := "ABCDEFGHIJKLMNOPQRSTUVWXYZabcdefghijklmnopqrstuvwxyz0123456789+/".toList

def digitChar (n : ℕ) : Char := alphabet.getD n '='

def charDigit (c : Char) : Option ℕ := alphabet.findIdx? (· = c)

/-- The digits of bytes. -/
def toDigits : List UInt8 → List ℕ
  | a :: b :: c :: rest =>
    (a.toNat / 4) :: (a.toNat % 4 * 16 + b.toNat / 16) :: (b.toNat % 16 * 4 + c.toNat / 64) ::
      (c.toNat % 64) :: toDigits rest
  | [a, b] => [a.toNat / 4, a.toNat % 4 * 16 + b.toNat / 16, b.toNat % 16 * 4]
  | [a] => [a.toNat / 4, a.toNat % 4 * 16]
  | [] => []

/-- The bytes of digits, unless bits are left over. -/
def ofDigits : List ℕ → Option (List UInt8)
  | p :: q :: r :: s :: rest => (ofDigits rest).map fun bytes =>
    .ofNat (p * 4 + q / 16) :: .ofNat (q % 16 * 16 + r / 4) :: .ofNat (r % 4 * 64 + s) :: bytes
  | [p, q, r] => if r % 4 = 0 then some [.ofNat (p * 4 + q / 16), .ofNat (q % 16 * 16 + r / 4)] else none
  | [p, q] => if q % 16 = 0 then some [.ofNat (p * 4 + q / 16)] else none
  | [_] => none
  | [] => some []

/-- How many characters a text of `n` digits is padded with. -/
def padding (n : ℕ) : ℕ := (4 - n % 4) % 4

def encode (bytes : List UInt8) : String :=
  let digits := toDigits bytes
  String.ofList (digits.map digitChar ++ List.replicate (padding digits.length) '=')

def decode (s : String) : Option (List UInt8) :=
  let chars := s.toList.rdropWhile (· = '=')
  if s.toList.length ≤ chars.length + padding chars.length then chars.mapM charDigit >>= ofDigits else none

theorem charDigit_digitChar : ∀ n < 64, charDigit (digitChar n) = some n := by decide +kernel

theorem digitChar_ne_padding : ∀ n < 64, digitChar n ≠ '=' := by decide +kernel

theorem lt_of_mem_toDigits {bytes : List UInt8} {n : ℕ} (h : n ∈ toDigits bytes) : n < 64 := by
  induction bytes using toDigits.induct with
  | case1 a b c rest ih =>
    have ha := a.toNat_lt
    have hb := b.toNat_lt
    have hc := c.toNat_lt
    simp only [toDigits, List.mem_cons] at h
    obtain rfl | rfl | rfl | rfl | h := h
    · omega
    · omega
    · omega
    · omega
    · exact ih h
  | case2 a b =>
    have ha := a.toNat_lt
    have hb := b.toNat_lt
    simp only [toDigits, List.mem_cons, List.not_mem_nil, or_false] at h
    omega
  | case3 a =>
    have ha := a.toNat_lt
    simp only [toDigits, List.mem_cons, List.not_mem_nil, or_false] at h
    omega
  | case4 => cases h

theorem ofNat_eq {a : UInt8} {n : ℕ} (h : n = a.toNat) : UInt8.ofNat n = a := by
  rw [h, UInt8.ofNat_toNat]

/-- No bit is lost or left over. -/
theorem ofDigits_toDigits (bytes : List UInt8) : ofDigits (toDigits bytes) = some bytes := by
  induction bytes using toDigits.induct with
  | case1 a b c rest ih =>
    have hb := b.toNat_lt
    have hc := c.toNat_lt
    rw [toDigits, ofDigits, ih, Option.map_some, @ofNat_eq a _ (by omega), @ofNat_eq b _ (by omega),
      @ofNat_eq c _ (by omega)]
  | case2 a b =>
    have hb := b.toNat_lt
    rw [toDigits, ofDigits, if_pos (by omega), @ofNat_eq a _ (by omega), @ofNat_eq b _ (by omega)]
  | case3 a => rw [toDigits, ofDigits, if_pos (by omega), @ofNat_eq a _ (by omega)]
  | case4 => rfl

/-- The padding is dropped, and nothing else. -/
theorem rdropWhile_padded {digits : List ℕ} (h : ∀ n ∈ digits, n < 64) (k : ℕ) :
    (digits.map digitChar ++ List.replicate k '=').rdropWhile (· = '=') = digits.map digitChar := by
  induction k with
  | zero =>
    rw [List.replicate_zero, List.append_nil, List.rdropWhile_eq_self_iff]
    intro hne
    obtain ⟨n, hn, hlast⟩ := List.mem_map.mp (List.getLast_mem hne)
    rw [← hlast]
    simpa using digitChar_ne_padding n (h n hn)
  | succ k ih =>
    rw [List.replicate_succ', ← List.append_assoc, List.rdropWhile_concat_pos _ _ _ (by simp), ih]

theorem mapM_charDigit {digits : List ℕ} (h : ∀ n ∈ digits, n < 64) :
    (digits.map digitChar).mapM charDigit = some digits := by
  induction digits with
  | nil => rfl
  | cons n digits ih =>
    obtain ⟨hn, hdigits⟩ := List.forall_mem_cons.mp h
    rw [List.map_cons, List.mapM_cons, charDigit_digitChar n hn, ih hdigits]
    rfl

/-- What was written is read back. -/
theorem decode_encode (bytes : List UInt8) : decode (encode bytes) = some bytes := by
  have hdigits : ∀ n ∈ toDigits bytes, n < 64 := fun _ => lt_of_mem_toDigits
  unfold decode encode
  rw [String.toList_ofList, rdropWhile_padded hdigits, if_pos (by simp), mapM_charDigit hdigits]
  exact ofDigits_toDigits bytes

example : decode "AQI=" = some [1, 2] ∧ decode "AQI" = some [1, 2] ∧ decode "AQJ=" = none := by
  decide +kernel

end Base64
