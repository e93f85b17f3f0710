import Mathlib.Data.Nat.Digits.Lemmas
import Mathlib.Order.Interval.Finset.Nat
import Mathlib.Tactic.Ring

/-!
# Numbers in a base

Numbers are read from digits, the most significant first (`value`), and kept as numerals, the
least significant digit first and none too many (`numeral`). Long multiplication by a number
that need not be the base, with a carry, takes numerals to numerals (`push_numeral`), so that
pushing digits of another base one after the other converts between the bases.
-/

namespace Radix

/-! ## Reading -/

/-- Digits in base `b`, read after `n`, the most significant first. -/
def valueFrom (b n : ℕ) (ds : List ℕ) : ℕ := ds.foldl (fun n d => b * n + d) n

def value (b : ℕ) (ds : List ℕ) : ℕ := valueFrom b 0 ds

@[simp] theorem valueFrom_nil (b n : ℕ) : valueFrom b n [] = n := rfl

@[simp] theorem valueFrom_cons (b n d : ℕ) (ds : List ℕ) :
    valueFrom b n (d :: ds) = valueFrom b (b * n + d) ds := rfl

/-- A zero in front counts for nothing. -/
@[simp] theorem value_zero_cons (b : ℕ) (ds : List ℕ) : value b (0 :: ds) = value b ds := by
  simp [value]

/-! ## Numerals -/

/-- The digits of `n` in base `b`, the least significant first: at least one. -/
def numeral (b n : ℕ) : List ℕ := if n = 0 then [0] else Nat.digits b n

/-- Multiply by `m` and add a carry, digit by digit. -/
def mulAdd (b m : ℕ) : List ℕ → ℕ → List ℕ × ℕ
  | [], carry => ([], carry)
  | d :: ds, carry =>
    let v := d * m + carry
    let (rest, carry) := mulAdd b m ds (v / b)
    (v % b :: rest, carry)

/-- Multiply a numeral by `m` and add `d`. -/
def push (b m : ℕ) (ds : List ℕ) (d : ℕ) : List ℕ :=
  (mulAdd b m ds d).1 ++ Nat.digits b (mulAdd b m ds d).2

variable {b m : ℕ}

theorem numeral_of_pos {n : ℕ} (h : 0 < n) : numeral b n = Nat.digits b n := if_neg h.ne'

theorem lt_of_mem_numeral (hb : 1 < b) {n d : ℕ} (h : d ∈ numeral b n) : d < b := by
  unfold numeral at h
  split_ifs at h with hn
  · rw [List.mem_singleton.mp h]
    omega
  · exact Nat.digits_lt_base hb h

theorem push_digits (hb : 1 < b) (hm : 0 < m) (n c : ℕ) :
    push b m (Nat.digits b n) c = Nat.digits b (m * n + c) := by
  induction n using Nat.strongRecOn generalizing c with
  | ind n ih =>
    obtain rfl | hn := Nat.eq_zero_or_pos n
    · simp [push, mulAdd]
    · have hdiv : n / b < n := Nat.div_lt_self hn hb
      have hsum : m * n + c = b * (m * (n / b)) + (n % b * m + c) := by
        conv_lhs => rw [← Nat.div_add_mod n b]
        ring
      have hpos : 0 < m * n + c := by positivity
      have hmod : (m * n + c) % b = (n % b * m + c) % b := by
        rw [hsum, Nat.mul_add_mod]
      have hquot : (m * n + c) / b = m * (n / b) + (n % b * m + c) / b := by
        rw [hsum, Nat.mul_add_div (by omega)]
      have hrest := ih (n / b) hdiv ((n % b * m + c) / b)
      unfold push at hrest
      rw [Nat.digits_def' hb hn, Nat.digits_def' hb hpos, hmod, hquot, ← hrest]
      rfl

/-- Long multiplication keeps numerals. -/
theorem push_numeral (hb : 1 < b) (hm : 0 < m) (n c : ℕ) :
    push b m (numeral b n) c = numeral b (m * n + c) := by
  obtain rfl | hn := Nat.eq_zero_or_pos n
  · obtain rfl | hc := Nat.eq_zero_or_pos c
    · simp [push, mulAdd, numeral]
    · simp [push, mulAdd, numeral, hc.ne', Nat.digits_def' hb hc]
  · have hpos : 0 < m * n + c := by positivity
    rw [numeral_of_pos hn, numeral_of_pos hpos, push_digits hb hm]

/-- Pushing the digits of a number in base `m` writes it in base `b`. -/
theorem foldl_push (hb : 1 < b) (hm : 0 < m) (n : ℕ) (ds : List ℕ) :
    ds.foldl (push b m) (numeral b n) = numeral b (valueFrom m n ds) := by
  induction ds generalizing n with
  | nil => rfl
  | cons d ds ih => rw [List.foldl_cons, push_numeral hb hm, ih, valueFrom_cons]

/-! ## Texts -/

/-- A numeral, with the most significant digit first, is the text of the number. -/
theorem map_reverse_numeral (hb : 1 < b) (n : ℕ) :
    (numeral b n).reverse.map Nat.digitChar = Nat.toDigits b n := by
  induction n using Nat.strongRecOn with
  | ind n ih =>
    rw [Nat.toDigits_eq_if hb]
    split_ifs with hn
    · obtain rfl | hpos := Nat.eq_zero_or_pos n
      · rfl
      · rw [numeral_of_pos hpos, Nat.digits_of_lt b n hpos.ne' hn]
        rfl
    · have hdiv : 0 < n / b := Nat.div_pos (not_lt.mp hn) (by omega)
      have hpos : 0 < n := by omega
      have hrest := ih (n / b) (Nat.div_lt_self hpos hb)
      rw [numeral_of_pos hdiv] at hrest
      rw [numeral_of_pos hpos, Nat.digits_def' hb hpos, List.reverse_cons, List.map_append, hrest]
      rfl

/-- The text of a positive number does not begin with a zero. -/
theorem head?_toDigits_ne {n : ℕ} (hn : 0 < n) : (Nat.toDigits 10 n).head? ≠ some '0' := by
  have hne : Nat.digits 10 n ≠ [] := Nat.digits_ne_nil_iff_ne_zero.mpr hn.ne'
  have hlast := Nat.getLast_digit_ne_zero 10 hn.ne'
  have hlt : (Nat.digits 10 n).getLast hne < 10 :=
    Nat.digits_lt_base (by decide) (List.getLast_mem hne)
  have hchar : ∀ d < 10, d ≠ 0 → Nat.digitChar d ≠ '0' := by decide
  rw [← map_reverse_numeral (by decide), numeral_of_pos hn, List.head?_map, List.head?_reverse,
    List.getLast?_eq_some_getLast hne, Option.map_some]
  exact fun h => hchar _ hlt hlast (Option.some.inj h)

/-- A decimal text without the zeros in front of it, but for the last. -/
def stripZeros (cs : List Char) : List Char :=
  let stripped := cs.dropWhile (· == '0')
  if stripped = [] then ['0'] else stripped

theorem toDigits_sub {c : Char} (h : c.isDigit) : Nat.toDigits 10 (c.toNat - '0'.toNat) = [c] := by
  obtain ⟨hlow, hhigh⟩ := Char.isDigit_iff_toNat.mp h
  have hchar : ∀ n ∈ Finset.Icc 48 57, Nat.digitChar (n - 48) = Char.ofNat n := by decide
  have hsub : c.toNat - '0'.toNat < 10 := by
    change c.toNat - 48 < 10
    change c.toNat ≤ 57 at hhigh
    omega
  rw [Nat.toDigits_of_lt_base hsub]
  have hback := hchar _ (Finset.mem_Icc.mpr ⟨hlow, hhigh⟩)
  exact List.singleton_inj.mpr (hback.trans (Char.ofNat_toNat c))

/-- Digits after a number are the last digits of what is read. -/
theorem toDigits_ofDigitChars {cs : List Char} (h : ∀ c ∈ cs, c.isDigit) {n : ℕ} (hn : 0 < n) :
    Nat.toDigits 10 (Nat.ofDigitChars 10 cs n) = Nat.toDigits 10 n ++ cs := by
  induction cs generalizing n with
  | nil => simp
  | cons c cs ih =>
    obtain ⟨hc, hcs⟩ := List.forall_mem_cons.mp h
    have hdigit : c.toNat - '0'.toNat < 10 := by
      have hhigh : c.toNat ≤ 57 := (Char.isDigit_iff_toNat.mp hc).2
      change c.toNat - 48 < 10
      omega
    rw [Nat.ofDigitChars_cons, ih hcs (by omega),
      ← Nat.toDigits_append_toDigits (by decide) hn hdigit, toDigits_sub hc]
    simp

/-- What is left of a decimal text is the shortest text of its number. -/
theorem stripZeros_eq {cs : List Char} (h : ∀ c ∈ cs, c.isDigit) :
    stripZeros cs = Nat.toDigits 10 (Nat.ofDigitChars 10 cs 0) := by
  induction cs with
  | nil => rfl
  | cons c cs ih =>
    obtain ⟨hc, hcs⟩ := List.forall_mem_cons.mp h
    rw [Nat.ofDigitChars_cons, Nat.mul_zero, Nat.zero_add]
    by_cases hzero : c = '0'
    · subst hzero
      exact ih hcs
    · have hpos : 0 < c.toNat - '0'.toNat := by
        refine Nat.pos_of_ne_zero fun hsub => hzero ?_
        have hdigits := toDigits_sub hc
        rw [hsub, Nat.toDigits_zero] at hdigits
        exact (List.singleton_inj.mp hdigits).symm
      rw [toDigits_ofDigitChars hcs hpos, toDigits_sub hc]
      simp [stripZeros, hzero]

end Radix
