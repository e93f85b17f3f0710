import Mathlib.Data.List.TakeWhile
import Mathlib.Tactic.SplitIfs

/-!
# Bytes read as text

A byte string is read as text by replacing what is not UTF-8, as Rust's `to_string_lossy` does: the
longest beginnings of characters that go no further are replaced one by one, each by the replacement
character. What is read is never shorter than what was there (`length_le_replaced`).
-/

namespace Lossy

/-- The number of bytes of the character that a byte begins, or `0` when it begins none. -/
def width (b : UInt8) : ℕ :=
  if b < 0x80 then 1
  else if 0xc2 ≤ b ∧ b ≤ 0xdf then 2
  else if 0xe0 ≤ b ∧ b ≤ 0xef then 3
  else if 0xf0 ≤ b ∧ b ≤ 0xf4 then 4
  else 0

/-- Whether `c` may come second after `b`. -/
def follows (b c : UInt8) : Bool :=
  if b = 0xe0 then 0xa0 ≤ c && c ≤ 0xbf
  else if b = 0xed then 0x80 ≤ c && c ≤ 0x9f
  else if b = 0xf0 then 0x90 ≤ c && c ≤ 0xbf
  else if b = 0xf4 then 0x80 ≤ c && c ≤ 0x8f
  else 0x80 ≤ c && c ≤ 0xbf

def continues (c : UInt8) : Bool := 0x80 ≤ c && c ≤ 0xbf

/-- The bytes that go on with the character that `b` begins, as far as they are right. -/
def rest (b : UInt8) (bs : List UInt8) : List UInt8 :=
  match bs.take (width b - 1) with
  | [] => []
  | c :: cs => if follows b c then c :: cs.takeWhile continues else []

/-- The encoding of the replacement character. -/
def replacement : List UInt8 := [0xef, 0xbf, 0xbd]

def replacedFrom : ℕ → List UInt8 → List UInt8
  | 0, _ => []
  | _, [] => []
  | fuel + 1, b :: bs =>
    let more := rest b bs
    (if width b = more.length + 1 then b :: more else replacement) ++
      replacedFrom fuel (bs.drop more.length)

/-- Every character takes a byte, so that there are at most as many as bytes. -/
def replaced (bs : List UInt8) : List UInt8 := replacedFrom bs.length bs

theorem length_rest_le (b : UInt8) (bs : List UInt8) : (rest b bs).length ≤ width b - 1 := by
  have htake : (bs.take (width b - 1)).length ≤ width b - 1 := List.length_take_le _ _
  unfold rest
  split
  · exact Nat.zero_le _
  · rename_i c cs hcs
    rw [hcs, List.length_cons] at htake
    split_ifs
    · have := (cs.takeWhile_prefix continues).length_le
      rw [List.length_cons]
      omega
    · exact Nat.zero_le _

theorem width_le (b : UInt8) : width b ≤ 4 := by
  unfold width
  split_ifs <;> omega

/-- A chunk is not shorter than the bytes that it stands for. -/
theorem length_chunk (b : UInt8) (bs : List UInt8) :
    (rest b bs).length + 1 ≤
      (if width b = (rest b bs).length + 1 then b :: rest b bs else replacement).length := by
  have hrest := length_rest_le b bs
  have hwidth := width_le b
  split_ifs with h
  · exact le_rfl
  · change _ ≤ 3
    omega

theorem length_le_replacedFrom {fuel : ℕ} {bs : List UInt8} (h : bs.length ≤ fuel) :
    bs.length ≤ (replacedFrom fuel bs).length := by
  induction fuel generalizing bs with
  | zero =>
    rw [Nat.le_zero.mp h]
    exact Nat.zero_le _
  | succ fuel ih =>
    cases bs with
    | nil => exact Nat.zero_le _
    | cons b bs =>
      rw [List.length_cons] at h
      have hdrop := @ih (bs.drop (rest b bs).length) (by rw [List.length_drop]; omega)
      have hchunk := length_chunk b bs
      rw [List.length_drop] at hdrop
      simp only [replacedFrom, List.length_append, List.length_cons]
      omega

theorem length_le_replaced (bs : List UInt8) : bs.length ≤ (replaced bs).length :=
  length_le_replacedFrom le_rfl

end Lossy
