import Mathlib.Data.List.Basic
import Mathlib.Data.List.DropRight
import Mathlib.Data.List.Infix

/-!
# Text operations of Rust's standard library

The methods of `str` a hand-written parser uses: trimming, stripping a prefix or
a suffix, splitting, searching and reading an unsigned integer. They work on the
characters of a string. The lemmas say what each does on text that was put
together from the pieces it looks for, which is what a round trip needs.
-/

namespace Text

/-- The Unicode property `White_Space`. -/
def isWhitespace (c : Char) : Bool :=
  let n := c.toNat
  (9 ≤ n && n ≤ 13) || n == 0x20 || n == 0x85 || n == 0xa0 || n == 0x1680 ||
    (0x2000 ≤ n && n ≤ 0x200a) || n == 0x2028 || n == 0x2029 || n == 0x202f ||
    n == 0x205f || n == 0x3000

def trimStart (s : String) : String := String.ofList (s.toList.dropWhile isWhitespace)

/-- `str::trim`. -/
def trim (s : String) : String :=
  String.ofList ((s.toList.dropWhile isWhitespace).reverse.dropWhile isWhitespace).reverse

/-- `str::trim_end_matches` with a character. -/
def trimEndMatches (c : Char) (s : String) : String := String.ofList (s.toList.rdropWhile (· == c))

/-- `str::ends_with` with a character. -/
def endsWith (c : Char) (s : String) : Bool := s.toList.getLast? == some c

/-- `str::strip_prefix`. -/
def stripPrefix (p s : String) : Option String :=
  (s.toList.dropPrefix? p.toList).map String.ofList

/-- `str::strip_suffix`. -/
def stripSuffix (p s : String) : Option String :=
  (s.toList.dropSuffix? p.toList).map String.ofList

def startsWith (p s : String) : Bool := (stripPrefix p s).isSome

/-- `str::split` at a character. -/
def split (sep : Char) (s : String) : List String :=
  (s.toList.splitOnP (· == sep)).map String.ofList

/-- `str::split_once` at a character. -/
def splitOnce (sep : Char) (s : String) : Option (String × String) :=
  match s.toList.dropWhile (· != sep) with
  | [] => none
  | _ :: after => some (String.ofList (s.toList.takeWhile (· != sep)), String.ofList after)

/-- What follows the first occurrence of `needle`. -/
def afterFirst (needle : List Char) : List Char → Option (List Char)
  | [] => if needle = [] then some [] else none
  | c :: cs =>
    match (c :: cs).dropPrefix? needle with
    | some rest => some rest
    | none => afterFirst needle cs

/-- `str::contains`. -/
def contains (needle s : String) : Bool := (afterFirst needle.toList s.toList).isSome

/-- What precedes the first occurrence of `sep`. -/
def beforeFirst (sep : Char) (s : List Char) : Option (List Char) :=
  if sep ∈ s then some (s.takeWhile (· != sep)) else none

/-- `str::eq_ignore_ascii_case`. -/
def eqIgnoreAsciiCase (s t : String) : Bool :=
  s.toList.map Char.toLower == t.toList.map Char.toLower

/-- The characters of `s` between the quotes of its debug form. Characters outside
ASCII are taken as printable. -/
def escape (c : Char) : String :=
  if c == '"' then "\\\"" else if c == '\\' then "\\\\"
  else if c == '\n' then "\\n" else if c == '\r' then "\\r" else if c == '\t' then "\\t"
  else if c.toNat == 0 then "\\0"
  else if c.toNat < 32 || c.toNat == 127 then
    "\\u\x7b" ++ String.ofList (Nat.toDigits 16 c.toNat) ++ "\x7d"
  else c.toString

/-- The `Debug` form of a string. -/
def debug (s : String) : String := "\"" ++ String.join (s.toList.map escape) ++ "\""

/-- The `Debug` form of an optional string. -/
def debugOption : Option String → String
  | some s => "Some(" ++ debug s ++ ")"
  | none => "None"

/-! ## Unsigned integers -/

/-- The digits after the sign; an overflow is reported at the digit that causes it. -/
def parseDigits (limit : Nat) : Nat → List Char → Except String Nat
  | acc, [] => .ok acc
  | acc, c :: cs =>
    if c.isDigit then
      if 10 * acc + (c.toNat - '0'.toNat) < limit then
        parseDigits limit (10 * acc + (c.toNat - '0'.toNat)) cs
      else .error "number too large to fit in target type"
    else .error "invalid digit found in string"

/-- `str::parse` at an unsigned integer type with values below `limit`. -/
def parseUnsigned (limit : Nat) (s : String) : Except String Nat :=
  match s.toList with
  | [] => .error "cannot parse integer from empty string"
  | ['+'] => .error "invalid digit found in string"
  | '+' :: cs => parseDigits limit 0 cs
  | cs => parseDigits limit 0 cs

theorem parseDigits_of_lt {limit : Nat} {cs : List Char} (hd : ∀ c ∈ cs, c.isDigit)
    {acc : Nat} (h : Nat.ofDigitChars 10 cs acc < limit) :
    parseDigits limit acc cs = .ok (Nat.ofDigitChars 10 cs acc) := by
  have grows : ∀ (ds : List Char) (a : Nat), a ≤ Nat.ofDigitChars 10 ds a := by
    intro ds
    induction ds with
    | nil => intro a; simp
    | cons d ds ih =>
      intro a
      rw [Nat.ofDigitChars_cons]
      have := ih (10 * a + (d.toNat - '0'.toNat))
      omega
  induction cs generalizing acc with
  | nil => simp [parseDigits]
  | cons c cs ih =>
    rw [Nat.ofDigitChars_cons] at h ⊢
    have hle := grows cs (10 * acc + (c.toNat - '0'.toNat))
    have hc : c.isDigit := hd c List.mem_cons_self
    have hlt : 10 * acc + (c.toNat - '0'.toNat) < limit := by omega
    rw [parseDigits, if_pos hc, if_pos hlt]
    exact ih (fun d hmem => hd d (List.mem_cons_of_mem _ hmem)) h

/-- Reading back the decimal form of a number. -/
theorem parseUnsigned_repr {limit n : Nat} (h : n < limit) :
    parseUnsigned limit n.repr = .ok n := by
  have hdigits : ∀ c ∈ Nat.toDigits 10 n, c.isDigit := fun c hc =>
    Nat.isDigit_of_mem_toDigits (by decide) (by decide) hc
  have hval : Nat.ofDigitChars 10 (Nat.toDigits 10 n) 0 = n := Nat.ofDigitChars_ten_toDigits
  have hparse : parseDigits limit 0 (Nat.toDigits 10 n) = .ok n := by
    rw [parseDigits_of_lt hdigits (by omega), hval]
  unfold parseUnsigned
  rw [Nat.toList_repr]
  cases hcs : Nat.toDigits 10 n with
  | nil => exact absurd hcs Nat.toDigits_ne_nil
  | cons c cs =>
    have hc : c.isDigit := hdigits c (hcs ▸ List.mem_cons_self)
    have hplus : c ≠ '+' := by rintro rfl; exact absurd hc (by decide)
    split
    · cases ‹c :: cs = []›
    · rename_i heq; cases heq; exact absurd rfl hplus
    · rename_i heq; cases heq; exact absurd rfl hplus
    · rw [← hcs]; exact hparse

/-! ## Pieces put together -/

@[simp] theorem stripPrefix_append (p s : String) : stripPrefix p (p ++ s) = some s := by
  unfold stripPrefix
  rw [String.toList_append, List.dropPrefix?_append_of_beq _ (BEq.rfl), Option.map_some,
    String.ofList_toList]

/-- What is left after a prefix. -/
theorem stripPrefix_eq_some {p s rest : String} :
    stripPrefix p s = some rest ↔ s.toList = p.toList ++ rest.toList := by
  unfold stripPrefix
  rw [Option.map_eq_some_iff]
  constructor
  · rintro ⟨cs, hdrop, rfl⟩
    obtain ⟨p', happend, hbeq⟩ := List.dropPrefix?_eq_some_iff.mp hdrop
    rw [happend, String.toList_ofList, ← LawfulBEq.eq_of_beq hbeq]
  · intro h
    exact ⟨rest.toList, List.dropPrefix?_eq_some_iff.mpr ⟨p.toList, h, BEq.rfl⟩, String.ofList_toList⟩

@[simp] theorem stripSuffix_append (p s : String) : stripSuffix p (s ++ p) = some s := by
  have h : (s.toList ++ p.toList).dropSuffix? p.toList = some s.toList :=
    List.dropSuffix?_eq_some_iff.mpr ⟨p.toList, rfl, BEq.rfl⟩
  unfold stripSuffix
  rw [String.toList_append, h, Option.map_some, String.ofList_toList]

theorem dropWhile_eq_self {p : Char → Bool} {cs : List Char} (h : ∀ c ∈ cs.head?, p c = false) :
    cs.dropWhile p = cs := by
  cases cs with
  | nil => rfl
  | cons c cs => simp [h c (by simp)]

/-- Text that neither starts nor ends with white space is left alone. -/
theorem trim_eq_self {s : String} (hfirst : ∀ c ∈ s.toList.head?, isWhitespace c = false)
    (hlast : ∀ c ∈ s.toList.getLast?, isWhitespace c = false) : trim s = s := by
  unfold trim
  rw [dropWhile_eq_self hfirst, dropWhile_eq_self (by rwa [List.head?_reverse]),
    List.reverse_reverse, String.ofList_toList]

/-- White space at neither end, when both ends are known. -/
theorem trim_of_ends {s : String} {c d : Char} {cs ds : List Char} (hfirst : s.toList = c :: cs)
    (hlast : s.toList = ds ++ [d]) (hc : isWhitespace c = false) (hd : isWhitespace d = false) :
    trim s = s := by
  apply trim_eq_self
  · rw [hfirst]
    simpa using hc
  · rw [hlast]
    simpa using hd

theorem trimEndMatches_eq_self_iff {c : Char} {s : String} :
    trimEndMatches c s = s ↔ endsWith c s = false := by
  have hlist : trimEndMatches c s = s ↔ s.toList.rdropWhile (· == c) = s.toList := by
    constructor
    · intro h
      simpa [trimEndMatches] using congrArg String.toList h
    · intro h
      simp [trimEndMatches, h]
  rw [hlist, List.rdropWhile_eq_self_iff]
  constructor
  · intro h
    by_cases hnil : s.toList = []
    · simp [endsWith, hnil]
    · simpa [endsWith, List.getLast?_eq_some_getLast hnil] using h hnil
  · intro h hnil
    simpa [endsWith, List.getLast?_eq_some_getLast hnil] using h

theorem not_mem_toDigits {n : Nat} {c : Char} (h : c.isDigit = false) :
    c ∉ Nat.toDigits 10 n := by
  intro hmem
  have hdigit := Nat.isDigit_of_mem_toDigits (by decide) (by decide) hmem
  rw [h] at hdigit
  cases hdigit

theorem beq_eq_false_of_not_mem {sep : Char} {cs : List Char} (h : sep ∉ cs) :
    ∀ c ∈ cs, (c == sep) = false := by
  intro c hc
  rw [beq_eq_false_iff_ne]
  rintro rfl
  exact h hc

theorem splitOnce_append {sep : Char} {a b : String} (h : sep ∉ a.toList) :
    splitOnce sep (a ++ sep.toString ++ b) = some (a, b) := by
  have hall : ∀ c ∈ a.toList, (c != sep) = true := fun c hc => by
    simp [bne, beq_eq_false_of_not_mem h c hc]
  have hdrop : (a.toList ++ sep :: b.toList).dropWhile (· != sep) = sep :: b.toList := by
    rw [List.dropWhile_append_of_pos hall]
    simp
  have htake : (a.toList ++ sep :: b.toList).takeWhile (· != sep) = a.toList := by
    rw [List.takeWhile_append_of_pos hall]
    simp
  unfold splitOnce
  simp only [String.toList_append, Char.toString, String.toList_singleton, List.append_assoc,
    List.singleton_append, hdrop, htake, String.ofList_toList]

theorem split_append {sep : Char} {a : String} (h : sep ∉ a.toList) (b : String) :
    split sep (a ++ sep.toString ++ b) = a :: split sep b := by
  unfold split
  simp only [String.toList_append, Char.toString, String.toList_singleton, List.append_assoc,
    List.singleton_append]
  rw [List.splitOnP_append_cons _ _ (by simp), List.splitOnP_eq_singleton (beq_eq_false_of_not_mem h)]
  simp

theorem split_eq_singleton {sep : Char} {a : String} (h : sep ∉ a.toList) :
    split sep a = [a] := by
  unfold split
  rw [List.splitOnP_eq_singleton (beq_eq_false_of_not_mem h)]
  simp

/-! ## Searching -/

theorem afterFirst_self {needle : List Char} (hne : needle ≠ []) (rest : List Char) :
    afterFirst needle (needle ++ rest) = some rest := by
  cases needle with
  | nil => exact absurd rfl hne
  | cons c cs =>
    rw [List.cons_append, afterFirst]
    have h : (c :: (cs ++ rest)).dropPrefix? (c :: cs) = some rest := by
      rw [← List.cons_append]
      exact List.dropPrefix?_append_of_beq _ BEq.rfl
    rw [h]

theorem afterFirst_skip {needle : List Char} {c : Char} {cs : List Char}
    (h : (c :: cs).dropPrefix? needle = none) :
    afterFirst needle (c :: cs) = afterFirst needle cs := by
  rw [afterFirst, h]

/-- A needle that ends at its only quote, and is not found in a text, is not found across the quote that
ends the text either. -/
theorem afterFirst_past {q : Char} {n xs : List Char} (hn : q ∉ n) (hne : n ≠ [])
    (hpart : ¬ n ++ [q] <:+: xs) (hsuffix : ¬ n <:+ xs) (ys : List Char) :
    afterFirst (n ++ [q]) (xs ++ q :: ys) = afterFirst (n ++ [q]) ys := by
  induction xs with
  | nil =>
    refine afterFirst_skip ?_
    cases n with
    | nil => exact absurd rfl hne
    | cons a n =>
      have ha : q ≠ a := fun h => hn (h ▸ List.mem_cons_self)
      simp [List.dropPrefix?, ha]
  | cons x xs ih =>
    have hinf : ¬ n ++ [q] <:+: xs := fun h => hpart (h.trans (List.suffix_cons x xs).isInfix)
    have hsuf : ¬ n <:+ xs := fun h => hsuffix (h.trans (List.suffix_cons x xs))
    rw [List.cons_append, afterFirst_skip, ih hinf hsuf]
    rw [← List.cons_append]
    cases hdrop : (x :: xs ++ q :: ys).dropPrefix? (n ++ [q]) with
    | none => rfl
    | some s =>
      obtain ⟨p, heq, hp⟩ := List.dropPrefix?_eq_some_iff.mp hdrop
      rw [eq_of_beq hp, List.append_assoc, List.singleton_append] at heq
      rcases List.append_eq_append_iff.mp heq with ⟨_ | ⟨c, cs⟩, hxs, hq⟩ | ⟨_ | ⟨c, cs⟩, hxs, hq⟩
      · exact absurd (hxs.trans (List.append_nil _) ▸ List.suffix_refl n) hsuffix
      · obtain ⟨rfl, -⟩ := List.cons.inj hq
        exact absurd (hxs ▸ List.mem_append_right _ List.mem_cons_self) hn
      · exact absurd (hxs.trans (List.append_nil _) ▸ List.suffix_refl n) hsuffix
      · obtain ⟨rfl, -⟩ := List.cons.inj hq
        have hbegins : n ++ [q] <+: x :: xs := ⟨cs, by rw [hxs]; simp⟩
        exact absurd hbegins.isInfix hpart

/-- A needle that ends at a quote is not found where text without the quote is added. -/
theorem infix_of_infix_append {q : Char} {n xs ys : List Char} (h : n ++ [q] <:+: xs ++ ys)
    (hq : q ∉ ys) : n ++ [q] <:+: xs := by
  have hlast : (n ++ [q]).getLast? = some q := by simp
  rcases List.infix_append_iff_ne_nil.mp h with h | h | ⟨l₁, l₂, -, hne, heq, -, hbegins⟩
  · exact h
  · exact absurd (h.subset (List.mem_append_right _ List.mem_cons_self)) hq
  · rw [heq, List.getLast?_append_of_ne_nil _ hne] at hlast
    exact absurd (hbegins.subset (List.mem_of_getLast? hlast)) hq

theorem beforeFirst_append {q : Char} {xs : List Char} (h : q ∉ xs) (ys : List Char) :
    beforeFirst q (xs ++ q :: ys) = some xs := by
  unfold beforeFirst
  rw [if_pos (by simp), List.takeWhile_append_of_pos (fun c hc => by
    simp only [bne_iff_ne, ne_eq]
    rintro rfl
    exact h hc)]
  simp

theorem exists_beforeFirst {q : Char} {xs : List Char} (h : q ∈ xs) : ∃ ys, beforeFirst q xs = some ys :=
  ⟨_, if_pos h⟩

end Text
