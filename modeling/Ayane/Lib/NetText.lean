import Ayane.Lib.Net
import Ayane.Lib.Radix

/-!
# Addresses are read back

An address is read back from its text. The number of a group is read up to what is no digit; groups are
read one after the other up to the end or a double colon; and the groups that a double colon leaves out
are zeros.
-/

namespace Net

/-! ## Numbers -/

/-- A digit of the base is read as it was written. -/
def ReadsDigits (radix : Nat) : Prop := ∀ d < radix, digitValue radix d.digitChar = some d

theorem readsDigits_ten : ReadsDigits 10 :=
  (by decide : ∀ d < 10, digitValue 10 d.digitChar = some d)

theorem readsDigits_sixteen : ReadsDigits 16 :=
  (by decide : ∀ d < 16, digitValue 16 d.digitChar = some d)

/-- What comes next is no digit. -/
def Stops (radix : Nat) (rest : List Char) : Prop := ∀ c ∈ rest.head?, digitValue radix c = none

section

variable {radix : Nat} {rest : List Char}

theorem readDigits_of_stops (h : Stops radix rest) : readDigits radix rest = ([], rest) := by
  cases rest with
  | nil => rfl
  | cons c cs =>
    have hc := h c rfl
    simp [readDigits, hc]

theorem readDigits_map (hdigits : ReadsDigits radix) (hrest : Stops radix rest) {ds : List Nat}
    (hds : ∀ d ∈ ds, d < radix) :
    readDigits radix (ds.map Nat.digitChar ++ rest) = (ds, rest) := by
  induction ds with
  | nil => exact readDigits_of_stops hrest
  | cons d ds ih =>
    obtain ⟨hd, hds⟩ := List.forall_mem_cons.mp hds
    rw [List.map_cons, List.cons_append]
    simp only [readDigits, hdigits d hd, ih hds]

theorem foldl_reverse_numeral (radix n : Nat) :
    (Radix.numeral radix n).reverse.foldl (fun n d => n * radix + d) 0 = n := by
  rw [List.foldl_reverse]
  have hofDigits : ∀ ds : List Nat, ds.foldr (fun d n => n * radix + d) 0 = Nat.ofDigits radix ds := by
    intro ds
    induction ds with
    | nil => rfl
    | cons d ds ih => rw [List.foldr_cons, ih, Nat.ofDigits_cons, Nat.mul_comm, Nat.add_comm]
  rw [hofDigits]
  unfold Radix.numeral
  split_ifs with hn
  · rw [hn]
    exact Nat.ofDigits_singleton
  · exact Nat.ofDigits_digits radix n

/-- Only the number zero is written with a zero in front. -/
theorem numeral_of_zero_first {n : Nat}
    (h : (Radix.numeral radix n).reverse.head? = some 0) : Radix.numeral radix n = [0] := by
  unfold Radix.numeral at h ⊢
  split_ifs at h ⊢ with hn
  · rfl
  · have hne : Nat.digits radix n ≠ [] := Nat.digits_ne_nil_iff_ne_zero.mpr hn
    rw [List.head?_reverse, List.getLast?_eq_some_getLast hne] at h
    exact absurd (Option.some.inj h) (Nat.getLast_digit_ne_zero radix hn)

theorem readNumber_toDigits (hradix : 1 < radix) (hdigits : ReadsDigits radix) {maxDigits limit n : Nat}
    (hmax : 0 < maxDigits) (hlen : n < radix ^ maxDigits) (hlimit : n < limit) (allowZeroPrefix : Bool)
    (hrest : Stops radix rest) :
    readNumber radix maxDigits limit allowZeroPrefix (Nat.toDigits radix n ++ rest) =
      some (n, rest) := by
  have hshort : (Radix.numeral radix n).reverse.length ≤ maxDigits := by
    have hle := (Nat.length_toDigits_le_iff hradix hmax).mpr hlen
    rwa [← Radix.map_reverse_numeral hradix, List.length_map] at hle
  have hne : (Radix.numeral radix n).reverse ≠ [] := by
    have htext : Nat.toDigits radix n ≠ [] := Nat.toDigits_ne_nil
    rw [← Radix.map_reverse_numeral hradix] at htext
    exact fun hnil => htext (by rw [hnil]; rfl)
  have hdigit : ∀ d ∈ (Radix.numeral radix n).reverse, d < radix :=
    fun d hd => Radix.lt_of_mem_numeral hradix (List.mem_reverse.mp hd)
  have hread := readDigits_map hdigits hrest hdigit
  have hzero : (Radix.numeral radix n).reverse.head? = some 0 →
      ¬1 < (Radix.numeral radix n).reverse.length := by
    intro hfirst
    rw [numeral_of_zero_first hfirst]
    decide
  unfold readNumber
  rw [← Radix.map_reverse_numeral hradix, hread]
  simp only [foldl_reverse_numeral]
  have hfits : ¬((decide ((Radix.numeral radix n).reverse.length > maxDigits) ||
      (Radix.numeral radix n).reverse.isEmpty) = true) := by
    rw [Bool.or_eq_true, decide_eq_true_eq, List.isEmpty_iff]
    exact fun h => h.elim (Nat.not_lt.mpr hshort) hne
  rw [if_neg hfits, if_neg (by grind), if_pos hlimit]

end

/-! ## Dotted addresses -/

theorem toList_displayIpv4 (a b c d : UInt8) : (displayIpv4 [a, b, c, d]).toList =
    Nat.toDigits 10 a.toNat ++ '.' :: (Nat.toDigits 10 b.toNat ++ '.' :: (Nat.toDigits 10 c.toNat ++
      '.' :: Nat.toDigits 10 d.toNat)) := by
  simp [displayIpv4, Nat.toList_repr]

theorem readOctet (o : UInt8) {rest : List Char} (hrest : Stops 10 rest) :
    readNumber 10 3 256 false (Nat.toDigits 10 o.toNat ++ rest) = some (o.toNat, rest) := by
  have ho := o.toNat_lt
  exact readNumber_toDigits (by decide) readsDigits_ten (by decide) (by omega) (by omega) false hrest

theorem stops_dot (rest : List Char) : Stops 10 ('.' :: rest) := by
  rintro c ⟨⟩
  decide

theorem readIpv4_display (octets : Vector UInt8 4) {rest : List Char} (hrest : Stops 10 rest) :
    readIpv4 ((displayIpv4 octets.toList).toList ++ rest) = some (octets, rest) := by
  obtain ⟨⟨list⟩, hsize⟩ := octets
  match list, hsize with
  | [a, b, c, d], _ =>
    change readIpv4 ((displayIpv4 [a, b, c, d]).toList ++ rest) = _
    have ha := readOctet a (stops_dot (Nat.toDigits 10 b.toNat ++ '.' :: (Nat.toDigits 10 c.toNat ++
      '.' :: (Nat.toDigits 10 d.toNat ++ rest))))
    have hb := readOctet b (stops_dot (Nat.toDigits 10 c.toNat ++ '.' :: (Nat.toDigits 10 d.toNat ++ rest)))
    have hc := readOctet c (stops_dot (Nat.toDigits 10 d.toNat ++ rest))
    have hd := readOctet d hrest
    rw [toList_displayIpv4]
    simp only [List.append_assoc, List.cons_append]
    simp [readIpv4, readSeparator, ha, hb, hc, hd]

theorem readIpv4_end (octets : Vector UInt8 4) :
    readIpv4 (displayIpv4 octets.toList).toList = some (octets, []) := by
  have hend : Stops 10 [] := by
    rintro c ⟨⟩
  have hread := readIpv4_display octets hend
  rwa [List.append_nil] at hread

theorem rest_of_readNumber {radix maxDigits limit n : Nat} {allowZeroPrefix : Bool} {s rest : List Char}
    (h : readNumber radix maxDigits limit allowZeroPrefix s = some (n, rest)) :
    rest = (readDigits radix s).2 := by
  unfold readNumber at h
  dsimp only at h
  split_ifs at h
  cases h
  rfl

theorem readSeparator_eq_none {α : Type} {sep : Char} {index : Nat} (hindex : index ≠ 0)
    {inner : Reader α} {s : List Char} (h : s.head? ≠ some sep) : readSeparator sep index inner s = none := by
  unfold readSeparator
  rw [if_neg hindex]
  cases s with
  | nil => rfl
  | cons c cs => exact if_neg fun hc => h (congrArg some hc)

/-- A text is no dotted address when something other than a dot follows the digits at its front. -/
theorem readIpv4_eq_none {s : List Char} (h : (readDigits 10 s).2.head? ≠ some '.') :
    readIpv4 s = none := by
  unfold readIpv4
  cases hread : readNumber 10 3 256 false s with
  | none => simp [readSeparator, hread]
  | some r =>
    obtain ⟨n, rest⟩ := r
    rw [← rest_of_readNumber hread] at h
    have hdot : readSeparator '.' 1 (readNumber 10 3 256 false) rest = none :=
      readSeparator_eq_none Nat.one_ne_zero h
    have hfirst : readSeparator '.' 0 (readNumber 10 3 256 false) s = some (n, rest) := hread
    dsimp only
    rw [hfirst, Option.bind_eq_bind, Option.bind_some, hdot]
    rfl

/-! ## Groups -/

theorem head?_readDigits_ne {radix : Nat} {sep : Char} {cs rest : List Char} (hcs : sep ∉ cs)
    (hstops : Stops radix rest) (hrest : rest.head? ≠ some sep) :
    (readDigits radix (cs ++ rest)).2.head? ≠ some sep := by
  induction cs with
  | nil =>
    rw [List.nil_append, readDigits_of_stops hstops]
    exact hrest
  | cons c cs ih =>
    obtain ⟨hc, hcs⟩ := not_or.mp (mt List.mem_cons.mpr hcs)
    simp only [List.cons_append, readDigits]
    cases digitValue radix c with
    | none => simpa using Ne.symm hc
    | some d => exact ih hcs

/-- What comes after groups: a colon or the end. -/
def Separates (rest : List Char) : Prop := ∀ c ∈ rest.head?, c = ':'

theorem Separates.stops {rest : List Char} (h : Separates rest) {radix : Nat}
    (hradix : digitValue radix ':' = none) : Stops radix rest := by
  intro c hc
  rw [h c hc]
  exact hradix

theorem dot_not_mem_toDigits (n : Nat) : '.' ∉ Nat.toDigits 16 n := by
  rw [← Radix.map_reverse_numeral (by decide)]
  intro hmem
  obtain ⟨d, hd, hchar⟩ := List.mem_map.mp hmem
  have hlt := Radix.lt_of_mem_numeral (by decide) (List.mem_reverse.mp hd)
  exact (by decide : ∀ d < 16, Nat.digitChar d ≠ '.') d hlt hchar

/-- A text that begins with a group is no dotted address. -/
theorem readIpv4_group (n : Nat) {rest : List Char} (hrest : Separates rest) :
    readIpv4 (Nat.toDigits 16 n ++ rest) = none := by
  refine readIpv4_eq_none (head?_readDigits_ne (dot_not_mem_toDigits n) (hrest.stops (by decide)) ?_)
  intro hdot
  exact absurd (hrest '.' hdot) (by decide)

theorem readIpv4_separates {rest : List Char} (hrest : Separates rest) : readIpv4 rest = none := by
  refine readIpv4_eq_none ?_
  rw [readDigits_of_stops (hrest.stops (by decide))]
  intro hdot
  exact absurd (hrest '.' hdot) (by decide)

theorem readGroup (g : UInt16) {rest : List Char} (hrest : Separates rest) :
    readNumber 16 4 65536 true (Nat.toDigits 16 g.toNat ++ rest) = some (g.toNat, rest) := by
  have hg := g.toNat_lt
  exact readNumber_toDigits (by decide) readsDigits_sixteen (by decide) (by omega) (by omega) true
    (hrest.stops (by decide))

/-- Groups of an address, the first of them at an index. -/
def groupsText (index : Nat) : List UInt16 → List Char
  | [] => []
  | g :: gs =>
    (if index = 0 then [] else [':']) ++ (Nat.toDigits 16 g.toNat ++ groupsText (index + 1) gs)

theorem separates_groupsText {index : Nat} (hindex : index ≠ 0) {rest : List Char}
    (hrest : Separates rest) (groups : List UInt16) : Separates (groupsText index groups ++ rest) := by
  cases groups with
  | nil => exact hrest
  | cons g gs =>
    rintro c hc
    simp only [groupsText, if_neg hindex, List.cons_append, List.head?_cons, Option.mem_some_iff] at hc
    exact hc.symm

theorem readIpv4_groups (groups : List UInt16) {rest : List Char} (hrest : Separates rest) :
    readIpv4 (groupsText 0 groups ++ rest) = none := by
  cases groups with
  | nil => exact readIpv4_separates hrest
  | cons g gs =>
    rw [groupsText, if_pos rfl, List.nil_append, List.append_assoc]
    exact readIpv4_group g.toNat (separates_groupsText Nat.one_ne_zero hrest gs)

theorem toList_displayGroups (groups : List UInt16) :
    (displayGroups groups).toList = groupsText 0 groups := by
  have hrest : ∀ (groups : List UInt16) (index : Nat), groupsText (index + 1) groups =
      groups.flatMap fun g => ':' :: Nat.toDigits 16 g.toNat := by
    intro groups
    induction groups with
    | nil => exact fun _ => rfl
    | cons g gs ih =>
      intro index
      rw [groupsText, ih, if_neg (Nat.succ_ne_zero index), List.flatMap_cons]
      rfl
  cases groups with
  | nil => rfl
  | cons g gs =>
    rw [groupsText, if_pos rfl, hrest, List.nil_append]
    unfold displayGroups
    induction gs generalizing g with
    | nil => simp
    | cons g' gs ih =>
      have hnext := ih g'
      rw [List.map_cons] at hnext
      rw [List.map_cons, List.map_cons, String.intercalate_cons_cons, String.toList_append,
        String.toList_append, hnext, List.flatMap_cons]
      simp

/-- What ends the groups that are read: the end, or a double colon. -/
def Closes (rest : List Char) : Prop := rest = [] ∨ ∃ more, rest = ':' :: ':' :: more

theorem Closes.separates {rest : List Char} (h : Closes rest) : Separates rest := by
  obtain rfl | ⟨more, rfl⟩ := h
  · rintro c ⟨⟩
  · rintro c ⟨⟩
    rfl

theorem readNumber_separates {rest : List Char} (hrest : Separates rest) :
    readNumber 16 4 65536 true rest = none := by
  unfold readNumber
  rw [readDigits_of_stops (hrest.stops (by decide))]
  rfl

/-- No group is read where the groups are closed. -/
theorem readSeparator_closes {α : Type} {rest : List Char} (h : Closes rest) (index : Nat)
    {inner : Reader α} (hinner : ∀ rest, Separates rest → inner rest = none) :
    readSeparator ':' index inner rest = none := by
  unfold readSeparator
  split_ifs with hindex
  · exact hinner rest h.separates
  · obtain rfl | ⟨more, rfl⟩ := h
    · rfl
    · refine (if_pos rfl).trans (hinner _ ?_)
      rintro c ⟨⟩
      rfl

theorem readGroups_closes {rest : List Char} (h : Closes rest) (index left : Nat) :
    readGroups index left rest = ([], false, rest) := by
  cases left with
  | zero => rfl
  | succ left =>
    have hdotted := readSeparator_closes h index fun _ => readIpv4_separates
    have hgroup := readSeparator_closes h index fun _ => readNumber_separates
    simp only [readGroups, hdotted, hgroup, ite_self]

/-- A group is read before the others. -/
theorem readGroups_cons (g : UInt16) (index left : Nat) {rest : List Char} (hrest : Separates rest) :
    readGroups index (left + 1)
        ((if index = 0 then [] else [':']) ++ (Nat.toDigits 16 g.toNat ++ rest)) =
      (g :: (readGroups (index + 1) left rest).1, (readGroups (index + 1) left rest).2) := by
  have hread {α : Type} (inner : Reader α) :
      readSeparator ':' index inner
          ((if index = 0 then [] else [':']) ++ (Nat.toDigits 16 g.toNat ++ rest)) =
        inner (Nat.toDigits 16 g.toNat ++ rest) := by
    unfold readSeparator
    split_ifs with hindex
    · rfl
    · exact if_pos rfl
  simp only [readGroups, hread, readIpv4_group g.toNat hrest, readGroup g hrest, ite_self,
    UInt16.ofNat_toNat]

/-- Groups are read one after the other. -/
theorem readGroups_text {groups : List UInt16} (index : Nat) {left : Nat} (hle : groups.length ≤ left)
    {rest : List Char} (hrest : Closes rest) :
    readGroups index left (groupsText index groups ++ rest) = (groups, false, rest) := by
  induction groups generalizing index left with
  | nil => exact readGroups_closes hrest index left
  | cons g gs ih =>
    obtain ⟨left, rfl⟩ : ∃ n, left = n + 1 := ⟨left - 1, by simp at hle; omega⟩
    have hnext := separates_groupsText (Nat.succ_ne_zero index) hrest.separates gs
    rw [groupsText, List.append_assoc, List.append_assoc, readGroups_cons g index left hnext,
      ih _ (Nat.le_of_succ_le_succ hle)]

/-! ## Groups that are left out -/

/-- A run of zeros, by its start and length. -/
structure Zeros (groups : List UInt16) (run : Nat × Nat) : Prop where
  inside : run.1 + run.2 ≤ groups.length
  zero : ∀ i, run.1 ≤ i → i < run.1 + run.2 → groups[i]? = some 0

theorem zeros_empty (groups : List UInt16) : Zeros groups (0, 0) where
  inside := Nat.zero_le _
  zero := fun i _ hi => absurd hi (Nat.not_lt_zero i)

/-- The run that is found is one of zeros. The current run, if any, ends where reading goes on. -/
theorem zeros_longestZeros {groups rest : List UInt16} {index : Nat} {current longest : Nat × Nat}
    (hrest : groups.drop index = rest) (hcurrent : Zeros groups current)
    (hend : current.2 = 0 ∨ current.1 + current.2 = index) (hlongest : Zeros groups longest) :
    Zeros groups (longestZeros index current longest rest) := by
  induction rest generalizing index current longest with
  | nil => exact hlongest
  | cons g gs ih =>
    have hgroup : groups[index]? = some g := by rw [← List.head?_drop, hrest, List.head?_cons]
    have hdrop : groups.drop (index + 1) = gs := by rw [← List.tail_drop, hrest, List.tail_cons]
    have hindex : index < groups.length := (List.getElem?_eq_some_iff.mp hgroup).1
    unfold longestZeros
    by_cases hg : g = 0
    · subst hg
      have hnext : Zeros groups (if current.2 = 0 then index else current.1, current.2 + 1) := by
        split_ifs with hnone
        · rw [hnone]
          refine ⟨hindex, fun i hle hlt => ?_⟩
          obtain rfl : i = index := by omega
          exact hgroup
        · have hhere := hend.resolve_left hnone
          refine ⟨by omega, fun i hle hlt => ?_⟩
          by_cases hi : i = index
          · rw [hi]
            exact hgroup
          · exact hcurrent.zero i hle (by omega)
      have hends : (if current.2 = 0 then index else current.1) + (current.2 + 1) = index + 1 := by
        split_ifs with hnone
        · omega
        · have hhere := hend.resolve_left hnone
          omega
      rw [if_pos rfl]
      refine ih hdrop hnext (.inr hends) ?_
      generalize (if current.2 = 0 then index else current.1, current.2 + 1) = next at hnext ⊢
      split_ifs
      · exact hnext
      · exact hlongest
    · rw [if_neg hg]
      exact ih hdrop (zeros_empty groups) (.inl rfl) hlongest

/-- What a run of zeros leaves out is put back. -/
theorem Zeros.fill {groups : List UInt16} {run : Nat × Nat} (h : Zeros groups run) :
    groups.take run.1 ++ List.replicate run.2 0 ++ groups.drop (run.1 + run.2) = groups := by
  obtain ⟨hinside, hzero⟩ := h
  have hrun : (groups.drop run.1).take run.2 = List.replicate run.2 0 := by
    refine List.eq_replicate_iff.mpr ⟨by simp; omega, fun g hg => ?_⟩
    obtain ⟨i, hi, rfl⟩ := List.getElem_of_mem hg
    have hlt : i < run.2 := by simp at hi; omega
    have hat := hzero (run.1 + i) (by omega) (by omega)
    rw [List.getElem?_eq_getElem (by omega)] at hat
    simpa using hat
  rw [← hrun, List.append_assoc, ← List.drop_drop, List.take_append_drop, List.take_append_drop]

/-! ## Octets -/

theorem toNat_group (a b : UInt8) :
    (UInt16.ofNat (256 * a.toNat + b.toNat)).toNat = 256 * a.toNat + b.toNat := by
  have ha := a.toNat_lt
  have hb := b.toNat_lt
  exact UInt16.toNat_ofNat_of_lt (by simp [UInt16.size]; omega)

theorem octetsOfGroups_groupsOfOctets (octets : Vector UInt8 16) :
    octetsOfGroups (groupsOfOctets octets) = octets := by
  ext i hi
  have hodd : 2 * (i / 2) + 1 < 16 := by omega
  have hb : octets[2 * (i / 2) + 1].toNat < 256 := UInt8.toNat_lt _
  simp only [octetsOfGroups, groupsOfOctets, Vector.getElem_ofFn, toNat_group]
  split_ifs with heven
  · have hat : 2 * (i / 2) = i := by omega
    rw [Nat.mul_add_div (by decide), Nat.div_eq_of_lt hb, Nat.add_zero, UInt8.ofNat_toNat]
    exact congrArg UInt8.toNat (getElem_congr_idx hat)
  · have hat : 2 * (i / 2) + 1 = i := by omega
    rw [Nat.mul_add_mod, Nat.mod_eq_of_lt hb, UInt8.ofNat_toNat]
    exact congrArg UInt8.toNat (getElem_congr_idx hat)

/-- Groups in a list, as many as an address has. -/
theorem octets_of_groups {octets : Vector UInt8 16} {groups : List UInt16}
    (h : groups = (groupsOfOctets octets).toList) (hsize : groups.toArray.size = 8) :
    octetsOfGroups ⟨groups.toArray, hsize⟩ = octets := by
  subst h
  refine Eq.trans (congrArg octetsOfGroups ?_) (octetsOfGroups_groupsOfOctets octets)
  exact Vector.toArray_inj.mp (Array.toArray_toList ..)

/-! ## Addresses -/

section

variable (octets : Vector UInt8 16)

theorem length_groupsOfOctets : (groupsOfOctets octets).toList.length = 8 := by simp

/-- Eight groups with nothing left out. -/
theorem readIpv6_whole : readIpv6 (groupsText 0 (groupsOfOctets octets).toList) = some (octets, []) := by
  have hread := readGroups_text 0 (length_groupsOfOctets octets).le (.inl rfl)
  rw [List.append_nil] at hread
  unfold readIpv6
  rw [hread]
  dsimp only
  rw [dif_pos (length_groupsOfOctets octets), octets_of_groups rfl]

variable {octets} in
/-- Groups before and after a double colon, with zeros in between. -/
theorem readIpv6_filled {s more rest : List Char} {head tail : List UInt16} {v4 : Bool}
    (hbefore : readGroups 0 8 s = (head, false, ':' :: ':' :: more)) (hhead : head.length ≠ 8)
    (hafter : readGroups 0 (8 - (head.length + 1)) more = (tail, v4, rest))
    (hfill : head ++ List.replicate (8 - head.length - tail.length) 0 ++ tail =
      (groupsOfOctets octets).toList) : readIpv6 s = some (octets, rest) := by
  unfold readIpv6
  rw [hbefore]
  dsimp only
  rw [dif_neg hhead, if_neg Bool.false_ne_true]
  simp only [hafter]
  rw [dif_pos (by rw [hfill, length_groupsOfOctets]), octets_of_groups hfill]

/-- The text with a run of zeros left out. -/
theorem readIpv6_shortened {start length : Nat}
    (hzeros : Zeros (groupsOfOctets octets).toList (start, length)) (hlength : 1 < length) :
    readIpv6 (groupsText 0 ((groupsOfOctets octets).toList.take start) ++ ':' :: ':' ::
      groupsText 0 ((groupsOfOctets octets).toList.drop (start + length))) = some (octets, []) := by
  have height := length_groupsOfOctets octets
  have hinside : start + length ≤ 8 := height ▸ hzeros.inside
  have hhead : ((groupsOfOctets octets).toList.take start).length = start := by
    rw [List.length_take, height]
    omega
  have htail : ((groupsOfOctets octets).toList.drop (start + length)).length = 8 - (start + length) := by
    rw [List.length_drop, height]
  have hcount : 8 - start - (8 - (start + length)) = length := by omega
  have hafter := readGroups_text 0 (show _ ≤ 8 - (start + 1) by rw [htail]; omega) (.inl rfl)
  rw [List.append_nil] at hafter
  refine readIpv6_filled (readGroups_text 0 (by rw [hhead]; omega) (.inr ⟨_, rfl⟩)) (by rw [hhead]; omega)
    (by rw [hhead]; exact hafter) ?_
  rw [hhead, htail, hcount]
  exact hzeros.fill

/-- The text of an address that has a dotted one in it. -/
theorem readIpv6_mapped (hmapped : (groupsOfOctets octets).toList.take 6 = [0, 0, 0, 0, 0, 0xffff]) :
    readIpv6 (':' :: ':' :: 'f' :: 'f' :: 'f' :: 'f' :: ':' ::
      (displayIpv4 (octets.toList.drop 12)).toList) = some (octets, []) := by
  obtain ⟨⟨list⟩, hsize⟩ := octets
  match list, hsize with
  | [a, b, c, d, e, f, g, h, i, j, k, l, m, n, o, p], _ =>
    have hdotted := readIpv4_end #v[m, n, o, p]
    change readIpv4 (displayIpv4 [m, n, o, p]).toList = _ at hdotted
    change readIpv6 (':' :: ':' :: 'f' :: 'f' :: 'f' :: 'f' :: ':' ::
      (displayIpv4 [m, n, o, p]).toList) = _
    have hafter : readGroups 0 7 ('f' :: 'f' :: 'f' :: 'f' :: ':' ::
        (displayIpv4 [m, n, o, p]).toList) = ([0xffff, .ofNat (256 * m.toNat + n.toNat),
          .ofNat (256 * o.toNat + p.toNat)], true, []) := by
      have hseparated : Separates (':' :: (displayIpv4 [m, n, o, p]).toList) := by
        rintro c ⟨⟩
        rfl
      refine (readGroups_cons 0xffff 0 6 hseparated).trans ?_
      have hembedded : readSeparator ':' (0 + 1) readIpv4 (':' :: (displayIpv4 [m, n, o, p]).toList) =
          some (#v[m, n, o, p], []) := hdotted
      simp only [readGroups, hembedded]
      rfl
    refine @readIpv6_filled _ _ _ _ [] _ _ (readGroups_closes (.inr ⟨_, rfl⟩) 0 8) (by decide) hafter ?_
    rw [← List.take_append_drop 6 (groupsOfOctets _).toList, hmapped]
    rfl

theorem readIpv6_display : readIpv6 (displayIpv6 octets).toList = some (octets, []) := by
  unfold displayIpv6
  dsimp only
  split_ifs with hmapped hlong
  · rw [String.toList_append]
    exact readIpv6_mapped octets hmapped
  · have hzeros : Zeros (groupsOfOctets octets).toList
        (longestZeros 0 (0, 0) (0, 0) (groupsOfOctets octets).toList) :=
      zeros_longestZeros rfl (zeros_empty _) (.inl rfl) (zeros_empty _)
    rw [String.toList_append, String.toList_append, toList_displayGroups, toList_displayGroups,
      List.append_assoc]
    exact readIpv6_shortened octets hzeros hlong
  · rw [toList_displayGroups]
    exact readIpv6_whole octets

/-- The text of one kind of address does not begin with one of the other. -/
theorem readIpv4_displayIpv6 : readIpv4 (displayIpv6 octets).toList = none := by
  have hcolon : ∀ rest : List Char, Separates (':' :: rest) := by
    rintro rest c ⟨⟩
    rfl
  unfold displayIpv6
  dsimp only
  split_ifs
  · rw [String.toList_append]
    exact readIpv4_separates (hcolon _)
  · rw [String.toList_append, String.toList_append, toList_displayGroups, List.append_assoc]
    exact readIpv4_groups _ (hcolon _)
  · rw [toList_displayGroups, ← List.append_nil (groupsText 0 _)]
    exact readIpv4_groups _ (by rintro c ⟨⟩)

end

/-- An address is read back from its text. -/
theorem IpAddr.parse_display (addr : IpAddr) : IpAddr.parse addr.display = some addr := by
  cases addr with
  | v4 octets =>
    unfold parse readIpAddr display
    dsimp only
    rw [readIpv4_end]
  | v6 octets =>
    unfold parse readIpAddr display
    dsimp only
    rw [readIpv4_displayIpv6, readIpv6_display]
    rfl

end Net
