import Ayane.Protocol.Httpsig

/-!
# What the signature base determines

The base is a list of lines, and the last of them lists the parameters. Header values
cannot hold a line break, so each line ends where the next begins, and every value that
went into the base can be read off it.
-/

namespace Ayane.Protocol

/-- A header value is one line. -/
def OneLine (s : String) : Prop := '\n' ∉ s.toList

instance (s : String) : Decidable (OneLine s) := inferInstanceAs (Decidable (_ ∉ _))

/-- Two texts that go on after a character neither holds are the same before and after it. -/
theorem inj_of_not_mem {sep : Char} {a b : String} {xs ys : List Char} (ha : sep ∉ a.toList)
    (hb : sep ∉ b.toList) (h : a.toList ++ sep :: xs = b.toList ++ sep :: ys) : a = b ∧ xs = ys := by
  have hbefore := congrArg (Text.beforeFirst sep) h
  rw [Text.beforeFirst_append ha, Text.beforeFirst_append hb] at hbefore
  obtain rfl : a = b := String.toList_inj.mp (Option.some.inj hbefore)
  exact ⟨rfl, (List.cons.inj (List.append_cancel_left h)).2⟩

/-- A decimal number that ends at a semicolon. -/
theorem number_inj {n m : UInt64} {xs ys : List Char}
    (h : n.toNat.repr.toList ++ ';' :: xs = m.toNat.repr.toList ++ ';' :: ys) : n = m ∧ xs = ys := by
  have hdigits : ∀ n : UInt64, ';' ∉ n.toNat.repr.toList := by
    intro n
    rw [Nat.toList_repr]
    exact Text.not_mem_toDigits (by decide)
  obtain ⟨hrepr, hrest⟩ := inj_of_not_mem (hdigits n) (hdigits m) h
  have hread := congrArg (fun s => Nat.ofDigitChars 10 s.toList 0) hrepr
  simp only [Nat.toList_repr, Nat.ofDigitChars_ten_toDigits] at hread
  exact ⟨UInt64.toNat_inj.mp hread, hrest⟩

/-- The parameters after the covered components, as characters. -/
theorem toList_rootsSigParamsValue (p : RootsSigParams) :
    (rootsSigParamsValue p).toList = (coveredComponents ++ ";created=").toList ++
      (p.created.toNat.repr.toList ++ ';' :: ("expires=".toList ++ 
        (p.expires.toNat.repr.toList ++ ';' :: ("alg=\"".toList ++ (p.alg.toList ++ ['"']))))) := by
  simp [rootsSigParamsValue]

theorem rootsSigParamsValue_injective : Function.Injective rootsSigParamsValue := by
  intro p p' h
  have hlist := congrArg String.toList h
  rw [toList_rootsSigParamsValue, toList_rootsSigParamsValue] at hlist
  obtain ⟨hcreated, hlist⟩ := number_inj (List.append_cancel_left hlist)
  obtain ⟨hexpires, hlist⟩ := number_inj (List.append_cancel_left hlist)
  have halg := List.append_cancel_right (List.append_cancel_left hlist)
  cases p
  cases p'
  simp_all [String.toList_inj]

/-- The lines of the base that are always the same, up to the value of the third. -/
def baseHead : String :=
  "\"@status\": " ++ (200 : ℕ).repr ++ "\n" ++ "\"content-type\": " ++ rootsContentType ++ "\n" ++
    "\"content-digest\": "

theorem rootsSignatureBase_eq (contentDigest signatureKey : String) (p : RootsSigParams) :
    rootsSignatureBase 200 rootsContentType contentDigest signatureKey p =
      baseHead ++ (contentDigest ++ ("\n" ++ ("\"signature-key\": " ++
        (signatureKey ++ ("\n" ++ ("\"@signature-params\": " ++ rootsSigParamsValue p)))))) := by
  unfold rootsSignatureBase baseHead
  simp only [String.append_assoc]

theorem append_left_inj {a b c : String} (h : a ++ b = a ++ c) : b = c := by
  have hlist := congrArg String.toList h
  rw [String.toList_append, String.toList_append] at hlist
  exact String.toList_inj.mp (List.append_cancel_left hlist)

/-- Two texts that go on in a new line. -/
theorem line_inj {a b x y : String} (ha : OneLine a) (hb : OneLine b)
    (h : a ++ ("\n" ++ x) = b ++ ("\n" ++ y)) : a = b ∧ x = y := by
  have hlist := congrArg String.toList h
  simp only [String.toList_append] at hlist
  have hbreak : "\n".toList = ['\n'] := by simp
  rw [hbreak, List.singleton_append, List.singleton_append] at hlist
  obtain ⟨hline, hrest⟩ := inj_of_not_mem ha hb hlist
  exact ⟨hline, String.toList_inj.mp hrest⟩

/-- The values of a base can be read off it. -/
theorem rootsSignatureBase_inj {contentDigest contentDigest' signatureKey signatureKey' : String}
    {p p' : RootsSigParams} (hdigest : OneLine contentDigest) (hdigest' : OneLine contentDigest')
    (hkey : OneLine signatureKey) (hkey' : OneLine signatureKey')
    (h : rootsSignatureBase 200 rootsContentType contentDigest signatureKey p =
      rootsSignatureBase 200 rootsContentType contentDigest' signatureKey' p') :
    contentDigest = contentDigest' ∧ signatureKey = signatureKey' ∧ p = p' := by
  rw [rootsSignatureBase_eq, rootsSignatureBase_eq] at h
  obtain ⟨hdigests, hrest⟩ := line_inj hdigest hdigest' (append_left_inj h)
  obtain ⟨hkeys, hrest⟩ := line_inj hkey hkey' (append_left_inj hrest)
  exact ⟨hdigests, hkeys, rootsSigParamsValue_injective (append_left_inj hrest)⟩

end Ayane.Protocol
