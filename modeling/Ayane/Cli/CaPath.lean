import Ayane.Cli.Anchor

/-!
# Anchoring through certificate authorities

A signer path tests cA=TRUE on the certificate it climbs to and may then continue
from a twin of it, whose own cA bit nobody looks at. A `CaPath` is a path on which
every issuer that is used asserts cA=TRUE itself. The two agree on a bag that holds
certificate authorities and twins of the signer only: on such a bag, a path can be
started again at the last twin of the signer it passes, and from there on every
certificate is a CA.
-/

namespace Ayane.Cli

open Effect

/-- A path of bag certificates, each naming the next as its issuer and signed by
it, on which every certificate after the first asserts cA=TRUE. -/
structure CaPath (crates : Crates) (bag anchors : List Node) (now : UInt64) (n : ℕ)
    (p : ℕ → Node) : Prop where
  start : ∃ s, bag.head? = some s ∧ (p 0).subject = s.subject ∧ (p 0).spki = s.spki
  mem : ∀ i ≤ n, p i ∈ bag
  issuer : ∀ i < n, (p (i + 1)).subject = (p i).issuer ∧ (p i).signedBy crates (p (i + 1)) = true
  valid : ∀ i ≤ n, (p i).temporallyValid now = true
  ca : ∀ i ≤ n, 1 ≤ i → (p i).isCa = true
  anchored : (p n).anchored crates anchors = true

/-- `n` has the subject and the key of `s`. -/
def Node.sameKey (s n : Node) : Bool := n.subject == s.subject && n.spki == s.spki

theorem Node.sameKey_iff {s n : Node} :
    s.sameKey n = true ↔ n.subject = s.subject ∧ n.spki = s.spki := by
  simp [Node.sameKey]

/-- The certificate authorities of the bag and the twins of its first certificate. -/
def caBag : List Node → List Node
  | [] => []
  | s :: rest => (s :: rest).filter fun n => n.isCa || s.sameKey n

theorem mem_caBag {s n : Node} {rest : List Node} :
    n ∈ caBag (s :: rest) ↔ n ∈ s :: rest ∧ (n.isCa = true ∨ s.sameKey n = true) := by
  simp only [caBag, List.mem_filter, Bool.or_eq_true]

theorem head?_caBag (bag : List Node) : (caBag bag).head? = bag.head? := by
  cases bag with
  | nil => rfl
  | cons s rest => simp [caBag, Node.sameKey]

section

variable {crates : Crates} {bag anchors : List Node} {now : UInt64}

/-- A path through certificate authorities is a signer path of the restricted bag. -/
theorem CaPath.signerPath {n : ℕ} {p : ℕ → Node} (h : CaPath crates bag anchors now n p) :
    ∃ c t, SignerPath crates (caBag bag) anchors now n c t := by
  obtain ⟨s, hs, hsub, hspki⟩ := h.start
  obtain ⟨rest, rfl⟩ : ∃ rest, bag = s :: rest := List.head?_eq_some_iff.mp hs
  have hmem : ∀ i ≤ n, p i ∈ caBag (s :: rest) := by
    intro i hi
    refine mem_caBag.mpr ⟨h.mem i hi, ?_⟩
    cases i with
    | zero => exact .inr (Node.sameKey_iff.mpr ⟨hsub, hspki⟩)
    | succ i => exact .inl (h.ca (i + 1) hi (by omega))
  refine ⟨fun i => if i = 0 then s else p i, p, ?_⟩
  refine ⟨by rw [head?_caBag]; rfl, fun i hi => ?_, h.valid, fun i hi => ?_, h.anchored⟩
  · cases i with
    | zero => exact .inr ⟨hmem 0 hi, hsub, hspki⟩
    | succ i => exact .inl rfl
  · obtain ⟨hname, hsig⟩ := h.issuer i hi
    exact ⟨hmem (i + 1) (by omega), h.ca (i + 1) (by omega) (by omega), hname, hsig⟩

theorem Node.signedBy_congr {n a b : Node} (h : a.spki = b.spki) :
    n.signedBy crates a = n.signedBy crates b := by
  unfold Node.signedBy
  rw [h]

/-- Dropping what precedes the last twin of the signer on a signer path of the
restricted bag leaves a path through certificate authorities. -/
theorem SignerPath.caPath {k : ℕ} {c t : ℕ → Node}
    (h : SignerPath crates (caBag bag) anchors now k c t) :
    ∃ n p, CaPath crates bag anchors now n p := by
  obtain ⟨s, rest, rfl⟩ : ∃ s rest, bag = s :: rest := by
    cases bag with
    | nil => cases h.signer
    | cons s rest => exact ⟨s, rest, rfl⟩
  have hc0 : c 0 = s := by
    have := h.signer
    rw [head?_caBag, List.head?_cons, Option.some.injEq] at this
    exact this.symm
  have htwin : ∀ i ≤ k, (t i).subject = (c i).subject ∧ (t i).spki = (c i).spki := by
    intro i hi
    rcases h.twin i hi with heq | heq
    · rw [heq]
      exact ⟨rfl, rfl⟩
    · exact heq.2
  have htmem : ∀ i ≤ k, t i ∈ caBag (s :: rest) := h.mem.2
  -- The last index at which the path is at a twin of the signer.
  let j := Nat.findGreatest (fun i => s.sameKey (t i) = true) k
  have hjk : j ≤ k := Nat.findGreatest_le k
  have hj : s.sameKey (t j) = true :=
    Nat.findGreatest_spec (P := fun i => s.sameKey (t i) = true) (Nat.zero_le k)
      (Node.sameKey_iff.mpr (hc0 ▸ htwin 0 (Nat.zero_le k)))
  have hlast : ∀ i, j < i → i ≤ k → s.sameKey (t i) ≠ true := fun i hji hik =>
    Nat.findGreatest_is_greatest hji hik
  refine ⟨k - j, fun i => t (j + i), ?_, ?_, ?_, ?_, ?_, ?_⟩
  · exact ⟨s, rfl, Node.sameKey_iff.mp hj⟩
  · intro i hi
    exact (mem_caBag.mp (htmem (j + i) (by omega))).1
  · intro i hi
    obtain ⟨-, -, hname, hsig⟩ := h.climb (j + i) (by omega)
    obtain ⟨hsub, hspki⟩ := htwin (j + i + 1) (by omega)
    exact ⟨hsub.trans hname, (Node.signedBy_congr hspki).trans hsig⟩
  · intro i hi
    exact h.valid (j + i) (by omega)
  · intro i hi hpos
    rcases (mem_caBag.mp (htmem (j + i) (by omega))).2 with hca | hsame
    · exact hca
    · exact absurd hsame (hlast (j + i) (by omega) (by omega))
  · have hend : j + (k - j) = k := by omega
    rw [hend]
    exact h.anchored

/-- A path through certificate authorities exists exactly when the restricted bag
has a signer path, of any length. -/
theorem exists_caPath_iff :
    (∃ n p, CaPath crates bag anchors now n p) ↔
      ∃ k c t, SignerPath crates (caBag bag) anchors now k c t := by
  constructor
  · rintro ⟨n, p, h⟩
    exact ⟨n, h.signerPath⟩
  · rintro ⟨k, c, t, h⟩
    exact h.caPath

end

/-- The certificates a successful anchoring has parsed. -/
theorem exists_nodes_of_anchorSigner {crates : Crates} {chain known : List Certificate}
    {now : UInt64} (h : anchorSigner crates chain known now = .ok ()) :
    ∃ bag anchors, chain.mapM (Node.new crates) = .ok bag ∧
      known.mapM (Node.new crates) = .ok anchors := by
  obtain ⟨bag, hbag, h⟩ := except_bind_eq_ok.mp h
  obtain ⟨anchors, hanchors, -⟩ := except_bind_eq_ok.mp h
  exact ⟨bag, anchors, hbag, hanchors⟩

/-- Acceptance means a path through certificate authorities exactly when there is no
signer path at all, or there is one once the certificates that are neither a CA nor
a twin of the signer are dropped from the bag. -/
theorem anchorSigner_caPath_iff (crates : Crates) (chain known : List Certificate) (now : UInt64) :
    (anchorSigner crates chain known now = .ok () →
      ∃ bag anchors, chain.mapM (Node.new crates) = .ok bag ∧
        known.mapM (Node.new crates) = .ok anchors ∧
        ∃ n p, CaPath crates bag anchors now n p) ↔
    ∀ bag anchors, chain.mapM (Node.new crates) = .ok bag →
      known.mapM (Node.new crates) = .ok anchors →
      (¬∃ k ≤ maxPathDepth, ∃ c t, SignerPath crates bag anchors now k c t) ∨
        ∃ k c t, SignerPath crates (caBag bag) anchors now k c t := by
  constructor
  · intro h bag anchors hbag hanchors
    by_cases hok : anchorSigner crates chain known now = .ok ()
    · obtain ⟨bag', anchors', hbag', hanchors', hpath⟩ := h hok
      rw [hbag] at hbag'
      rw [hanchors] at hanchors'
      cases hbag'
      cases hanchors'
      exact .inr (exists_caPath_iff.mp hpath)
    · exact .inl fun hpath => hok ((anchorSigner_eq_ok hbag hanchors).mpr hpath)
  · intro h hok
    obtain ⟨bag, anchors, hbag, hanchors⟩ := exists_nodes_of_anchorSigner hok
    refine ⟨bag, anchors, hbag, hanchors, exists_caPath_iff.mpr ?_⟩
    exact (h bag anchors hbag hanchors).resolve_left fun hno =>
      hno ((anchorSigner_eq_ok hbag hanchors).mp hok)

/-! ## A twin that is not a certificate authority -/

/-- A subscriber, a CA `intermediate` that no pinned root has issued, and a
certificate for the same name and key that the root has issued without cA=TRUE. -/
def twinChain : List Certificate :=
  [Testca.subscriber, Testca.certificate "intermediate" "elsewhere" 2 9 true,
    Testca.certificate "intermediate" "root" 2 1 false]

/-- The nodes of certificates that encode. -/
def nodes (crates : Crates) (certs : List Certificate) : List Node :=
  match certs.mapM (Node.new crates) with
  | .ok ns => ns
  | .error _ => []

/-- The chain is anchored, and no path through certificate authorities anchors it. -/
theorem twinChain_anchored_without_caPath :
    anchorSigner (Testca.crates []) twinChain [Testca.root] 5000 = .ok () ∧
    ¬∃ bag anchors, twinChain.mapM (Node.new (Testca.crates [])) = .ok bag ∧
      [Testca.root].mapM (Node.new (Testca.crates [])) = .ok anchors ∧
      ∃ n p, CaPath (Testca.crates []) bag anchors 5000 n p := by
  refine ⟨by decide, ?_⟩
  rintro ⟨bag, anchors, hbag, hanchors, n, p, h⟩
  obtain rfl : nodes (Testca.crates []) twinChain = bag := Except.ok.inj hbag
  obtain rfl : nodes (Testca.crates []) [Testca.root] = anchors := Except.ok.inj hanchors
  have hsigner : ∀ m ∈ nodes (Testca.crates []) twinChain,
      ∀ s ∈ (nodes (Testca.crates []) twinChain).head?, m.subject = s.subject → m.spki = s.spki →
        m.anchored (Testca.crates []) (nodes (Testca.crates []) [Testca.root]) = false ∧
          m.issuer = Testca.nameDer (Testca.name "intermediate") := by decide
  have hissuer : ∀ m ∈ nodes (Testca.crates []) twinChain,
      m.subject = Testca.nameDer (Testca.name "intermediate") → m.isCa = true →
        m.anchored (Testca.crates []) (nodes (Testca.crates []) [Testca.root]) = false ∧
          m.issuer = Testca.nameDer (Testca.name "elsewhere") := by decide
  have helsewhere : ∀ m ∈ nodes (Testca.crates []) twinChain,
      m.subject ≠ Testca.nameDer (Testca.name "elsewhere") := by decide
  obtain ⟨s, hs, hsub, hspki⟩ := h.start
  obtain ⟨hopen, hname⟩ := hsigner (p 0) (h.mem 0 (by omega)) s hs hsub hspki
  cases n with
  | zero => rw [h.anchored] at hopen; cases hopen
  | succ n =>
    obtain ⟨hopen, hname⟩ := hissuer (p 1) (h.mem 1 (by omega))
      ((h.issuer 0 (by omega)).1.trans hname) (h.ca 1 (by omega) le_rfl)
    cases n with
    | zero => rw [h.anchored] at hopen; cases hopen
    | succ n =>
      exact helsewhere (p 2) (h.mem 2 (by omega)) ((h.issuer 1 (by omega)).1.trans hname)

end Ayane.Cli
