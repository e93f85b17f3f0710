import Ayane.Cli.Httpsig
import Ayane.Lib.Backtrack
import Ayane.Testca

/-!
# What the anchor search decides

`SignerPath` is the specification of anchoring: a path of at most so many climbs
from the signer to a pinned certificate, where a certificate may be replaced by a
twin at every stage. The search of the client is compared with it. It is sound
because every branch that returns `true` has walked such a path, and complete
because a shortest path never repeats the class of a certificate, so that no edge
of it is cut off by the edges already on the current path.
-/

namespace Ayane.Cli

open Backtrack Effect

/-- `c 0, …, c k` are the certificates a path climbs to, and `t 0, …, t k` the
certificates it continues from: the same, or twins of them. -/
structure SignerPath (crates : Crates) (bag anchors : List Node) (now : UInt64) (k : ℕ)
    (c t : ℕ → Node) : Prop where
  signer : bag.head? = some (c 0)
  twin : ∀ i ≤ k, t i = c i ∨ t i ∈ bag ∧ (t i).subject = (c i).subject ∧ (t i).spki = (c i).spki
  valid : ∀ i ≤ k, (t i).temporallyValid now = true
  climb : ∀ i < k, c (i + 1) ∈ bag ∧ (c (i + 1)).isCa = true ∧
    (c (i + 1)).subject = (t i).issuer ∧ (t i).signedBy crates (c (i + 1)) = true
  anchored : (t k).anchored crates anchors = true

/-- The path problem the search solves, on references into the bag. -/
def pathProblem (crates : Crates) (bag : List NodeRef) (anchors : List Node) (now : UInt64) :
    Problem NodeRef (Bytes × Bytes) where
  cls n := (n.1.subject, n.1.spki)
  live n := n ∈ bag ∧ n.1.temporallyValid now = true
  goal n := n.1.anchored crates anchors = true
  climb t n := n ∈ issuers crates bag t.1

section Search

variable {crates : Crates} {bag : List NodeRef} {anchors : List Node} {now : UInt64}

/-! ## The loops restore the path they started with -/

theorem tryTwin_of_invalid {climb : NodeRef → StateM (List Edge) Bool} {t : NodeRef}
    (h : t.1.temporallyValid now = false) (visited : List Edge) :
    (tryTwin crates bag anchors now climb t).run visited = (false, visited) := by
  simp [tryTwin, h]
  rfl

theorem tryTwin_of_visited {climb : NodeRef → StateM (List Edge) Bool} {t : NodeRef}
    {visited : List Edge} (h : t.1.edge ∈ visited) :
    (tryTwin crates bag anchors now climb t).run visited = (false, visited) := by
  unfold tryTwin
  cases hv : t.1.temporallyValid now with
  | false => rfl
  | true =>
    simp only [if_true, StateT.run_bind]
    change (if t.1.edge ∈ visited then _ else _ : StateM (List Edge) Bool).run visited = _
    rw [if_pos h]
    rfl

theorem tryTwin_of_anchored {climb : NodeRef → StateM (List Edge) Bool} {t : NodeRef}
    {visited : List Edge} (hv : t.1.temporallyValid now = true) (he : t.1.edge ∉ visited)
    (h : t.1.anchored crates anchors = true) :
    (tryTwin crates bag anchors now climb t).run visited = (true, visited) := by
  unfold tryTwin
  simp only [hv, if_true, StateT.run_bind]
  change (if t.1.edge ∈ visited then _ else _ : StateM (List Edge) Bool).run visited = _
  rw [if_neg he, if_pos h]
  rfl

/-- Past the checks the twin climbs with its own edge pushed on the path. -/
theorem tryTwin_of_open {climb : NodeRef → StateM (List Edge) Bool} {t : NodeRef}
    {visited : List Edge} (hv : t.1.temporallyValid now = true) (he : t.1.edge ∉ visited)
    (h : t.1.anchored crates anchors = false) :
    (tryTwin crates bag anchors now climb t).run visited =
      let r := ((issuers crates bag t.1).anyM climb).run (visited ++ [t.1.edge])
      if r.1 then (true, r.2) else (false, r.2.dropLast) := by
  unfold tryTwin
  simp only [hv, if_true, StateT.run_bind]
  change (if t.1.edge ∈ visited then _ else _ : StateM (List Edge) Bool).run visited = _
  rw [if_neg he, if_neg (by simp [h])]
  cases hr : ((issuers crates bag t.1).anyM climb).run (visited ++ [t.1.edge]) with
  | mk found path =>
    change (match ((issuers crates bag t.1).anyM climb).run (visited ++ [t.1.edge]) with
      | (b, p) => (if b then pure true else _ : StateM (List Edge) Bool).run p) = _
    rw [hr]
    cases found <;> rfl

theorem restores_tryTwin {climb : NodeRef → StateM (List Edge) Bool}
    (hclimb : ∀ n, Restores (climb n)) (t : NodeRef) :
    Restores (tryTwin crates bag anchors now climb t) := by
  intro visited hfalse
  cases hv : t.1.temporallyValid now with
  | false => rw [tryTwin_of_invalid hv]
  | true =>
    by_cases he : t.1.edge ∈ visited
    · rw [tryTwin_of_visited he]
    · cases ha : t.1.anchored crates anchors with
      | true =>
        rw [tryTwin_of_anchored hv he ha] at hfalse
        cases hfalse
      | false =>
        have hrestores := @restores_anyM _ _ climb (issuers crates bag t.1) fun n _ => hclimb n
        rw [tryTwin_of_open hv he ha] at hfalse ⊢
        cases hr : (((issuers crates bag t.1).anyM climb).run (visited ++ [t.1.edge])).1 with
        | true => simp [hr] at hfalse
        | false => simp [hr, hrestores _ hr]

theorem restores_reachesAnchor (calls : ℕ) (cert : NodeRef) :
    Restores (reachesAnchor crates bag anchors now calls cert) := by
  induction calls generalizing cert with
  | zero => exact restores_pure false
  | succ calls ih => exact restores_anyM _ fun t _ => restores_tryTwin ih t

/-- When a twin succeeds: it is valid, its edge is new, and it is anchored or climbs. -/
theorem tryTwin_eq_true {climb : NodeRef → StateM (List Edge) Bool}
    (hclimb : ∀ n, Restores (climb n)) (t : NodeRef) (visited : List Edge) :
    ((tryTwin crates bag anchors now climb t).run visited).1 = true ↔
      t.1.temporallyValid now = true ∧ t.1.edge ∉ visited ∧
        (t.1.anchored crates anchors = true ∨
          ∃ n ∈ issuers crates bag t.1, ((climb n).run (visited ++ [t.1.edge])).1 = true) := by
  cases hv : t.1.temporallyValid now with
  | false => simp [tryTwin_of_invalid hv]
  | true =>
    by_cases he : t.1.edge ∈ visited
    · simp [tryTwin_of_visited he, he]
    · cases ha : t.1.anchored crates anchors with
      | true => simp [tryTwin_of_anchored hv he ha, he]
      | false =>
        rw [tryTwin_of_open hv he ha,
          ← anyM_eq_true climb (fun n _ => hclimb n) (visited ++ [t.1.edge])]
        cases hr : (((issuers crates bag t.1).anyM climb).run (visited ++ [t.1.edge])).1 <;>
          simp [hr, he]

theorem reachesAnchor_succ_eq_true (calls : ℕ) (cert : NodeRef) (visited : List Edge) :
    ((reachesAnchor crates bag anchors now (calls + 1) cert).run visited).1 = true ↔
      ∃ t ∈ twins bag cert,
        ((tryTwin crates bag anchors now (reachesAnchor crates bag anchors now calls) t).run
          visited).1 = true :=
  anyM_eq_true _ (fun t _ => restores_tryTwin (restores_reachesAnchor calls) t) visited

/-! ## Soundness -/

theorem mem_twins {cert t : NodeRef} (hcert : cert ∈ bag) (h : t ∈ twins bag cert) :
    t ∈ bag ∧ (t.1.subject, t.1.spki) = (cert.1.subject, cert.1.spki) := by
  rcases List.mem_cons.mp h with rfl | h
  · exact ⟨hcert, rfl⟩
  · simp only [List.mem_filter, Bool.and_eq_true, beq_iff_eq] at h
    exact ⟨h.1, by rw [h.2.1.2, h.2.2]⟩

theorem mem_bag_of_mem_issuers {t : Node} {n : NodeRef} (h : n ∈ issuers crates bag t) : n ∈ bag :=
  (List.mem_filter.mp h).1

/-- A search that returns `true` has climbed fewer times than the calls it was allowed. -/
theorem reaches_of_reachesAnchor {calls : ℕ} {cert : NodeRef} (hcert : cert ∈ bag)
    {visited : List Edge}
    (h : ((reachesAnchor crates bag anchors now calls cert).run visited).1 = true) :
    ∃ k < calls, Reaches (pathProblem crates bag anchors now) k cert := by
  induction calls generalizing cert visited with
  | zero => cases h
  | succ calls ih =>
    obtain ⟨t, ht, htrue⟩ := (reachesAnchor_succ_eq_true calls cert visited).mp h
    obtain ⟨htbag, hcls⟩ := mem_twins hcert ht
    obtain ⟨hv, -, hgoal | ⟨n, hn, hclimb⟩⟩ :=
      (tryTwin_eq_true (restores_reachesAnchor calls) t visited).mp htrue
    · exact ⟨0, by omega, .here hcls ⟨htbag, hv⟩ hgoal⟩
    · obtain ⟨k, hk, hreach⟩ := ih (mem_bag_of_mem_issuers hn) hclimb
      exact ⟨k + 1, by omega, .climb hcls ⟨htbag, hv⟩ hn hreach⟩

/-! ## Completeness -/

/-- No class on the current path reaches a goal within `k` climbs. -/
def Clean (crates : Crates) (bag : List NodeRef) (anchors : List Node) (now : UInt64) (k : ℕ)
    (visited : List Edge) : Prop :=
  ∀ e ∈ visited, ∀ n : NodeRef, (n.1.subject, n.1.spki) = (e.1, e.2.1) →
    ∀ j ≤ k, ¬ Reaches (pathProblem crates bag anchors now) j n

theorem Clean.not_mem {k : ℕ} {visited : List Edge} {cert t : NodeRef}
    (h : Clean crates bag anchors now k visited)
    (hreach : Reaches (pathProblem crates bag anchors now) k cert)
    (hcls : (t.1.subject, t.1.spki) = (cert.1.subject, cert.1.spki)) : t.1.edge ∉ visited := by
  intro hmem
  exact h t.1.edge hmem cert hcls.symm k le_rfl hreach

/-- Pushing the edge of a certificate of rank `k + 1` leaves the path clean for `k`. -/
theorem Clean.push {k : ℕ} {visited : List Edge} {cert t : NodeRef}
    (h : Clean crates bag anchors now (k + 1) visited)
    (hrank : IsRank (pathProblem crates bag anchors now) (k + 1) cert)
    (hcls : (t.1.subject, t.1.spki) = (cert.1.subject, cert.1.spki)) :
    Clean crates bag anchors now k (visited ++ [t.1.edge]) := by
  intro e he n hn j hj hreach
  rcases List.mem_append.mp he with he | he
  · exact h e he n hn j (by omega) hreach
  · rw [List.mem_singleton] at he
    subst he
    exact hrank.2 j (by omega) (hreach.congr (hn.trans hcls))

theorem mem_twins_of_cls (hbag : ∀ a ∈ bag, ∀ b ∈ bag, a.2 = b.2 → a = b) {cert t : NodeRef}
    (hcert : cert ∈ bag) (ht : t ∈ bag)
    (hcls : (t.1.subject, t.1.spki) = (cert.1.subject, cert.1.spki)) : t ∈ twins bag cert := by
  by_cases hptr : t.2 = cert.2
  · rw [hbag t ht cert hcert hptr]
    exact List.mem_cons_self
  · obtain ⟨hsub, hspki⟩ := Prod.mk.inj hcls
    refine List.mem_cons_of_mem _ (List.mem_filter.mpr ⟨ht, ?_⟩)
    simp [hptr, hsub, hspki]

/-- The search finds a goal that is fewer climbs away than the calls it is allowed. The
induction is on the rank: along a shortest path it falls at every climb, so the classes
already on the path, all of higher rank, are never met again. -/
theorem reachesAnchor_of_rank (hbag : ∀ a ∈ bag, ∀ b ∈ bag, a.2 = b.2 → a = b) {k calls : ℕ}
    {cert : NodeRef} (hcert : cert ∈ bag)
    (hrank : IsRank (pathProblem crates bag anchors now) k cert) (hk : k < calls)
    {visited : List Edge} (hclean : Clean crates bag anchors now k visited) :
    ((reachesAnchor crates bag anchors now calls cert).run visited).1 = true := by
  induction k generalizing calls cert visited with
  | zero =>
    obtain ⟨calls, rfl⟩ : ∃ m, calls = m + 1 := ⟨calls - 1, by omega⟩
    cases hrank.1 with
    | @here _ t hcls hlive hgoal =>
      refine (reachesAnchor_succ_eq_true calls cert visited).mpr
        ⟨t, mem_twins_of_cls hbag hcert hlive.1 hcls, ?_⟩
      exact (tryTwin_eq_true (restores_reachesAnchor calls) t visited).mpr
        ⟨hlive.2, hclean.not_mem hrank.1 hcls, .inl hgoal⟩
  | succ k ih =>
    obtain ⟨calls, rfl⟩ : ∃ m, calls = m + 1 := ⟨calls - 1, by omega⟩
    obtain ⟨t, n, hcls, hlive, hclimb, hnext⟩ := hrank.climb
    refine (reachesAnchor_succ_eq_true calls cert visited).mpr
      ⟨t, mem_twins_of_cls hbag hcert hlive.1 hcls, ?_⟩
    refine (tryTwin_eq_true (restores_reachesAnchor calls) t visited).mpr
      ⟨hlive.2, hclean.not_mem hrank.1 hcls, .inr ⟨n, hclimb, ?_⟩⟩
    exact ih (mem_bag_of_mem_issuers hclimb) hnext (by omega) (hclean.push hrank hcls)

/-- From an empty path the search decides whether a goal is fewer climbs away than the
calls it is allowed. -/
theorem reachesAnchor_iff (hbag : ∀ a ∈ bag, ∀ b ∈ bag, a.2 = b.2 → a = b) {cert : NodeRef}
    (hcert : cert ∈ bag) (calls : ℕ) :
    ((reachesAnchor crates bag anchors now calls cert).run []).1 = true ↔
      ∃ k < calls, Reaches (pathProblem crates bag anchors now) k cert := by
  constructor
  · exact reaches_of_reachesAnchor hcert
  · rintro ⟨k, hk, hreach⟩
    obtain ⟨j, hj, hrank⟩ := hreach.exists_rank
    exact reachesAnchor_of_rank hbag hcert hrank (by omega) fun e he => by simp at he

end Search

/-! ## From references to certificates -/

section References

variable {crates : Crates} {bag anchors : List Node} {now : UInt64}

theorem eq_of_index_eq {a b : NodeRef} (ha : a ∈ bag.zipIdx) (hb : b ∈ bag.zipIdx)
    (h : a.2 = b.2) : a = b := by
  obtain ⟨x, i⟩ := a
  obtain ⟨y, j⟩ := b
  simp only at h
  subst h
  have hx := List.mem_zipIdx' ha
  have hy := List.mem_zipIdx' hb
  rw [hx.2, hy.2]

theorem exists_ref {n : Node} (h : n ∈ bag) : ∃ i, (n, i) ∈ bag.zipIdx := by
  obtain ⟨i, hi, rfl⟩ := List.getElem_of_mem h
  exact ⟨i, List.mk_mem_zipIdx_iff_getElem?.mpr (by simp [hi])⟩

theorem node_mem_of_ref {a : NodeRef} (h : a ∈ bag.zipIdx) : a.1 ∈ bag :=
  (List.mem_zipIdx' h).2 ▸ List.getElem_mem _

/-- A walk of the search problem from the signer is a signer path. -/
theorem signerPath_of_walk {k : ℕ} {c t : ℕ → NodeRef} (hhead : bag.zipIdx.head? = some (c 0))
    (w : Walk (pathProblem crates bag.zipIdx anchors now) k c t) :
    SignerPath crates bag anchors now k (fun i => (c i).1) (fun i => (t i).1) where
  signer := by
    cases bag with
    | nil => cases hhead
    | cons n bag =>
      rw [List.zipIdx_cons, List.head?_cons, Option.some.injEq] at hhead
      simp [← hhead]
  twin i hi := .inr ⟨node_mem_of_ref (w.live i hi).1, (Prod.mk.inj (w.twin i hi)).1,
    (Prod.mk.inj (w.twin i hi)).2⟩
  valid i hi := (w.live i hi).2
  climb i hi := by
    obtain ⟨hmem, h⟩ := List.mem_filter.mp (w.climb i hi)
    simp only [Bool.and_eq_true, beq_iff_eq] at h
    exact ⟨node_mem_of_ref hmem, h.1.1, h.1.2, h.2⟩
  anchored := w.goal

/-- The certificates of a signer path all lie in the bag. -/
theorem SignerPath.mem {k : ℕ} {c t : ℕ → Node} (p : SignerPath crates bag anchors now k c t) :
    (∀ i ≤ k, c i ∈ bag) ∧ ∀ i ≤ k, t i ∈ bag := by
  have hc : ∀ i ≤ k, c i ∈ bag := by
    intro i hi
    cases i with
    | zero => exact List.mem_of_mem_head? p.signer
    | succ i => exact (p.climb i (by omega)).1
  refine ⟨hc, fun i hi => ?_⟩
  rcases p.twin i hi with h | h
  · exact h ▸ hc i hi
  · exact h.1

/-- A signer path is a walk of the search problem, on references to its certificates. -/
theorem SignerPath.walk {k : ℕ} {c t : ℕ → Node} (p : SignerPath crates bag anchors now k c t) :
    ∃ c' t' : ℕ → NodeRef, bag.zipIdx.head? = some (c' 0) ∧
      Walk (pathProblem crates bag.zipIdx anchors now) k c' t' := by
  classical
  obtain ⟨hc, ht⟩ := p.mem
  -- The signer is the reference with index 0; any index does for the others.
  let ref : ℕ → Node → NodeRef := fun i n =>
    if i = 0 then (n, 0) else if h : n ∈ bag then (n, (exists_ref h).choose) else (n, 0)
  have href : ∀ i n, (ref i n).1 = n := by
    intro i n
    by_cases hi : i = 0
    · simp [ref, hi]
    · by_cases hn : n ∈ bag <;> simp [ref, hi, hn]
  have hmem : ∀ i n, i ≠ 0 → n ∈ bag → ref i n ∈ bag.zipIdx := by
    intro i n hi hn
    simpa [ref, hi, hn] using (exists_ref hn).choose_spec
  refine ⟨fun i => ref i (c i), fun i => ref 1 (t i), ?_, ?_, ?_, ?_, ?_⟩
  · cases hbag : bag with
    | nil => have := p.signer; rw [hbag] at this; cases this
    | cons n rest =>
      have := p.signer
      rw [hbag, List.head?_cons, Option.some.injEq] at this
      simp [ref, this]
  · intro i hi
    have h : (t i).subject = (c i).subject ∧ (t i).spki = (c i).spki := by
      rcases p.twin i hi with h | h
      · rw [h]
        exact ⟨rfl, rfl⟩
      · exact h.2
    simp only [pathProblem, href, h.1, h.2]
  · intro i hi
    refine ⟨hmem 1 (t i) (by omega) (ht i hi), ?_⟩
    rw [href]
    exact p.valid i hi
  · intro i hi
    obtain ⟨hmemc, hca, hsub, hsig⟩ := p.climb i hi
    refine List.mem_filter.mpr ⟨hmem (i + 1) _ (by omega) hmemc, ?_⟩
    simp only [href, hca, hsub, hsig, beq_self_eq_true, Bool.and_self]
  · have h := p.anchored
    rw [← href 1 (t k)] at h
    exact h

/-- Reaching a goal from the signer is having a signer path. -/
theorem reaches_signer_iff {signer : NodeRef} {rest : List NodeRef}
    (hbag : bag.zipIdx = signer :: rest) (k : ℕ) :
    Reaches (pathProblem crates bag.zipIdx anchors now) k signer ↔
      ∃ c t, SignerPath crates bag anchors now k c t := by
  have hhead : bag.zipIdx.head? = some signer := by rw [hbag]; rfl
  constructor
  · intro h
    obtain ⟨c, t, rfl, w⟩ := h.walk
    exact ⟨_, _, signerPath_of_walk hhead w⟩
  · rintro ⟨c, t, p⟩
    obtain ⟨c', t', hhead', w⟩ := p.walk
    rw [hhead, Option.some.injEq] at hhead'
    exact hhead' ▸ w.reaches

end References

/-- When anchoring succeeds, for certificates that encode. -/
theorem anchorSigner_eq_ok {crates : Crates} {chain known : List Certificate} {now : UInt64}
    {bag anchors : List Node} (hbag : chain.mapM (Node.new crates) = .ok bag)
    (hanchors : known.mapM (Node.new crates) = .ok anchors) :
    anchorSigner crates chain known now = .ok () ↔
      ∃ k ≤ maxPathDepth, ∃ c t, SignerPath crates bag anchors now k c t := by
  unfold anchorSigner
  rw [hbag, hanchors]
  simp only [bind, Except.bind]
  cases hrefs : bag.zipIdx with
  | nil =>
    have hnil : bag = [] := by simpa using congrArg List.length hrefs
    subst hnil
    simp only [reduceCtorEq, false_iff]
    rintro ⟨k, -, c, t, p⟩
    cases p.signer
  | cons signer rest =>
    have hmem : signer ∈ bag.zipIdx := by rw [hrefs]; exact List.mem_cons_self
    have hptr : ∀ a ∈ bag.zipIdx, ∀ b ∈ bag.zipIdx, a.2 = b.2 → a = b := fun a ha b hb =>
      eq_of_index_eq ha hb
    have hiff := @reachesAnchor_iff crates bag.zipIdx anchors now hptr signer hmem (maxPathDepth + 1)
    rw [hrefs] at hiff
    have hpath : (∃ k < maxPathDepth + 1,
        Reaches (pathProblem crates (signer :: rest) anchors now) k signer) ↔
        ∃ k ≤ maxPathDepth, ∃ c t, SignerPath crates bag anchors now k c t := by
      constructor
      · rintro ⟨k, hk, h⟩
        exact ⟨k, by omega, (reaches_signer_iff hrefs k).mp (hrefs ▸ h)⟩
      · rintro ⟨k, hk, h⟩
        exact ⟨k, by omega, hrefs ▸ (reaches_signer_iff hrefs k).mpr h⟩
    rw [← hpath, ← hiff]
    split <;> simp_all

/-! ## Order and repetition -/

theorem Node.anchored_mono {crates : Crates} {anchors anchors' : List Node} {n : Node}
    (h : ∀ a ∈ anchors, a ∈ anchors') (ha : n.anchored crates anchors = true) :
    n.anchored crates anchors' = true := by
  simp only [Node.anchored, Bool.or_eq_true, List.any_eq_true] at ha ⊢
  rcases ha with ⟨a, hmem, heq⟩ | ⟨a, hmem, heq⟩
  · exact .inl ⟨a, h a hmem, heq⟩
  · exact .inr ⟨a, h a hmem, heq⟩

/-- A signer path stays one in a larger bag with the same signer. -/
theorem SignerPath.mono {crates : Crates} {bag bag' anchors anchors' : List Node} {now : UInt64}
    {k : ℕ} {c t : ℕ → Node} (p : SignerPath crates bag anchors now k c t)
    (hhead : bag'.head? = bag.head?) (hbag : ∀ n ∈ bag, n ∈ bag')
    (hanchors : ∀ a ∈ anchors, a ∈ anchors') : SignerPath crates bag' anchors' now k c t where
  signer := hhead.trans p.signer
  twin i hi := (p.twin i hi).imp_right fun ⟨hmem, h⟩ => ⟨hbag _ hmem, h⟩
  valid := p.valid
  climb i hi := ⟨hbag _ (p.climb i hi).1, (p.climb i hi).2⟩
  anchored := Node.anchored_mono hanchors p.anchored

/-- Anchoring succeeds or reports that there is no path; it has no other outcome. -/
theorem anchorSigner_eq_error {crates : Crates} {signer : Certificate} {tail known : List Certificate}
    {now : UInt64} {bag anchors : List Node}
    (hbag : (signer :: tail).mapM (Node.new crates) = .ok bag)
    (hanchors : known.mapM (Node.new crates) = .ok anchors)
    (h : anchorSigner crates (signer :: tail) known now ≠ .ok ()) :
    anchorSigner crates (signer :: tail) known now =
      .error "signer chain does not anchor to the pinned root bundle" := by
  obtain ⟨n, rest, -, -, rfl⟩ := mapM_cons_eq_ok.mp hbag
  unfold anchorSigner at h ⊢
  rw [hbag, hanchors] at h ⊢
  simp only [bind, Except.bind, List.zipIdx_cons] at h ⊢
  split
  · rename_i htrue
    exact absurd (by rw [if_pos htrue]) h
  · rfl

/-- A traversal of the same elements has the same results. -/
theorem mem_nodes_congr {crates : Crates} {certs certs' : List Certificate}
    {nodes nodes' : List Node} (hnodes : certs.mapM (Node.new crates) = .ok nodes)
    (hnodes' : certs'.mapM (Node.new crates) = .ok nodes') (h : ∀ x, x ∈ certs' ↔ x ∈ certs)
    (n : Node) : n ∈ nodes' ↔ n ∈ nodes := by
  rw [mem_of_mapM hnodes, mem_of_mapM hnodes']
  simp only [h]

/-- The anchor search decides the existence of a signer path, so the order and the
repetition of the other certificates do not matter. -/
theorem anchorSigner_complete {crates : Crates} {signer : Certificate}
    {tail known : List Certificate} {now : UInt64} {bag anchors : List Node}
    (hbag : (signer :: tail).mapM (Node.new crates) = .ok bag)
    (hanchors : known.mapM (Node.new crates) = .ok anchors) :
    (anchorSigner crates (signer :: tail) known now = .ok () ↔
      ∃ k ≤ maxPathDepth, ∃ c t, SignerPath crates bag anchors now k c t) ∧
    ∀ tail' known', (∀ x, x ∈ tail' ↔ x ∈ tail) → (∀ x, x ∈ known' ↔ x ∈ known) →
      anchorSigner crates (signer :: tail') known' now =
        anchorSigner crates (signer :: tail) known now := by
  refine ⟨anchorSigner_eq_ok hbag hanchors, fun tail' known' htail hknown => ?_⟩
  have hchain : ∀ x, x ∈ signer :: tail' ↔ x ∈ signer :: tail := by
    intro x
    rw [List.mem_cons, List.mem_cons, htail]
  obtain ⟨bag', hbag'⟩ : ∃ ys, (signer :: tail').mapM (Node.new crates) = .ok ys :=
    exists_mapM fun x hx => exists_of_mapM hbag ((hchain x).mp hx)
  obtain ⟨anchors', hanchors'⟩ : ∃ ys, known'.mapM (Node.new crates) = .ok ys :=
    exists_mapM fun x hx => exists_of_mapM hanchors ((hknown x).mp hx)
  have hhead : bag'.head? = bag.head? := by
    obtain ⟨n, rest, hn, -, rfl⟩ := mapM_cons_eq_ok.mp hbag
    obtain ⟨n', rest', hn', -, rfl⟩ := mapM_cons_eq_ok.mp hbag'
    rw [hn] at hn'
    cases hn'
    rfl
  have hmem := mem_nodes_congr hbag hbag' hchain
  have hmemk := mem_nodes_congr hanchors hanchors' hknown
  have hiff : anchorSigner crates (signer :: tail') known' now = .ok () ↔
      anchorSigner crates (signer :: tail) known now = .ok () := by
    rw [anchorSigner_eq_ok hbag hanchors, anchorSigner_eq_ok hbag' hanchors']
    constructor
    · rintro ⟨k, hk, c, t, p⟩
      exact ⟨k, hk, c, t, p.mono hhead.symm (fun n => (hmem n).mp) fun a => (hmemk a).mp⟩
    · rintro ⟨k, hk, c, t, p⟩
      exact ⟨k, hk, c, t, p.mono hhead (fun n => (hmem n).mpr) fun a => (hmemk a).mpr⟩
  by_cases hok : anchorSigner crates (signer :: tail) known now = .ok ()
  · rw [hok, hiff.mpr hok]
  · rw [anchorSigner_eq_error hbag hanchors hok,
      anchorSigner_eq_error hbag' hanchors' fun h => hok (hiff.mp h)]

/-- A subscriber below the issuing certificate of a two-tier CA, at instant 5000. -/
theorem anchorSigner_complete_subscriber :
    ∃ bag anchors,
      [Testca.subscriber, Testca.intermediate].mapM (Node.new (Testca.crates [])) = .ok bag ∧
      [Testca.root].mapM (Node.new (Testca.crates [])) = .ok anchors ∧
      ∃ k ≤ maxPathDepth, ∃ c t, SignerPath (Testca.crates []) bag anchors 5000 k c t := by
  have hok : anchorSigner (Testca.crates []) [Testca.subscriber, Testca.intermediate]
      [Testca.root] 5000 = .ok () := by decide
  obtain ⟨bag, hbag⟩ : ∃ bag, [Testca.subscriber, Testca.intermediate].mapM
      (Node.new (Testca.crates [])) = .ok bag := ⟨_, rfl⟩
  obtain ⟨anchors, hanchors⟩ : ∃ anchors, [Testca.root].mapM
      (Node.new (Testca.crates [])) = .ok anchors := ⟨_, rfl⟩
  exact ⟨bag, anchors, hbag, hanchors, (anchorSigner_complete hbag hanchors).1.mp hok⟩

end Ayane.Cli
