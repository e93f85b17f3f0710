import Ayane.Cli.Renew

/-!
# The pace of the renewal loop

Every iteration reads the certificate anew, so the loop keeps to the schedule of the
certificate it was given last as long as that is written where it reads. With another `--out`
it reads the old certificate again, which is due already, and renews without a pause.
-/

namespace Ayane.Cli

open Effect

/-- The blocks of a text come first among those of a longer one. -/
def ReadsInOrder (crates : Crates) : Prop :=
  ∀ b b' blocks blocks', crates.pemParseMany b = .ok blocks →
    crates.pemParseMany (b ++ b') = .ok blocks' → blocks <+: blocks'

/-- Text that follows a certificate does not change its window. -/
theorem certWindow_append {crates : Crates} (hreads : ReadsInOrder crates) {pem rest : String}
    {window window' : SystemTime × SystemTime} (h : certWindow crates pem = .ok window)
    (h' : certWindow crates (pem ++ rest) = .ok window') : window = window' := by
  obtain ⟨blocks, hblocks, h⟩ := except_bind_eq_ok.mp h
  obtain ⟨blocks', hblocks', h'⟩ := except_bind_eq_ok.mp h'
  rw [utf8_append] at hblocks'
  obtain ⟨more, rfl⟩ := hreads _ _ _ _ hblocks hblocks'
  rw [List.find?_append] at h'
  cases hleaf : blocks.find? fun b => b.tag = "CERTIFICATE" with
  | none =>
    rw [hleaf] at h
    cases h
  | some leaf =>
    rw [hleaf] at h h'
    exact Except.ok.inj (h.symm.trans h')

theorem exists_fullchain_eq (resp : CertificateResponse) :
    ∃ rest, fullchain resp = resp.certificate ++ rest := by
  unfold fullchain endLine
  split
  · exact ⟨_, rfl⟩
  · exact ⟨_, String.append_assoc⟩

namespace RenewLoop

/-- The certificate that the loop was given last. -/
def newest (log : List Event) : Option CertificateResponse :=
  log.findSome? fun
    | .renewed resp => some resp
    | _ => none

/-- A request is sent no earlier than the certificate that the loop was given last is to be renewed,
for some jitter. -/
def Paced (crates : RenewCrates) (loop : RenewLoop) (e : Event) (before : List Event) : Prop :=
  ∀ held now mono resp notBefore notAfter, e = .requested held now mono → newest before = some resp →
    certWindow crates.toCrates resp.certificate = .ok (notBefore, notAfter) →
      ∃ jitter renewAt, Drawn loop.cfg.jitter jitter ∧
        nextRenewal notBefore notAfter loop.cfg jitter = .ok renewAt ∧ renewAt ≤ now

/-- No signal is sent and no file is replaced; the clocks may do anything. -/
def undisturbed : Environment where
  Passes _ _ _ := True
  Replaces _ _ := False
  HangsUp := False

/-- What an iteration has loaded and when it renews. -/
def Phase.pending : Phase → Option (Loaded × SystemTime)
  | .starting held renewAt _ | .due held renewAt | .napping held renewAt _ => some (held.loaded, renewAt)
  | .idle | .requesting _ | .backingOff _ | .ended => none

/-- The iteration has loaded the certificate that the loop was given last, and renews by its
schedule. -/
structure Scheduled (crates : RenewCrates) (loop : RenewLoop) (log : List Event) (loaded : Loaded)
    (renewAt : SystemTime) : Prop where
  window : certWindow crates.toCrates loaded.certPem = .ok (loaded.notBefore, loaded.notAfter)
  newest : ∀ resp, newest log = some resp → loaded.certPem = fullchain resp
  next : ∃ jitter, Drawn loop.cfg.jitter jitter ∧
    nextRenewal loaded.notBefore loaded.notAfter loop.cfg jitter = .ok renewAt

structure Pacing (crates : RenewCrates) (loop : RenewLoop) (s : State) : Prop where
  file : ∀ resp, newest s.log = some resp → s.files loop.certPath = .ok (fullchain resp)
  pending : ∀ loaded renewAt, s.phase.pending = some (loaded, renewAt) →
    Scheduled crates loop s.log loaded renewAt
  explained : Runs.Explained (Paced crates loop) s.log

section

variable {crates : RenewCrates} {loop : RenewLoop} {s s' : State}

theorem context_eq_ok {α : Type} {label : String} {x : Except String α} {a : α} :
    context label x = .ok a ↔ x = .ok a := by
  cases x <;> simp [context]

/-- What is loaded is read from the files, with the window of the certificate. -/
theorem of_load {files : Files} {loaded : Loaded} (h : loop.load crates files = .ok loaded) :
    files loop.certPath = .ok loaded.certPem ∧
      certWindow crates.toCrates loaded.certPem = .ok (loaded.notBefore, loaded.notAfter) := by
  obtain ⟨certPem, hcert, h⟩ := except_bind_eq_ok.mp h
  obtain ⟨keyPem, -, h⟩ := except_bind_eq_ok.mp h
  obtain ⟨key, -, h⟩ := except_bind_eq_ok.mp h
  obtain ⟨window, hwindow, h⟩ := except_bind_eq_ok.mp h
  cases h
  exact ⟨context_eq_ok.mp hcert, hwindow⟩

/-- A step that changes neither files nor log and schedules nothing. -/
theorem Pacing.congr (h : Pacing crates loop s) (hfiles : s'.files = s.files) (hlog : s'.log = s.log)
    (hpending : ∀ p, s'.phase.pending = some p → s.phase.pending = some p) : Pacing crates loop s' := by
  constructor
  · rw [hfiles, hlog]
    exact h.file
  · rw [hlog]
    intro loaded renewAt hphase
    exact h.pending loaded renewAt (hpending _ hphase)
  · rw [hlog]
    exact h.explained

/-- An iteration that has read the files is scheduled. -/
theorem Pacing.loaded (h : Pacing crates loop s) {loaded : Loaded} {jitter : ℕ} {renewAt : SystemTime}
    (hload : loop.load crates s.files = .ok loaded) (hjitter : Drawn loop.cfg.jitter jitter)
    (hnext : nextRenewal loaded.notBefore loaded.notAfter loop.cfg jitter = .ok renewAt)
    (hfiles : s'.files = s.files) (hlog : s'.log = s.log)
    (hphase : s'.phase.pending = some (loaded, renewAt)) : Pacing crates loop s' := by
  obtain ⟨hread, hwindow⟩ := of_load hload
  constructor
  · rw [hfiles, hlog]
    exact h.file
  · rw [hlog]
    intro loaded' renewAt' hphase'
    obtain ⟨rfl, rfl⟩ := Prod.mk.inj (Option.some.inj (hphase.symm.trans hphase'))
    refine ⟨hwindow, fun resp hresp => ?_, jitter, hjitter, hnext⟩
    exact Except.ok.inj (hread.symm.trans (h.file resp hresp))
  · rw [hlog]
    exact h.explained

/-- A request that is sent when the renewal is due keeps the pace. -/
theorem Pacing.requested (hreads : ReadsInOrder crates.toCrates) (h : Pacing crates loop s)
    {held : Held} {renewAt : SystemTime} (hphase : s.phase = .due held renewAt) (hdue : renewAt ≤ s.now) :
    Pacing crates loop (s.request held) := by
  have hscheduled := h.pending held.loaded renewAt (by rw [hphase]; rfl)
  constructor
  · exact h.file
  · intro loaded renewAt' hpending
    cases hpending
  · refine ⟨?_, h.explained⟩
    intro held' now mono resp notBefore notAfter he hresp hwindow
    obtain ⟨-, rfl, -⟩ := Event.requested.inj he
    obtain ⟨jitter, hjitter, hnext⟩ := hscheduled.next
    obtain ⟨rest, hrest⟩ := exists_fullchain_eq resp
    have hfull := hscheduled.window
    rw [hscheduled.newest resp hresp, hrest] at hfull
    obtain ⟨rfl, rfl⟩ := Prod.mk.inj (certWindow_append hreads hwindow hfull)
    exact ⟨jitter, renewAt, hjitter, hnext, hdue⟩

theorem Pacing.renewed (h : Pacing crates loop s) (hout : loop.cfg.out = loop.certPath)
    (resp : CertificateResponse) : Pacing crates loop (s.renewed loop resp) := by
  constructor
  · intro resp' hresp
    obtain rfl := Option.some.inj hresp
    simp only [State.renewed, State.write, hout, Function.update_self]
  · intro loaded renewAt hpending
    cases hpending
  · refine ⟨?_, h.explained⟩
    intro held now mono resp' notBefore notAfter he
    cases he

theorem Pacing.step (hreads : ReadsInOrder crates.toCrates) (hout : loop.cfg.out = loop.certPath)
    (hstep : Step crates loop undisturbed s s') (h : Pacing crates loop s) : Pacing crates loop s' := by
  have hsame {phase : Phase} {p : Loaded × SystemTime} (hphase : s.phase = phase)
      (hp : phase.pending = some p) : s.phase.pending = some p := by rw [hphase]; exact hp
  cases hstep with
  | pass hpasses => exact h.congr rfl rfl fun _ hp => hp
  | replace hreplaces => exact hreplaces.elim
  | startup hphase hload hjitter hnext => exact h.loaded hload hjitter hnext rfl rfl rfl
  | schedule hphase hload hjitter hnext => exact h.loaded hload hjitter hnext rfl rfl rfl
  | startupWake hphase => exact h.congr rfl rfl fun _ hp => hsame hphase hp
  | nap hphase => exact h.congr rfl rfl fun _ hp => hsame hphase hp
  | napWake hphase => exact h.congr rfl rfl fun _ hp => hsame hphase hp
  | request hphase hdue => exact h.requested hreads hphase hdue
  | hangup hphase hsignal => exact hsignal.elim
  | hangupProofFails hphase hsignal => exact hsignal.elim
  | @renewed held resp hphase => exact h.renewed hout resp
  | _ => exact h.congr rfl rfl fun _ hp => by cases hp

theorem pacing_start (now : SystemTime) (files : Files) :
    Pacing crates loop (.start now files) := by
  constructor
  · intro resp hresp
    cases hresp
  · intro loaded renewAt hpending
    cases hpending
  · trivial

end

theorem out_of_new {crates : RenewCrates} {args : RenewArgs} {loop : RenewLoop}
    (h : RenewLoop.new crates args = .ok loop) (hout : ∀ out, args.out = some out → out = args.cert) :
    loop.cfg.out = loop.certPath := by
  obtain ⟨f, -, h⟩ := except_bind_eq_ok.mp h
  obtain ⟨fraction, -, h⟩ := except_bind_eq_ok.mp h
  obtain ⟨before, -, h⟩ := except_bind_eq_ok.mp h
  obtain ⟨jitter, -, h⟩ := except_bind_eq_ok.mp h
  obtain ⟨maxSleep, -, h⟩ := except_bind_eq_ok.mp h
  cases h
  cases harg : args.out with
  | none => simp
  | some out => simp [hout out harg]

/-- A loop that writes where it reads keeps to the schedule of the certificate it was given last. -/
theorem renewals_paced {crates : RenewCrates} (hreads : ReadsInOrder crates.toCrates) {args : RenewArgs}
    {loop : RenewLoop} (hnew : RenewLoop.new crates args = .ok loop)
    (hout : ∀ out, args.out = some out → out = args.cert) {now : SystemTime} {files : Files} {s : State}
    (hrun : Runs.Run (Step crates loop undisturbed) (.start now files) s) :
    Runs.Explained (Paced crates loop) s.log :=
  (Runs.invariant hrun (pacing_start now files) fun _ _ hstep h =>
    h.step hreads (out_of_new hnew hout) hstep).explained

/-! ## A loop that writes elsewhere -/

/-- The texts that are closed by a semicolon, without their line ends. -/
def closedBlocks (read : Bytes) : Bytes → List PemBlock
  | [] => []
  | b :: bs =>
    if b = 59 then ⟨"CERTIFICATE", read⟩ :: closedBlocks [] bs
    else if b = 10 then closedBlocks read bs
    else closedBlocks (read ++ [b]) bs

theorem closedBlocks_prefix (read b b' : Bytes) : closedBlocks read b <+: closedBlocks read (b ++ b') := by
  induction b generalizing read with
  | nil => exact List.nil_prefix
  | cons c b ih =>
    simp only [List.cons_append, closedBlocks]
    split
    · exact (List.prefix_cons_inj _).mpr (ih [])
    · split
      · exact ih read
      · exact ih _

/-- Crates that read two certificates, one until 9000 and one until 16000. -/
def pairCrates : RenewCrates where
  toCrates := { Testca.crates [] with
    pemParseMany := fun b => .ok (closedBlocks [] b)
    der := { Testca.der [] with
      certificateFromDer := fun b =>
        if b = utf8 "old" then .ok Testca.subscriber
        else if b = utf8 "new" then
          .ok (Testca.reissuedLeaf (Testca.date 8000) (Testca.date 16000))
        else .error "unknown certificate" } }
  parseDuration s :=
    if s = "0s" then .ok 0 else if s = "1000s" then .ok (fromSecs 1000)
    else if s = "1h" then .ok (fromSecs 3600) else .error "expected number"
  keyPairFromPem _ := .ok [3]
  makeDpop _ url := .ok url

theorem readsInOrder_pairCrates : ReadsInOrder pairCrates.toCrates := by
  intro b b' blocks blocks' h h'
  cases h
  cases h'
  exact closedBlocks_prefix [] b b'

/-- A loop that renews 1000 seconds before the end. -/
def pairArgs (out : Option String) : RenewArgs where
  url := "https://ca.example"
  cert := "cert.pem"
  key := "key.pem"
  out
  renewFraction := none
  renewBefore := some "1000s"
  jitter := "0s"
  maxSleep := "1h"

def pairLoop (out : Option String) : RenewLoop where
  baseUrl := "https://ca.example"
  certPath := "cert.pem"
  keyPath := "key.pem"
  cfg := {
    fraction := defaultFraction
    renewBefore := some (fromSecs 1000)
    jitter := 0
    maxSleep := fromSecs 3600
    out := out.getD "cert.pem" }

theorem new_pairLoop (out : Option String) :
    RenewLoop.new pairCrates (pairArgs out) = .ok (pairLoop out) := by
  have hfraction : fractionInRange (.finite defaultFraction) = .ok defaultFraction :=
    if_pos (by decide +kernel)
  change (fractionInRange (.finite defaultFraction) >>= _) = _
  rw [hfraction]
  rfl

/-- The old certificate, with the key beside it. -/
def pairFiles : Files := fun path =>
  if path = "cert.pem" then .ok "old;" else if path = "key.pem" then .ok "key" else .error "No such file"

def pairResponse : CertificateResponse := ⟨"new;", [], "7", "16000"⟩

def oldLoaded : Loaded := ⟨"old;", [3], Testca.instant 1000, Testca.instant 9000⟩

def newLoaded : Loaded := ⟨"new;\n", [3], Testca.instant 8000, Testca.instant 16000⟩

theorem load_pair (out : Option String) : (pairLoop out).load pairCrates pairFiles = .ok oldLoaded := by
  rfl

/-- A loop that is due requests a renewal and is given the new certificate. -/
theorem run_renewed {crates : RenewCrates} {loop : RenewLoop} {env : Environment} {s : State}
    {loaded : Loaded} {jitter : ℕ} {renewAt : SystemTime} {dpop : String} (hphase : s.phase = .idle)
    (hload : loop.load crates s.files = .ok loaded) (hjitter : Drawn loop.cfg.jitter jitter)
    (hnext : nextRenewal loaded.notBefore loaded.notAfter loop.cfg jitter = .ok renewAt)
    (hdue : renewAt ≤ s.now)
    (hdpop : crates.makeDpop loaded.key (endpoint loop.baseUrl "/v1/renew") = .ok dpop) :
    Runs.Run (Step crates loop env) s
      (({ s.goto (.due (s.hold loop loaded) renewAt) with first := false } : State).request
        (s.hold loop loaded)) :=
  (Relation.ReflTransGen.single (.schedule hphase hload hjitter hnext)).tail
    (.request rfl hdue hdpop)

/-- The loop has renewed at 8000 and requests again at `t`, by what it then reads. -/
theorem run_twice {out : Option String} {loaded : Loaded} {renewAt t : SystemTime}
    (hload : (pairLoop out).load pairCrates (Function.update pairFiles (out.getD "cert.pem")
      (.ok (fullchain pairResponse))) = .ok loaded)
    (hnext : nextRenewal loaded.notBefore loaded.notAfter (pairLoop out).cfg 0 = .ok renewAt)
    (hdue : renewAt ≤ t) :
    ∃ s held mono before,
      Runs.Run (Step pairCrates (pairLoop out) undisturbed)
        (.start (Testca.instant 8000) pairFiles) s ∧
      s.log = .requested held t mono :: .renewed pairResponse :: before := by
  have hfirst := @run_renewed pairCrates (pairLoop out) undisturbed
    (.start (Testca.instant 8000) pairFiles) oldLoaded 0 (Testca.instant 8000) _ rfl (load_pair out)
    (Nat.zero_le _) rfl le_rfl rfl
  have hrenewed := hfirst.tail (@Step.renewed _ _ _ _ _ pairResponse rfl)
  have hlater := hrenewed.tail (@Step.pass _ _ _ _ 0 t trivial)
  have hsecond := hlater.trans (@run_renewed pairCrates (pairLoop out) undisturbed _ loaded 0 renewAt _
    rfl hload (Nat.zero_le _) hnext hdue rfl)
  exact ⟨_, _, _, _, hsecond, rfl⟩

theorem load_pair_renewed : (pairLoop none).load pairCrates
    (Function.update pairFiles "cert.pem" (.ok (fullchain pairResponse))) = .ok newLoaded := by
  rfl

theorem renewals_paced_in_place : ∃ jitter renewAt, Drawn (pairLoop none).cfg.jitter jitter ∧
    nextRenewal (Testca.instant 8000) (Testca.instant 16000) (pairLoop none).cfg jitter =
      .ok renewAt ∧ renewAt ≤ Testca.instant 15000 := by
  obtain ⟨s, held, mono, before, hrun, hlog⟩ := run_twice load_pair_renewed rfl (le_refl (Testca.instant 15000))
  have hpaced := renewals_paced readsInOrder_pairCrates (new_pairLoop none) (fun _ => nofun) hrun
  rw [hlog] at hpaced
  exact hpaced.1 held _ mono pairResponse _ _ rfl rfl rfl

/-- A loop with another `--out` renews the old certificate again at once. -/
theorem not_renewals_paced : ∃ s,
    RenewLoop.new pairCrates (pairArgs (some "new.pem")) = .ok (pairLoop (some "new.pem")) ∧
    Runs.Run (Step pairCrates (pairLoop (some "new.pem")) undisturbed)
      (.start (Testca.instant 8000) pairFiles) s ∧
    ¬ Runs.Explained (Paced pairCrates (pairLoop (some "new.pem"))) s.log := by
  have hload : (pairLoop (some "new.pem")).load pairCrates (Function.update pairFiles "new.pem"
      (.ok (fullchain pairResponse))) = .ok oldLoaded := rfl
  obtain ⟨s, held, mono, before, hrun, hlog⟩ := run_twice hload rfl (le_refl (Testca.instant 8000))
  refine ⟨s, new_pairLoop _, hrun, ?_⟩
  rw [hlog]
  rintro ⟨hpaced, -⟩
  obtain ⟨jitter, renewAt, hjitter, hnext, hdue⟩ :=
    hpaced held _ mono pairResponse (Testca.instant 8000) (Testca.instant 16000) rfl rfl rfl
  obtain rfl : jitter = 0 := Nat.le_zero.mp hjitter
  cases hnext
  exact absurd hdue (by decide)

end RenewLoop

end Ayane.Cli
