import Ayane.Cli.Endpoint
import Ayane.Lib.Rounding
import Ayane.Lib.Run
import Mathlib.Data.Rat.Floor
import Mathlib.Logic.Function.Basic

/-!
# The renewal loop

`ayane-cli/src/cmd/renew.rs` with `--loop`: an iteration reads the certificate and the key,
computes when to renew, waits in naps of at most `--max-sleep`, renews and writes the result
to `--out`. The loop is a transition system over its phases, two clocks and the files, which
other processes may replace.
-/

namespace Ayane.Cli

open Effect

structure RenewCrates extends Crates where
  /-- `humantime::parse_duration`. -/
  parseDuration : String → Except String Duration
  /-- `KeyPair::from_pem`; a key pair is an opaque byte string. -/
  keyPairFromPem : String → Except String Bytes
  /-- `make_dpop`, of a key pair and a URL. -/
  makeDpop : Bytes → String → Except String String

/-- An `f64`. -/
inductive F64 where
  | finite (q : ℚ)
  | infinite (negative : Bool)
  | nan

/-- `0.66`, as a float. -/
def defaultFraction : ℚ := 5944751508129055 / 9007199254740992

structure RenewArgs where
  url : String
  cert : String
  key : String
  out : Option String
  renewFraction : Option F64
  renewBefore : Option String
  jitter : String
  maxSleep : String

structure LoopConfig where
  fraction : ℚ
  renewBefore : Option Duration
  jitter : Duration
  maxSleep : Duration
  out : String

structure RenewLoop where
  baseUrl : String
  certPath : String
  keyPath : String
  cfg : LoopConfig

namespace RenewLoop

/-- The fraction of the arguments, or the default. -/
def fraction (args : RenewArgs) : Except String F64 :=
  match args.renewFraction, args.renewBefore with
  | some _, some _ => .error "--renew-fraction and --renew-before are mutually exclusive"
  | some f, none => .ok f
  | none, _ => .ok (.finite defaultFraction)

def fractionInRange : F64 → Except String ℚ
  | .finite q =>
    if 0 < q ∧ q < 1 then .ok q else .error "--renew-fraction must be between 0 and 1 (exclusive)"
  | _ => .error "--renew-fraction must be between 0 and 1 (exclusive)"

def new (crates : RenewCrates) (args : RenewArgs) : Except String RenewLoop := do
  let f ← fraction args
  let fraction ← fractionInRange f
  let renewBefore ← args.renewBefore.mapM crates.parseDuration
  let jitter ← crates.parseDuration args.jitter
  let maxSleep ← crates.parseDuration args.maxSleep
  .ok {
    baseUrl := args.url
    certPath := args.cert
    keyPath := args.key
    cfg := { fraction, renewBefore, jitter, maxSleep, out := args.out.getD args.cert } }

end RenewLoop

/-! ## An iteration's inputs -/

/-- What reading a path as text gives. -/
abbrev Files := String → Except String String

structure Loaded where
  certPem : String
  key : Bytes
  notBefore : SystemTime
  notAfter : SystemTime

/-- The validity window of the first `CERTIFICATE` block. -/
def certWindow (crates : Crates) (certPem : String) : Except String (SystemTime × SystemTime) := do
  let blocks ← crates.pemParseMany (utf8 certPem)
  let leaf ← match blocks.find? fun b => b.tag = "CERTIFICATE" with
    | some leaf => .ok leaf
    | none => .error "no CERTIFICATE block in certificate file"
  let cert ← crates.der.certificateFromDer leaf.contents
  let validity := cert.tbsCertificate.validity
  .ok (validity.notBefore.toSystemTime, validity.notAfter.toSystemTime)

/-- `context` of an error, as it is displayed with its chain. -/
def context {α : Type} (label : String) : Except String α → Except String α
  | .ok a => .ok a
  | .error e => .error (label ++ ": " ++ e)

def RenewLoop.load (crates : RenewCrates) (loop : RenewLoop) (files : Files) :
    Except String Loaded := do
  let certPem ← context ("reading " ++ Text.debug loop.certPath) (files loop.certPath)
  let keyPem ← context ("reading key " ++ Text.debug loop.keyPath) (files loop.keyPath)
  let key ← crates.keyPairFromPem keyPem
  let (notBefore, notAfter) ← certWindow crates.toCrates certPem
  .ok { certPem, key, notBefore, notAfter }

/-- `Duration::mul_f64` with a fraction between 0 and 1, as if it were computed exactly: the nearest
nanosecond, and the even one of two. -/
def mulF64 (span : Duration) (fraction : ℚ) : Duration :=
  (Rounding.nearestEven ((span : ℚ) * fraction)).toNat

theorem coe_mulF64 {fraction : ℚ} (hpositive : 0 < fraction) (span : Duration) :
    (mulF64 span fraction : ℤ) = Rounding.nearestEven ((span : ℚ) * fraction) :=
  Int.toNat_of_nonneg (Rounding.nearestEven_nonneg (mul_nonneg (Nat.cast_nonneg span) hpositive.le))

/-- When to renew, with the jitter that was drawn. -/
def nextRenewal (notBefore notAfter : SystemTime) (cfg : LoopConfig) (jitterSecs : ℕ) :
    Outcome SystemTime := do
  let base ← match cfg.renewBefore with
    | some before => .ok ((notAfter.checkedSub before).getD notBefore)
    | none =>
      notBefore.plus (mulF64 ((notAfter.durationSince notBefore).getD 0) cfg.fraction)
  let renewAt := (base.checkedSub (fromSecs jitterSecs)).getD notBefore
  .ok (max renewAt notBefore)

/-- What `jitter_secs` can draw. -/
def Drawn (max : Duration) (secs : ℕ) : Prop := secs ≤ asSecs max

/-! ## Requests and their failures -/

inductive RequestError where
  | transport (message : String)
  | status (code : ℕ) (message : String)
  | decode (message : String)

def RequestError.isTransient : RequestError → Bool
  | .transport _ => true
  | .decode _ => false
  | .status code _ => decide (500 ≤ code ∧ code < 600) || decide (code = 429)

/-- A text that ends its last line. -/
def endLine (s : String) : String := if Text.endsWith '\n' s then s else s ++ "\n"

def fullchain (resp : CertificateResponse) : String :=
  endLine resp.certificate ++ String.join (resp.chain.map endLine)

/-- `Backoff::wait`: the ceiling of the delay, in seconds. -/
def backoffCeiling (n : ℕ) : ℕ := min (60 * 2 ^ min n 5) 1800

/-! ## The loop -/

namespace RenewLoop

/-- What an iteration has loaded, with the generations of the files at that time. -/
structure Held where
  loaded : Loaded
  certGeneration : ℕ
  keyGeneration : ℕ

/-- Where the loop is. Naps end at a time on the monotonic clock. -/
inductive Phase where
  /-- About to start an iteration. -/
  | idle
  /-- In the startup sleep of the first iteration. -/
  | starting (held : Held) (renewAt : SystemTime) (wake : ℕ)
  /-- About to compare the clock with the renewal time. -/
  | due (held : Held) (renewAt : SystemTime)
  | napping (held : Held) (renewAt : SystemTime) (wake : ℕ)
  | requesting (held : Held)
  | backingOff (wake : ℕ)
  | ended

/-- Whether the loop sleeps, so that a signal wakes it. -/
def Phase.Sleeping : Phase → Prop
  | .starting .. | .napping .. | .backingOff _ => True
  | .idle | .due .. | .requesting _ | .ended => False

/-- Whether the loop waits: it sleeps, or has just slept and is about to sleep or to renew. -/
def Phase.Waiting : Phase → Prop
  | .starting .. | .due .. | .napping .. | .backingOff _ => True
  | .idle | .requesting _ | .ended => False

instance : DecidablePred Phase.Waiting
  | .starting .. | .due .. | .napping .. | .backingOff _ => isTrue trivial
  | .idle | .requesting _ | .ended => isFalse id

inductive Event where
  /-- A request was sent, at a time on either clock. -/
  | requested (held : Held) (now : SystemTime) (mono : ℕ)
  | renewed (resp : CertificateResponse)
  /-- Another process replaced a file while the loop was waiting. -/
  | replaced (path : String) (generation : ℕ) (mono : ℕ)

structure State where
  /-- The system clock. -/
  now : SystemTime
  /-- The monotonic clock, in nanoseconds. -/
  mono : ℕ
  files : Files
  /-- How often each file was written. -/
  generations : String → ℕ
  phase : Phase
  first : Bool
  /-- The counter of the backoff. -/
  backoff : ℕ
  /-- What has happened, the latest first. -/
  log : List Event

namespace State

def start (now : SystemTime) (files : Files) : State where
  now
  mono := 0
  files
  generations _ := 0
  phase := .idle
  first := true
  backoff := 0
  log := []

def hold (s : State) (loop : RenewLoop) (loaded : Loaded) : Held where
  loaded
  certGeneration := s.generations loop.certPath
  keyGeneration := s.generations loop.keyPath

def goto (s : State) (phase : Phase) : State := { s with phase }

def write (s : State) (path : String) (text : Except String String) : State :=
  { s with
    files := Function.update s.files path text
    generations := Function.update s.generations path (s.generations path + 1) }

/-- Another process replaces a file. -/
def replace (s : State) (path : String) (text : Except String String) : State :=
  { s.write path text with
    log := if s.phase.Waiting then .replaced path (s.generations path) s.mono :: s.log else s.log }

def request (s : State) (held : Held) : State :=
  { s with phase := .requesting held, log := .requested held s.now s.mono :: s.log }

/-- `Backoff::wait` with the delay that was drawn. -/
def backOff (s : State) (delay : ℕ) : State :=
  { s with phase := .backingOff (s.mono + fromSecs delay), backoff := min (s.backoff + 1) 6 }

def renewed (s : State) (loop : RenewLoop) (resp : CertificateResponse) : State :=
  { s.write loop.cfg.out (.ok (fullchain resp)) with
    phase := .idle, backoff := 0, log := .renewed resp :: s.log }

end State

/-- What the world outside the loop may do. -/
structure Environment where
  /-- Time passes, on the monotonic clock and to a time on the system clock. -/
  Passes : State → ℕ → SystemTime → Prop
  Replaces : State → String → Prop
  /-- `SIGHUP` is sent. -/
  HangsUp : Prop

/-- One step of the loop, of the clocks, or of another process. -/
inductive Step (crates : RenewCrates) (loop : RenewLoop) (env : Environment) : State → State → Prop where
  | pass {s : State} {d : ℕ} {now : SystemTime} (h : env.Passes s d now) :
      Step crates loop env s { s with now, mono := s.mono + d }
  | replace {s : State} {path : String} {text : Except String String} (h : env.Replaces s path) :
      Step crates loop env s (s.replace path text)
  | loadFailsFirst {s : State} {e : String} (hphase : s.phase = .idle) (hfirst : s.first = true)
      (h : loop.load crates s.files = .error e) : Step crates loop env s (s.goto .ended)
  | loadFails {s : State} {e : String} {delay : ℕ} (hphase : s.phase = .idle)
      (hfirst : s.first = false) (h : loop.load crates s.files = .error e)
      (hdelay : Drawn (fromSecs (backoffCeiling s.backoff)) delay) :
      Step crates loop env s (s.backOff delay)
  /-- The renewal time leaves the range of the clock. -/
  | panic {s : State} {loaded : Loaded} {jitter : ℕ} {abort : Abort} (hphase : s.phase = .idle)
      (hload : loop.load crates s.files = .ok loaded) (hjitter : Drawn loop.cfg.jitter jitter)
      (h : nextRenewal loaded.notBefore loaded.notAfter loop.cfg jitter = .error abort) :
      Step crates loop env s (s.goto .ended)
  /-- The first iteration is due already, and draws a startup sleep. -/
  | startup {s : State} {loaded : Loaded} {jitter : ℕ} {renewAt : SystemTime} {startup : ℕ}
      (hphase : s.phase = .idle) (hload : loop.load crates s.files = .ok loaded)
      (hjitter : Drawn loop.cfg.jitter jitter)
      (hnext : nextRenewal loaded.notBefore loaded.notAfter loop.cfg jitter = .ok renewAt)
      (hfirst : s.first = true) (hdue : renewAt ≤ s.now)
      (hstartup : Drawn (min loop.cfg.jitter loop.cfg.maxSleep) startup) (hpositive : 0 < startup) :
      Step crates loop env s
        (s.goto (.starting (s.hold loop loaded) renewAt (s.mono + fromSecs startup)))
  /-- An iteration that does not begin with a startup sleep, be it that none was drawn. -/
  | schedule {s : State} {loaded : Loaded} {jitter : ℕ} {renewAt : SystemTime}
      (hphase : s.phase = .idle) (hload : loop.load crates s.files = .ok loaded)
      (hjitter : Drawn loop.cfg.jitter jitter)
      (hnext : nextRenewal loaded.notBefore loaded.notAfter loop.cfg jitter = .ok renewAt) :
      Step crates loop env s { s.goto (.due (s.hold loop loaded) renewAt) with first := false }
  | startupWake {s : State} {held : Held} {renewAt : SystemTime} {wake : ℕ}
      (hphase : s.phase = .starting held renewAt wake) (h : wake ≤ s.mono ∨ env.HangsUp) :
      Step crates loop env s { s.goto (.due held renewAt) with first := false }
  | nap {s : State} {held : Held} {renewAt : SystemTime} {wait : Duration}
      (hphase : s.phase = .due held renewAt) (hwait : renewAt.durationSince s.now = some wait)
      (h : 0 < wait) :
      Step crates loop env s
        (s.goto (.napping held renewAt (s.mono + min wait loop.cfg.maxSleep)))
  | napWake {s : State} {held : Held} {renewAt : SystemTime} {wake : ℕ}
      (hphase : s.phase = .napping held renewAt wake) (h : wake ≤ s.mono) :
      Step crates loop env s (s.goto (.due held renewAt))
  | proofFails {s : State} {held : Held} {renewAt : SystemTime} {e : String}
      (hphase : s.phase = .due held renewAt) (hdue : renewAt ≤ s.now)
      (h : crates.makeDpop held.loaded.key (endpoint loop.baseUrl "/v1/renew") = .error e) :
      Step crates loop env s (s.goto .ended)
  | request {s : State} {held : Held} {renewAt : SystemTime} {dpop : String}
      (hphase : s.phase = .due held renewAt) (hdue : renewAt ≤ s.now)
      (h : crates.makeDpop held.loaded.key (endpoint loop.baseUrl "/v1/renew") = .ok dpop) :
      Step crates loop env s (s.request held)
  /-- `SIGHUP` ends a nap and renews at once. -/
  | hangup {s : State} {held : Held} {renewAt : SystemTime} {wake : ℕ} {dpop : String}
      (hphase : s.phase = .napping held renewAt wake) (hsignal : env.HangsUp)
      (h : crates.makeDpop held.loaded.key (endpoint loop.baseUrl "/v1/renew") = .ok dpop) :
      Step crates loop env s (s.request held)
  | hangupProofFails {s : State} {held : Held} {renewAt : SystemTime} {wake : ℕ} {e : String}
      (hphase : s.phase = .napping held renewAt wake) (hsignal : env.HangsUp)
      (h : crates.makeDpop held.loaded.key (endpoint loop.baseUrl "/v1/renew") = .error e) :
      Step crates loop env s (s.goto .ended)
  | renewed {s : State} {held : Held} {resp : CertificateResponse}
      (hphase : s.phase = .requesting held) : Step crates loop env s (s.renewed loop resp)
  /-- What was renewed cannot be written. -/
  | writeFails {s : State} {held : Held} (hphase : s.phase = .requesting held) :
      Step crates loop env s (s.goto .ended)
  | retry {s : State} {held : Held} {e : RequestError} {delay : ℕ}
      (hphase : s.phase = .requesting held) (h : e.isTransient = true)
      (hdelay : Drawn (fromSecs (backoffCeiling s.backoff)) delay) :
      Step crates loop env s (s.backOff delay)
  | rejected {s : State} {held : Held} {e : RequestError} (hphase : s.phase = .requesting held)
      (h : e.isTransient = false) : Step crates loop env s (s.goto .ended)
  | backoffWake {s : State} {wake : ℕ} (hphase : s.phase = .backingOff wake)
      (h : wake ≤ s.mono ∨ env.HangsUp) : Step crates loop env s (s.goto .idle)
  /-- `SIGTERM` or `SIGINT` ends a sleep and the loop. -/
  | stop {s : State} (hphase : s.phase.Sleeping) : Step crates loop env s (s.goto .ended)

end RenewLoop

end Ayane.Cli
