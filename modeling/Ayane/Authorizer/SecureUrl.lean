import Ayane.Authorizer.Jwks
import Mathlib.Data.List.DropRight

/-!
# The host behind a URL

Whether keys may be fetched from a URL is decided by how the URL begins. A client reads the host
out of the whole authority, which may begin with credentials: what looks like the loopback host
and a port is then a user name and a password, and the host comes after the last `@`. The URLs that
a server redirects the client to are not looked at.
-/

namespace Ayane

open Effect

namespace Jwks

/-! ## What a client reads -/

/-- Control characters and spaces are removed at both ends of a URL. -/
def isC0OrSpace (c : Char) : Bool := decide (c.toNat ≤ 0x20)

/-- Tabs and line breaks are removed anywhere. -/
def isTabOrNewline (c : Char) : Bool := c == '\t' || c == '\n' || c == '\r'

def cleaned (url : String) : List Char :=
  ((url.toList.dropWhile isC0OrSpace).rdropWhile isC0OrSpace).filter (!isTabOrNewline ·)

/-- The scheme, in lower case. -/
def readScheme (url : String) : List Char :=
  ((cleaned url).takeWhile (· != ':')).map Char.toLower

def isSlash (c : Char) : Bool := c == '/' || c == '\\'

def endsAuthority (c : Char) : Bool := isSlash c || c == '?' || c == '#'

/-- The schemes of the web have an authority after any number of slashes of either kind. It ends at
a slash of either kind, a query or a fragment. -/
def authority (url : String) : List Char :=
  let afterScheme := ((cleaned url).dropWhile (· != ':')).drop 1
  (afterScheme.dropWhile isSlash).takeWhile (!endsAuthority ·)

/-- The host ends at the port, which is not in brackets. -/
def beforePort : Bool → List Char → List Char
  | _, [] => []
  | inBrackets, c :: cs =>
    if c = ':' ∧ inBrackets = false then []
    else c :: beforePort (if c = '[' then true else if c = ']' then false else inBrackets) cs

/-- The text of the host: what follows the credentials, which the last `@` ends. -/
def readHost (url : String) : String :=
  String.ofList (beforePort false ((authority url).rtakeWhile (· != '@')))

def loopbackHosts : List String := ["127.0.0.1", "localhost", "[::1]"]

theorem mem_loopbackHosts {name : String} :
    name ∈ loopbackHosts ↔ name = "127.0.0.1" ∨ name = "localhost" ∨ name = "[::1]" := by
  simp [loopbackHosts]

/-- A client that reads the text of a host by `parse` uses `https`, or connects to no other host than
the loopback. -/
def Secure (parse : String → Option String) (url : String) : Prop :=
  readScheme url = "https".toList ∨ ∀ host, parse (readHost url) = some host → host ∈ loopbackHosts

/-- The authority has credentials, and what follows them, up to a port, is a loopback host or none. -/
def CredentialsForLoopback (parse : String → Option String) (authority : List Char) : Prop :=
  ∃ credentials rest, authority = credentials ++ '@' :: rest ∧ '@' ∉ rest ∧
    (parse (String.ofList (beforePort false rest))).all (· ∈ loopbackHosts)

/-- The URL does not name another host behind credentials. -/
def NamesItsHost (parse : String → Option String) (url : String) : Prop :=
  Text.startsWith "https://" url ∨ '@' ∉ authority url ∨ CredentialsForLoopback parse (authority url)

/-! ## What the guard accepts -/

/-- What the guard lets come after a loopback host. -/
def FollowsHost (rest : List Char) : Prop := rest = [] ∨ ∃ cs, rest = ':' :: cs ∨ rest = '/' :: cs

/-- Nothing is removed from the beginning of a URL without spaces. -/
theorem cleaned_append {url : String} {p cs : List Char} (hurl : url.toList = p ++ cs) (hne : p ≠ [])
    (hp : p.all (!isC0OrSpace ·)) :
    cleaned url = p ++ (cs.rdropWhile isC0OrSpace).filter (!isTabOrNewline ·) := by
  have hspace : ∀ c ∈ p, isC0OrSpace c = false := by simpa using hp
  have htab : p.filter (!isTabOrNewline ·) = p := by
    refine List.filter_eq_self.mpr fun c hc => ?_
    have hgraphic : ¬c.toNat ≤ 0x20 := of_decide_eq_false (hspace c hc)
    have : '\t'.toNat ≤ 0x20 ∧ '\n'.toNat ≤ 0x20 ∧ '\r'.toNat ≤ 0x20 := by decide
    simp only [isTabOrNewline, Bool.not_eq_true', Bool.or_eq_false_iff, beq_eq_false_iff_ne]
    refine ⟨⟨?_, ?_⟩, ?_⟩ <;> rintro rfl <;> omega
  have hstart : (p ++ cs).dropWhile isC0OrSpace = p ++ cs := by
    refine Text.dropWhile_eq_self fun c hc => hspace c ?_
    obtain ⟨d, ds, rfl⟩ := List.exists_cons_of_ne_nil hne
    cases hc
    exact List.mem_cons_self
  have hend : (p ++ cs).rdropWhile isC0OrSpace = p ++ cs.rdropWhile isC0OrSpace := by
    have hback : p.reverse.dropWhile isC0OrSpace = p.reverse :=
      Text.dropWhile_eq_self fun c hc => hspace c (List.mem_reverse.mp (List.mem_of_mem_head? hc))
    unfold List.rdropWhile
    rw [List.reverse_append, List.dropWhile_append]
    split_ifs with hempty
    · rw [hback, List.isEmpty_iff.mp hempty]
      simp
    · simp
  rw [cleaned, hurl, hstart, hend, List.filter_append, htab]

theorem startsWith_iff {p s : String} :
    Text.startsWith p s ↔ ∃ rest : String, s.toList = p.toList ++ rest.toList := by
  unfold Text.startsWith
  rw [Option.isSome_iff_exists]
  exact exists_congr fun rest => Text.stripPrefix_eq_some

/-- What the guard accepts is an `https` URL, or begins with a loopback host that is followed by nothing,
a colon or a slash. -/
theorem of_isSecureUrl {url : String} (h : isSecureUrl url) :
    Text.startsWith "https://" url ∨ ∃ name ∈ loopbackHosts, ∃ rest : List Char,
      url.toList = ("http://" ++ name).toList ++ rest ∧ FollowsHost rest := by
  unfold isSecureUrl at h
  obtain h | h := Bool.or_eq_true_iff.mp h
  · exact .inl h
  · obtain ⟨p, hp, hmatch⟩ := List.any_eq_true.mp h
    split at hmatch
    case h_2 => cases hmatch
    case h_1 rest hstrip =>
      have hurl := Text.stripPrefix_eq_some.mp hstrip
      have hname : ∃ name ∈ loopbackHosts, p = "http://" ++ name := by
        simp only [List.mem_cons, List.not_mem_nil, or_false] at hp
        obtain rfl | rfl | rfl := hp
        · exact ⟨"127.0.0.1", by decide, by decide⟩
        · exact ⟨"localhost", by decide, by decide⟩
        · exact ⟨"[::1]", by decide, by decide⟩
      obtain ⟨name, hmem, rfl⟩ := hname
      refine .inr ⟨name, hmem, rest.toList, hurl, ?_⟩
      simp only [Bool.or_eq_true, startsWith_iff, String.isEmpty_iff] at hmatch
      obtain (rfl | ⟨after, hcolon⟩) | ⟨after, hslash⟩ := hmatch
      · exact .inl rfl
      · exact .inr ⟨after.toList, .inl hcolon⟩
      · exact .inr ⟨after.toList, .inr hslash⟩

section

variable {url name : String} (hname : name ∈ loopbackHosts) {rest : List Char}
  (hurl : url.toList = ("http://" ++ name).toList ++ rest) (hrest : FollowsHost rest)

include hname hurl hrest

/-- What is left of a URL that begins with a loopback host. -/
theorem cleaned_of_loopback :
    ∃ tail, cleaned url = ("http://" ++ name).toList ++ tail ∧ FollowsHost tail := by
  have hgraphic : ("http://" ++ name).toList.all (!isC0OrSpace ·) := by
    obtain rfl | rfl | rfl := mem_loopbackHosts.mp hname <;> rfl
  have hfollowed : ∀ d cs, isC0OrSpace d = false → rest = d :: cs → ∃ cs', cleaned url =
      ("http://" ++ name).toList ++ d :: cs' := by
    rintro d cs hd rfl
    rw [← List.singleton_append, ← List.append_assoc] at hurl
    have hp : (("http://" ++ name).toList ++ [d]).all (!isC0OrSpace ·) := by
      rw [List.all_append, hgraphic]
      simp [hd]
    have hcleaned := cleaned_append hurl (by simp) hp
    rw [List.append_assoc, List.singleton_append] at hcleaned
    exact ⟨_, hcleaned⟩
  obtain rfl | ⟨cs, hcolon | hslash⟩ := hrest
  · exact ⟨[], cleaned_append hurl (by simp) hgraphic, .inl rfl⟩
  · obtain ⟨cs', hcleaned⟩ := hfollowed _ _ rfl hcolon
    exact ⟨_, hcleaned, .inr ⟨cs', .inl rfl⟩⟩
  · obtain ⟨cs', hcleaned⟩ := hfollowed _ _ rfl hslash
    exact ⟨_, hcleaned, .inr ⟨cs', .inr rfl⟩⟩

theorem readScheme_of_loopback : readScheme url = "http".toList := by
  obtain ⟨tail, hcleaned, -⟩ := cleaned_of_loopback hname hurl hrest
  unfold readScheme
  rw [hcleaned]
  obtain rfl | rfl | rfl := mem_loopbackHosts.mp hname <;> rfl

theorem authority_of_loopback :
    ∃ port, authority url = name.toList ++ port ∧ (port = [] ∨ ∃ cs, port = ':' :: cs) := by
  obtain ⟨tail, hcleaned, htail⟩ := cleaned_of_loopback hname hurl hrest
  unfold authority
  rw [hcleaned]
  obtain rfl | ⟨cs, rfl | rfl⟩ := htail
  · refine ⟨[], ?_, .inl rfl⟩
    obtain rfl | rfl | rfl := mem_loopbackHosts.mp hname <;> decide
  · refine ⟨':' :: cs.takeWhile (!endsAuthority ·), ?_, .inr ⟨_, rfl⟩⟩
    obtain rfl | rfl | rfl := mem_loopbackHosts.mp hname <;> rfl
  · refine ⟨[], ?_, .inl rfl⟩
    obtain rfl | rfl | rfl := mem_loopbackHosts.mp hname <;> rfl

/-- Without credentials, such a URL leads to the loopback host. -/
theorem readHost_of_loopback (hcredentials : '@' ∉ authority url) : readHost url = name := by
  obtain ⟨port, hauthority, hport⟩ := authority_of_loopback hname hurl hrest
  have hwhole : (authority url).rtakeWhile (· != '@') = authority url := by
    refine List.rtakeWhile_eq_self_iff.mpr fun c hc => ?_
    simp only [bne_iff_ne]
    rintro rfl
    exact hcredentials hc
  have hhost : beforePort false (name.toList ++ port) = name.toList := by
    obtain rfl | ⟨cs, rfl⟩ := hport <;>
      obtain rfl | rfl | rfl := mem_loopbackHosts.mp hname <;> rfl
  unfold readHost
  rw [hwhole, hauthority, hhost, String.ofList_toList]

end

theorem readScheme_of_https {url : String} (h : Text.startsWith "https://" url) :
    readScheme url = "https".toList := by
  obtain ⟨rest, hurl⟩ := startsWith_iff.mp h
  unfold readScheme
  rw [cleaned_append hurl (by simp) rfl]
  rfl

/-- What follows the last `@` of an authority is its host. -/
theorem readHost_of_credentials {url : String} {credentials rest : List Char}
    (hauthority : authority url = credentials ++ '@' :: rest) (hlast : '@' ∉ rest) :
    readHost url = String.ofList (beforePort false rest) := by
  have hrest : (credentials ++ '@' :: rest).rtakeWhile (· != '@') = rest := by
    have hnone : ∀ c ∈ rest.reverse, (c != '@') = true := by
      intro c hc
      rw [bne_iff_ne]
      rintro rfl
      exact hlast (List.mem_reverse.mp hc)
    rw [List.rtakeWhile, List.reverse_append, List.reverse_cons, List.append_assoc,
      List.takeWhile_append_of_pos hnone]
    simp
  rw [readHost, hauthority, hrest]

/-- With credentials, a URL leads to the loopback host exactly if they are for it. -/
theorem credentialsForLoopback_iff {parse : String → Option String} {url : String}
    (hcredentials : '@' ∈ authority url) :
    CredentialsForLoopback parse (authority url) ↔
      ∀ host, parse (readHost url) = some host → host ∈ loopbackHosts := by
  constructor
  · rintro ⟨credentials, rest, hauthority, hlast, hparse⟩ host hhost
    rw [readHost_of_credentials hauthority hlast] at hhost
    simpa [hhost] using hparse
  · intro h
    obtain ⟨front, back, hsplit, hback⟩ := List.eq_append_cons_of_mem (List.mem_reverse.mpr hcredentials)
    have hauthority : authority url = back.reverse ++ '@' :: front.reverse := by
      rw [← List.reverse_reverse (authority url), hsplit]
      simp
    have hlast : '@' ∉ front.reverse := by simpa using hback
    refine ⟨_, _, hauthority, hlast, ?_⟩
    rw [← readHost_of_credentials hauthority hlast, Option.all_eq_true]
    exact fun host hhost => decide_eq_true (h host hhost)

/-- A URL that the guard accepts is secure, unless there are credentials before another host. -/
theorem secure_iff {parse : String → Option String}
    (hparse : ∀ name ∈ loopbackHosts, parse name = some name) {url : String} (h : isSecureUrl url) :
    Secure parse url ↔ NamesItsHost parse url := by
  obtain hhttps | ⟨name, hname, rest, hurl, hrest⟩ := of_isSecureUrl h
  · exact iff_of_true (.inl (readScheme_of_https hhttps)) (.inl hhttps)
  · have hhttp : readScheme url ≠ "https".toList := by
      rw [readScheme_of_loopback hname hurl hrest]
      decide
    constructor
    · rintro (hhttps | hread)
      · exact absurd hhttps hhttp
      · by_cases hcredentials : '@' ∈ authority url
        · exact .inr (.inr ((credentialsForLoopback_iff hcredentials).mpr hread))
        · exact .inr (.inl hcredentials)
    · rintro (hhttps | hcredentials | hloopback)
      · exact absurd (readScheme_of_https hhttps) hhttp
      · refine .inr fun host hread => ?_
        rw [readHost_of_loopback hname hurl hrest hcredentials, hparse name hname] at hread
        cases hread
        exact hname
      · obtain ⟨credentials, rest, hauthority, -⟩ := id hloopback
        have hcredentials : '@' ∈ authority url := by simp [hauthority]
        exact .inr ((credentialsForLoopback_iff hcredentials).mp hloopback)

end Jwks

/-! ## What is requested -/

namespace JwksSource

variable (crates : JwksCrates) (source : JwksSource) (answers : HttpAnswers)

/-- The URLs that a fetch asks its client for. -/
def asked : List String :=
  match source.location with
  | .direct url => [url]
  | .oidc discovery =>
    match source.keysUrl crates answers with
    | .ok url => [discovery, url]
    | .error _ => [discovery]

/-- The URLs that the client is sent on to, where it asks for the first. -/
def redirects : List String :=
  match source.location with
  | .direct _ => answers.keysRedirects
  | .oidc _ =>
    match source.keysUrl crates answers with
    | .ok _ => answers.discoveryRedirects ++ answers.keysRedirects
    | .error _ => answers.discoveryRedirects

/-- The URLs that are requested in a fetch. -/
def requested : List String := source.asked crates answers ++ source.redirects crates answers

end JwksSource

namespace Jwks

theorem of_requireSecureUrl {url name : String} (h : requireSecureUrl url name = .ok ()) :
    isSecureUrl url := by
  unfold requireSecureUrl at h
  split_ifs at h with hsecure
  exact hsecure

/-- A discovered URL has passed the guard. -/
theorem isSecureUrl_of_keysUrl {crates : JwksCrates} {source : JwksSource} {answers : HttpAnswers}
    {discovery url : String} (hlocation : source.location = .oidc discovery)
    (h : source.keysUrl crates answers = .ok url) : isSecureUrl url := by
  unfold JwksSource.keysUrl at h
  rw [hlocation] at h
  obtain ⟨resp, -, h⟩ := except_bind_eq_ok.mp h
  split_ifs at h
  obtain ⟨doc, -, h⟩ := except_bind_eq_ok.mp h
  split_ifs at h with hissuer hsecure
  cases h
  exact hsecure

/-- Whatever is configured and discovered, a client is only asked for URLs that the guard accepts. -/
theorem isSecureUrl_of_asked {crates : JwksCrates} {issuer name : String} {jwks : JwksConfig}
    {source : JwksSource} (hnew : JwksSource.new issuer jwks name = .ok source)
    {answers : HttpAnswers} {url : String} (hurl : url ∈ source.asked crates answers) :
    isSecureUrl url := by
  obtain ⟨location, hlocate, hsource⟩ := except_bind_eq_ok.mp hnew
  cases hsource
  have hconfigured : (∀ url, location = .direct url → isSecureUrl url) ∧
      ∀ url, location = .oidc url → isSecureUrl url := by
    unfold JwksSource.locate at hlocate
    split at hlocate
    · obtain ⟨_, hrequire, hlocation⟩ := except_bind_eq_ok.mp hlocate
      cases hlocation
      exact ⟨by rintro _ ⟨⟩; exact of_requireSecureUrl hrequire, nofun⟩
    · obtain ⟨_, hrequire, hlocation⟩ := except_bind_eq_ok.mp hlocate
      cases hlocation
      exact ⟨nofun, by rintro _ ⟨⟩; exact of_requireSecureUrl hrequire⟩
    · cases hlocate
    · cases hlocate
  cases location with
  | direct configured =>
    rw [List.mem_singleton.mp hurl]
    exact hconfigured.1 _ rfl
  | oidc discovery =>
    unfold JwksSource.asked at hurl
    dsimp only at hurl
    split at hurl
    case h_1 found hfound =>
      obtain rfl | hurl := List.mem_cons.mp hurl
      · exact hconfigured.2 _ rfl
      · rw [List.mem_singleton.mp hurl]
        exact isSecureUrl_of_keysUrl rfl hfound
    case h_2 =>
      rw [List.mem_singleton.mp hurl]
      exact hconfigured.2 _ rfl

/-- The guard lets keys be fetched securely exactly as far as no accepted URL names another host behind
credentials, and no server sends the client on to `http` at another host. -/
theorem secureUrl_iff (parse : String → Option String)
    (hparse : ∀ name ∈ loopbackHosts, parse name = some name) :
    (∀ url, isSecureUrl url → (Secure parse url ↔ NamesItsHost parse url)) ∧
    ∀ (crates : JwksCrates) issuer jwks name source answers,
      JwksSource.new issuer jwks name = .ok source →
      ((∀ url ∈ source.requested crates answers, Secure parse url) ↔
        (∀ url ∈ source.asked crates answers, NamesItsHost parse url) ∧
          ∀ url ∈ source.redirects crates answers, Secure parse url) := by
  refine ⟨fun url h => secure_iff hparse h, fun crates issuer jwks name source answers hnew => ?_⟩
  rw [JwksSource.requested, List.forall_mem_append]
  refine and_congr_left' (forall₂_congr fun url hurl => ?_)
  exact secure_iff hparse (isSecureUrl_of_asked hnew hurl)

/-- A password `x` for the host `evil.example`. -/
def credentialed : String := "http://localhost:x@evil.example/keys"

def credentialedConfig : JwksConfig where
  jwksUrl := some credentialed
  openidConfigurationUrl := none
  issuer := none

/-- Credentials do no harm before a loopback host. -/
theorem secureUrl_iff_credentialed :
    Secure some "http://localhost:x@127.0.0.1:80/keys" ∧
      (Secure some credentialed ↔ NamesItsHost some credentialed) := by
  have hsecure := (secureUrl_iff some fun _ _ => rfl).1
  refine ⟨(hsecure "http://localhost:x@127.0.0.1:80/keys" (by decide)).mpr (.inr (.inr ?_)),
    hsecure credentialed (by decide)⟩
  exact ⟨"localhost:x".toList, "127.0.0.1:80".toList, by decide, by decide, by decide⟩

/-- A server that sends the client on, without `https`. -/
def redirected : HttpAnswers where
  discovery := .error "not asked"
  keys := .error "connection refused"
  keysRedirects := ["http://evil.example/keys"]

theorem not_secure_of_host {url : String} (hscheme : readScheme url = "http".toList)
    (hhost : readHost url = "evil.example") : ¬Secure some url := by
  rintro (hhttps | hread)
  · exact absurd (hscheme.symm.trans hhttps) (by decide)
  · rw [hhost] at hread
    exact absurd (hread _ rfl) (by decide)

/-- The guard accepts a URL by which the keys are fetched from another host without `https`; and keys
that are fetched by `https` may be sent on to one. -/
theorem not_secure_credentialed :
    (isSecureUrl credentialed ∧ ¬Secure some credentialed ∧
      ∃ source, JwksSource.new "ci" credentialedConfig "ci" = .ok source ∧
        ∀ crates answers, credentialed ∈ source.requested crates answers) ∧
    ∃ source, JwksSource.new "ci" ⟨some "https://ci.example/keys", none, none⟩ "ci" = .ok source ∧
      ∀ crates, ∃ url ∈ source.requested crates redirected, ¬Secure some url := by
  refine ⟨⟨by decide, not_secure_of_host (by decide) (by decide), _, rfl, fun _ _ => List.mem_cons_self⟩,
    _, rfl, fun _ => ?_⟩
  exact ⟨"http://evil.example/keys", List.mem_cons_of_mem _ List.mem_cons_self,
    not_secure_of_host (by decide) (by decide)⟩

end Jwks

end Ayane
