import Ayane.Crates
import Ayane.Lib.Text

/-!
# The wire format of the roots signature

`ayane-protocol/src/httpsig.rs`: the values of the four headers that carry the
signature on the roots response, the parser of each, and the text that is signed.
The set of covered components is fixed, so that server and client build the same
signature base from the same header values.
-/

namespace Ayane.Protocol

def rootsSignatureLabel : String := "sig"

/-- Path of the endpoint serving the signer certificate chain. -/
def signerChainPath : String := "/v1/roots/signer-chain"

/-- Content type signed and returned for the roots body. -/
def rootsContentType : String := "application/json"

def coveredComponents : String :=
  "(\"@status\" \"content-type\" \"content-digest\" \"signature-key\")"

/-- A malformed signature header. -/
structure HttpSigError where
  message : String
  deriving DecidableEq, Repr

def HttpSigError.toString (e : HttpSigError) : String := "malformed HTTP signature: " ++ e.message

/-- The parameters of the signature, with epoch seconds. -/
structure RootsSigParams where
  created : UInt64
  expires : UInt64
  alg : String
  deriving DecidableEq, Repr

/-- `ok_or_else` with a parse error. -/
def orErr {α : Type} (message : String) : Option α → Except HttpSigError α
  | some a => .ok a
  | none => .error ⟨message⟩

/-- `map_err` with a parse error. -/
def reportErr {α : Type} (label : String) : Except String α → Except HttpSigError α
  | .ok a => .ok a
  | .error e => .error ⟨label ++ e⟩

/-! ## Content-Digest -/

def contentDigestHeader (crates : Crates) (sha384 : Digest 48) : String :=
  "sha-384=:" ++ crates.base64.encode sha384 ++ ":"

def parseContentDigest (crates : Crates) (value : String) : Except HttpSigError (Digest 48) := do
  let inner ← orErr "Content-Digest is not a single sha-384 byte sequence"
    ((Text.stripPrefix "sha-384=:" (Text.trim value)).bind (Text.stripSuffix ":"))
  let bytes ← reportErr "Content-Digest base64: " (crates.base64.decode inner)
  if h : bytes.length = 48 then .ok ⟨bytes, h⟩ else .error ⟨"Content-Digest is not 48 bytes"⟩

/-! ## Signature-Key -/

/-- The thumbprint of the leaf certificate, from the digest of its encoding. -/
def x5tFromDigest (crates : Crates) (leafSha256 : Digest 32) : String :=
  crates.base64Url.encode leafSha256

def signatureKeyX509 (x5u x5t : String) : String :=
  rootsSignatureLabel ++ "=x509;x5u=\"" ++ x5u ++ "\";x5t=\"" ++ x5t ++ "\""

/-- Strip the `sig=` label of a dictionary value that carries one signature. -/
def stripLabel (value : String) : Option String :=
  (Text.stripPrefix rootsSignatureLabel (Text.trim value)).bind (Text.stripPrefix "=")

/-- Extract a `name="value"` parameter. -/
def quotedParam (s name : String) : Option String := do
  let rest ← Text.afterFirst (name ++ "=\"").toList s.toList
  let value ← Text.beforeFirst '"' rest
  some (String.ofList value)

def parseSignatureKeyX509 (value : String) : Except HttpSigError (String × String) := do
  let body ← orErr "Signature-Key has no `sig` label" (stripLabel value)
  if Text.startsWith "x509" (Text.trimStart body) then
    let x5u ← orErr "Signature-Key missing x5u" (quotedParam body "x5u")
    let x5t ← orErr "Signature-Key missing x5t" (quotedParam body "x5t")
    .ok (x5u, x5t)
  else .error ⟨"Signature-Key is not the x509 scheme"⟩

/-! ## Signature-Input -/

def rootsSigParamsValue (p : RootsSigParams) : String :=
  coveredComponents ++ ";created=" ++ p.created.toNat.repr ++ ";expires=" ++ p.expires.toNat.repr ++
    ";alg=\"" ++ p.alg ++ "\""

def signatureInputValue (p : RootsSigParams) : String :=
  rootsSignatureLabel ++ "=" ++ rootsSigParamsValue p

def parseU64 (s : String) : Except String UInt64 :=
  (Text.parseUnsigned (2 ^ 64) s).map UInt64.ofNat

/-- The parameters read so far. -/
structure ParamsRead where
  created : Option UInt64 := none
  expires : Option UInt64 := none
  alg : Option String := none
  deriving DecidableEq, Repr

/-- One `key=value` parameter; keys other than the three are skipped, and a repeated key
overwrites. -/
def readParam (read : ParamsRead) (param : String) : Except HttpSigError ParamsRead := do
  let (k, v) ← orErr ("Signature-Input parameter " ++ Text.debug param ++ " is not key=value")
    (Text.splitOnce '=' param)
  if k = "created" then
    let n ← reportErr "Signature-Input created: " (parseU64 v)
    .ok { read with created := some n }
  else if k = "expires" then
    let n ← reportErr "Signature-Input expires: " (parseU64 v)
    .ok { read with expires := some n }
  else if k = "alg" then
    let a ← orErr "Signature-Input alg is not a quoted string"
      ((Text.stripPrefix "\"" v).bind (Text.stripSuffix "\""))
    .ok { read with alg := some a }
  else .ok read

def parseRootsSigParams (value : String) : Except HttpSigError RootsSigParams := do
  let body ← orErr "Signature-Input has no `sig` label" (stripLabel value)
  let rest ← orErr "Signature-Input covered components are not the expected roots set"
    (Text.stripPrefix coveredComponents (Text.trim body))
  let read ← ((Text.split ';' rest).filter (fun s => !s.isEmpty)).foldlM readParam {}
  let created ← orErr "Signature-Input missing created" read.created
  let expires ← orErr "Signature-Input missing expires" read.expires
  let alg ← orErr "Signature-Input missing alg" read.alg
  .ok { created, expires, alg }

/-! ## The signature base and the Signature header -/

/-- The text that is signed, over the exact header values that are sent. -/
def rootsSignatureBase (status : Nat) (contentType contentDigest signatureKey : String)
    (p : RootsSigParams) : String :=
  "\"@status\": " ++ status.repr ++ "\n" ++
    "\"content-type\": " ++ contentType ++ "\n" ++
    "\"content-digest\": " ++ contentDigest ++ "\n" ++
    "\"signature-key\": " ++ signatureKey ++ "\n" ++
    "\"@signature-params\": " ++ rootsSigParamsValue p

def signatureHeaderValue (crates : Crates) (signature : Bytes) : String :=
  rootsSignatureLabel ++ "=:" ++ crates.base64.encode signature ++ ":"

def parseSignatureHeader (crates : Crates) (value : String) : Except HttpSigError Bytes := do
  let body ← orErr "Signature has no `sig` label" (stripLabel value)
  let inner ← orErr "Signature is not a byte sequence"
    ((Text.stripPrefix ":" (Text.trim body)).bind (Text.stripSuffix ":"))
  reportErr "Signature base64: " (crates.base64.decode inner)

/-! ## Round trips -/

theorem stripLabel_append {body : String} {d : Char} {ds : List Char}
    (hlast : body.toList = ds ++ [d]) (hd : Text.isWhitespace d = false) :
    stripLabel (rootsSignatureLabel ++ "=" ++ body) = some body := by
  have hfirst : (rootsSignatureLabel ++ "=" ++ body).toList = 's' :: 'i' :: 'g' :: '=' :: body.toList := by
    rw [String.toList_append]; rfl
  have htrim : Text.trim (rootsSignatureLabel ++ "=" ++ body) = rootsSignatureLabel ++ "=" ++ body := by
    have hend : (rootsSignatureLabel ++ "=" ++ body).toList = (['s', 'i', 'g', '='] ++ ds) ++ [d] := by
      rw [hfirst, hlast]; rfl
    exact Text.trim_of_ends hfirst hend (by decide) hd
  unfold stripLabel
  rw [htrim, String.append_assoc, Text.stripPrefix_append]
  simp

theorem parseU64_repr (n : UInt64) : parseU64 n.toNat.repr = .ok n := by
  unfold parseU64
  rw [Text.parseUnsigned_repr n.toNat_lt]
  simp [Except.map]

/-- What the parser splits after the covered components. -/
theorem split_params (p : RootsSigParams) (h : ';' ∉ p.alg.toList) :
    Text.split ';' (";created=" ++ p.created.toNat.repr ++ ";expires=" ++ p.expires.toNat.repr ++
        ";alg=\"" ++ p.alg ++ "\"") =
      ["", "created=" ++ p.created.toNat.repr, "expires=" ++ p.expires.toNat.repr,
        "alg=\"" ++ p.alg ++ "\""] := by
  have hdigits : ∀ n : Nat, ';' ∉ Nat.toDigits 10 n := fun n =>
    Text.not_mem_toDigits (by decide)
  have hshape : ";created=" ++ p.created.toNat.repr ++ ";expires=" ++ p.expires.toNat.repr ++
        ";alg=\"" ++ p.alg ++ "\"" =
      "" ++ (';').toString ++ (("created=" ++ p.created.toNat.repr) ++ (';').toString ++
        (("expires=" ++ p.expires.toNat.repr) ++ (';').toString ++
          ("alg=\"" ++ p.alg ++ "\""))) := by
    simp only [Char.toString, String.append_assoc, String.empty_append]
    rfl
  rw [hshape, Text.split_append (by simp), Text.split_append, Text.split_append,
    Text.split_eq_singleton]
  · simp [h]
  · simp [hdigits]
  · simp [hdigits]

theorem readParam_created (read : ParamsRead) (n : UInt64) :
    readParam read ("created=" ++ n.toNat.repr) = .ok { read with created := some n } := by
  have hsplit : Text.splitOnce '=' ("created" ++ ('=').toString ++ n.toNat.repr) =
      some ("created", n.toNat.repr) := Text.splitOnce_append (by decide)
  have hparam : "created=" ++ n.toNat.repr = "created" ++ ('=').toString ++ n.toNat.repr := by
    rw [Char.toString]; rfl
  unfold readParam
  rw [hparam, hsplit]
  simp [orErr, bind, Except.bind, parseU64_repr, reportErr]

theorem readParam_expires (read : ParamsRead) (n : UInt64) :
    readParam read ("expires=" ++ n.toNat.repr) = .ok { read with expires := some n } := by
  have hsplit : Text.splitOnce '=' ("expires" ++ ('=').toString ++ n.toNat.repr) =
      some ("expires", n.toNat.repr) := Text.splitOnce_append (by decide)
  have hparam : "expires=" ++ n.toNat.repr = "expires" ++ ('=').toString ++ n.toNat.repr := by
    rw [Char.toString]; rfl
  unfold readParam
  rw [hparam, hsplit]
  simp [orErr, bind, Except.bind, parseU64_repr, reportErr]

theorem readParam_alg (read : ParamsRead) (alg : String) :
    readParam read ("alg=\"" ++ alg ++ "\"") = .ok { read with alg := some alg } := by
  have hsplit : Text.splitOnce '=' ("alg" ++ ('=').toString ++ ("\"" ++ (alg ++ "\""))) =
      some ("alg", "\"" ++ (alg ++ "\"")) := Text.splitOnce_append (by decide)
  have hparam : "alg=\"" ++ alg ++ "\"" = "alg" ++ ('=').toString ++ ("\"" ++ (alg ++ "\"")) := by
    simp only [Char.toString, ← String.append_assoc]
    rfl
  unfold readParam
  rw [hparam, hsplit]
  simp [orErr, bind, Except.bind]

/-- Whatever follows the covered components is read parameter by parameter, when it ends in no white
space. -/
theorem parseRootsSigParams_append {rest : String} {d : Char} {ds : List Char}
    (hlast : rest.toList = ds ++ [d]) (hd : Text.isWhitespace d = false) {read : ParamsRead}
    {p : RootsSigParams}
    (hread : ((Text.split ';' rest).filter (fun s => !s.isEmpty)).foldlM readParam {} = .ok read)
    (hp : read = ⟨some p.created, some p.expires, some p.alg⟩) :
    parseRootsSigParams (rootsSignatureLabel ++ "=" ++ (coveredComponents ++ rest)) = .ok p := by
  have hend : (coveredComponents ++ rest).toList = (coveredComponents.toList ++ ds) ++ [d] := by
    rw [String.toList_append, hlast, List.append_assoc]
  have hfirst : (coveredComponents ++ rest).toList = '(' :: (coveredComponents ++ rest).toList.tail := by
    rw [String.toList_append]
    rfl
  have htrim : Text.trim (coveredComponents ++ rest) = coveredComponents ++ rest :=
    Text.trim_of_ends hfirst hend (by decide) hd
  have hlabel : stripLabel (rootsSignatureLabel ++ "=" ++ (coveredComponents ++ rest)) =
      some (coveredComponents ++ rest) := stripLabel_append hend hd
  unfold parseRootsSigParams
  rw [hlabel]
  simp only [orErr, bind, Except.bind, htrim, Text.stripPrefix_append, hread, hp]

/-- Parsing the parameters a server formats gives them back. -/
theorem parseRootsSigParams_signatureInputValue (p : RootsSigParams) (h : ';' ∉ p.alg.toList) :
    parseRootsSigParams (signatureInputValue p) = .ok p := by
  have hlast : (";created=" ++ p.created.toNat.repr ++ ";expires=" ++ p.expires.toNat.repr ++
      ";alg=\"" ++ p.alg ++ "\"").toList = (";created=" ++ p.created.toNat.repr ++ ";expires=" ++
        p.expires.toNat.repr ++ ";alg=\"" ++ p.alg).toList ++ ['"'] := by
    rw [String.toList_append]
    rfl
  have hvalue : signatureInputValue p = rootsSignatureLabel ++ "=" ++ (coveredComponents ++
      (";created=" ++ p.created.toNat.repr ++ ";expires=" ++ p.expires.toNat.repr ++ ";alg=\"" ++
        p.alg ++ "\"")) := by
    simp only [signatureInputValue, rootsSigParamsValue, String.append_assoc]
  have hkept : (["", "created=" ++ p.created.toNat.repr, "expires=" ++ p.expires.toNat.repr,
        "alg=\"" ++ p.alg ++ "\""].filter fun s => !s.isEmpty) =
      ["created=" ++ p.created.toNat.repr, "expires=" ++ p.expires.toNat.repr,
        "alg=\"" ++ p.alg ++ "\""] := by
    simp
  rw [hvalue]
  refine parseRootsSigParams_append hlast (by decide) ?_ rfl
  rw [split_params p h, hkept]
  simp [List.foldlM, bind, Except.bind, pure, Except.pure, readParam_created, readParam_expires,
    readParam_alg]

/-- Parsing the signature header a server formats gives the signature back. -/
theorem parseSignatureHeader_signatureHeaderValue (crates : Crates)
    (hbase64 : ∀ b, crates.base64.decode (crates.base64.encode b) = .ok b) (signature : Bytes) :
    parseSignatureHeader crates (signatureHeaderValue crates signature) = .ok signature := by
  have hbody : signatureHeaderValue crates signature =
      rootsSignatureLabel ++ "=" ++ (":" ++ (crates.base64.encode signature ++ ":")) := by
    simp only [signatureHeaderValue, String.append_assoc]
    rfl
  have hfirst : (":" ++ (crates.base64.encode signature ++ ":")).toList =
      ':' :: (crates.base64.encode signature ++ ":").toList := by
    rw [String.toList_append]; rfl
  have hlast : (":" ++ (crates.base64.encode signature ++ ":")).toList =
      (":" ++ crates.base64.encode signature).toList ++ [':'] := by
    simp only [String.toList_append, List.append_assoc]
    rfl
  have hlabel := stripLabel_append hlast (by decide)
  have htrim := Text.trim_of_ends hfirst hlast (by decide) (by decide)
  unfold parseSignatureHeader
  rw [hbody, hlabel]
  simp [orErr, bind, Except.bind, htrim, hbase64, reportErr]

/-- Parsing the digest header a server formats gives the digest back. -/
theorem parseContentDigest_contentDigestHeader (crates : Crates)
    (hbase64 : ∀ b, crates.base64.decode (crates.base64.encode b) = .ok b) (d : Digest 48) :
    parseContentDigest crates (contentDigestHeader crates d) = .ok d := by
  have hfirst : (contentDigestHeader crates d).toList =
      's' :: ("ha-384=:" ++ (crates.base64.encode d ++ ":")).toList := by
    simp only [contentDigestHeader, String.append_assoc, String.toList_append]
    rfl
  have hlast : (contentDigestHeader crates d).toList =
      ("sha-384=:" ++ crates.base64.encode d).toList ++ [':'] := by
    unfold contentDigestHeader
    rw [String.toList_append]
    rfl
  unfold parseContentDigest
  rw [Text.trim_of_ends hfirst hlast (by decide) (by decide)]
  simp [contentDigestHeader, String.append_assoc, orErr, bind, Except.bind, hbase64, reportErr,
    d.property]

/-- The key header without its label. -/
def signatureKeyBody (x5u x5t : String) : String := "x509;x5u=\"" ++ x5u ++ "\";x5t=\"" ++ x5t ++ "\""

theorem signatureKeyBody_toList (x5u x5t : String) : (signatureKeyBody x5u x5t).toList =
    'x' :: '5' :: '0' :: '9' :: ';' :: ("x5u=\"".toList ++ (x5u.toList ++ '"' ::
      (';' :: ("x5t=\"".toList ++ (x5t.toList ++ ['"']))))) := by
  simp [signatureKeyBody]

/-- The parser of the key header that a server formats looks for the two parameters. -/
theorem parseSignatureKeyX509_eq (x5u x5t : String) :
    parseSignatureKeyX509 (signatureKeyX509 x5u x5t) = (do
      let url ← orErr "Signature-Key missing x5u" (quotedParam (signatureKeyBody x5u x5t) "x5u")
      let thumbprint ← orErr "Signature-Key missing x5t" (quotedParam (signatureKeyBody x5u x5t) "x5t")
      .ok (url, thumbprint)) := by
  have hbody : signatureKeyX509 x5u x5t = rootsSignatureLabel ++ "=" ++ signatureKeyBody x5u x5t := by
    simp only [signatureKeyX509, signatureKeyBody, String.append_assoc]
    rfl
  have hlast : (signatureKeyBody x5u x5t).toList =
      ("x509;x5u=\"" ++ x5u ++ "\";x5t=\"" ++ x5t).toList ++ ['"'] := by
    rw [signatureKeyBody, String.toList_append]
    rfl
  have hlabel := stripLabel_append hlast (by decide)
  have hscheme : Text.startsWith "x509" (Text.trimStart (signatureKeyBody x5u x5t)) = true := by
    have hstart : Text.trimStart (signatureKeyBody x5u x5t) =
        "x509" ++ (";x5u=\"" ++ x5u ++ "\";x5t=\"" ++ x5t ++ "\"") := by
      unfold Text.trimStart
      rw [Text.dropWhile_eq_self (by rw [signatureKeyBody_toList]; simp; decide), String.ofList_toList]
      simp only [signatureKeyBody, ← String.append_assoc]
      rfl
    rw [hstart, Text.startsWith, Text.stripPrefix_append]
    rfl
  unfold parseSignatureKeyX509
  rw [hbody, hlabel]
  simp only [orErr, bind, Except.bind, hscheme, if_true]

theorem afterFirst_x5u (x5u x5t : String) :
    Text.afterFirst "x5u=\"".toList (signatureKeyBody x5u x5t).toList =
      some (x5u.toList ++ '"' :: (';' :: ("x5t=\"".toList ++ (x5t.toList ++ ['"'])))) := by
  rw [signatureKeyBody_toList]
  iterate 5 rw [Text.afterFirst_skip (by simp [List.dropPrefix?])]
  exact Text.afterFirst_self (by simp) _

/-- The thumbprint is found behind a URL that does not look like it. -/
theorem quotedParam_x5t {x5u x5t : String} (hu : ¬ "x5t=\"".toList <:+: x5u.toList)
    (hend : ¬ "x5t=".toList <:+ x5u.toList) (ht : '"' ∉ x5t.toList) :
    quotedParam (signatureKeyBody x5u x5t) "x5t" = some x5t := by
  have hneedle : "x5t=\"".toList = "x5t=".toList ++ ['"'] := by simp
  have hafter : Text.afterFirst "x5t=\"".toList (signatureKeyBody x5u x5t).toList =
      some (x5t.toList ++ ['"']) := by
    rw [signatureKeyBody_toList, show "x5u=\"".toList = ['x', '5', 'u', '=', '"'] by simp]
    simp only [List.cons_append, List.nil_append]
    iterate 10 rw [Text.afterFirst_skip (by simp [List.dropPrefix?])]
    rw [hneedle] at hu ⊢
    rw [Text.afterFirst_past (by simp) (by simp) hu hend,
      Text.afterFirst_skip (by simp [List.dropPrefix?])]
    exact Text.afterFirst_self (by simp) _
  unfold quotedParam
  change (Text.afterFirst "x5t=\"".toList _).bind _ = _
  rw [hafter, Option.bind_some, Text.beforeFirst_append ht]
  simp

/-- Whatever the URL is, some URL is read. -/
theorem exists_quotedParam_x5u (x5u x5t : String) :
    ∃ url, quotedParam (signatureKeyBody x5u x5t) "x5u" = some url := by
  obtain ⟨ys, hys⟩ := @Text.exists_beforeFirst '"'
    (x5u.toList ++ '"' :: (';' :: ("x5t=\"".toList ++ (x5t.toList ++ ['"'])))) (by simp)
  refine ⟨String.ofList ys, ?_⟩
  unfold quotedParam
  change (Text.afterFirst "x5u=\"".toList _).bind _ = _
  rw [afterFirst_x5u, Option.bind_some, hys]
  rfl

/-- Parsing the key header a server formats gives the two parameters back, when neither
contains a quote and the first does not end like the name of the second. -/
theorem parseSignatureKeyX509_signatureKeyX509 {x5u x5t : String} (hu : '"' ∉ x5u.toList)
    (ht : '"' ∉ x5t.toList) (hend : ¬ "x5t=".toList <:+ x5u.toList) :
    parseSignatureKeyX509 (signatureKeyX509 x5u x5t) = .ok (x5u, x5t) := by
  have hx5u : quotedParam (signatureKeyBody x5u x5t) "x5u" = some x5u := by
    unfold quotedParam
    change (Text.afterFirst "x5u=\"".toList _).bind _ = _
    rw [afterFirst_x5u, Option.bind_some, Text.beforeFirst_append hu]
    simp
  have hpart : ¬ "x5t=\"".toList <:+: x5u.toList := fun h => hu (h.subset (by simp))
  rw [parseSignatureKeyX509_eq, hx5u, quotedParam_x5t hpart hend ht]
  rfl

/-- Parsing the key header a server formats gives the thumbprint back, when the URL does not look
like it. -/
theorem parseSignatureKeyX509_thumbprint {x5u x5t : String} (hu : ¬ "x5t=\"".toList <:+: x5u.toList)
    (hend : ¬ "x5t=".toList <:+ x5u.toList) (ht : '"' ∉ x5t.toList) :
    ∃ url, parseSignatureKeyX509 (signatureKeyX509 x5u x5t) = .ok (url, x5t) := by
  obtain ⟨url, hurl⟩ := exists_quotedParam_x5u x5u x5t
  refine ⟨url, ?_⟩
  rw [parseSignatureKeyX509_eq, hurl, quotedParam_x5t hu hend ht]
  rfl

end Ayane.Protocol
