import Ayane.Http.Handlers
import Ayane.Testca

/-!
# A stand-in for JSON texts

The compact text of a value, without fractions, and a reader of such texts. What is nested at most as
deep as the reader goes is read back as it was written.
-/

namespace Ayane.Testca.JsonText

/-! ## Strings -/

/-- The characters that are escaped by a letter. -/
def escapes : List (Char × Char) := [('"', '"'), ('\\', '\\'), ('\x08', 'b'), ('\x0c', 'f'), ('\n', 'n'),
  ('\r', 'r'), ('\t', 't')]

def printChar (c : Char) : List Char :=
  match escapes.lookup c with
  | some letter => ['\\', letter]
  | none =>
    if c.toNat < 32 then ['\\', 'u', '0', '0', hexChar (c.toNat / 16), hexChar (c.toNat % 16)] else [c]

def printString (s : String) : List Char := '"' :: s.toList.flatMap printChar ++ ['"']

/-- The character of an escape by a letter. -/
def unescape (letter : Char) : Option Char := (escapes.find? fun e => e.2 = letter).map (·.1)

/-- The characters up to the quote that ends a string, and what follows it. -/
def readChars : List Char → Option (List Char × List Char)
  | [] => none
  | c :: text =>
    if c = '"' then some ([], text)
    else if c ≠ '\\' then (readChars text).map fun p => (c :: p.1, p.2)
    else match text with
      | [] => none
      | letter :: text =>
        match unescape letter with
        | some c => (readChars text).map fun p => (c :: p.1, p.2)
        | none =>
          match text with
          | '0' :: '0' :: high :: low :: text =>
            match hexValue high, hexValue low with
            | some h, some l => (readChars text).map fun p => (Char.ofNat (16 * h + l) :: p.1, p.2)
            | _, _ => none
          | _ => none

def readString : List Char → Option (String × List Char)
  | '"' :: text => (readChars text).map fun p => (String.ofList p.1, p.2)
  | _ => none

theorem readChars_printChar (c : Char) (rest : List Char) :
    readChars (printChar c ++ rest) = (readChars rest).map fun p => (c :: p.1, p.2) := by
  have hletters : ∀ e ∈ escapes, unescape e.2 = some e.1 := by decide
  have hquote : unescape 'u' = none := by decide
  unfold printChar
  cases hescape : escapes.lookup c with
  | some letter =>
    obtain ⟨_, _, hescapes, -⟩ := List.lookup_eq_some_iff.mp hescape
    have hletter : unescape letter = some c := hletters (c, letter) (by simp [hescapes])
    rw [List.cons_append, readChars.eq_def]
    simp [hletter]
  | none =>
    dsimp only
    split
    · rename_i hcontrol
      have hhigh := hexValue_hexChar (c.toNat / 16) (by omega)
      have hlow := hexValue_hexChar (c.toNat % 16) (by omega)
      have hvalue : 16 * (c.toNat / 16) + c.toNat % 16 = c.toNat := by omega
      rw [List.cons_append, readChars.eq_def]
      simp [hquote, hhigh, hlow, hvalue]
    · have hplain : c ≠ '"' ∧ c ≠ '\\' := by
        constructor <;> rintro rfl <;> simp [escapes] at hescape
      rw [List.cons_append, readChars.eq_def]
      simp [hplain]

theorem readString_printString (s : String) (rest : List Char) :
    readString (printString s ++ rest) = some (s, rest) := by
  have hchars : ∀ cs : List Char, readChars (cs.flatMap printChar ++ '"' :: rest) = some (cs, rest) := by
    intro cs
    induction cs with
    | nil =>
      rw [List.flatMap_nil, List.nil_append, readChars.eq_def]
      rfl
    | cons c cs ih => rw [List.flatMap_cons, List.append_assoc, readChars_printChar, ih]; rfl
  simp [printString, readString, hchars]

/-! ## Numbers -/

def printInt : ℤ → List Char
  | .ofNat n => Nat.toDigits 10 n
  | .negSucc n => '-' :: Nat.toDigits 10 (n + 1)

def readNat (text : List Char) : Option (ℕ × List Char) :=
  let digits := text.takeWhile Char.isDigit
  if digits = [] then none else some (Nat.ofDigitChars 10 digits 0, text.dropWhile Char.isDigit)

def readSigned : List Char → Option (ℤ × List Char)
  | '-' :: text => (readNat text).map fun p => (-(p.1 : ℤ), p.2)
  | text => (readNat text).map fun p => ((p.1 : ℤ), p.2)

/-- An integer that fits 64 bits. -/
def readInt (text : List Char) : Option (ℤ × List Char) :=
  (readSigned text).filter fun p => -2 ^ 63 ≤ p.1 ∧ p.1 < 2 ^ 64

/-- What follows a value: the end of the text, or no digit. -/
def Ends (rest : List Char) : Prop := ∀ c ∈ rest.head?, c.isDigit = false

theorem readNat_toDigits (n : ℕ) {rest : List Char} (hrest : Ends rest) :
    readNat (Nat.toDigits 10 n ++ rest) = some (n, rest) := by
  have hdigits : ∀ c ∈ Nat.toDigits 10 n, c.isDigit = true := fun c hc =>
    Nat.isDigit_of_mem_toDigits (by decide) (by decide) hc
  have hend : rest.takeWhile Char.isDigit = [] ∧ rest.dropWhile Char.isDigit = rest := by
    cases rest with
    | nil => exact ⟨rfl, rfl⟩
    | cons c rest => simp [hrest c rfl]
  simp only [readNat, List.takeWhile_append_of_pos hdigits, List.dropWhile_append_of_pos hdigits, hend,
    List.append_nil, Nat.toDigits_ne_nil, if_false, Nat.ofDigitChars_ten_toDigits]

theorem readSigned_printInt (n : ℤ) {rest : List Char} (hrest : Ends rest) :
    readSigned (printInt n ++ rest) = some (n, rest) := by
  cases n with
  | ofNat n =>
    have hread := readNat_toDigits n hrest
    change readSigned (Nat.toDigits 10 n ++ rest) = some (↑n, rest)
    unfold readSigned
    split
    · rename_i htext
      rw [htext] at hread
      cases hread
    · rw [hread]
      rfl
  | negSucc n =>
    change (readNat (Nat.toDigits 10 (n + 1) ++ rest)).map _ = _
    rw [readNat_toDigits _ hrest]
    rfl

theorem readInt_printInt {n : ℤ} (hn : -2 ^ 63 ≤ n ∧ n < 2 ^ 64) {rest : List Char}
    (hrest : Ends rest) : readInt (printInt n ++ rest) = some (n, rest) := by
  rw [readInt, readSigned_printInt n hrest, Option.filter_some, if_pos (decide_eq_true hn)]

/-! ## Lists -/

/-- Texts one after another, up to the character that closes them. -/
def listed (close : Char) : List (List Char) → List Char
  | [] => [close]
  | [text] => text ++ [close]
  | text :: texts => text ++ ',' :: listed close texts

section

variable {α : Type} (close : Char) (one : List Char → Option (α × List Char))

/-- At most so many values, with commas between them. -/
def readSeparated : ℕ → List Char → Option (List α × List Char)
  | 0, _ => none
  | n + 1, text =>
    match one text with
    | some (x, c :: text) =>
      if c = close then some ([x], text)
      else if c = ',' then (readSeparated n text).map fun p => (x :: p.1, p.2)
      else none
    | _ => none

def readListed (text : List Char) : Option (List α × List Char) :=
  match text with
  | [] => none
  | c :: rest => if c = close then some ([], rest) else readSeparated close one text.length text

variable {close one} {print : α → List Char} {xs : List α} {rest : List Char}

theorem length_le_listed : xs.length ≤ (listed close (xs.map print) ++ rest).length := by
  induction xs with
  | nil => exact Nat.zero_le _
  | cons x xs ih =>
    cases xs with
    | nil =>
      simp only [List.map_cons, List.map_nil, listed, List.length_append, List.length_cons]
      omega
    | cons y ys =>
      simp only [List.map_cons, listed, List.length_cons, List.length_append] at ih ⊢
      omega

theorem readSeparated_listed (hclose : close ≠ ',') (hends : close.isDigit = false)
    (hone : ∀ x ∈ xs, ∀ rest, Ends rest → one (print x ++ rest) = some (x, rest)) (hxs : xs ≠ [])
    {n : ℕ} (hn : xs.length ≤ n) :
    readSeparated close one n (listed close (xs.map print) ++ rest) = some (xs, rest) := by
  induction xs generalizing n with
  | nil => exact absurd rfl hxs
  | cons x xs ih =>
    obtain ⟨n, rfl⟩ : ∃ m, n = m + 1 := ⟨n - 1, by simp only [List.length_cons] at hn; omega⟩
    have hends' : ∀ c rest, c.isDigit = false → Ends (c :: rest) := by
      rintro c rest hc _ ⟨⟩
      exact hc
    cases xs with
    | nil =>
      have hx := hone x List.mem_cons_self (close :: rest) (hends' _ _ hends)
      simp [listed, readSeparated, hx]
    | cons y ys =>
      have hx := hone x List.mem_cons_self (',' :: (listed close ((y :: ys).map print) ++ rest))
        (hends' _ _ rfl)
      have hys := ih (fun z hz => hone z (List.mem_cons_of_mem _ hz)) (by simp) (Nat.le_of_succ_le_succ hn)
      have htext : listed close ((x :: y :: ys).map print) ++ rest =
          print x ++ ',' :: (listed close ((y :: ys).map print) ++ rest) := by
        simp [listed]
      rw [htext, readSeparated]
      simp only [hx, hclose.symm, if_false, if_true, hys, Option.map_some]

/-- A list is read back, if no value starts as its end does. -/
theorem readListed_listed (hclose : close ≠ ',') (hends : close.isDigit = false)
    (hend : ∀ rest, one (close :: rest) = none)
    (hone : ∀ x ∈ xs, ∀ rest, Ends rest → one (print x ++ rest) = some (x, rest)) :
    readListed close one (listed close (xs.map print) ++ rest) = some (xs, rest) := by
  by_cases hxs : xs = []
  · subst hxs
    simp [listed, readListed]
  have hread := @readSeparated_listed α close one print xs rest hclose hends hone hxs _
    (@length_le_listed α close print xs rest)
  cases htext : listed close (xs.map print) ++ rest with
  | nil =>
    rw [htext] at hread
    cases hread
  | cons c text =>
    rw [htext] at hread
    have hc : c ≠ close := by
      rintro rfl
      simp only [List.length_cons, readSeparated, hend] at hread
      cases hread
    simpa [readListed, hc] using hread

end

/-! ## Values -/

def print : ℕ → Json → List Char
  | _, .null => ['n', 'u', 'l', 'l']
  | _, .bool true => ['t', 'r', 'u', 'e']
  | _, .bool false => ['f', 'a', 'l', 's', 'e']
  | _, .int n => printInt n
  | _, .float text => text.toList
  | _, .str s => printString s
  | depth + 1, .arr items => '[' :: listed ']' (items.map (print depth))
  | depth + 1, .obj fields =>
    '{' :: listed '}' (fields.map fun f => printString f.1 ++ ':' :: print depth f.2)
  | 0, _ => []

def readScalar : List Char → Option (Json × List Char)
  | 'n' :: 'u' :: 'l' :: 'l' :: text => some (.null, text)
  | 't' :: 'r' :: 'u' :: 'e' :: text => some (.bool true, text)
  | 'f' :: 'a' :: 'l' :: 's' :: 'e' :: text => some (.bool false, text)
  | '"' :: text => (readString ('"' :: text)).map fun p => (.str p.1, p.2)
  | text => (readInt text).map fun p => (.int p.1, p.2)

def readField (one : List Char → Option (Json × List Char)) (text : List Char) :
    Option ((String × Json) × List Char) :=
  match readString text with
  | some (name, ':' :: text) => (one text).map fun p => ((name, p.1), p.2)
  | _ => none

/-- A value that is nested at most so deep. -/
def read : ℕ → List Char → Option (Json × List Char)
  | depth + 1, '[' :: text => (readListed ']' (read depth) text).map fun p => (.arr p.1, p.2)
  | depth + 1, '{' :: text => (readListed '}' (readField (read depth)) text).map fun p => (.obj p.1, p.2)
  | _, text => readScalar text

theorem read_of_readInt {depth : ℕ} {text rest : List Char} {n : ℤ}
    (h : readInt text = some (n, rest)) : read depth text = some (.int n, rest) := by
  have hscalar : readScalar text = some (.int n, rest) := by
    unfold readScalar
    split
    · cases h
    · cases h
    · cases h
    · cases h
    · rw [h]
      rfl
  unfold read
  split
  · cases h
  · cases h
  · exact hscalar

theorem read_print {depth : ℕ} {j : Json} (h : j.Plain depth) {rest : List Char} (hrest : Ends rest) :
    read depth (print depth j ++ rest) = some (j, rest) := by
  induction h generalizing rest with
  | @null depth => cases depth <;> rfl
  | @bool depth b => cases depth <;> cases b <;> rfl
  | @int depth n hn =>
    have hprint : print depth (.int n) = printInt n := by cases depth <;> rfl
    rw [hprint]
    exact read_of_readInt (readInt_printInt hn hrest)
  | @str depth s =>
    have hscalar : readScalar (printString s ++ rest) = some (.str s, rest) := by
      change (readString (printString s ++ rest)).map _ = _
      rw [readString_printString]
      rfl
    cases depth <;> exact hscalar
  | @arr depth items hitems ih =>
    have hend : ∀ rest, read depth (']' :: rest) = none := by
      intro rest
      cases depth <;> rfl
    have hread := @readListed_listed _ ']' (read depth) (print depth) items rest (by decide) rfl hend
      fun item hitem rest hrest => ih item hitem hrest
    change (readListed ']' (read depth) (listed ']' (items.map (print depth)) ++ rest)).map _ = _
    rw [hread]
    rfl
  | @obj depth fields hnodup hfields ih =>
    have hfield : ∀ f ∈ fields, ∀ rest, Ends rest →
        readField (read depth) (printString f.1 ++ ':' :: print depth f.2 ++ rest) = some (f, rest) := by
      intro f hf rest hrest
      rw [List.append_assoc, readField, readString_printString]
      change (read depth (print depth f.2 ++ rest)).map _ = _
      rw [ih f hf hrest]
      rfl
    have hread := @readListed_listed _ '}' (readField (read depth)) _ fields rest (by decide) rfl
      (fun _ => rfl) hfield
    change (readListed '}' (readField (read depth)) (listed '}' (fields.map fun f =>
      printString f.1 ++ ':' :: print depth f.2) ++ rest)).map _ = _
    rw [hread]
    rfl

/-! ## Bodies -/

def bodies : JsonBodies where
  toVec j := utf8 (String.ofList (print 127 j))
  fromSlice bytes :=
    match String.fromUTF8? ⟨bytes.toArray⟩ with
    | some text =>
      match read 127 text.toList with
      | some (j, []) => .ok j
      | _ => .error "expected value"
    | none => .error "invalid unicode code point"

theorem readsBack_bodies : bodies.ReadsBack := by
  intro depth j hdepth hplain
  have hread := @read_print 127 j (hplain.mono hdepth) [] (fun _ h => by cases h)
  have htext : String.fromUTF8? ⟨(utf8 (String.ofList (print 127 j))).toArray⟩ =
      some (String.ofList (print 127 j)) := dif_pos (String.ofList (print 127 j)).isValidUTF8
  simp only [bodies, htext, String.toList_ofList]
  rw [List.append_nil] at hread
  rw [hread]

/-- A runtime that serves such bodies. -/
def serving (rt : Runtime) : HttpRuntime :=
  { rt with
    bodies
    requestEntropy := fun _ => ⟨List.replicate 16 0, List.length_replicate⟩ }

end Ayane.Testca.JsonText
