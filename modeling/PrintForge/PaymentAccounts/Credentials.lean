import Mathlib.Tactic.Common
import PrintForge.Text.Strings
import PrintForge.Text.Unicode

/-!
# The credential envelope

A merchant's gateway credentials are kept encrypted, in an envelope of a version byte, the nonce,
the tag and the ciphertext, one behind the other. The cipher is the platform's AES-256-GCM; here it
is any pair of functions, and ideal under a key when it deciphers what it has produced under that
key and nothing else.

The service is the only user of its key, so that what the cipher is given are the UTF-8 bytes of
the strings that `encrypt` is called with. Under an ideal cipher `decrypt` then accepts the
envelopes of these calls and no other bytes.
-/

namespace Credentials

abbrev Bytes := List UInt8

/-! ## The cipher -/

/-- `encipher` takes a key, a nonce and a plaintext to the ciphertext and the tag; `decipher`
takes a key, a nonce, a tag and a ciphertext back. -/
structure Cipher where
  encipher : Bytes → Bytes → Bytes → Bytes × Bytes
  decipher : Bytes → Bytes → Bytes → Bytes → Option Bytes

/-- The cipher deciphers exactly what it has produced under the key: `given` are the plaintexts
that it is given with each nonce. -/
structure Cipher.Ideal (cipher : Cipher) (key : Bytes) (given : Bytes → Bytes → Prop) : Prop where
  tag_length : ∀ nonce plaintext, (cipher.encipher key nonce plaintext).2.length = 16
  decipher_eq_some : ∀ nonce tag ciphertext plaintext,
    cipher.decipher key nonce tag ciphertext = some plaintext ↔
      given nonce plaintext ∧ cipher.encipher key nonce plaintext = (ciphertext, tag)

/-! ## The master key -/

inductive CredentialError where
  | invalidPaymentCredentialsMasterKey (message : String)
  | credentialDecryption (message : String)
deriving DecidableEq, Repr

def masterKeyBytes : Nat := 32

/-- The six bits of a character of the base64 alphabet. -/
def base64Digit (c : Char) : Option Nat :=
  if 'A' ≤ c ∧ c ≤ 'Z' then some (c.toNat - 'A'.toNat)
  else if 'a' ≤ c ∧ c ≤ 'z' then some (26 + (c.toNat - 'a'.toNat))
  else if '0' ≤ c ∧ c ≤ '9' then some (52 + (c.toNat - '0'.toNat))
  else if c = '+' then some 62
  else if c = '/' then some 63
  else none

/-- `/^[A-Za-z0-9+/]+={0,2}$/`. -/
def base64Pattern (text : List Char) : Bool :=
  !(text.takeWhile fun c => (base64Digit c).isSome).isEmpty &&
    ([[], ['='], ['=', '=']] : List (List Char)).contains
      (text.dropWhile fun c => (base64Digit c).isSome)

def ofBase64Digits : List Nat → Bytes
  | a :: b :: c :: d :: rest =>
      .ofNat (a * 4 + b / 16) :: .ofNat (b % 16 * 16 + c / 4) :: .ofNat (c % 4 * 64 + d) ::
        ofBase64Digits rest
  | [a, b, c] => [.ofNat (a * 4 + b / 16), .ofNat (b % 16 * 16 + c / 4)]
  | [a, b] => [.ofNat (a * 4 + b / 16)]
  | _ => []

def ofBase64 (text : List Char) : Bytes := ofBase64Digits (text.filterMap base64Digit)

def resolvePaymentCredentialsMasterKey (raw : Option String) : Except CredentialError Bytes := do
  let value := JavaScript.trim (raw.getD "")
  if value = "" then
    throw (.invalidPaymentCredentialsMasterKey "PAYMENT_CREDENTIALS_MASTER_KEY is not configured")
  unless base64Pattern value.toList do
    throw (.invalidPaymentCredentialsMasterKey
      "PAYMENT_CREDENTIALS_MASTER_KEY must be base64-encoded")
  let key := ofBase64 value.toList
  if key.length ≠ masterKeyBytes then
    throw (.invalidPaymentCredentialsMasterKey
      "PAYMENT_CREDENTIALS_MASTER_KEY must decode to 32 bytes for AES-256-GCM")
  return key

/-! ## The service -/

def ivBytes : Nat := 12

def authTagBytes : Nat := 16

def envelopeVersion : UInt8 := 1

def envelopeMinLength : Nat := 1 + ivBytes + authTagBytes

def subarray (bytes : Bytes) (start stop : Nat) : Bytes := (bytes.take stop).drop start

section Service

variable (cipher : Cipher) (masterKey : Option String)

/-- `iv` are the random bytes of the call. -/
def encrypt (iv : Bytes) (plaintext : List UInt16) : Except CredentialError Bytes := do
  let key ← resolvePaymentCredentialsMasterKey masterKey
  let (ciphertext, authTag) := cipher.encipher key iv (Unicode.utf8 plaintext)
  return envelopeVersion :: (iv ++ (authTag ++ ciphertext))

def decrypt (envelope : Bytes) : Except CredentialError (List UInt16) := do
  if envelope.length < envelopeMinLength then
    throw (.credentialDecryption "Malformed credential ciphertext")
  let version := envelope.headD 0
  if version ≠ envelopeVersion then
    throw (.credentialDecryption s!"Unsupported credential envelope version: {version}")
  let key ← resolvePaymentCredentialsMasterKey masterKey
  let iv := subarray envelope 1 (1 + ivBytes)
  let authTag := subarray envelope (1 + ivBytes) envelopeMinLength
  let ciphertext := envelope.drop envelopeMinLength
  match cipher.decipher key iv authTag ciphertext with
  | some plaintext => return Unicode.decodeUtf8 plaintext
  | none =>
      throw (.credentialDecryption "Credential ciphertext failed authentication — rejected")

end Service

/-! ## The layout -/

theorem subarray_append (front : Bytes) {middle rest : Bytes} {start stop : Nat}
    (hstart : front.length = start) (hstop : start + middle.length = stop) :
    subarray (front ++ (middle ++ rest)) start stop = middle := by
  subst hstart hstop
  rw [subarray, List.take_length_add_append, List.drop_left, List.take_left]

section Subarray

variable {bytes : Bytes} {start stop n : Nat}

theorem subarray_take (h : stop ≤ n) :
    subarray (bytes.take n) start stop = subarray bytes start stop := by
  rw [subarray, List.take_take, Nat.min_eq_left h, subarray]

theorem subarray_append_left {more : Bytes} (h : stop ≤ bytes.length) :
    subarray (bytes ++ more) start stop = subarray bytes start stop := by
  rw [subarray, List.take_append_of_le_length h, subarray]

theorem subarray_set {byte : UInt8} (h : stop ≤ n) :
    subarray (bytes.set n byte) start stop = subarray bytes start stop := by
  rw [subarray, List.take_set_of_le h, subarray]

end Subarray

/-- Bytes that are long enough and of the version are cut into three parts. -/
theorem eq_envelope {envelope : Bytes} (hlength : envelopeMinLength ≤ envelope.length)
    (hversion : envelope.headD 0 = envelopeVersion) :
    ∃ iv authTag ciphertext, iv.length = ivBytes ∧ authTag.length = authTagBytes ∧
      envelope = envelopeVersion :: (iv ++ (authTag ++ ciphertext)) := by
  cases envelope with
  | nil => exact absurd hlength (by decide)
  | cons version rest =>
      obtain rfl : version = envelopeVersion := hversion
      simp only [envelopeMinLength, ivBytes, authTagBytes, List.length_cons] at hlength
      refine ⟨rest.take ivBytes, (rest.drop ivBytes).take authTagBytes,
        (rest.drop ivBytes).drop authTagBytes, ?_, ?_, ?_⟩
      · simp only [ivBytes, List.length_take]
        omega
      · simp only [ivBytes, authTagBytes, List.length_take, List.length_drop]
        omega
      · rw [List.take_append_drop, List.take_append_drop]

section Guarantees

variable {cipher : Cipher} {masterKey : Option String} {key : Bytes}

section Key

variable (hkey : resolvePaymentCredentialsMasterKey masterKey = .ok key)

include hkey

theorem encrypt_eq (iv : Bytes) (plaintext : List UInt16) :
    encrypt cipher masterKey iv plaintext =
      .ok (envelopeVersion :: (iv ++ ((cipher.encipher key iv (Unicode.utf8 plaintext)).2 ++
        (cipher.encipher key iv (Unicode.utf8 plaintext)).1))) := by
  rw [encrypt, hkey]
  rfl

theorem nonce_of_encrypt {iv envelope : Bytes} {text : List UInt16} (hiv : iv.length = ivBytes)
    (h : encrypt cipher masterKey iv text = .ok envelope) :
    subarray envelope 1 (1 + ivBytes) = iv := by
  rw [encrypt_eq hkey] at h
  rw [← Except.ok.inj h]
  exact subarray_append [envelopeVersion] rfl (by rw [hiv])

variable (cipher) in
theorem decrypt_envelope {iv authTag : Bytes} (ciphertext : Bytes) (hiv : iv.length = ivBytes)
    (htag : authTag.length = authTagBytes) :
    decrypt cipher masterKey (envelopeVersion :: (iv ++ (authTag ++ ciphertext))) =
      match cipher.decipher key iv authTag ciphertext with
      | some plaintext => .ok (Unicode.decodeUtf8 plaintext)
      | none => .error (.credentialDecryption
          "Credential ciphertext failed authentication — rejected") := by
  have hlength : ¬ (envelopeVersion :: (iv ++ (authTag ++ ciphertext))).length <
      envelopeMinLength := by
    simp only [List.length_cons, List.length_append, hiv, htag, envelopeMinLength]
    omega
  have hnonce : subarray (envelopeVersion :: (iv ++ (authTag ++ ciphertext))) 1 (1 + ivBytes) =
      iv := subarray_append [envelopeVersion] rfl (by rw [hiv])
  have hcut : envelopeVersion :: (iv ++ (authTag ++ ciphertext)) =
      (envelopeVersion :: iv) ++ (authTag ++ ciphertext) := rfl
  have htagged : subarray (envelopeVersion :: (iv ++ (authTag ++ ciphertext))) (1 + ivBytes)
      envelopeMinLength = authTag := by
    have hfront : (envelopeVersion :: iv).length = 1 + ivBytes := by
      rw [List.length_cons, hiv, Nat.add_comm]
    rw [hcut, subarray_append (envelopeVersion :: iv) hfront (by rw [htag]; rfl)]
  have hrest : (envelopeVersion :: (iv ++ (authTag ++ ciphertext))).drop envelopeMinLength =
      ciphertext := by
    rw [hcut, ← List.append_assoc, List.drop_left']
    rw [List.length_append, List.length_cons, hiv, htag]
    rfl
  rw [decrypt, if_neg hlength]
  simp only [List.headD_cons, ne_eq, not_true_eq_false, if_false, hkey, hnonce, htagged, hrest,
    bind, Except.bind]
  cases cipher.decipher key iv authTag ciphertext with
  | none => rfl
  | some plaintext => rfl

end Key

/-! ## What is accepted -/

/-- The plaintexts that the cipher is given in the calls `uses` of `encrypt`. -/
def Given (uses : Bytes → List UInt16 → Prop) (nonce plaintext : Bytes) : Prop :=
  ∃ text, uses nonce text ∧ plaintext = Unicode.utf8 text

/-- The bytes are the envelope of one of the calls. -/
def Producible (cipher : Cipher) (masterKey : Option String) (uses : Bytes → List UInt16 → Prop)
    (envelope : Bytes) : Prop :=
  ∃ iv text, uses iv text ∧ encrypt cipher masterKey iv text = .ok envelope

def Rejected (cipher : Cipher) (masterKey : Option String) (envelope : Bytes) : Prop :=
  ∃ message, decrypt cipher masterKey envelope = .error (.credentialDecryption message)

/-- Too short, or of another version: the cipher is not asked. -/
theorem rejected_of_layout {envelope : Bytes}
    (h : envelope.length < envelopeMinLength ∨ envelope.headD 0 ≠ envelopeVersion) :
    Rejected cipher masterKey envelope := by
  by_cases hlength : envelope.length < envelopeMinLength
  · refine ⟨"Malformed credential ciphertext", ?_⟩
    rw [decrypt, if_pos hlength]
    rfl
  · have hversion := h.resolve_left hlength
    refine ⟨s!"Unsupported credential envelope version: {envelope.headD 0}", ?_⟩
    rw [decrypt, if_neg hlength]
    simp only [ne_eq, hversion, not_false_eq_true, if_true]
    rfl

variable {uses : Bytes → List UInt16 → Prop}

section Ideal

variable (hkey : resolvePaymentCredentialsMasterKey masterKey = .ok key)
  (hnonces : ∀ iv text, uses iv text → iv.length = ivBytes)
  (hideal : cipher.Ideal key (Given uses))

include hkey hnonces hideal

/-- Decryption gives back the whole text. -/
theorem decrypt_of_encrypt {iv envelope : Bytes} {text : List UInt16} (huse : uses iv text)
    (h : encrypt cipher masterKey iv text = .ok envelope) :
    decrypt cipher masterKey envelope = .ok (Unicode.utf16 (Unicode.scalars text)) := by
  have hopens := (hideal.decipher_eq_some iv _ _ (Unicode.utf8 text)).mpr ⟨⟨text, huse, rfl⟩, rfl⟩
  rw [encrypt_eq hkey] at h
  rw [← Except.ok.inj h, decrypt_envelope cipher hkey _ (hnonces iv text huse)
    (hideal.tag_length iv _), hopens]
  exact congrArg _ (Unicode.decodeUtf8_utf8 text)

omit hnonces in
theorem accepted_or_rejected (envelope : Bytes) :
    Producible cipher masterKey uses envelope ∨ Rejected cipher masterKey envelope := by
  by_cases hlength : envelope.length < envelopeMinLength
  · exact .inr (rejected_of_layout (.inl hlength))
  by_cases hversion : envelope.headD 0 = envelopeVersion
  · obtain ⟨iv, authTag, ciphertext, hiv, htag, rfl⟩ := eq_envelope (by omega) hversion
    have hdecrypt := decrypt_envelope cipher hkey ciphertext hiv htag
    cases hopens : cipher.decipher key iv authTag ciphertext with
    | some plaintext =>
        left
        obtain ⟨⟨text, huse, rfl⟩, hsealed⟩ := (hideal.decipher_eq_some ..).mp hopens
        refine ⟨iv, text, huse, ?_⟩
        rw [encrypt_eq hkey, hsealed]
    | none =>
        right
        rw [hopens] at hdecrypt
        exact ⟨_, hdecrypt⟩
  · exact .inr (rejected_of_layout (.inr hversion))

/-- What an envelope has in its places. -/
theorem producible_parts {envelope : Bytes} (h : Producible cipher masterKey uses envelope) :
    envelopeMinLength ≤ envelope.length ∧ envelope.head? = some envelopeVersion ∧
      ∃ text, uses (subarray envelope 1 (1 + ivBytes)) text ∧
        encrypt cipher masterKey (subarray envelope 1 (1 + ivBytes)) text = .ok envelope := by
  obtain ⟨iv, text, huse, hencrypt⟩ := h
  have hiv := hnonces iv text huse
  have hnonce := nonce_of_encrypt hkey hiv hencrypt
  have heq := hencrypt
  rw [encrypt_eq hkey] at heq
  refine ⟨?_, by rw [← Except.ok.inj heq]; rfl, text, by rwa [hnonce], by rwa [hnonce]⟩
  have htag := hideal.tag_length iv (Unicode.utf8 text)
  simp only [← Except.ok.inj heq, List.length_cons, List.length_append, hiv, htag,
    envelopeMinLength, ivBytes, authTagBytes]
  omega

/-- A nonce that is used once belongs to one envelope. -/
theorem rejected_of_nonce {iv envelope other : Bytes} {text : List UInt16}
    (h : encrypt cipher masterKey iv text = .ok envelope)
    (honce : ∀ text', uses iv text' → text' = text)
    (hnonce : subarray other 1 (1 + ivBytes) = iv) (hne : other ≠ envelope) :
    Rejected cipher masterKey other := by
  refine (accepted_or_rejected hkey hideal other).resolve_left fun hother => ?_
  obtain ⟨-, -, text', huse, hencrypt⟩ := producible_parts hkey hnonces hideal hother
  rw [hnonce] at huse hencrypt
  obtain rfl := honce text' huse
  exact hne (Except.ok.inj (hencrypt.symm.trans h))

end Ideal

/-- A string is decrypted to what was encrypted, and the bytes that are accepted are the envelopes
of the service's calls, which `uses` are: all nonces with all strings, or fewer. Everything else is
rejected, whatever is shorter than the fixed parts and whatever has another version byte in
particular. Where a nonce is used for one string only, so is every beginning of its envelope,
everything that goes on behind it, and what a change of one byte makes of it; a changed nonce must
not make it the envelope of another call. -/
theorem envelope_exact (hkey : resolvePaymentCredentialsMasterKey masterKey = .ok key)
    (hnonces : ∀ iv text, uses iv text → iv.length = ivBytes)
    (hideal : cipher.Ideal key (Given uses)) :
    (∀ iv text, uses iv text → Unicode.isWellFormed text = true →
      (encrypt cipher masterKey iv text).bind (decrypt cipher masterKey) = .ok text) ∧
    (∀ envelope, (∃ text, decrypt cipher masterKey envelope = .ok text) ↔
      Producible cipher masterKey uses envelope) ∧
    (∀ envelope, ¬ Producible cipher masterKey uses envelope →
      Rejected cipher masterKey envelope) ∧
    (∀ envelope, envelope.length < envelopeMinLength ∨ envelope.headD 0 ≠ envelopeVersion →
      Rejected cipher masterKey envelope) ∧
    ∀ iv text envelope, uses iv text → encrypt cipher masterKey iv text = .ok envelope →
      (∀ text', uses iv text' → text' = text) →
      (∀ n < envelope.length, Rejected cipher masterKey (envelope.take n)) ∧
      (∀ more ≠ [], Rejected cipher masterKey (envelope ++ more)) ∧
      ∀ i byte, envelope.set i byte ≠ envelope →
        (1 ≤ i ∧ i < 1 + ivBytes → ¬ Producible cipher masterKey uses (envelope.set i byte)) →
        Rejected cipher masterKey (envelope.set i byte) := by
  have hrejected : ∀ envelope, ¬ Producible cipher masterKey uses envelope →
      Rejected cipher masterKey envelope := fun envelope =>
    (accepted_or_rejected hkey hideal envelope).resolve_left
  refine ⟨?_, ?_, hrejected, fun envelope => rejected_of_layout, ?_⟩
  · intro iv text huse hwell
    have hdecrypt := decrypt_of_encrypt hkey hnonces hideal huse (encrypt_eq hkey iv text)
    rw [Unicode.utf16_scalars hwell] at hdecrypt
    rw [encrypt_eq hkey]
    exact hdecrypt
  · intro envelope
    constructor
    · rintro ⟨text, htext⟩
      refine (accepted_or_rejected hkey hideal envelope).resolve_right ?_
      rintro ⟨message, hmessage⟩
      cases htext.symm.trans hmessage
    · rintro ⟨iv, text, huse, hencrypt⟩
      exact ⟨_, decrypt_of_encrypt hkey hnonces hideal huse hencrypt⟩
  · intro iv text envelope huse hencrypt honce
    obtain ⟨hlength, hhead, -⟩ :=
      producible_parts hkey hnonces hideal ⟨iv, text, huse, hencrypt⟩
    have hnonce := nonce_of_encrypt hkey (hnonces iv text huse) hencrypt
    have hlong : 1 + ivBytes ≤ envelope.length := by
      simp only [envelopeMinLength] at hlength
      omega
    have hsame : ∀ other, subarray other 1 (1 + ivBytes) = iv → other ≠ envelope →
        Rejected cipher masterKey other := fun other =>
      rejected_of_nonce hkey hnonces hideal hencrypt honce
    refine ⟨?_, ?_, ?_⟩
    · intro n hn
      by_cases hshort : n < envelopeMinLength
      · refine rejected_of_layout (.inl ?_)
        rw [List.length_take]
        omega
      · refine hsame _ ?_ fun heq => ?_
        · rw [subarray_take (by simp only [envelopeMinLength] at hshort; omega), hnonce]
        · have := congrArg List.length heq
          rw [List.length_take] at this
          omega
    · intro more hmore
      refine hsame _ ?_ fun heq => ?_
      · rw [subarray_append_left hlong, hnonce]
      · exact hmore (List.append_right_eq_self.mp heq)
    · intro i byte hne hiv
      cases i with
      | zero =>
          refine rejected_of_layout (.inr fun hversion => hne ?_)
          cases envelope with
          | nil => rfl
          | cons version rest =>
              rw [List.set_cons_zero, List.headD_cons] at hversion
              rw [List.head?_cons] at hhead
              rw [List.set_cons_zero, hversion, Option.some.inj hhead]
      | succ i =>
          by_cases hi : i + 1 < 1 + ivBytes
          · exact hrejected _ (hiv ⟨by omega, hi⟩)
          · exact hsame _ (by rw [subarray_set (by omega), hnonce]) hne

/-- A cipher that hides nothing, for calls with any nonce and any text. -/
def transparent : Cipher where
  encipher _ _ plaintext := (plaintext, List.replicate 16 0)
  decipher _ nonce tag ciphertext :=
    if nonce.length = ivBytes ∧ tag = List.replicate 16 0 ∧
        Unicode.utf8 (Unicode.decodeUtf8 ciphertext) = ciphertext then some ciphertext
    else none

theorem transparent_ideal (key : Bytes) :
    transparent.Ideal key (Given fun iv _ => iv.length = ivBytes) := by
  constructor
  · intro nonce plaintext
    rfl
  · intro nonce tag ciphertext plaintext
    simp only [transparent, Option.ite_none_right_eq_some, Option.some.injEq, Prod.mk.injEq, Given]
    constructor
    · rintro ⟨⟨hnonce, rfl, htext⟩, rfl⟩
      exact ⟨⟨_, hnonce, htext.symm⟩, rfl, rfl⟩
    · rintro ⟨⟨text, hnonce, rfl⟩, rfl, rfl⟩
      exact ⟨⟨hnonce, rfl, Unicode.utf8_decodeUtf8_utf8 text⟩, rfl⟩

/-- The parity of the bytes, in the sixteen bytes of a tag. -/
def checksum (plaintext : Bytes) : Bytes :=
  plaintext.foldr (fun byte parity => byte ^^^ parity) 0 :: List.replicate 15 0

/-- A cipher that opens the envelopes of the listed calls, its tag a checksum. -/
def checksummed (calls : List (Bytes × List UInt16)) : Cipher where
  encipher _ _ plaintext := (plaintext, checksum plaintext)
  decipher _ nonce tag ciphertext :=
    if (∃ call ∈ calls, call.1 = nonce ∧ Unicode.utf8 call.2 = ciphertext) ∧
        tag = checksum ciphertext then some ciphertext
    else none

theorem checksummed_ideal (calls : List (Bytes × List UInt16)) (key : Bytes) :
    (checksummed calls).Ideal key (Given fun iv text => (iv, text) ∈ calls) := by
  constructor
  · intro nonce plaintext
    rfl
  · intro nonce tag ciphertext plaintext
    simp only [checksummed, Option.ite_none_right_eq_some, Option.some.injEq, Prod.mk.injEq, Given]
    constructor
    · rintro ⟨⟨⟨⟨iv, text⟩, hmem, rfl, rfl⟩, rfl⟩, rfl⟩
      exact ⟨⟨text, hmem, rfl⟩, rfl, rfl⟩
    · rintro ⟨⟨text, hmem, rfl⟩, rfl, rfl⟩
      exact ⟨⟨⟨(nonce, text), hmem, rfl, rfl⟩, rfl⟩, rfl⟩

theorem sevens_key : resolvePaymentCredentialsMasterKey
    (some "BwcHBwcHBwcHBwcHBwcHBwcHBwcHBwcHBwcHBwcHBwc=") = .ok (List.replicate 32 7) := by
  decide +kernel

/-- Two calls, each with a nonce of its own. -/
def twoCalls : List (Bytes × List UInt16) :=
  [(List.replicate 12 9, [0x6B, 0x65, 0x79]), (List.replicate 12 8, [0x72, 0x7A, 0x70])]

/-- The envelope of the first: its version, its nonce, the tag and `key`. -/
def firstEnvelope : Bytes :=
  1 :: (List.replicate 12 9 ++ (checksum [0x6B, 0x65, 0x79] ++ [0x6B, 0x65, 0x79]))

/-- `rzp_🔒` under a key of thirty-two sevens comes back; the envelope of one of two calls is
rejected cut short, gone on, under another version, and with another nonce, tag or ciphertext. -/
theorem envelope_exact_transparent :
    (encrypt transparent (some "BwcHBwcHBwcHBwcHBwcHBwcHBwcHBwcHBwcHBwcHBwc=")
        (List.replicate 12 9) [0x72, 0x7A, 0x70, 0x5F, 0xD83D, 0xDD12]).bind
      (decrypt transparent (some "BwcHBwcHBwcHBwcHBwcHBwcHBwcHBwcHBwcHBwcHBwc=")) =
      .ok [0x72, 0x7A, 0x70, 0x5F, 0xD83D, 0xDD12] ∧
    ([firstEnvelope.take 28, firstEnvelope.take 31, firstEnvelope ++ [0], firstEnvelope.set 0 2,
        firstEnvelope.set 1 8, firstEnvelope.set 13 0, firstEnvelope.set 31 0].Forall
      (Rejected (checksummed twoCalls)
        (some "BwcHBwcHBwcHBwcHBwcHBwcHBwcHBwcHBwcHBwcHBwc="))) := by
  refine ⟨(envelope_exact sevens_key (fun _ _ h => h)
    (transparent_ideal _)).1 _ _ rfl (by decide), ?_⟩
  have hnonces : ∀ iv text, (iv, text) ∈ twoCalls → iv.length = ivBytes := fun iv text h => by
    rcases List.mem_pair.mp h with h | h <;> cases h <;> rfl
  obtain ⟨-, -, hunproducible, hlayout, hdamaged⟩ :=
    envelope_exact sevens_key hnonces (checksummed_ideal twoCalls _)
  obtain ⟨hshort, hlong, hchanged⟩ := hdamaged (List.replicate 12 9) [0x6B, 0x65, 0x79]
    firstEnvelope (.head _) (encrypt_eq sevens_key _ _) fun text' h => by
      rcases List.mem_pair.mp h with h | h <;> cases h
      rfl
  refine ⟨hlayout _ (.inl (by decide)), hshort _ (by decide), hlong _ (by decide),
    hlayout _ (.inr (by decide)), hunproducible _ ?_, hchanged 13 0 (by decide) fun h => ?_,
    hchanged 31 0 (by decide) fun h => ?_⟩
  · rintro ⟨iv, text, huse, hencrypt⟩
    rw [encrypt_eq sevens_key] at hencrypt
    rcases List.mem_pair.mp huse with h | h <;> cases h <;> cases hencrypt
  · exact absurd h (by decide)
  · exact absurd h (by decide)

end Guarantees

end Credentials
