import Billboard.Proofs.Token.Lifetime

/-! An accepted token was made by someone who knew the secret, unless the code of two texts is the
same. -/

namespace Billboard

namespace Digest

lemma Sha256.length_bigEndian (n x : Nat) : (bigEndian n x).length = n := by
  induction n generalizing x with
  | zero => rfl
  | succ n ih => rw [bigEndian, List.length_append, ih, List.length_singleton]

lemma Sha256.length_bytes (v : Sha256) : v.bytes.length = 32 := by
  simp only [bytes, List.flatMap_cons, List.flatMap_nil, List.length_append, length_bigEndian,
    List.length_nil]

lemma length_hmacSha256 (key message : List UInt8) : (hmacSha256 key message).length = 32 :=
  Sha256.length_bytes _

end Digest

namespace Token

open Text (Base64)

lemma bytesOf_injective : Function.Injective bytesOf := by
  intro s t h
  have hutf8 : s.toUTF8 = t.toUTF8 := by
    rw [← mk_toList s.toUTF8, ← mk_toList t.toUTF8]
    exact congrArg (fun l => (⟨l.toArray⟩ : ByteArray)) h
  exact String.toByteArray_inj.mp hutf8

def signedText (header claims : List Char) : List UInt8 :=
  bytesOf (String.ofList (header ++ '.' :: claims))

/-- A token of three pieces, the last of which is the code of the text before it. -/
structure Sealed (secret : List UInt8) (token : String) (header claims signature : List Char) :
    Prop where
  pieces : Text.splitAt '.' token.toList = [header, claims, signature]
  code : Base64.urlSafe.decode? signature =
    some (Digest.hmacSha256 secret (signedText header claims))

def Names (header : List Char) (a : Algorithm) : Prop :=
  ∃ bytes, decodePart header = .ok bytes ∧ Header.read? bytes = some a

def Says (claims : List Char) (c : Claims) : Prop :=
  ∃ bytes, decodePart claims = .ok bytes ∧ Json.decodeBytes Claims.reader bytes = .ok c

variable {secret : List UInt8} {token : String} {header claims signature : List Char}

lemma decode?_of_decodePart {cs : List Char} {bytes : ByteArray} (h : decodePart cs = .ok bytes) :
    Base64.urlSafe.decode? cs = some bytes.data.toList := by
  unfold decodePart at h
  split at h
  · rename_i l hl
    cases h
    exact hl
  · cases h

lemma splitAt_of_split? {cs : List Char} {p : Parts} (h : split? cs = some p)
    (hheader : '.' ∉ p.header) :
    Text.splitAt '.' cs = [p.header, p.claims, p.signature] ∧
      p.signed = p.header ++ '.' :: p.claims := by
  simp only [split?, Option.bind_eq_bind, Option.bind_eq_some_iff, Option.pure_def,
    Option.some.injEq] at h
  obtain ⟨⟨signed, signature⟩, houter, ⟨header, claims⟩, hinner, rfl⟩ := h
  obtain ⟨rfl, hsignature⟩ := Text.cutAtLast_eq_some houter
  obtain ⟨rfl, hclaims⟩ := Text.cutAtLast_eq_some hinner
  refine ⟨?_, rfl⟩
  rw [List.append_assoc, List.cons_append, Text.splitAt_append_mark hheader,
    Text.splitAt_append_mark hclaims, Text.splitAt_of_notMem hsignature]

lemma Opened.sealed {p : Parts} {c : Claims} {audience : Bool}
    (h : Opened secret token p c audience) :
    Sealed secret token p.header p.claims p.signature ∧ Names p.header .hs256 ∧
      Says p.claims c := by
  obtain ⟨header, hheader, hread⟩ := h.header
  obtain ⟨signature, hsignature, hcode⟩ := h.signature
  obtain ⟨payload, hpayload, hc⟩ := h.claims
  obtain ⟨hpieces, hsigned⟩ := splitAt_of_split? h.parts
    (Base64.dot_notMem_of_decode? (decode?_of_decodePart hheader))
  refine ⟨⟨hpieces, ?_⟩, ⟨header, hheader, hread⟩, ⟨payload, hpayload, readClaims_ok hc⟩⟩
  rw [decode?_of_decodePart hsignature, hcode, sign, hsigned, signedText]

lemma Sealed.pieces_eq {header' claims' signature' : List Char}
    (h : Sealed secret token header claims signature)
    (hpieces : Text.splitAt '.' token.toList = [header', claims', signature']) :
    header' = header ∧ claims' = claims ∧ signature' = signature := by
  have heq := hpieces.symm.trans h.pieces
  simp only [List.cons.injEq, and_true] at heq
  exact heq

lemma Sealed.signature_ne_nil (h : Sealed secret token header claims signature) :
    signature ≠ [] := by
  rintro rfl
  have hcode := congrArg (Option.map List.length) h.code
  rw [Option.map_some, Digest.length_hmacSha256] at hcode
  cases hcode

lemma Sealed.signedText_inj {token' : String} {header' claims' signature' : List Char}
    (h : Sealed secret token header claims signature)
    (h' : Sealed secret token' header' claims' signature')
    (htext : signedText header claims = signedText header' claims') :
    header = header' ∧ claims = claims' := by
  have hpiece : ∀ piece ∈ [header, claims, signature], '.' ∉ piece := fun piece hp =>
    Text.notMem_of_mem_splitAt (h.pieces ▸ hp)
  have hpiece' : ∀ piece ∈ [header', claims', signature'], '.' ∉ piece := fun piece hp =>
    Text.notMem_of_mem_splitAt (h'.pieces ▸ hp)
  simp only [List.forall_mem_cons] at hpiece hpiece'
  obtain ⟨hheader, hclaims, -⟩ := hpiece
  obtain ⟨hheader', hclaims', -⟩ := hpiece'
  have hsplit := congrArg (Text.splitAt '.') (String.ofList_injective (bytesOf_injective htext))
  rw [Text.splitAt_append_mark hheader, Text.splitAt_append_mark hheader',
    Text.splitAt_of_notMem hclaims, Text.splitAt_of_notMem hclaims'] at hsplit
  simpa using hsplit

lemma Flaw.toError_of_ne_expired {flaw : Flaw} (h : flaw ≠ .expired) :
    ∃ m, flaw.toError = .invalidToken m := by
  cases flaw with
  | expired => exact (h rfl).elim
  | _ => exact ⟨_, rfl⟩

end Token

namespace Signer

open Token (Sealed Names Says signedText)

/-- The token is told to be none of this signer. -/
def Refuses (s : Signer) (now : Int) (token : String) : Prop :=
  ∃ m, s.verify now token = .error (.invalidToken m)

variable (s : Signer) (now : Int) (token : String)

lemma verify_cases : s.Refuses now token ∨ ∃ header claims signature c,
    Sealed s.secret token header claims signature ∧ Names header .hs256 ∧ Says claims c ∧
      0 ≤ c.exp ∧ s.verify now token = if now ≤ c.exp then .ok c else .error .tokenExpired := by
  rcases Token.check_cases s.secret now token with
    ⟨flaw, hne, hflaw⟩ | ⟨p, c, audience, hopened, hpos, hcheck⟩
  · obtain ⟨m, hm⟩ := Token.Flaw.toError_of_ne_expired hne
    exact .inl ⟨m, by rw [verify, Token.verify, hflaw, Except.mapError, hm]⟩
  · obtain ⟨hsealed, hnames, hsays⟩ := hopened.sealed
    rw [Refuses, verify, Token.verify, hcheck]
    by_cases hnow : now ≤ c.exp
    · rw [if_neg (not_lt.mpr hnow)]
      cases audience with
      | true => exact .inl ⟨_, rfl⟩
      | false => exact .inr ⟨_, _, _, c, hsealed, hnames, hsays, hpos, by rw [if_pos hnow]; rfl⟩
    · rw [if_pos (not_le.mp hnow)]
      exact .inr ⟨_, _, _, c, hsealed, hnames, hsays, hpos, by rw [if_neg hnow]; rfl⟩

lemma sealed_of_not_refuses (h : ¬ s.Refuses now token) : ∃ header claims signature,
    Sealed s.secret token header claims signature ∧ Names header .hs256 := by
  rcases s.verify_cases now token with hrefused | ⟨_, _, _, _, hsealed, hnames, -⟩
  · exact (h hrefused).elim
  · exact ⟨_, _, _, hsealed, hnames⟩

lemma sealed_of_verify {c : Token.Claims} (h : s.verify now token = .ok c) :
    ∃ header claims signature, Sealed s.secret token header claims signature ∧
      Names header .hs256 ∧ Says claims c ∧ 0 ≤ c.exp ∧ now ≤ c.exp := by
  rcases s.verify_cases now token with ⟨m, hm⟩ | ⟨_, _, _, d, hsealed, hnames, hsays, hpos, hd⟩
  · cases hm.symm.trans h
  · rw [hd] at h
    split_ifs at h with hnow
    cases h
    exact ⟨_, _, _, hsealed, hnames, hsays, hpos, hnow⟩

lemma verify_error {e : AuthError} (h : s.verify now token = .error e) :
    (∃ m, e = .invalidToken m) ∨ e = .tokenExpired ∧
      ∃ header claims signature, Sealed s.secret token header claims signature := by
  rcases s.verify_cases now token with ⟨m, hm⟩ | ⟨_, _, _, c, hsealed, -, -, -, hc⟩
  · cases hm.symm.trans h
    exact .inl ⟨m, rfl⟩
  · rw [hc] at h
    split_ifs at h
    cases h
    exact .inr ⟨rfl, _, _, _, hsealed⟩

lemma sealed_of_isAdmin {σ : Type} {answer : (q : Effect) → σ → q.Answer × σ} {w : σ}
    (h : ((Service.isAdmin s token).run answer w).1 = .ok true) :
    ∃ header claims signature c, Sealed s.secret token header claims signature ∧
      Says claims c ∧ c.role = .admin := by
  rw [Service.isAdmin_eq, Dialogue.run, Dialogue.run] at h
  cases hc : s.verify (answer Effect.clock w).1.seconds token with
  | error e =>
    rw [hc] at h
    cases h
  | ok c =>
    rw [hc] at h
    obtain ⟨header, claims, signature, hsealed, -, hsays, -⟩ := s.sealed_of_verify _ token hc
    refine ⟨header, claims, signature, c, hsealed, hsays, ?_⟩
    cases hrole : c.role with
    | admin => rfl
    | user => simp [Except.map, Token.Claims.isAdmin, hrole, Role.isAdmin] at h

lemma refuses_or_collision {other : String} {header claims signature header' claims' : List Char}
    (hother : Sealed s.secret other header claims signature)
    (hpieces : Text.splitAt '.' token.toList = [header', claims', signature])
    (hne : (header', claims') ≠ (header, claims)) :
    s.Refuses now token ∨ signedText header' claims' ≠ signedText header claims ∧
      Digest.hmacSha256 s.secret (signedText header' claims') =
        Digest.hmacSha256 s.secret (signedText header claims) := by
  by_contra! hcon
  obtain ⟨hrefuses, hcode⟩ := hcon
  obtain ⟨header'', claims'', signature', hsealed, -⟩ := s.sealed_of_not_refuses now token hrefuses
  obtain ⟨rfl, rfl, rfl⟩ := hsealed.pieces_eq hpieces
  have htext : signedText header' claims' ≠ signedText header claims := fun htext => by
    obtain ⟨rfl, rfl⟩ := hsealed.signedText_inj hother htext
    exact hne rfl
  -- one signature is decoded to both codes
  exact hcode htext (Option.some.inj (hsealed.code.symm.trans hother.code))

/-- A token is accepted only for claims that were sealed with the secret before they expire, unless
the code of two texts is the same. -/
theorem accepted_only_sealed (s : Signer) (now : Int) (token : String) :
    (∀ c, s.verify now token = .ok c → ∃ header claims signature,
      Sealed s.secret token header claims signature ∧ Names header .hs256 ∧ Says claims c ∧
      0 ≤ c.exp ∧ now ≤ c.exp) ∧
    (∀ e, s.verify now token = .error e → (∃ m, e = .invalidToken m) ∨ e = .tokenExpired ∧
      ∃ header claims signature, Sealed s.secret token header claims signature) ∧
    (∀ {σ : Type} (answer : (q : Effect) → σ → q.Answer × σ) (w : σ),
      ((Service.isAdmin s token).run answer w).1 = .ok true → ∃ header claims signature c,
        Sealed s.secret token header claims signature ∧ Says claims c ∧ c.role = .admin) ∧
    ((Text.splitAt '.' token.toList).length ≠ 3 → s.Refuses now token) ∧
    ∀ header claims signature, Text.splitAt '.' token.toList = [header, claims, signature] →
      (signature = [] → s.Refuses now token) ∧
      (¬ Names header .hs256 → s.Refuses now token) ∧
      ∀ other header' claims', Sealed s.secret other header' claims' signature →
        (header, claims) ≠ (header', claims') →
        s.Refuses now token ∨ signedText header claims ≠ signedText header' claims' ∧
          Digest.hmacSha256 s.secret (signedText header claims) =
            Digest.hmacSha256 s.secret (signedText header' claims') := by
  have hsealed : ¬ s.Refuses now token → ∃ header claims signature,
      Sealed s.secret token header claims signature ∧ Names header .hs256 :=
    s.sealed_of_not_refuses now token
  refine ⟨fun c => s.sealed_of_verify now token, fun e => s.verify_error now token,
    fun answer w => s.sealed_of_isAdmin token, fun hlength => ?_,
    fun header claims signature hpieces => ⟨fun hempty => ?_, fun hnames => ?_,
      fun other header' claims' hother => s.refuses_or_collision now token hother hpieces⟩⟩
  · by_contra hrefuses
    obtain ⟨_, _, _, h, -⟩ := hsealed hrefuses
    exact hlength (congrArg List.length h.pieces)
  · by_contra hrefuses
    obtain ⟨_, _, _, h, -⟩ := hsealed hrefuses
    obtain ⟨-, -, rfl⟩ := h.pieces_eq hpieces
    exact h.signature_ne_nil hempty
  · by_contra hrefuses
    obtain ⟨_, _, _, h, hhs256⟩ := hsealed hrefuses
    obtain ⟨rfl, -, -⟩ := h.pieces_eq hpieces
    exact hnames hhs256

theorem accepted_only_sealed_issued :
    let s := new "s3cret" 60
    s.verify 7 (s.issue 0 "ü😀" .admin) = .ok ⟨"ü😀", .admin, 60, 0⟩ ∧
    ∃ header claims signature, Sealed s.secret (s.issue 0 "ü😀" .admin) header claims signature ∧
      Names header .hs256 ∧ Says claims ⟨"ü😀", .admin, 60, 0⟩ := by
  intro s
  have hpos : 0 ≤ (⟨"ü😀", .admin, 60, 0⟩ : Token.Claims).exp := by decide
  have haccepted : s.verify 7 (s.issue 0 "ü😀" .admin) = .ok ⟨"ü😀", .admin, 60, 0⟩ :=
    verify_encode s 7 hpos ⟨by decide, by decide⟩
  obtain ⟨header, claims, signature, hsealed, hnames, hsays, -⟩ :=
    (accepted_only_sealed s 7 (s.issue 0 "ü😀" .admin)).1 _ haccepted
  exact ⟨haccepted, header, claims, signature, hsealed, hnames, hsays⟩

end Signer

end Billboard
