import Billboard.Proofs.Accounts.Operations
import Billboard.Proofs.Json.Skipping
import Billboard.Proofs.Text.Numeral
import Billboard.Proofs.Token.Issued

/-! A token is accepted up to the second in which it expires. -/

namespace Billboard

namespace Token

open Json (WrittenField)
open Text (Base64 IntRange)

namespace Claims

structure Timely (c : Claims) : Prop where
  exp : IntRange.i64.contains c.exp = true
  iat : IntRange.i64.contains c.iat = true

variable {c : Claims}

lemma exact_time {t : Int} (h : IntRange.i64.contains t = true) : Json.Number.Exact (.int t) :=
  Banner.exact_int h (by decide) (by decide)

lemma reads_role (room : Nat) (r : Role) : Json.Reads Role.reader room r.toJson r := by
  cases r <;> exact Json.reads_variant room rfl

lemma written_fits (h : c.Timely) : ∀ f ∈ c.written, f.Fits slots 126 := by
  simp only [written, List.forall_mem_cons, List.not_mem_nil, IsEmpty.forall_iff, implies_true,
    and_true]
  exact ⟨(Json.reads_string _ _).required rfl, (reads_role _ _).required rfl,
    (Json.reads_int _ _ h.exp (exact_time h.exp)).required rfl,
    (Json.reads_int _ _ h.iat (exact_time h.iat)).required rfl⟩

lemma decode_text (h : c.Timely) : Json.decodeBytes reader c.text.toUTF8 = .ok c := by
  have hnd : (c.written.map (·.slot.name)).Nodup :=
    show ["sub", "role", "exp", "iat"].Nodup by decide
  have hall : Json.firstMissing slots (c.written.map (·.slot.name)).reverse = none := by rfl
  have hfields : c.fields = c.written.map (·.member) := rfl
  have hread : Json.decodeBytes reader (Json.writeRecord c.fields).toUTF8 =
      .ok (c.written.foldl (fun d f => f.put d) ⟨"", .user, 0, 0⟩) := by
    rw [hfields]
    exact Json.decodeBytes_written _ (List.cons_ne_nil _ _) (written_fits h) hnd hall
  rw [text, hread]
  rfl

def writtenSubject (c : Claims) : WrittenField (Option Json) :=
  ⟨.nullable "sub" Json.any fun _ a => a, .str c.sub, fun a => a⟩

def writtenExpiry (c : Claims) : WrittenField (Option Json) :=
  ⟨.defaulted "exp" Json.any fun _ a => a, .int c.exp, fun a => a⟩

lemma fits_subject (c : Claims) : c.writtenSubject.Fits audienceSlots 126 := by
  have hread : Json.Reads Json.any 126 (.str c.sub) (.str c.sub) :=
    Json.reads_any (show Json.Exact (.str c.sub) from trivial) (Nat.zero_le _)
  exact hread.nullable (by simp [Json.write, Json.writeString]) rfl

lemma fits_expiry (h : c.Timely) : c.writtenExpiry.Fits audienceSlots 126 := by
  have hread : Json.Reads Json.any 126 (.int c.exp) (.int c.exp) :=
    Json.reads_any (show Json.Exact (.int c.exp) from exact_time h.exp) (Nat.zero_le _)
  exact hread.defaulted rfl

lemma decode_audience (h : c.Timely) :
    Json.decodeBytes audienceReader c.text.toUTF8 = .ok none := by
  refine Json.decodeBytes_writeRecord (List.cons_ne_nil _ _) fun steps hl => ?_
  -- of the four members this reader knows the first and the third
  have hfields : c.fields = [c.writtenSubject.member, ("role", .str c.role.name),
    c.writtenExpiry.member, ("iat", .int c.iat)] := rfl
  simp only [fields, Role.toJson, Json.writeMembers, List.length_append, List.length_cons] at hl
  obtain ⟨steps, rfl⟩ : ∃ n, steps = n + 4 := ⟨steps - 4, by omega⟩
  have hsub : (Json.write c.writtenSubject.value).length ≤ steps + 3 := by
    simp only [writtenSubject]
    omega
  have hexp : (Json.write c.writtenExpiry.value).length ≤ steps + 1 := by
    simp only [writtenExpiry]
    omega
  have hother : c.writtenExpiry.slot.name ∉ [c.writtenSubject.slot.name] :=
    show "exp" ∉ ["sub"] by decide
  rw [hfields, Json.recordMembers_field (steps + 3) none (fits_subject c) List.not_mem_nil hsub,
    Json.recordMembers_other 126 (steps + 2) _ _ rfl (Json.skips_string _) (by omega),
    Json.recordMembers_field (steps + 1) _ (fits_expiry h) hother hexp,
    Json.recordMembers_last_other 126 steps _ _ rfl (Json.skips_int _) (by omega) rfl]
  rfl

lemma readClaims_text (h : c.Timely) : readClaims c.text.toUTF8 = .ok (c, false) := by
  simp only [readClaims, decode_text h, decode_audience h]
  rfl

end Claims

lemma readHeader_text : Header.read? Header.text.toUTF8 = some .hs256 := by
  decide +kernel

lemma decodePart_encode (bytes : List UInt8) :
    decodePart (Base64.urlSafe.encode bytes) = .ok ⟨bytes.toArray⟩ := by
  rw [decodePart, Base64.decode?_encode Base64.faithful_urlSafe]

lemma check_encode_eq (secret : List UInt8) (now : Int) {c : Claims} (h : c.Timely) :
    check secret now (encode secret c) =
      if c.exp < 0 then .error .noExpiry else if c.exp < now then .error .expired else .ok c := by
  simp only [check, split?_encode, decodePart_encodePart, readHeader_text, decodePart_encode,
    Claims.readClaims_text h, bind, Except.bind, ne_eq, not_true_eq_false, if_false,
    Bool.false_eq_true]

end Token

namespace Signer

open Token (Claims)
open Text (IntRange)

lemma verify_encode (s : Signer) (now : Int) {c : Claims} (hpos : 0 ≤ c.exp) (h : c.Timely) :
    s.verify now (Token.encode s.secret c) =
      if now ≤ c.exp then .ok c else .error .tokenExpired := by
  rw [verify, Token.verify, Token.check_encode_eq s.secret now h, if_neg (not_lt.mpr hpos)]
  by_cases hnow : now ≤ c.exp
  · rw [if_neg (not_lt.mpr hnow), if_pos hnow]
    rfl
  · rw [if_pos (not_le.mp hnow), if_neg hnow]
    rfl

lemma claims_new (secret username : String) (role : Role) (lifetime : Nat) {issued : Int}
    (hpast : 0 ≤ issued) : (new secret lifetime).claims issued username role =
      ⟨username, role, min (issued + lifetime) latest, issued⟩ := by
  have hexp : min (issued + min (lifetime : Int) latest) latest =
      min (issued + lifetime) latest := by
    omega
  rw [claims, new, hexp]

lemma timely_issued {username : String} {role : Role} {lifetime : Nat} {issued : Int}
    (hpast : 0 ≤ issued) (hfit : issued ≤ latest) :
    Claims.Timely ⟨username, role, min (issued + lifetime) latest, issued⟩ := by
  unfold latest at hfit
  constructor <;> rw [IntRange.contains_iff] <;> simp only [IntRange.i64, latest] <;> omega

/-- A token is accepted with the claims that it was issued for until it expires, and never after. -/
theorem accepted_until_expiry (secret username : String) (role : Role) (lifetime lifetime' : Nat)
    {issued : Int} (hpast : 0 ≤ issued) (hfit : issued ≤ latest) :
    let asked := new secret lifetime'
    let token := (new secret lifetime).issue issued username role
    let expiry := min (issued + lifetime) latest
    (∀ now ≤ expiry, asked.verify now token = .ok ⟨username, role, expiry, issued⟩) ∧
    (∀ now > expiry, asked.verify now token = .error .tokenExpired) ∧
    (Service.isAdmin asked token = .ask .clock fun t => .done
      (if t.seconds ≤ expiry then .ok (decide (role = .admin)) else .error .tokenExpired)) ∧
    ∀ (c : Claims) (now : Int), 0 ≤ c.exp → c.Timely →
      asked.verify now (Token.encode (Token.bytesOf secret) c) =
        if now ≤ c.exp then .ok c else .error .tokenExpired := by
  intro asked token expiry
  have hencode : ∀ (c : Claims) (now : Int), 0 ≤ c.exp → c.Timely →
      asked.verify now (Token.encode (Token.bytesOf secret) c) =
        if now ≤ c.exp then .ok c else .error .tokenExpired :=
    fun c now hpos htimely => verify_encode asked now hpos htimely
  have hpos : 0 ≤ expiry := by
    simp only [expiry, latest]
    omega
  have htoken : ∀ now, asked.verify now token =
      if now ≤ expiry then .ok ⟨username, role, expiry, issued⟩ else .error .tokenExpired := by
    intro now
    have hissue : token = Token.encode (Token.bytesOf secret) ⟨username, role, expiry, issued⟩ :=
      congrArg (Token.encode (Token.bytesOf secret))
        (claims_new secret username role lifetime hpast)
    rw [hissue]
    exact hencode _ now hpos (timely_issued hpast hfit)
  refine ⟨fun now hnow => ?_, fun now hnow => ?_, ?_, hencode⟩
  · rw [htoken, if_pos hnow]
  · rw [htoken, if_neg (not_le.mpr hnow)]
  · rw [Service.isAdmin_eq]
    refine congrArg (Dialogue.ask Effect.clock) (funext fun t => ?_)
    rw [htoken]
    by_cases ht : t.seconds ≤ expiry
    · rw [if_pos ht, if_pos ht]
      cases role <;> rfl
    · rw [if_neg ht, if_neg ht]
      rfl

theorem accepted_until_expiry_latest :
    0 ≤ latest - 1 ∧ latest - 1 ≤ latest ∧
    (new "s3cret" 60).verify latest
        ((new "s3cret" 18446744073709551615).issue (latest - 1) "ü😀" .admin) =
      .ok ⟨"ü😀", .admin, latest, latest - 1⟩ := by
  have hpast : 0 ≤ latest - 1 := by decide
  have hfit : latest - 1 ≤ latest := by decide
  have haccepted := accepted_until_expiry "s3cret" "ü😀" .admin 18446744073709551615 60 hpast hfit
  exact ⟨hpast, hfit, haccepted.1 latest (by decide)⟩

end Signer

end Billboard
