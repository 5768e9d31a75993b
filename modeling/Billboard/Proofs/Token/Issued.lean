import Billboard.Proofs.Banner.RoundTrip
import Billboard.Proofs.Json.Soundness
import Billboard.Proofs.Text.Base64
import Billboard.Proofs.Text.Split
import Billboard.Token

namespace Billboard

namespace Token

open Json (ReadsOnly WrittenField)
open Text (Base64)

lemma toList_loop_eq (bytes : ByteArray) (i : Nat) (acc : List UInt8) :
    ByteArray.toList.loop bytes i acc = acc.reverse ++ bytes.data.toList.drop i := by
  fun_induction ByteArray.toList.loop bytes i acc with
  | case1 i acc h ih =>
    have hi : i < bytes.data.toList.length := by simpa using h
    have hget : bytes.get! i = bytes.data.toList[i] := by
      rw [ByteArray.get!, Array.getElem_toList]
      exact getElem!_pos bytes.data i (by simpa using h)
    rw [ih, List.drop_eq_getElem_cons hi, hget]
    simp
  | case2 i acc h =>
    have hi : bytes.data.toList.length ≤ i := by simpa using h
    simp [List.drop_eq_nil_of_le hi]

lemma mk_toList (bytes : ByteArray) : (⟨bytes.toList.toArray⟩ : ByteArray) = bytes := by
  rw [ByteArray.toList, toList_loop_eq]
  simp

lemma decodePart_encodePart (s : String) : decodePart (encodePart s) = .ok s.toUTF8 := by
  rw [decodePart, encodePart, Base64.decode?_encode Base64.faithful_urlSafe]
  simp only [bytesOf, mk_toList]

namespace Claims

def written (c : Claims) : List (WrittenField Claims) :=
  [⟨.required "sub" Json.string fun x c => { c with sub := x }, .str c.sub,
      fun d => { d with sub := c.sub }⟩,
   ⟨.required "role" Role.reader fun x c => { c with role := x }, c.role.toJson,
      fun d => { d with role := c.role }⟩,
   ⟨.required "exp" Json.i64 fun x c => { c with exp := x }, .int c.exp,
      fun d => { d with exp := c.exp }⟩,
   ⟨.required "iat" Json.i64 fun x c => { c with iat := x }, .int c.iat,
      fun d => { d with iat := c.iat }⟩]

lemma readsOnly_role (r : Role) : ReadsOnly Role.reader r.toJson r := by
  cases r <;> exact Json.readsOnly_variant rfl

lemma written_fitsOnly (c : Claims) : ∀ f ∈ c.written, f.FitsOnly slots := by
  simp only [written, List.forall_mem_cons, List.not_mem_nil, IsEmpty.forall_iff, implies_true,
    and_true]
  exact ⟨(Json.readsOnly_string _).required rfl, (readsOnly_role _).required rfl,
    (Json.readsOnly_int _ _ _).required rfl, (Json.readsOnly_int _ _ _).required rfl⟩

lemma eq_of_decode {c d : Claims} (h : Json.decodeBytes reader c.text.toUTF8 = .ok d) : d = c := by
  have hne : c.fields ≠ [] := List.cons_ne_nil _ _
  obtain ⟨steps, r, hm⟩ := Json.recordMembers_of_decode hne h
  have hfields : c.fields = c.written.map (·.member) ++ [] := rfl
  have hslots : ∀ slot ∈ slots,
      slot.name ∉ (c.written.map (·.slot.name)).reverse ++ [] → ∀ b cs put r,
        slot.read b cs = .ok (put, r) → ∀ d, id (put d) = id d := by
    intro slot hslot hn
    refine (hn ?_).elim
    simp only [slots, List.mem_cons, List.not_mem_nil, or_false] at hslot
    rcases hslot with rfl | rfl | rfl | rfl <;> simp [written, Json.Slot.required]
  rw [hfields] at hm
  have hd := Json.recordMembers_only id (written_fitsOnly c) hslots hm
  exact hd

end Claims

lemma split?_encode (secret : List UInt8) (c : Claims) : split? (encode secret c).toList =
    some ⟨signedPart c, encodePart Header.text, encodePart c.text,
      Base64.urlSafe.encode (sign secret (signedPart c))⟩ := by
  have hinner : Text.cutAtLast '.' (signedPart c) =
      some (encodePart Header.text, encodePart c.text) :=
    Text.cutAtLast_append _ (Base64.dot_notMem_encode _)
  rw [encode, String.toList_ofList, split?, Text.cutAtLast_append _ (Base64.dot_notMem_encode _)]
  simp only [Option.bind_eq_bind, Option.bind_some, hinner]
  rfl

structure Opened (secret : List UInt8) (token : String) (p : Parts) (c : Claims) (audience : Bool) :
    Prop where
  parts : split? token.toList = some p
  header : ∃ bytes, decodePart p.header = .ok bytes ∧ Header.read? bytes = some .hs256
  signature : ∃ bytes, decodePart p.signature = .ok bytes ∧
    bytes.data.toList = sign secret p.signed
  claims : ∃ bytes, decodePart p.claims = .ok bytes ∧ readClaims bytes = .ok (c, audience)

lemma decodePart_error {cs : List Char} {flaw : Flaw} (h : decodePart cs = .error flaw) :
    flaw = .base64 := by
  unfold decodePart at h
  split at h <;> cases h
  rfl

lemma readClaims_error {payload : ByteArray} {flaw : Flaw} (h : readClaims payload = .error flaw) :
    flaw = .json := by
  unfold readClaims at h
  split at h <;> cases h
  rfl

lemma check_cases (secret : List UInt8) (now : Int) (token : String) :
    (∃ flaw, flaw ≠ .expired ∧ check secret now token = .error flaw) ∨
    ∃ p c audience, Opened secret token p c audience ∧ 0 ≤ c.exp ∧ check secret now token =
      if c.exp < now then .error .expired else if audience then .error .audience else .ok c := by
  -- the checks from the outside in, each of which may be the last one
  unfold check
  cases hp : split? token.toList with
  | none => exact .inl ⟨.parts, nofun, rfl⟩
  | some p =>
    cases hheader : decodePart p.header with
    | error flaw =>
      exact .inl ⟨flaw, by rw [decodePart_error hheader]; nofun, by simp only [hheader]; rfl⟩
    | ok header =>
      simp only [hheader, bind, Except.bind]
      match hread : Header.read? header with
      | none => exact .inl ⟨.json, nofun, rfl⟩
      | some .other => exact .inl ⟨.algorithm, nofun, rfl⟩
      | some .hs256 =>
        cases hsignature : decodePart p.signature with
        | error flaw => exact .inl ⟨flaw, by rw [decodePart_error hsignature]; nofun, rfl⟩
        | ok signature =>
          by_cases hsigned : signature.data.toList = sign secret p.signed
          · cases hclaims : decodePart p.claims with
            | error flaw =>
              exact .inl ⟨flaw, by rw [decodePart_error hclaims]; nofun, by simp [hsigned]⟩
            | ok payload =>
              cases hc : readClaims payload with
              | error flaw =>
                exact .inl ⟨flaw, by rw [readClaims_error hc]; nofun, by simp [hsigned, hc]⟩
              | ok q =>
                obtain ⟨c, audience⟩ := q
                by_cases hexp : c.exp < 0
                · exact .inl ⟨.noExpiry, nofun, by simp [hsigned, hc, hexp]⟩
                · refine .inr ⟨p, c, audience, ⟨hp, ⟨_, hheader, hread⟩, ⟨_, hsignature, hsigned⟩,
                    ⟨_, hclaims, hc⟩⟩, not_lt.mp hexp, ?_⟩
                  simp [hsigned, hc, hexp]
          · exact .inl ⟨.signature, nofun, by simp [hsigned]⟩

lemma check_ok {secret : List UInt8} {now : Int} {token : String} {c : Claims}
    (h : check secret now token = .ok c) :
    ∃ p, Opened secret token p c false ∧ 0 ≤ c.exp ∧ now ≤ c.exp := by
  rcases check_cases secret now token with ⟨flaw, -, hflaw⟩ | ⟨p, d, audience, hopened, hpos, hd⟩
  · cases hflaw.symm.trans h
  · rw [hd] at h
    split_ifs at h with hnow haudience
    cases h
    rw [Bool.not_eq_true] at haudience
    exact ⟨p, haudience ▸ hopened, hpos, not_lt.mp hnow⟩

lemma readClaims_ok {payload : ByteArray} {c : Claims} {audience : Bool}
    (h : readClaims payload = .ok (c, audience)) :
    Json.decodeBytes Claims.reader payload = .ok c := by
  unfold readClaims at h
  split at h
  · rename_i hc _
    cases h
    exact hc
  · cases h

lemma check_encode {secret : List UInt8} {now : Int} {c d : Claims}
    (h : check secret now (encode secret c) = .ok d) : d = c := by
  obtain ⟨p, ⟨hp, -, -, payload, hpayload, hread⟩, -⟩ := check_ok h
  rw [split?_encode] at hp
  cases hp
  rw [decodePart_encodePart] at hpayload
  cases hpayload
  exact Claims.eq_of_decode (readClaims_ok hread)

end Token

namespace Signer

variable {s : Signer} {now : Int} {c : Token.Claims}

lemma check_of_verify {token : String} (h : s.verify now token = .ok c) :
    Token.check s.secret now token = .ok c := by
  unfold verify Token.verify at h
  cases hc : Token.check s.secret now token with
  | error flaw => simp [hc, Except.mapError] at h
  | ok d => simpa [hc, Except.mapError] using h

theorem now_le_of_verify {token : String} (h : s.verify now token = .ok c) : now ≤ c.exp := by
  obtain ⟨-, -, -, hnow⟩ := Token.check_ok (check_of_verify h)
  exact hnow

theorem claims_of_verify_issue {issued : Int} {username : String} {role : Role}
    (h : s.verify now (s.issue issued username role) = .ok c) : c = s.claims issued username role :=
  Token.check_encode (check_of_verify h)

end Signer

end Billboard
