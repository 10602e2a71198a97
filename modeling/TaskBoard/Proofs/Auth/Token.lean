import Mathlib.Data.List.TakeWhile
import TaskBoard.Auth.SessionToken

/-!
# Tokens that are accepted

A token is signed under a key if it has a header that names the algorithm, claims that can be
read, and the signature of both.  The claims of a signed token decide: it is accepted up to its
end, and has expired after it, and anything else makes it invalid.

    a token that is not signed is refused, but has not expired  (refused_of_not_signed)
    the accepted tokens are those that pass                     (validate_eq_ok)
    the expired tokens are those that are refused as expired    (validate_eq_expired)
-/

namespace TaskBoard

/-! ## The alphabet -/

namespace Base64

/-- Every number beyond the alphabet has its last letter. -/
theorem exists_letter_eq (n : Nat) : ∃ k < 64, letter n = letter k := by
  by_cases hn : n < 64
  · exact ⟨n, hn, rfl⟩
  · refine ⟨63, by decide, ?_⟩
    unfold letter
    rw [if_neg (by omega), if_neg (by omega), if_neg (by omega), if_neg (by omega)]
    rfl

/-- A letter of the alphabet is ASCII, and no blank or point. -/
theorem letter_spec (n : Nat) :
    letter n ≠ '.' ∧ 0x20 < (letter n).toNat ∧ (letter n).toNat < 0x7f := by
  have hsmall : ∀ k < 64,
      letter k ≠ '.' ∧ 0x20 < (letter k).toNat ∧ (letter k).toNat < 0x7f := by decide
  obtain ⟨k, hk, hn⟩ := exists_letter_eq n
  rw [hn]
  exact hsmall k hk

/-- An encoding is made of letters of the alphabet. -/
theorem exists_letter_of_mem_encode {bs : List UInt8} {c : Char} (h : c ∈ encode bs) :
    ∃ n, c = letter n := by
  induction bs using encode.induct with
  | case1 => cases h
  | case2 a =>
    rcases List.mem_cons.1 h with rfl | h
    · exact ⟨_, rfl⟩
    · exact ⟨_, List.mem_singleton.1 h⟩
  | case3 a b =>
    rcases List.mem_cons.1 h with rfl | h
    · exact ⟨_, rfl⟩
    · rcases List.mem_cons.1 h with rfl | h
      · exact ⟨_, rfl⟩
      · exact ⟨_, List.mem_singleton.1 h⟩
  | case4 a b d rest ih =>
    simp only [encode, List.mem_cons] at h
    rcases h with rfl | rfl | rfl | rfl | h
    · exact ⟨_, rfl⟩
    · exact ⟨_, rfl⟩
    · exact ⟨_, rfl⟩
    · exact ⟨_, rfl⟩
    · exact ih h

theorem point_not_mem_encode (bs : List UInt8) : '.' ∉ encode bs := by
  intro h
  obtain ⟨n, hn⟩ := exists_letter_of_mem_encode h
  exact (letter_spec n).1 hn.symm

end Base64

namespace SessionToken

variable {key : List UInt8} {now : Int} {token : String}

/-- A token with a header, claims and a signature, with points between them.  The header names the
algorithm, the claims can be read, and maybe an audience with them, and the signature is that of
the other two parts under the key. -/
inductive Signed (key : List UInt8) : String → Claims × Bool → Prop
  | parts {head payload : List Char} {c : Claims × Bool} (hone : '.' ∉ payload)
    (hhead : readPart TokenHeader.decoder head = .ok TokenHeader.algorithm)
    (hclaims : readPart claimsDecoder payload = .ok c) :
    Signed key (String.ofList (head ++ '.' :: payload ++ '.' ::
      sign key (head ++ '.' :: payload))) c

/-- The token is signed, it has no audience but a user, and its end is not in the past. -/
structure Accepted (key : List UInt8) (now : Int) (token : String) (c : Claims) : Prop where
  signed : Signed key token (c, false)
  ends : 0 ≤ c.exp
  inTime : now ≤ c.exp
  user : c.sub ≠ ""

/-- The token is signed, and its end is in the past. -/
def Expired (key : List UInt8) (now : Int) (token : String) : Prop :=
  ∃ c, Signed key token c ∧ 0 ≤ c.1.exp ∧ c.1.exp < now

/-! ## Parts -/

theorem cutLast?_append {before behind : List Char} (h : '.' ∉ behind) :
    cutLast? (before ++ '.' :: behind) = some (before, behind) := by
  have hbehind : ((before ++ '.' :: behind).reverse.takeWhile (· ≠ '.')).reverse = behind := by
    rw [List.reverse_append, List.reverse_cons, List.append_assoc, List.takeWhile_append_of_pos]
    · simp
    · intro c hc
      rw [decide_eq_true_eq]
      rintro rfl
      exact h (List.mem_reverse.1 hc)
  unfold cutLast?
  rw [hbehind]
  dsimp only
  rw [List.length_append, List.length_cons, if_pos (by omega)]
  congr 2
  rw [show before.length + (behind.length + 1) - behind.length - 1 = before.length by omega]
  exact List.take_left

theorem eq_append_of_cutLast? {cs before behind : List Char}
    (h : cutLast? cs = some (before, behind)) : cs = before ++ '.' :: behind ∧ '.' ∉ behind := by
  by_cases hmem : '.' ∈ cs
  · obtain ⟨left, right, hcs, hleft⟩ := List.eq_append_cons_of_mem (List.mem_reverse.2 hmem)
    have hcs : cs = right.reverse ++ '.' :: left.reverse := by
      rw [← List.reverse_reverse cs, hcs]
      simp
    have hnot : '.' ∉ left.reverse := fun hm => hleft (List.mem_reverse.1 hm)
    rw [hcs, cutLast?_append hnot] at h
    cases h
    exact ⟨hcs, hnot⟩
  · have hall : cs.reverse.takeWhile (· ≠ '.') = cs.reverse := by
      rw [List.takeWhile_eq_self_iff]
      intro c hc
      rw [decide_eq_true_eq]
      rintro rfl
      exact hmem (List.mem_reverse.1 hc)
    unfold cutLast? at h
    rw [hall, List.reverse_reverse] at h
    simp at h

/-! ## Validating -/

/-- What becomes of a token with three parts. -/
theorem validate_of_parts {message signature head payload : List Char}
    (hcut : cutLast? token.toList = some (message, signature))
    (hcut' : cutLast? message = some (head, payload)) :
    validate key now token = match readPart TokenHeader.decoder head with
      | .error f => .error (.invalid f)
      | .ok alg =>
        if alg ≠ TokenHeader.algorithm then .error (.invalid .algorithm)
        else if signature ≠ sign key message then .error .badSignature
        else match readPart claimsDecoder payload with
          | .error f => .error (.invalid f)
          | .ok c => check now c := by
  unfold validate
  rw [hcut]
  dsimp only
  rw [hcut']
  dsimp only
  cases readPart TokenHeader.decoder head with
  | error f => rfl
  | ok alg =>
    dsimp only [Except.mapError, bind, Except.bind, throw, throwThe, MonadExceptOf.throw]
    split
    · rfl
    · split
      · rfl
      · cases readPart claimsDecoder payload <;> rfl

/-- The parts of a signed token. -/
theorem Signed.exists_parts {c : Claims × Bool} (h : Signed key token c) :
    ∃ head payload, cutLast? token.toList =
        some (head ++ '.' :: payload, sign key (head ++ '.' :: payload)) ∧
      cutLast? (head ++ '.' :: payload) = some (head, payload) ∧
      readPart TokenHeader.decoder head = .ok TokenHeader.algorithm ∧
      readPart claimsDecoder payload = .ok c := by
  cases h with
  | @parts head payload _ hone hhead hclaims =>
    refine ⟨head, payload, ?_, cutLast?_append hone, hhead, hclaims⟩
    rw [String.toList_ofList]
    exact cutLast?_append (Base64.point_not_mem_encode _)

theorem validate_of_signed {c : Claims × Bool} (h : Signed key token c) :
    validate key now token = check now c := by
  obtain ⟨head, payload, hcut, hcut', hhead, hclaims⟩ := h.exists_parts
  rw [validate_of_parts hcut hcut', hhead, hclaims]
  simp

/-- What is not signed is refused, but not as expired. -/
theorem refused_of_not_signed (h : ∀ c, ¬ Signed key token c) :
    ∃ e, validate key now token = .error e ∧ e ≠ .expired := by
  cases hcut : cutLast? token.toList with
  | none => exact ⟨.invalid .parts, by unfold validate; rw [hcut]; rfl, nofun⟩
  | some message =>
    obtain ⟨message, signature⟩ := message
    cases hcut' : cutLast? message with
    | none => exact ⟨.invalid .parts, by unfold validate; rw [hcut]; dsimp only; rw [hcut']; rfl, nofun⟩
    | some head =>
      obtain ⟨head, payload⟩ := head
      rw [validate_of_parts hcut hcut']
      cases hhead : readPart TokenHeader.decoder head with
      | error f => exact ⟨.invalid f, rfl, nofun⟩
      | ok alg =>
        by_cases halg : alg = TokenHeader.algorithm
        · by_cases hsign : signature = sign key message
          · cases hclaims : readPart claimsDecoder payload with
            | error f => exact ⟨.invalid f, by simp [halg, hsign], nofun⟩
            | ok c =>
              -- nothing is wrong with the three parts
              obtain ⟨htoken, -⟩ := eq_append_of_cutLast? hcut
              obtain ⟨rfl, hone⟩ := eq_append_of_cutLast? hcut'
              subst halg hsign
              have hsigned : Signed key _ c := .parts hone hhead hclaims
              rw [← htoken, String.ofList_toList] at hsigned
              exact absurd hsigned (h c)
          · exact ⟨.badSignature, by simp [halg, hsign], nofun⟩
        · exact ⟨.invalid .algorithm, by simp [halg], nofun⟩

/-! ## What decides -/

theorem check_eq_ok {c : Claims × Bool} {d : Claims} :
    check now c = .ok d ↔ c = (d, false) ∧ 0 ≤ d.exp ∧ now ≤ d.exp ∧ d.sub ≠ "" := by
  obtain ⟨c, audience⟩ := c
  unfold check
  dsimp only
  constructor
  · intro h
    split at h
    · cases h
    · split at h
      · cases h
      · split at h
        · cases h
        · split at h
          · cases h
          · next hends hinTime haudience huser =>
            cases h
            simp only [Bool.not_eq_true, String.isEmpty_eq_false_iff] at haudience huser
            exact ⟨by rw [haudience], by omega, by omega, huser⟩
  · rintro ⟨hc, hends, hinTime, huser⟩
    obtain ⟨rfl, rfl⟩ := Prod.mk.inj hc
    rw [if_neg (by omega), if_neg (by omega), if_neg (by decide), if_neg (by simpa using huser)]

theorem check_eq_expired {c : Claims × Bool} :
    check now c = .error .expired ↔ 0 ≤ c.1.exp ∧ c.1.exp < now := by
  unfold check
  by_cases hends : c.1.exp < 0
  · rw [if_pos hends]
    exact ⟨nofun, fun h => absurd h.1 (by omega)⟩
  · rw [if_neg hends]
    by_cases hlate : c.1.exp < now
    · rw [if_pos hlate]
      exact ⟨fun _ => ⟨by omega, hlate⟩, fun _ => rfl⟩
    · rw [if_neg hlate]
      refine ⟨fun h => ?_, fun h => absurd h.2 hlate⟩
      split at h
      · cases h
      · split at h <;> cases h

/-- The accepted tokens are those that pass. -/
theorem validate_eq_ok {c : Claims} : validate key now token = .ok c ↔ Accepted key now token c := by
  constructor
  · intro h
    by_cases hsigned : ∃ d, Signed key token d
    · obtain ⟨d, hd⟩ := hsigned
      rw [validate_of_signed hd, check_eq_ok] at h
      obtain ⟨rfl, hends, hinTime, huser⟩ := h
      exact ⟨hd, hends, hinTime, huser⟩
    · obtain ⟨e, he, -⟩ := refused_of_not_signed (not_exists.1 hsigned)
      rw [he] at h
      cases h
  · rintro ⟨hsigned, hends, hinTime, huser⟩
    rw [validate_of_signed hsigned]
    exact check_eq_ok.2 ⟨rfl, hends, hinTime, huser⟩

/-- The expired tokens are those that are refused as expired. -/
theorem validate_eq_expired :
    validate key now token = .error .expired ↔ Expired key now token := by
  constructor
  · intro h
    by_cases hsigned : ∃ d, Signed key token d
    · obtain ⟨d, hd⟩ := hsigned
      rw [validate_of_signed hd] at h
      exact ⟨d, hd, check_eq_expired.1 h⟩
    · obtain ⟨e, he, hne⟩ := refused_of_not_signed (not_exists.1 hsigned)
      rw [he] at h
      exact absurd (Except.error.inj h) hne
  · rintro ⟨c, hc, hlate⟩
    rw [validate_of_signed hc]
    exact check_eq_expired.2 hlate

end SessionToken

end TaskBoard
