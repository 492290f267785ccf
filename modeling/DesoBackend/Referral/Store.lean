import DesoBackend.Go.Strconv
import Mathlib.Data.List.AList

/-!
# Referral records in global state

Referral links live in the node's global state, a byte-keyed store. A `ReferralInfo` is kept
under `prefix ‖ hash`, and the link's active flag under `prefix ‖ PKID ‖ hash`, so that a seek
on `prefix ‖ PKID` finds every link of one referrer. The prefixes and key builders live in
`global_state.go`, outside this repository; the layout here is the one the handlers cut
keys by (`1 + len(PKID)` for the hash, `1 + 33 + 8` for a referee's PKID).
-/

namespace DesoBackend

/-- `lib.PKID`, a 33-byte array. -/
structure PKID where
  bytes : Bytes
  length_bytes : bytes.length = 33
  deriving DecidableEq

/-- `lib.PublicKeyToPKID` on a 33-byte compressed public key. -/
def PublicKeyToPKID (pkBytes : Bytes) (h : pkBytes.length = 33) : PKID := ⟨pkBytes, h⟩

def PKIDToPublicKey (pkid : PKID) : Bytes := pkid.bytes

/-- `ReferralInfo`, the record of one referral link. -/
structure ReferralInfo where
  ReferralHashBase58 : Bytes
  ReferrerPKID : PKID
  ReferrerAmountUSDCents : UInt64
  RefereeAmountUSDCents : UInt64
  MaxReferrals : UInt64
  RequiresJumio : Bool
  NumJumioAttempts : UInt64
  NumJumioSuccesses : UInt64
  TotalReferrerDeSoNanos : UInt64
  TotalRefereeDeSoNanos : UInt64
  DateCreatedTStampNanos : UInt64
  deriving DecidableEq

/-- A value in global state: the gob encoding of a `ReferralInfo`, or raw bytes. -/
inductive GlobalStateValue where
  | referralInfo (info : ReferralInfo)
  | bytes (b : Bytes)
  deriving DecidableEq

/-- The global state store: at most one value per key. -/
abbrev GlobalState := AList fun _ : Bytes => GlobalStateValue

/-- `GlobalState.Seek(seekKey, seekKey, 0, 0, false, true)`: every entry whose key starts with
`seekKey`. -/
def seek (st : GlobalState) (seekKey : Bytes) : List (Bytes × GlobalStateValue) :=
  (st.entries.filter fun e => seekKey.isPrefixOf e.1).map fun e => (e.1, e.2)

lemma mem_seek {st : GlobalState} {seekKey key : Bytes} {val : GlobalStateValue} :
    (key, val) ∈ seek st seekKey ↔ seekKey <+: key ∧ st.lookup key = some val := by
  simp only [seek, List.mem_map, List.mem_filter, Prod.mk.injEq, List.isPrefixOf_iff_prefix]
  constructor
  · rintro ⟨⟨k, v⟩, ⟨hm, hp⟩, rfl, rfl⟩
    exact ⟨hp, AList.mem_lookup_iff.mpr hm⟩
  · rintro ⟨hp, hl⟩
    exact ⟨⟨key, val⟩, ⟨AList.mem_lookup_iff.mp hl, hp⟩, rfl, rfl⟩

lemma seek_pairwise_ne (st : GlobalState) (seekKey : Bytes) :
    (seek st seekKey).Pairwise fun a b => a.1 ≠ b.1 :=
  ((List.nodupKeys_iff_pairwise.mp st.nodupKeys).filter _).map _ fun _ _ h => h

def BoolToByte (b : Bool) : Char := if b then Char.ofNat 1 else Char.ofNat 0

/-- `lib.ReadBoolByte`: the first byte is non-zero; no byte reads as `false`. -/
def ReadBoolByte : Bytes → Bool
  | [] => false
  | b :: _ => b ≠ Char.ofNat 0

@[simp] lemma ReadBoolByte_BoolToByte (b : Bool) : ReadBoolByte [BoolToByte b] = b := by
  cases b <;> decide

/-- The bytes a status read finds. A gob stream starts with the non-zero length of its first
message, so a gob-encoded `ReferralInfo` reads as a non-empty `true`. -/
def GlobalStateValue.toBytes : GlobalStateValue → Bytes
  | .referralInfo _ => [Char.ofNat 1]
  | .bytes b => b

/-- The one-byte prefixes of the referral indexes, declared in `global_state.go`. -/
structure ReferralPrefixes where
  ReferralHashToReferralInfo : Char
  PKIDReferralHashToIsActive : Char
  PKIDReferralHashRefereePKID : Char
  info_ne_isActive : ReferralHashToReferralInfo ≠ PKIDReferralHashToIsActive
  info_ne_referee : ReferralHashToReferralInfo ≠ PKIDReferralHashRefereePKID
  isActive_ne_referee : PKIDReferralHashToIsActive ≠ PKIDReferralHashRefereePKID

section Keys

variable (P : ReferralPrefixes)

def GlobalStateKeyForReferralHashToReferralInfo (referralHashBytes : Bytes) : Bytes :=
  P.ReferralHashToReferralInfo :: referralHashBytes

def GlobalStateKeyForPKIDReferralHashToIsActive (pkid : PKID) (referralHashBytes : Bytes) : Bytes :=
  P.PKIDReferralHashToIsActive :: (pkid.bytes ++ referralHashBytes)

def GlobalStateSeekKeyForPKIDReferralHashes (pkid : PKID) : Bytes :=
  P.PKIDReferralHashToIsActive :: pkid.bytes

def GlobalStateSeekKeyForPKIDReferralHashRefereePKIDs (pkid : PKID) (referralHashBytes : Bytes) :
    Bytes :=
  P.PKIDReferralHashRefereePKID :: (pkid.bytes ++ referralHashBytes)

/-- The key of one referee of a link: `prefix ‖ referrer PKID ‖ hash ‖ referee PKID`. -/
def GlobalStateKeyForPKIDReferralHashRefereePKID (pkid : PKID) (referralHashBytes : Bytes)
    (refereePKID : PKID) : Bytes :=
  GlobalStateSeekKeyForPKIDReferralHashRefereePKIDs P pkid referralHashBytes ++ refereePKID.bytes

variable {P}

lemma infoKey_inj {h h' : Bytes} :
    GlobalStateKeyForReferralHashToReferralInfo P h =
      GlobalStateKeyForReferralHashToReferralInfo P h' ↔ h = h' := by
  simp [GlobalStateKeyForReferralHashToReferralInfo]

lemma PKID.bytes_inj {p p' : PKID} : p.bytes = p'.bytes ↔ p = p' := by
  cases p
  cases p'
  simp

lemma statusKey_inj {p p' : PKID} {h h' : Bytes} :
    GlobalStateKeyForPKIDReferralHashToIsActive P p h =
      GlobalStateKeyForPKIDReferralHashToIsActive P p' h' ↔ p = p' ∧ h = h' := by
  simp only [GlobalStateKeyForPKIDReferralHashToIsActive, List.cons.injEq, true_and,
    ← PKID.bytes_inj]
  exact ⟨fun h => List.append_inj h (p.length_bytes.trans p'.length_bytes.symm),
    fun ⟨h1, h2⟩ => by rw [h1, h2]⟩

lemma infoKey_ne_statusKey (h h' : Bytes) (p : PKID) :
    GlobalStateKeyForReferralHashToReferralInfo P h ≠
      GlobalStateKeyForPKIDReferralHashToIsActive P p h' := by
  simp [GlobalStateKeyForReferralHashToReferralInfo,
    GlobalStateKeyForPKIDReferralHashToIsActive, P.info_ne_isActive]

/-- Cutting a status key at `1 + len(PKID)` gives back the hash. -/
lemma drop_statusKey (p : PKID) (h : Bytes) :
    (GlobalStateKeyForPKIDReferralHashToIsActive P p h).drop (1 + p.bytes.length) = h := by
  simp [GlobalStateKeyForPKIDReferralHashToIsActive, Nat.add_comm 1]

/-- A referrer's seek key starts a status key exactly when the key is that referrer's. -/
lemma seekKey_prefix_statusKey (p p' : PKID) (h : Bytes) :
    GlobalStateSeekKeyForPKIDReferralHashes P p <+:
        GlobalStateKeyForPKIDReferralHashToIsActive P p' h ↔ p = p' := by
  simp only [GlobalStateSeekKeyForPKIDReferralHashes, GlobalStateKeyForPKIDReferralHashToIsActive,
    List.cons_prefix_cons, true_and, ← PKID.bytes_inj]
  constructor
  · intro hp
    exact List.prefix_of_prefix_length_le hp (List.prefix_append _ _)
      (by rw [p.length_bytes, p'.length_bytes]) |>.eq_of_length (by rw [p.length_bytes, p'.length_bytes])
  · intro he
    rw [he]
    exact List.prefix_append _ _

/-- Cutting a referee key at `1 + 33 + 8` gives the referee's PKID when the hash has 8 bytes. -/
lemma drop_refereeKey (p : PKID) {h : Bytes} (hh : h.length = 8) (r : PKID) :
    (GlobalStateKeyForPKIDReferralHashRefereePKID P p h r).drop (1 + 33 + 8) = r.bytes := by
  simp only [GlobalStateKeyForPKIDReferralHashRefereePKID,
    GlobalStateSeekKeyForPKIDReferralHashRefereePKIDs, List.cons_append, List.append_assoc]
  rw [show 1 + 33 + 8 = (p.bytes ++ h).length + 1 by simp [p.length_bytes, hh]]
  simp

end Keys

end DesoBackend
