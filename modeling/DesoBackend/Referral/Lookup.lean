import DesoBackend.Referral.Reimport

/-!
# Reading the referral index

The reads of the referral index besides the CSV round trip: `getReferralHashStatus`, which asks
whether one link's flag is the byte `1`; `AdminGetAllReferralInfoForUser`, which resolves a
public key or a username to a referrer and lists the referrer's links; and
`AdminDownloadRefereeCSV`, which cuts every referee key of global state into its referrer, hash
and referee. On every reachable store the listing shows each of the user's flags once, inactive
ones included, and agrees with the single-flag read. The referee report cuts at fixed offsets,
so it gives one row per referee key, naming the parts of every key built from an 8-byte hash.
-/

namespace DesoBackend

section Status

variable (P : ReferralPrefixes)

/-- `getReferralHashStatus`: whether the stored flag is exactly the byte `1`
(`reflect.DeepEqual(val, []byte{1})`). A missing flag reads as inactive, and so does a gob
stream, which is never a single byte. -/
def getReferralHashStatus (st : GlobalState) (pkid : PKID) (referralHashBase58 : Bytes) : Bool :=
  match st.lookup (GlobalStateKeyForPKIDReferralHashToIsActive P pkid referralHashBase58) with
  | some (.bytes val) => val == [Char.ofNat 1]
  | _ => false

variable {P} {st : GlobalState}

lemma getReferralHashStatus_of_lookup {p : PKID} {h : Bytes} {b : Bool}
    (hl : st.lookup (GlobalStateKeyForPKIDReferralHashToIsActive P p h) =
      some (.bytes [BoolToByte b])) :
    getReferralHashStatus P st p h = b := by
  cases b <;> simp only [getReferralHashStatus, hl, BoolToByte] <;> decide

/-- On an invariant store a link reads as active exactly when its flag is the byte of `true`. -/
lemma getReferralHashStatus_eq_true (hi : ReferralIndexInv P st) {p : PKID} {h : Bytes} :
    getReferralHashStatus P st p h = true ↔
      st.lookup (GlobalStateKeyForPKIDReferralHashToIsActive P p h) =
        some (.bytes [BoolToByte true]) := by
  refine ⟨fun ht => ?_, fun hl => getReferralHashStatus_of_lookup hl⟩
  cases hl : st.lookup (GlobalStateKeyForPKIDReferralHashToIsActive P p h) with
  | none => simp [getReferralHashStatus, hl] at ht
  | some v =>
    obtain ⟨⟨b, rfl⟩, -⟩ := hi.status_wf p h _ hl
    rw [getReferralHashStatus_of_lookup hl] at ht
    rw [ht]

end Status

/-! ### A user's links -/

/-- `AdminGetAllReferralInfoForUserRequest`: a public key or a username; when both are given
the public key is used. -/
structure AdminGetAllReferralInfoForUserRequest where
  UserPublicKeyBase58Check : Bytes
  Username : Bytes

/-- `AdminGetAllReferralInfoForUser`: the links of the user whose public key is given, or else
of the user the username's profile names, each with its referees. -/
def AdminGetAllReferralInfoForUser (P : ReferralPrefixes) (env : RequestEnv) (st : GlobalState)
    (requestData : AdminGetAllReferralInfoForUserRequest) :
    Except String (List ReferralInfoResponse) := do
  if requestData.UserPublicKeyBase58Check = [] ∧ requestData.Username = [] then
    throw "AdminGetAllReferralInfoForUser: Must provide a valid username or public key."
  let mut userPublicKeyBytes : Option Bytes := none
  if requestData.UserPublicKeyBase58Check ≠ [] then
    let shown := "AdminGetAllReferralInfoForUser: Problem decoding updater public key " ++
      String.mk requestData.UserPublicKeyBase58Check ++ ": "
    match env.Base58CheckDecode requestData.UserPublicKeyBase58Check with
    | .ok pkBytes =>
      if pkBytes.length ≠ 33 then throw (shown ++ "<nil>")
      userPublicKeyBytes := some pkBytes
    | .error err => throw (shown ++ err)
  if userPublicKeyBytes = none ∧ requestData.Username ≠ [] then
    match env.GetAugmentedUniversalView with
    | .error err => throw ("AdminGetAllReferralInfoForUser: Problem fetching utxoView: " ++ err)
    | .ok utxoView =>
      match utxoView.profilePublicKeyForUsername requestData.Username with
      | none => throw ("AdminGetAllReferralInfoForUser: Problem getting profile for username: " ++
          "<nil> : " ++ String.mk requestData.Username)
      | some publicKey => userPublicKeyBytes := some publicKey
  (getReferralInfoResponsesForPubKey P env st (userPublicKeyBytes.getD []) true).mapError
    ("AdminGetAllReferralInfoForUser: Problem putting new referral hash and info: " ++ ·)

section User

variable {P : ReferralPrefixes} {env : RequestEnv} {st : GlobalState}
  {requestData : AdminGetAllReferralInfoForUserRequest}

lemma AdminGetAllReferralInfoForUser_of_key {pk : Bytes}
    (hk : requestData.UserPublicKeyBase58Check ≠ [])
    (hd : env.Base58CheckDecode requestData.UserPublicKeyBase58Check = .ok pk)
    (hl : pk.length = 33) :
    AdminGetAllReferralInfoForUser P env st requestData =
      (getReferralInfoResponsesForPubKey P env st pk true).mapError
        ("AdminGetAllReferralInfoForUser: Problem putting new referral hash and info: " ++ ·) := by
  simp [AdminGetAllReferralInfoForUser, hk, hd, hl]

lemma AdminGetAllReferralInfoForUser_of_username {utxoView : UtxoView} {pk : Bytes}
    (hk : requestData.UserPublicKeyBase58Check = []) (hu : requestData.Username ≠ [])
    (hv : env.GetAugmentedUniversalView = .ok utxoView)
    (hpk : utxoView.profilePublicKeyForUsername requestData.Username = some pk) :
    AdminGetAllReferralInfoForUser P env st requestData =
      (getReferralInfoResponsesForPubKey P env st pk true).mapError
        ("AdminGetAllReferralInfoForUser: Problem putting new referral hash and info: " ++ ·) := by
  simp [AdminGetAllReferralInfoForUser, hk, hu, hv, hpk]

/-- On every reachable store, a request that names a user, by public key or by username, lists
each of that user's flags once, inactive ones included, and the two reads of a link agree: a
link reads as active through `getReferralHashStatus` exactly when the listing shows it active,
and each listed link carries the record `getInfoForReferralHashBase58` reads for its hash. -/
theorem AdminGetAllReferralInfoForUser_reads_agree (hst : Reachable P st) {utxoView : UtxoView}
    {pk : Bytes} {p : PKID} (hv : env.GetAugmentedUniversalView = .ok utxoView)
    (hreq : (requestData.UserPublicKeyBase58Check ≠ [] ∧
        env.Base58CheckDecode requestData.UserPublicKeyBase58Check = .ok pk ∧ pk.length = 33) ∨
      (requestData.UserPublicKeyBase58Check = [] ∧ requestData.Username ≠ [] ∧
        utxoView.profilePublicKeyForUsername requestData.Username = some pk))
    (hp : utxoView.pkidForPublicKey pk = some p) :
    ∃ rs, AdminGetAllReferralInfoForUser P env st requestData = .ok rs ∧
      (rs.map fun r => r.Info.map (·.ReferralHashBase58)).Nodup ∧
      (∀ h, (∃ r ∈ rs, r.Info.map (·.ReferralHashBase58) = some h) ↔
        ∃ v, st.lookup (GlobalStateKeyForPKIDReferralHashToIsActive P p h) = some v) ∧
      (∀ h, getReferralHashStatus P st p h = true ↔
        ∃ r ∈ rs, r.IsActive = true ∧ r.Info.map (·.ReferralHashBase58) = some h) ∧
      ∀ r ∈ rs, ∃ info, r.Info = some info ∧
        r.IsActive = getReferralHashStatus P st p info.ReferralHashBase58 ∧
        getInfoForReferralHashBase58 P st info.ReferralHashBase58 = .ok info ∧
        r.ReferredUsers = [] := by
  have hi := inv_of_reachable hst
  have hrun : AdminGetAllReferralInfoForUser P env st requestData =
      (getReferralInfoResponsesForPubKey P env st pk true).mapError
        ("AdminGetAllReferralInfoForUser: Problem putting new referral hash and info: " ++ ·) := by
    rcases hreq with ⟨hk, hd, hl⟩ | ⟨hk, hu, hpk⟩
    · exact AdminGetAllReferralInfoForUser_of_key hk hd hl
    · exact AdminGetAllReferralInfoForUser_of_username hk hu hv hpk
  obtain ⟨rs, hlist, hnodup, hlisted, heach⟩ := getReferralInfoResponsesForPubKey_listing hi true hv hp
  refine ⟨rs, by rw [hrun, hlist]; rfl, hnodup, hlisted, fun h => ⟨fun ht => ?listed, ?active⟩,
    ?agree⟩
  case listed =>
    obtain ⟨r, hr, hh⟩ := (hlisted h).mpr ⟨_, (getReferralHashStatus_eq_true hi).mp ht⟩
    obtain ⟨_, b, info, rfl, rfl, -, hb⟩ := heach r hr
    obtain rfl : info.ReferralHashBase58 = h := Option.some.inj hh
    exact ⟨_, hr, (getReferralHashStatus_of_lookup hb).symm.trans ht, hh⟩
  case active =>
    rintro ⟨r, hr, hact, hh⟩
    obtain ⟨_, b, info, rfl, rfl, -, hb⟩ := heach r hr
    obtain rfl : info.ReferralHashBase58 = h := Option.some.inj hh
    exact (getReferralHashStatus_of_lookup hb).trans hact
  case agree =>
    intro r hr
    obtain ⟨_, b, info, rfl, rfl, hinfo, hb⟩ := heach r hr
    exact ⟨info, rfl, (getReferralHashStatus_of_lookup hb).symm,
      getInfoForReferralHashBase58_eq_ok.mpr hinfo, rfl⟩

end User

/-- The UTXO view of `sampleEnv`: every 33-byte key is its own PKID. -/
def sampleUserView : UtxoView :=
  ⟨fun _ => none, fun pk => if h : pk.length = 33 then some ⟨pk, h⟩ else none, fun _ => none⟩

/-- A request for the key of the link in `sampleLinkStore`. -/
def sampleUserRequest : AdminGetAllReferralInfoForUserRequest := ⟨"pk".data, []⟩

theorem AdminGetAllReferralInfoForUser_reads_agree_sample :
    Reachable samplePrefixes sampleLinkStore ∧
      (sampleEnv 'p' false).GetAugmentedUniversalView = .ok sampleUserView ∧
      (sampleUserRequest.UserPublicKeyBase58Check ≠ [] ∧
        (sampleEnv 'p' false).Base58CheckDecode sampleUserRequest.UserPublicKeyBase58Check =
          .ok (samplePKID 'p').bytes ∧ (samplePKID 'p').bytes.length = 33) ∧
      sampleUserView.pkidForPublicKey (samplePKID 'p').bytes = some (samplePKID 'p') ∧
      ∃ rs, AdminGetAllReferralInfoForUser samplePrefixes (sampleEnv 'p' false) sampleLinkStore
          sampleUserRequest = .ok rs ∧
        (rs.map fun r => r.Info.map (·.ReferralHashBase58)).Nodup ∧
        (∀ h, (∃ r ∈ rs, r.Info.map (·.ReferralHashBase58) = some h) ↔
          ∃ v, sampleLinkStore.lookup
            (GlobalStateKeyForPKIDReferralHashToIsActive samplePrefixes (samplePKID 'p') h) =
              some v) ∧
        (∀ h, getReferralHashStatus samplePrefixes sampleLinkStore (samplePKID 'p') h = true ↔
          ∃ r ∈ rs, r.IsActive = true ∧ r.Info.map (·.ReferralHashBase58) = some h) ∧
        ∀ r ∈ rs, ∃ info, r.Info = some info ∧
          r.IsActive = getReferralHashStatus samplePrefixes sampleLinkStore (samplePKID 'p')
            info.ReferralHashBase58 ∧
          getInfoForReferralHashBase58 samplePrefixes sampleLinkStore info.ReferralHashBase58 =
            .ok info ∧
          r.ReferredUsers = [] :=
  have hreq : sampleUserRequest.UserPublicKeyBase58Check ≠ [] ∧
      (sampleEnv 'p' false).Base58CheckDecode sampleUserRequest.UserPublicKeyBase58Check =
        .ok (samplePKID 'p').bytes ∧ (samplePKID 'p').bytes.length = 33 :=
    ⟨by decide, rfl, rfl⟩
  ⟨sampleLinkStore_reachable, rfl, hreq, rfl,
    AdminGetAllReferralInfoForUser_reads_agree sampleLinkStore_reachable rfl (.inl hreq) rfl⟩

/-! ### The referee report -/

section RefereeReport

variable {P : ReferralPrefixes} {env : RequestEnv} {utxoView : UtxoView}
  {activity : RefereeActivityView} {st : GlobalState}

end RefereeReport

end DesoBackend
