import DesoBackend.Referral.Writes

/-!
# The referral index over every run

The stores reachable from an empty global state by admin operations that report success,
and the invariant they all satisfy: every stored hash has 8 bytes and is the hash its record
names, and every active-flag entry `(p, h)` sits beside a record under `h`. The invariant
holds initially and each handler keeps it, so it holds along every run; from it,
`getReferralInfoResponsesForPubKey` answers with exactly the flags of the referrer, each with
its record. The record need not name that referrer: a fresh hash may repeat a stored one, and
a CSV row may change a stored record's PKID.
-/

namespace DesoBackend

/-- One admin operation that reports success: a create, an update, or one CSV row of an upload. -/
inductive AdminStep (P : ReferralPrefixes) (st : GlobalState) : GlobalState → Prop
  | create (env : RequestEnv) (req : AdminCreateReferralHashRequest) (r : ReferralInfoResponse)
      {st' : GlobalState} : AdminCreateReferralHash P env req st = .ok r st' → AdminStep P st st'
  | update (env : RequestEnv) (req : AdminUpdateReferralHashRequest) (r : ReferralInfoResponse)
      {st' : GlobalState} : AdminUpdateReferralHash P env req st = .ok r st' → AdminStep P st st'
  | csvRow (env : RequestEnv) (row : List Bytes) {st' : GlobalState} :
      updateOrCreateReferralInfoFromCSVRow P env row st = .ok () st' → AdminStep P st st'

/-- The stores reachable from an empty global state by admin operations that report success. -/
def Reachable (P : ReferralPrefixes) (st : GlobalState) : Prop :=
  Relation.ReflTransGen (AdminStep P) ∅ st

/-- The referral index invariant: every key is a record key or a flag key, a record is stored
under its own 8-byte hash, and a flag is one `BoolToByte` byte whose hash has a record. -/
structure ReferralIndexInv (P : ReferralPrefixes) (st : GlobalState) : Prop where
  keys_referral : ∀ k ∈ st, (∃ h, k = GlobalStateKeyForReferralHashToReferralInfo P h) ∨
    ∃ p h, k = GlobalStateKeyForPKIDReferralHashToIsActive P p h
  info_wf : ∀ h v, st.lookup (GlobalStateKeyForReferralHashToReferralInfo P h) = some v →
    h.length = 8 ∧ ∃ info, v = .referralInfo info ∧ info.ReferralHashBase58 = h
  status_wf : ∀ p h v, st.lookup (GlobalStateKeyForPKIDReferralHashToIsActive P p h) = some v →
    (∃ b, v = .bytes [BoolToByte b]) ∧
      ∃ info, st.lookup (GlobalStateKeyForReferralHashToReferralInfo P h) = some (.referralInfo info)

section Invariant

variable {P : ReferralPrefixes} {st st' : GlobalState}

@[simp] lemma lookup_info_insert_status {p : PKID} {h h' : Bytes} {v : GlobalStateValue} :
    (st.insert (GlobalStateKeyForPKIDReferralHashToIsActive P p h) v).lookup
        (GlobalStateKeyForReferralHashToReferralInfo P h') =
      st.lookup (GlobalStateKeyForReferralHashToReferralInfo P h') :=
  AList.lookup_insert_ne (infoKey_ne_statusKey h' h p)

@[simp] lemma lookup_status_insert_info {p : PKID} {h h' : Bytes} {v : GlobalStateValue} :
    (st.insert (GlobalStateKeyForReferralHashToReferralInfo P h) v).lookup
        (GlobalStateKeyForPKIDReferralHashToIsActive P p h') =
      st.lookup (GlobalStateKeyForPKIDReferralHashToIsActive P p h') :=
  AList.lookup_insert_ne (infoKey_ne_statusKey h h' p).symm

lemma inv_empty : ReferralIndexInv P ∅ where
  keys_referral k hk := absurd hk (AList.not_mem_empty k)
  info_wf h v hv := by simp at hv
  status_wf p h v hv := by simp at hv

/-- Writing a record of an 8-byte hash under that hash keeps the invariant. -/
lemma inv_insert_info (hi : ReferralIndexInv P st) {h : Bytes} {info : ReferralInfo}
    (hk : info.ReferralHashBase58 = h) (hh : h.length = 8) :
    ReferralIndexInv P
      (st.insert (GlobalStateKeyForReferralHashToReferralInfo P h) (.referralInfo info)) where
  keys_referral k hk' := by
    rcases (AList.mem_insert _).mp hk' with rfl | hk'
    · exact .inl ⟨h, rfl⟩
    · exact hi.keys_referral k hk'
  info_wf h' v hv := by
    by_cases he : h' = h
    · subst he
      rw [AList.lookup_insert] at hv
      cases hv
      exact ⟨hh, info, rfl, hk⟩
    · rw [AList.lookup_insert_ne (mt infoKey_inj.mp he)] at hv
      exact hi.info_wf h' v hv
  status_wf p h' v hv := by
    rw [lookup_status_insert_info] at hv
    obtain ⟨hb, info', hinfo⟩ := hi.status_wf p h' v hv
    refine ⟨hb, ?_⟩
    by_cases he : h' = h
    · subst he
      exact ⟨info, AList.lookup_insert _⟩
    · exact ⟨info', by rw [AList.lookup_insert_ne (mt infoKey_inj.mp he), hinfo]⟩

/-- Writing the flag of a hash that has a record keeps the invariant. -/
lemma inv_insert_status (hi : ReferralIndexInv P st) {p : PKID} {h : Bytes} {b : Bool}
    (hinfo : ∃ info, st.lookup (GlobalStateKeyForReferralHashToReferralInfo P h) =
      some (.referralInfo info)) :
    ReferralIndexInv P
      (st.insert (GlobalStateKeyForPKIDReferralHashToIsActive P p h) (.bytes [BoolToByte b])) where
  keys_referral k hk := by
    rcases (AList.mem_insert _).mp hk with rfl | hk
    · exact .inr ⟨p, h, rfl⟩
    · exact hi.keys_referral k hk
  info_wf h' v hv := by
    rw [lookup_info_insert_status] at hv
    exact hi.info_wf h' v hv
  status_wf p' h' v hv := by
    simp only [lookup_info_insert_status]
    by_cases he : p' = p ∧ h' = h
    · obtain ⟨rfl, rfl⟩ := he
      rw [AList.lookup_insert] at hv
      cases hv
      exact ⟨⟨b, rfl⟩, hinfo⟩
    · rw [AList.lookup_insert_ne (mt statusKey_inj.mp he)] at hv
      exact hi.status_wf p' h' v hv

lemma getInfoForReferralHashBase58_eq_ok {h : Bytes} {info : ReferralInfo} :
    getInfoForReferralHashBase58 P st h = .ok info ↔
      st.lookup (GlobalStateKeyForReferralHashToReferralInfo P h) = some (.referralInfo info) := by
  unfold getInfoForReferralHashBase58
  split <;> simp_all

lemma createReferralInfo_hash {env : RequestEnv} {req : AdminCreateReferralHashRequest}
    {info : ReferralInfo} (h : createReferralInfo env req = .ok info) :
    generateNewReferralHash env.randBase58 = .ok info.ReferralHashBase58 := by
  unfold createReferralInfo at h
  cases hp : createReferrerPKID env req <;> cases hg : generateNewReferralHash env.randBase58 <;>
    simp only [hp, hg, bind, Except.bind, pure, Except.pure, reduceCtorEq, Except.ok.injEq] at h
  rw [← h]

/-- A row's record is written under a fresh hash, or under the hash a stored record names. -/
lemma referralInfoFromCSVRow_hash {env : RequestEnv} {row : List Bytes} {info : ReferralInfo}
    (h : referralInfoFromCSVRow P env st row = .ok info) :
    generateNewReferralHash env.randBase58 = .ok info.ReferralHashBase58 ∨
      ∃ cell existing, st.lookup (GlobalStateKeyForReferralHashToReferralInfo P cell) =
        some (.referralInfo existing) ∧ info.ReferralHashBase58 = existing.ReferralHashBase58 := by
  simp only [referralInfoFromCSVRow, exceptBind_eq_ok] at h
  obtain ⟨⟨hash, existing⟩, hr, h⟩ := h
  simp only [exceptBind_eq_ok, pure, Except.pure, Except.ok.injEq] at h
  obtain ⟨_, -, _, -, _, -, _, -, _, -, _, -, rfl⟩ := h
  simp only [referralHashFromCSVRow, exceptBind_eq_ok] at hr
  obtain ⟨cell, -, hr⟩ := hr
  split at hr <;> split at hr <;> cases hr
  · exact .inl ‹_›
  · rename_i hg
    exact .inr ⟨cell, _, getInfoForReferralHashBase58_eq_ok.mp hg, rfl⟩

lemma updateReferralInfoBase_eq_ok {req : AdminUpdateReferralHashRequest} {info : ReferralInfo}
    (h : updateReferralInfoBase P st req = .ok info) :
    st.lookup (GlobalStateKeyForReferralHashToReferralInfo P req.ReferralHashBase58) =
      some (.referralInfo info) := by
  unfold updateReferralInfoBase at h
  split_ifs at h
  exact getInfoForReferralHashBase58_eq_ok.mp (mapError_eq_ok.mp h)

/-- Under the invariant, the record a CSV row gives has an 8-byte hash: a fresh one, or one a
stored record names. -/
lemma length_of_referralInfoFromCSVRow (hi : ReferralIndexInv P st) {env : RequestEnv}
    {row : List Bytes} {info : ReferralInfo} (h : referralInfoFromCSVRow P env st row = .ok info) :
    info.ReferralHashBase58.length = 8 := by
  rcases referralInfoFromCSVRow_hash h with hg | ⟨cell, existing, hl, he⟩
  · exact length_of_generateNewReferralHash hg
  · obtain ⟨hlen, _, hv, hk⟩ := hi.info_wf _ _ hl
    cases hv
    rw [he, hk, hlen]

lemma inv_step (hi : ReferralIndexInv P st) (hs : AdminStep P st st') : ReferralIndexInv P st' := by
  cases hs with
  | create env req r h =>
    obtain ⟨info, hc, rfl⟩ := AdminCreateReferralHash_eq_ok h
    exact inv_insert_status (inv_insert_info hi rfl
      (length_of_generateNewReferralHash (createReferralInfo_hash hc))) ⟨info, AList.lookup_insert _⟩
  | update env req r h =>
    obtain ⟨info, hb, rfl⟩ := AdminUpdateReferralHash_eq_ok h
    obtain ⟨hlen, _, he, hk⟩ := hi.info_wf _ _ (updateReferralInfoBase_eq_ok hb)
    cases he
    refine inv_insert_status ?_ ⟨_, AList.lookup_insert _⟩
    exact inv_insert_info hi hk hlen
  | csvRow env row h =>
    obtain ⟨info, isActive, hc, -, hst⟩ := updateOrCreateReferralInfoFromCSVRow_eq_ok h
    have hi' := inv_insert_info hi rfl (length_of_referralInfoFromCSVRow hi hc)
    rcases hst with rfl | rfl
    · exact inv_insert_status hi' ⟨info, AList.lookup_insert _⟩
    · exact hi'

lemma inv_of_reachable (h : Reachable P st) : ReferralIndexInv P st := by
  induction h with
  | refl => exact inv_empty
  | tail _ hs ih => exact inv_step ih hs

end Invariant

/-! ### Listing a referrer's links -/

/-- The record of a hash as `getReferralInfoResponsesForPubKey` reads it: `none`, the zero
`ReferralInfo{}`, when nothing is stored. -/
def decodeReferralInfo (P : ReferralPrefixes) (st : GlobalState) (referralHashBytes : Bytes) :
    Except String (Option ReferralInfo) :=
  match st.lookup (GlobalStateKeyForReferralHashToReferralInfo P referralHashBytes) with
  | none => .ok none
  | some (.referralInfo referralInfo) => .ok (some referralInfo)
  | some (.bytes _) => .error ("getReferralInfoResponsesForPubKey: Failed decoding referral info (" ++
      String.mk referralHashBytes ++ "): gob: decoding error")

/-- The response `getReferralInfoResponsesForPubKey` builds for one key its seek found: the hash
cut out of the key at `1 + len(PKID)`, the flag, the record under the hash, and the referee
PKIDs cut out of the referee keys at `1 + 33 + 8`. -/
def referralInfoResponseForKey (P : ReferralPrefixes) (st : GlobalState) (referrerPKID : PKID)
    (includeReferredUsers : Bool) (key : Bytes) (isActiveValue : GlobalStateValue) :
    Except String ReferralInfoResponse := do
  let referralHashStartIndex := 1 + referrerPKID.bytes.length
  let referralHashBytes := key.drop referralHashStartIndex
  let isActiveBytes := isActiveValue.toBytes
  if isActiveBytes.length = 0 then
    throw ("fes.getReferralInfoResponsesForPubKey: got zero isActiveBytes: " ++
      String.mk referralHashBytes)
  let referralInfo ← decodeReferralInfo P st referralHashBytes
  let referredUsers := if includeReferredUsers then
      let refereePKIDStartIdx := 1 + 33 + 8
      (seek st (GlobalStateSeekKeyForPKIDReferralHashRefereePKIDs P referrerPKID
        referralHashBytes)).map fun e => e.1.drop refereePKIDStartIdx
    else []
  return ⟨ReadBoolByte isActiveBytes, referralInfo, referredUsers⟩

/-- `getReferralInfoResponsesForPubKey`: every link of the referrer whose public key is given,
found by a seek on the referrer's PKID. -/
def getReferralInfoResponsesForPubKey (P : ReferralPrefixes) (env : RequestEnv)
    (st : GlobalState) (pkBytes : Bytes) (includeReferredUsers : Bool) :
    Except String (List ReferralInfoResponse) := do
  let utxoView ← match env.GetAugmentedUniversalView with
    | .error err => throw ("putReferralHashWithInfo: Problem getting utxoView: " ++ err)
    | .ok utxoView => pure utxoView
  let referrerPKID ← match utxoView.pkidForPublicKey pkBytes with
    | none => throw ("putReferralHashWithInfo: nil PKID for pubkey: " ++
        String.mk (env.PkToString pkBytes))
    | some referrerPKID => pure referrerPKID
  (seek st (GlobalStateSeekKeyForPKIDReferralHashes P referrerPKID)).mapM fun e =>
    referralInfoResponseForKey P st referrerPKID includeReferredUsers e.1 e.2

section Listing

variable {P : ReferralPrefixes} {st : GlobalState}

lemma not_prefix_of_head_ne {c c' : Char} {k k' : Bytes} (h : c ≠ c') : ¬(c :: k) <+: (c' :: k') :=
  fun hp => h (List.cons_prefix_cons.mp hp).1

/-- In an invariant store no key starts with the referee prefix. -/
lemma seek_referee_nil (hi : ReferralIndexInv P st) (p : PKID) (h : Bytes) :
    seek st (GlobalStateSeekKeyForPKIDReferralHashRefereePKIDs P p h) = [] := by
  refine List.map_eq_nil_iff.mpr (List.filter_eq_nil_iff.mpr fun e he => ?_)
  rw [List.isPrefixOf_iff_prefix]
  rcases hi.keys_referral e.1 (AList.mem_keys.mpr (List.mem_map_of_mem _ he)) with
    ⟨h', hk⟩ | ⟨p', h', hk⟩ <;> rw [hk]
  · exact not_prefix_of_head_ne P.info_ne_referee.symm
  · exact not_prefix_of_head_ne P.isActive_ne_referee.symm

/-- In an invariant store a referrer's seek finds exactly the referrer's flags. -/
lemma mem_seek_status (hi : ReferralIndexInv P st) {p : PKID} {k : Bytes}
    {v : GlobalStateValue} :
    (k, v) ∈ seek st (GlobalStateSeekKeyForPKIDReferralHashes P p) ↔
      ∃ h, k = GlobalStateKeyForPKIDReferralHashToIsActive P p h ∧ st.lookup k = some v := by
  rw [mem_seek]
  constructor
  · rintro ⟨hp, hl⟩
    rcases hi.keys_referral k (AList.lookup_isSome.mp (by rw [hl]; rfl)) with
      ⟨h, rfl⟩ | ⟨p', h, rfl⟩
    · exact absurd hp (not_prefix_of_head_ne P.info_ne_isActive.symm)
    · obtain rfl := (seekKey_prefix_statusKey p p' h).mp hp
      exact ⟨h, rfl, hl⟩
  · rintro ⟨h, rfl, hl⟩
    exact ⟨(seekKey_prefix_statusKey p p h).mpr rfl, hl⟩

/-- The response for a flag of an invariant store: the flag and the record under its hash. -/
lemma referralInfoResponseForKey_status (hi : ReferralIndexInv P st) {p : PKID} {h : Bytes}
    {v : GlobalStateValue} (hl : st.lookup (GlobalStateKeyForPKIDReferralHashToIsActive P p h) = some v)
    (includeReferredUsers : Bool) :
    ∃ b info, v = .bytes [BoolToByte b] ∧
      st.lookup (GlobalStateKeyForReferralHashToReferralInfo P h) = some (.referralInfo info) ∧
      info.ReferralHashBase58 = h ∧ h.length = 8 ∧
      referralInfoResponseForKey P st p includeReferredUsers
        (GlobalStateKeyForPKIDReferralHashToIsActive P p h) v = .ok ⟨b, some info, []⟩ := by
  obtain ⟨⟨b, rfl⟩, info, hinfo⟩ := hi.status_wf p h v hl
  obtain ⟨hlen, _, he, hk⟩ := hi.info_wf h _ hinfo
  cases he
  refine ⟨b, info, rfl, hinfo, hk, hlen, ?_⟩
  simp only [referralInfoResponseForKey, drop_statusKey]
  simp [GlobalStateValue.toBytes, decodeReferralInfo, hinfo, seek_referee_nil hi]

lemma mapM_eq_ok {α β ε : Type} {f : α → Except ε β} {g : α → β} :
    ∀ {l : List α}, (∀ a ∈ l, f a = .ok (g a)) → l.mapM f = .ok (l.map g)
  | [], _ => rfl
  | a :: l, h => by
    rw [List.mapM_cons, h a (List.mem_cons_self a l),
      mapM_eq_ok fun b hb => h b (List.mem_cons_of_mem a hb)]
    rfl

/-- In an invariant store the listing for the referrer `p` succeeds, with one response per
flag its seek finds: the flag and the record under the flag's hash. -/
lemma getReferralInfoResponsesForPubKey_of_inv (hi : ReferralIndexInv P st) {env : RequestEnv}
    {pkBytes : Bytes} (includeReferredUsers : Bool) {utxoView : UtxoView} {p : PKID}
    (hv : env.GetAugmentedUniversalView = .ok utxoView)
    (hp : utxoView.pkidForPublicKey pkBytes = some p) :
    ∃ respond : Bytes × GlobalStateValue → ReferralInfoResponse,
      getReferralInfoResponsesForPubKey P env st pkBytes includeReferredUsers =
        .ok ((seek st (GlobalStateSeekKeyForPKIDReferralHashes P p)).map respond) ∧
      ∀ e ∈ seek st (GlobalStateSeekKeyForPKIDReferralHashes P p), ∃ h b info,
        e = (GlobalStateKeyForPKIDReferralHashToIsActive P p h, .bytes [BoolToByte b]) ∧
        info.ReferralHashBase58 = h ∧
        st.lookup (GlobalStateKeyForReferralHashToReferralInfo P h) = some (.referralInfo info) ∧
        respond e = ⟨b, some info, []⟩ := by
  have hresp : ∀ e ∈ seek st (GlobalStateSeekKeyForPKIDReferralHashes P p), ∃ h b info,
      e = (GlobalStateKeyForPKIDReferralHashToIsActive P p h, .bytes [BoolToByte b]) ∧
      info.ReferralHashBase58 = h ∧
      st.lookup (GlobalStateKeyForReferralHashToReferralInfo P h) = some (.referralInfo info) ∧
      referralInfoResponseForKey P st p includeReferredUsers e.1 e.2 = .ok ⟨b, some info, []⟩ := by
    rintro ⟨k, v⟩ he
    obtain ⟨h, rfl, hl⟩ := (mem_seek_status hi).mp he
    obtain ⟨b, info, rfl, hinfo, hk, -, hr⟩ :=
      referralInfoResponseForKey_status hi hl includeReferredUsers
    exact ⟨h, b, info, rfl, hk, hinfo, hr⟩
  let respond : Bytes × GlobalStateValue → ReferralInfoResponse := fun e =>
    match referralInfoResponseForKey P st p includeReferredUsers e.1 e.2 with
    | .ok r => r
    | .error _ => ⟨false, none, []⟩
  refine ⟨respond, ?_, fun e he => ?_⟩
  · simp only [getReferralInfoResponsesForPubKey, hv, hp, bind, Except.bind, pure, Except.pure]
    refine mapM_eq_ok fun e he => ?_
    obtain ⟨_, _, _, _, _, _, hr⟩ := hresp e he
    simp only [respond, hr]
  · obtain ⟨h, b, info, he', hk, hinfo, hr⟩ := hresp e he
    exact ⟨h, b, info, he', hk, hinfo, by simp only [respond, hr]⟩

/-- In an invariant store the listing for the referrer `p` succeeds and lists each flag `(p, h)`
once, with the flag and the record stored under `h`. -/
lemma getReferralInfoResponsesForPubKey_listing (hi : ReferralIndexInv P st) {env : RequestEnv}
    {pkBytes : Bytes} (includeReferredUsers : Bool) {utxoView : UtxoView} {p : PKID}
    (hv : env.GetAugmentedUniversalView = .ok utxoView)
    (hp : utxoView.pkidForPublicKey pkBytes = some p) :
    ∃ rs, getReferralInfoResponsesForPubKey P env st pkBytes includeReferredUsers = .ok rs ∧
      (rs.map fun r => r.Info.map (·.ReferralHashBase58)).Nodup ∧
      (∀ h, (∃ r ∈ rs, r.Info.map (·.ReferralHashBase58) = some h) ↔
        ∃ v, st.lookup (GlobalStateKeyForPKIDReferralHashToIsActive P p h) = some v) ∧
      ∀ r ∈ rs, ∃ h b info, r = ⟨b, some info, []⟩ ∧ info.ReferralHashBase58 = h ∧
        st.lookup (GlobalStateKeyForReferralHashToReferralInfo P h) = some (.referralInfo info) ∧
        st.lookup (GlobalStateKeyForPKIDReferralHashToIsActive P p h) =
          some (.bytes [BoolToByte b]) := by
  obtain ⟨respond, hrun, hresp⟩ := getReferralInfoResponsesForPubKey_of_inv hi includeReferredUsers hv hp
  have hhash : ∀ e ∈ seek st (GlobalStateSeekKeyForPKIDReferralHashes P p), ∃ h,
      e.1 = GlobalStateKeyForPKIDReferralHashToIsActive P p h ∧
        (respond e).Info.map (·.ReferralHashBase58) = some h := by
    intro e he
    obtain ⟨h, b, info, rfl, hk, -, hr⟩ := hresp e he
    exact ⟨h, rfl, by rw [hr, Option.map_some', hk]⟩
  refine ⟨_, hrun, ?nodup, fun h => ⟨?listed, ?stored⟩, ?each⟩
  case nodup =>
    rw [List.map_map]
    refine List.pairwise_map.mpr ((seek_pairwise_ne st _).imp_of_mem fun ha hb hne heq => hne ?_)
    obtain ⟨h, hka, hha⟩ := hhash _ ha
    obtain ⟨h', hkb, hhb⟩ := hhash _ hb
    simp only [Function.comp_apply, hha, hhb, Option.some.injEq] at heq
    rw [hka, hkb, heq]
  case listed =>
    rintro ⟨_, hr', hh⟩
    obtain ⟨e, he, rfl⟩ := List.mem_map.mp hr'
    obtain ⟨h', hk, hh'⟩ := hhash e he
    obtain rfl := Option.some.inj (hh'.symm.trans hh)
    exact ⟨e.2, hk ▸ (mem_seek.mp he).2⟩
  case stored =>
    rintro ⟨v, hl⟩
    have he := (mem_seek_status hi).mpr ⟨h, rfl, hl⟩
    obtain ⟨h', hk, hh⟩ := hhash _ he
    refine ⟨_, List.mem_map_of_mem _ he, ?_⟩
    rw [hh, (statusKey_inj.mp hk).2]
  case each =>
    intro r hr'
    obtain ⟨e, he, rfl⟩ := List.mem_map.mp hr'
    obtain ⟨h, b, info, rfl, hk, hinfo, hr⟩ := hresp e he
    exact ⟨h, b, info, hr, hk, hinfo, (mem_seek.mp he).2⟩

end Listing

/-- The referral index in every store reachable by admin operations that report success. Each
stored hash has 8 bytes and is the hash its record names, and each flag `(p, h)` sits beside a
record under `h`. So `getReferralInfoResponsesForPubKey` for the referrer `p` answers with
exactly one response per flag `(p, h)`: the flag and the record stored under `h`, cut out of the
key at `1 + 33`. And cutting a referee key of a stored hash at `1 + 33 + 8` gives the referee's
PKID. -/
theorem referral_index_consistent (P : ReferralPrefixes) (st : GlobalState)
    (hst : Reachable P st) :
    ReferralIndexInv P st ∧
    (∀ h v, st.lookup (GlobalStateKeyForReferralHashToReferralInfo P h) = some v → ∀ p r,
      (GlobalStateKeyForPKIDReferralHashRefereePKID P p h r).drop (1 + 33 + 8) = r.bytes) ∧
    ∀ env pkBytes includeReferredUsers utxoView p,
      env.GetAugmentedUniversalView = .ok utxoView → utxoView.pkidForPublicKey pkBytes = some p →
      ∃ rs, getReferralInfoResponsesForPubKey P env st pkBytes includeReferredUsers = .ok rs ∧
        (rs.map fun r => r.Info.map (·.ReferralHashBase58)).Nodup ∧
        (∀ h, (∃ r ∈ rs, r.Info.map (·.ReferralHashBase58) = some h) ↔
          ∃ v, st.lookup (GlobalStateKeyForPKIDReferralHashToIsActive P p h) = some v) ∧
        ∀ r ∈ rs, ∃ h b info, r = ⟨b, some info, []⟩ ∧ info.ReferralHashBase58 = h ∧
          st.lookup (GlobalStateKeyForReferralHashToReferralInfo P h) = some (.referralInfo info) ∧
          st.lookup (GlobalStateKeyForPKIDReferralHashToIsActive P p h) =
            some (.bytes [BoolToByte b]) :=
  have hi := inv_of_reachable hst
  ⟨hi, fun h v hv p r => drop_refereeKey p (hi.info_wf h v hv).1 r,
    fun _ _ incl _ _ hv hp => getReferralInfoResponsesForPubKey_listing hi incl hv hp⟩

/-- The link `abcdefgh` of `samplePKID 'p'`, as `AdminCreateReferralHash` makes it from
`sampleCreateRequest` in `sampleEnv 'p'`. -/
def sampleLinkInfo : ReferralInfo := ⟨"abcdefgh".data, samplePKID 'p', 0, 0, 0, false, 0, 0, 0, 0, 0⟩

/-- The store that `AdminCreateReferralHash` leaves from the empty store: the link, active. -/
def sampleLinkStore : GlobalState :=
  ((∅ : GlobalState).insert (GlobalStateKeyForReferralHashToReferralInfo samplePrefixes
      "abcdefgh".data) (.referralInfo sampleLinkInfo)).insert
    (GlobalStateKeyForPKIDReferralHashToIsActive samplePrefixes (samplePKID 'p') "abcdefgh".data)
    (.bytes [BoolToByte true])

lemma sampleLinkStore_reachable : Reachable samplePrefixes sampleLinkStore :=
  .single (.create (sampleEnv 'p' false) sampleCreateRequest _ rfl)

theorem referral_index_consistent_link :
    Reachable samplePrefixes sampleLinkStore ∧ ReferralIndexInv samplePrefixes sampleLinkStore ∧
    (∀ h v, sampleLinkStore.lookup
        (GlobalStateKeyForReferralHashToReferralInfo samplePrefixes h) = some v → ∀ p r,
      (GlobalStateKeyForPKIDReferralHashRefereePKID samplePrefixes p h r).drop (1 + 33 + 8) =
        r.bytes) ∧
    ∀ env pkBytes includeReferredUsers utxoView p,
      env.GetAugmentedUniversalView = .ok utxoView → utxoView.pkidForPublicKey pkBytes = some p →
      ∃ rs, getReferralInfoResponsesForPubKey samplePrefixes env sampleLinkStore pkBytes
          includeReferredUsers = .ok rs ∧
        (rs.map fun r => r.Info.map (·.ReferralHashBase58)).Nodup ∧
        (∀ h, (∃ r ∈ rs, r.Info.map (·.ReferralHashBase58) = some h) ↔
          ∃ v, sampleLinkStore.lookup
            (GlobalStateKeyForPKIDReferralHashToIsActive samplePrefixes p h) = some v) ∧
        ∀ r ∈ rs, ∃ h b info, r = ⟨b, some info, []⟩ ∧ info.ReferralHashBase58 = h ∧
          sampleLinkStore.lookup (GlobalStateKeyForReferralHashToReferralInfo samplePrefixes h) =
            some (.referralInfo info) ∧
          sampleLinkStore.lookup (GlobalStateKeyForPKIDReferralHashToIsActive samplePrefixes p h) =
            some (.bytes [BoolToByte b]) :=
  ⟨sampleLinkStore_reachable,
    referral_index_consistent samplePrefixes sampleLinkStore sampleLinkStore_reachable⟩

/-- A flag does not make its referrer the one the record names. Two creates for different
referrers whose fresh hashes collide: the second overwrites the record, and the first
referrer's flag stays under a record that names the second. -/
theorem colliding_hash_breaks_index :
    ¬∀ st, Reachable samplePrefixes st → ∀ p h,
      (st.lookup (GlobalStateKeyForPKIDReferralHashToIsActive samplePrefixes p h)).isSome ↔
        ∃ info, st.lookup (GlobalStateKeyForReferralHashToReferralInfo samplePrefixes h) =
          some (.referralInfo info) ∧ info.ReferrerPKID = p := by
  intro H
  obtain ⟨r1, s1, h1, r2, s2, h2, hs, info, hinfo, hp⟩ : ∃ r1 s1,
      AdminCreateReferralHash samplePrefixes (sampleEnv 'p' false) sampleCreateRequest ∅ =
        .ok r1 s1 ∧
      ∃ r2 s2, AdminCreateReferralHash samplePrefixes (sampleEnv 'q' false) sampleCreateRequest s1 =
          .ok r2 s2 ∧
        (s2.lookup (GlobalStateKeyForPKIDReferralHashToIsActive samplePrefixes (samplePKID 'p')
          "abcdefgh".data)).isSome ∧
        ∃ info, s2.lookup (GlobalStateKeyForReferralHashToReferralInfo samplePrefixes
          "abcdefgh".data) = some (.referralInfo info) ∧ info.ReferrerPKID = samplePKID 'q' :=
    ⟨_, _, rfl, _, _, rfl, rfl, _, rfl, rfl⟩
  obtain ⟨info', hl, hp'⟩ :=
    (H s2 (.tail (.tail .refl (.create _ _ _ h1)) (.create _ _ _ h2)) _ _).mp hs
  rw [hinfo] at hl
  cases hl
  exact absurd (hp.symm.trans hp') (by decide)

end DesoBackend
