import DesoBackend.Referral.Handlers

/-!
# What each handler writes

A handler run ends in `.ok` or `.error` with a store. These lemmas say which store: the
successful runs of the three write paths insert the record and the active flag, and a failed
run leaves the store as it was, except that `AdminCreateReferralHash` keeps its record when
the flag's `Put` fails, and a CSV row keeps its record when the active column fails to parse.
-/

namespace DesoBackend

section Combinators

variable {α β : Type} {x : ReferralM α} {f : α → ReferralM β} {st st' : GlobalState}

lemma bind_eq_ok {b : β} :
    (x >>= f) st = .ok b st' ↔ ∃ a s, x st = .ok a s ∧ f a s = .ok b st' := by
  show EStateM.bind x f st = _ ↔ _
  unfold EStateM.bind
  split <;> rename_i hx <;> simp [hx, and_assoc]

lemma bind_eq_error {e : Failure} :
    (x >>= f) st = .error e st' ↔
      x st = .error e st' ∨ ∃ a s, x st = .ok a s ∧ f a s = .error e st' := by
  show EStateM.bind x f st = _ ↔ _
  unfold EStateM.bind
  split <;> rename_i hx <;> simp [hx, and_assoc]

@[simp] lemma get_apply : (get : ReferralM GlobalState) st = .ok st st := rfl

@[simp] lemma pure_apply (a : α) : (pure a : ReferralM α) st = .ok a st := rfl

lemma globalStatePut_eq_ok {putError : Bytes → Option String} {k : Bytes} {v : GlobalStateValue}
    {u : Unit} : globalStatePut putError k v st = .ok u st' ↔
      putError k = none ∧ st' = st.insert k v := by
  unfold globalStatePut
  split <;> simp_all [eq_comm]

lemma globalStatePut_eq_error {putError : Bytes → Option String} {k : Bytes}
    {v : GlobalStateValue} {e : Failure} (h : globalStatePut putError k v st = .error e st') :
    ∃ m, putError k = some m ∧ e = .error m ∧ st' = st := by
  unfold globalStatePut at h
  split at h
  · cases h
    exact ⟨_, ‹_›, rfl, rfl⟩
  · cases h

lemma wrapError_eq_ok {c : String} {a : α} : wrapError c x st = .ok a st' ↔ x st = .ok a st' := by
  unfold wrapError
  split <;> simp_all

lemma wrapError_eq_error {c : String} {e : Failure} (h : wrapError c x st = .error e st') :
    ∃ e', x st = .error e' st' := by
  unfold wrapError at h
  split at h
  · cases h
    exact ⟨_, ‹_›⟩
  · exact ⟨e, h⟩

lemma wrapError_of_error {c m : String} (hx : x st = .error (.error m) st') :
    wrapError c x st = .error (.error (c ++ m)) st' := by
  simp only [wrapError, hx]

lemma liftCheck_eq_ok {y : Except Failure α} {a : α} :
    liftCheck y st = .ok a st' ↔ y = .ok a ∧ st' = st := by
  unfold liftCheck
  split <;> simp_all [eq_comm]

lemma liftCheck_eq_error {y : Except Failure α} {e : Failure} (h : liftCheck y st = .error e st') :
    y = .error e ∧ st' = st := by
  unfold liftCheck at h
  split at h <;> cases h
  exact ⟨rfl, rfl⟩

lemma ignoreError_eq_ok {y : ReferralM Unit} {u : Unit} (h : ignoreError y st = .ok u st') :
    y st = .ok () st' ∨ ∃ m, y st = .error (.error m) st' := by
  unfold ignoreError at h
  split at h
  · cases h
    exact .inr ⟨_, ‹_›⟩
  · exact .inl h

lemma ignoreError_eq_error {y : ReferralM Unit} {e : Failure} (h : ignoreError y st = .error e st') :
    y st = .error e st' ∧ ∀ m, e ≠ .error m := by
  unfold ignoreError at h
  split at h
  · cases h
  · rename_i hne
    exact ⟨h, fun m hm => hne m st' (hm ▸ h)⟩

lemma mapError_eq_ok {ε ε' : Type} {g : ε → ε'} {y : Except ε α} {a : α} :
    y.mapError g = .ok a ↔ y = .ok a := by
  cases y <;> simp [Except.mapError]

end Combinators

section Writes

variable {P : ReferralPrefixes} {env : RequestEnv} {st st' : GlobalState}

lemma putReferralHashWithInfo_eq_ok {h : Bytes} {info : ReferralInfo} {u : Unit} :
    putReferralHashWithInfo P env h info st = .ok u st' ↔
      env.putError (GlobalStateKeyForReferralHashToReferralInfo P h) = none ∧
        st' = st.insert (GlobalStateKeyForReferralHashToReferralInfo P h) (.referralInfo info) := by
  rw [putReferralHashWithInfo, wrapError_eq_ok, globalStatePut_eq_ok]

lemma putReferralHashWithInfo_eq_error {h : Bytes} {info : ReferralInfo} {e : Failure}
    (he : putReferralHashWithInfo P env h info st = .error e st') : st' = st := by
  obtain ⟨_, he'⟩ := wrapError_eq_error he
  obtain ⟨_, -, -, rfl⟩ := globalStatePut_eq_error he'
  rfl

lemma setReferralHashStatusForPKID_eq_ok {p : PKID} {h : Bytes} {b : Bool} {u : Unit} :
    setReferralHashStatusForPKID P env p h b st = .ok u st' ↔
      env.putError (GlobalStateKeyForPKIDReferralHashToIsActive P p h) = none ∧
        st' = st.insert (GlobalStateKeyForPKIDReferralHashToIsActive P p h)
          (.bytes [BoolToByte b]) := by
  rw [setReferralHashStatusForPKID, wrapError_eq_ok, globalStatePut_eq_ok]

lemma setReferralHashStatusForPKID_eq_error {p : PKID} {h : Bytes} {b : Bool} {e : Failure}
    (he : setReferralHashStatusForPKID P env p h b st = .error e st') :
    env.putError (GlobalStateKeyForPKIDReferralHashToIsActive P p h) ≠ none ∧
      (∃ m, e = .error m) ∧ st' = st := by
  obtain ⟨_, he'⟩ := wrapError_eq_error he
  obtain ⟨m, hm, rfl, rfl⟩ := globalStatePut_eq_error he'
  rw [setReferralHashStatusForPKID, wrapError_of_error he'] at he
  cases he
  exact ⟨by simp [hm], ⟨_, rfl⟩, rfl⟩

/-- The record and flag a successful `AdminCreateReferralHash` writes. -/
theorem AdminCreateReferralHash_eq_ok {req : AdminCreateReferralHashRequest}
    {r : ReferralInfoResponse} (h : AdminCreateReferralHash P env req st = .ok r st') :
    ∃ info, createReferralInfo env req = .ok info ∧
      st' = (st.insert (GlobalStateKeyForReferralHashToReferralInfo P info.ReferralHashBase58)
          (.referralInfo info)).insert
        (GlobalStateKeyForPKIDReferralHashToIsActive P info.ReferrerPKID info.ReferralHashBase58)
        (.bytes [BoolToByte true]) := by
  simp only [AdminCreateReferralHash, bind_eq_ok, liftCheck_eq_ok, mapError_eq_ok,
    wrapError_eq_ok, putReferralHashWithInfo_eq_ok, setReferralHashStatusForPKID_eq_ok,
    pure_apply, EStateM.Result.ok.injEq] at h
  obtain ⟨info, _, ⟨hc, rfl⟩, _, _, ⟨-, rfl⟩, _, _, ⟨-, rfl⟩, -, rfl⟩ := h
  exact ⟨info, hc, rfl⟩

/-- A failed `AdminCreateReferralHash` has written nothing, or its record alone, when the
`Put` of its flag failed. -/
theorem AdminCreateReferralHash_eq_error {req : AdminCreateReferralHashRequest} {e : Failure}
    (h : AdminCreateReferralHash P env req st = .error e st') :
    st' = st ∨ ∃ info, createReferralInfo env req = .ok info ∧
      env.putError (GlobalStateKeyForReferralHashToReferralInfo P info.ReferralHashBase58) = none ∧
      env.putError (GlobalStateKeyForPKIDReferralHashToIsActive P info.ReferrerPKID
        info.ReferralHashBase58) ≠ none ∧
      st' = st.insert (GlobalStateKeyForReferralHashToReferralInfo P info.ReferralHashBase58)
        (.referralInfo info) := by
  simp only [AdminCreateReferralHash, bind_eq_error, bind_eq_ok, liftCheck_eq_ok,
    mapError_eq_ok, wrapError_eq_ok, putReferralHashWithInfo_eq_ok, pure_apply,
    reduceCtorEq, and_false, exists_false, or_false] at h
  rcases h with hl | ⟨info, _, ⟨hc, rfl⟩, hr⟩
  · exact .inl (liftCheck_eq_error hl).2
  rcases hr with hp | ⟨_, _, ⟨hput, rfl⟩, hs⟩
  · obtain ⟨_, hp⟩ := wrapError_eq_error hp
    exact .inl (putReferralHashWithInfo_eq_error hp)
  · obtain ⟨_, hs⟩ := wrapError_eq_error hs
    obtain ⟨hne, -, rfl⟩ := setReferralHashStatusForPKID_eq_error hs
    exact .inr ⟨info, hc, hput, hne, rfl⟩

/-- The record and flag a successful `AdminUpdateReferralHash` writes: the stored record with
the request's amounts, under the request's hash, and the flag under the stored referrer. -/
theorem AdminUpdateReferralHash_eq_ok {req : AdminUpdateReferralHashRequest}
    {r : ReferralInfoResponse} (h : AdminUpdateReferralHash P env req st = .ok r st') :
    ∃ info, updateReferralInfoBase P st req = .ok info ∧
      st' = (st.insert (GlobalStateKeyForReferralHashToReferralInfo P req.ReferralHashBase58)
          (.referralInfo { info with
            ReferrerAmountUSDCents := req.ReferrerAmountUSDCents
            RefereeAmountUSDCents := req.RefereeAmountUSDCents
            MaxReferrals := req.MaxReferrals
            RequiresJumio := req.RequiresJumio })).insert
        (GlobalStateKeyForPKIDReferralHashToIsActive P info.ReferrerPKID req.ReferralHashBase58)
        (.bytes [BoolToByte req.IsActive]) := by
  simp only [AdminUpdateReferralHash, bind_eq_ok, get_apply, EStateM.Result.ok.injEq,
    liftCheck_eq_ok, mapError_eq_ok, wrapError_eq_ok, putReferralHashWithInfo_eq_ok,
    setReferralHashStatusForPKID_eq_ok, pure_apply] at h
  obtain ⟨_, _, ⟨rfl, rfl⟩, info, _, ⟨hc, rfl⟩, _, _, ⟨-, rfl⟩, _, _, ⟨-, rfl⟩, -, rfl⟩ := h
  exact ⟨info, hc, rfl⟩

/-- The record and flag a successful CSV row writes: its record, and its flag unless the flag's
`Put` failed, an error the function drops. -/
theorem updateOrCreateReferralInfoFromCSVRow_eq_ok {row : List Bytes} {u : Unit}
    (h : updateOrCreateReferralInfoFromCSVRow P env row st = .ok u st') :
    ∃ info isActive, referralInfoFromCSVRow P env st row = .ok info ∧
      isActiveFromCSVRow row = .ok isActive ∧
      (st' = (st.insert (GlobalStateKeyForReferralHashToReferralInfo P info.ReferralHashBase58)
          (.referralInfo info)).insert
        (GlobalStateKeyForPKIDReferralHashToIsActive P info.ReferrerPKID info.ReferralHashBase58)
        (.bytes [BoolToByte isActive]) ∨
       st' = st.insert (GlobalStateKeyForReferralHashToReferralInfo P info.ReferralHashBase58)
          (.referralInfo info)) := by
  simp only [updateOrCreateReferralInfoFromCSVRow, bind_eq_ok, get_apply,
    EStateM.Result.ok.injEq, liftCheck_eq_ok, wrapError_eq_ok,
    putReferralHashWithInfo_eq_ok] at h
  obtain ⟨_, _, ⟨rfl, rfl⟩, info, _, ⟨hc, rfl⟩, _, _, ⟨-, rfl⟩, isActive, _, ⟨ha, rfl⟩, hs⟩ := h
  refine ⟨info, isActive, hc, ha, ?_⟩
  rcases ignoreError_eq_ok hs with hs | ⟨_, hs⟩
  · exact .inl (setReferralHashStatusForPKID_eq_ok.mp hs).2
  · obtain ⟨-, -, rfl⟩ := setReferralHashStatusForPKID_eq_error hs
    exact .inr rfl

/-- A failed CSV row has written nothing, or its record alone when the active column fails. -/
theorem updateOrCreateReferralInfoFromCSVRow_eq_error {row : List Bytes} {e : Failure}
    (h : updateOrCreateReferralInfoFromCSVRow P env row st = .error e st') :
    st' = st ∨ ∃ info, referralInfoFromCSVRow P env st row = .ok info ∧
      env.putError (GlobalStateKeyForReferralHashToReferralInfo P info.ReferralHashBase58) = none ∧
      isActiveFromCSVRow row = .error e ∧
      st' = st.insert (GlobalStateKeyForReferralHashToReferralInfo P info.ReferralHashBase58)
        (.referralInfo info) := by
  simp only [updateOrCreateReferralInfoFromCSVRow, bind_eq_error, bind_eq_ok, get_apply,
    EStateM.Result.ok.injEq, liftCheck_eq_ok, wrapError_eq_ok, putReferralHashWithInfo_eq_ok,
    reduceCtorEq, false_or] at h
  obtain ⟨_, _, ⟨rfl, rfl⟩, h⟩ := h
  rcases h with hl | ⟨info, _, ⟨hc, rfl⟩, h⟩
  · exact .inl (liftCheck_eq_error hl).2
  rcases h with hp | ⟨_, _, ⟨hput, rfl⟩, h⟩
  · obtain ⟨_, hp⟩ := wrapError_eq_error hp
    exact .inl (putReferralHashWithInfo_eq_error hp)
  rcases h with ha | ⟨_, _, ⟨-, rfl⟩, hs⟩
  · obtain ⟨hact, rfl⟩ := liftCheck_eq_error ha
    exact .inr ⟨info, hc, hput, hact, rfl⟩
  · obtain ⟨hs, hne⟩ := ignoreError_eq_error hs
    obtain ⟨-, ⟨m, rfl⟩, -⟩ := setReferralHashStatusForPKID_eq_error hs
    exact absurd rfl (hne m)

end Writes

/-- What a failed write leaves behind. A failed CSV row has written nothing, or its record alone,
when the record's `Put` succeeded and its active column, read after the record is written, is
missing or not a `bool`. A failed `AdminCreateReferralHash` has written nothing, or its record
alone, when the record's `Put` succeeded and the active flag's `Put` failed; a successful one has
written both. -/
theorem failed_referral_writes (P : ReferralPrefixes) (env : RequestEnv) (st : GlobalState) :
    (∀ row e st', updateOrCreateReferralInfoFromCSVRow P env row st = .error e st' →
      st' = st ∨ ∃ info, referralInfoFromCSVRow P env st row = .ok info ∧
        env.putError (GlobalStateKeyForReferralHashToReferralInfo P info.ReferralHashBase58) = none ∧
        isActiveFromCSVRow row = .error e ∧
        st' = st.insert (GlobalStateKeyForReferralHashToReferralInfo P info.ReferralHashBase58)
          (.referralInfo info)) ∧
    (∀ req e st', AdminCreateReferralHash P env req st = .error e st' →
      st' = st ∨ ∃ info, createReferralInfo env req = .ok info ∧
        env.putError (GlobalStateKeyForReferralHashToReferralInfo P info.ReferralHashBase58) = none ∧
        env.putError (GlobalStateKeyForPKIDReferralHashToIsActive P info.ReferrerPKID
          info.ReferralHashBase58) ≠ none ∧
        st' = st.insert (GlobalStateKeyForReferralHashToReferralInfo P info.ReferralHashBase58)
          (.referralInfo info)) ∧
    (∀ req r st', AdminCreateReferralHash P env req st = .ok r st' →
      ∃ info, createReferralInfo env req = .ok info ∧
        st' = (st.insert (GlobalStateKeyForReferralHashToReferralInfo P info.ReferralHashBase58)
            (.referralInfo info)).insert
          (GlobalStateKeyForPKIDReferralHashToIsActive P info.ReferrerPKID info.ReferralHashBase58)
          (.bytes [BoolToByte true])) :=
  ⟨fun _ _ _ h => updateOrCreateReferralInfoFromCSVRow_eq_error h,
    fun _ _ _ h => AdminCreateReferralHash_eq_error h, fun _ _ _ h => AdminCreateReferralHash_eq_ok h⟩

/-! ### Concrete runs -/

def samplePrefixes : ReferralPrefixes := ⟨'i', 'a', 'r', by decide, by decide, by decide⟩

/-- The PKID made of 33 copies of one byte. -/
def samplePKID (c : Char) : PKID := ⟨List.replicate 33 c, List.length_replicate _ _⟩

/-- A request environment for concrete runs: every public key decodes to the bytes of
`samplePKID c`, a 33-byte key is its own PKID, the fresh hash is `abcdefgh`, and
`GlobalState.Put` fails on status keys exactly when `failStatus` holds. -/
def sampleEnv (c : Char) (failStatus : Bool) : RequestEnv where
  Base58CheckDecode := fun _ => .ok (List.replicate 33 c)
  PkToString := id
  GetAugmentedUniversalView := .ok
    ⟨fun _ => none, fun pk => if h : pk.length = 33 then some ⟨pk, h⟩ else none, fun _ => none⟩
  randBase58 := "abcdefgh".data
  now := 0
  ParseFloat := fun _ => .error "invalid syntax"
  putError := fun k => if failStatus ∧ k.head? = some 'a' then some "unavailable" else none

/-- A request for a link of the key `pk`, with zero amounts. -/
def sampleCreateRequest : AdminCreateReferralHashRequest := ⟨"pk".data, [], 0, 0, 0, false⟩

/-- Both halves fail on the empty store. A create whose flag `Put` fails returns an error with
its record written and no flag; a new-link row whose active column reads `maybe` returns an
error with its record written. -/
theorem failed_write_keeps_record :
    (∃ e st', AdminCreateReferralHash samplePrefixes (sampleEnv 'p' true) sampleCreateRequest ∅ =
        .error e st' ∧
      (st'.lookup (GlobalStateKeyForReferralHashToReferralInfo samplePrefixes "abcdefgh".data)).isSome ∧
      st'.lookup (GlobalStateKeyForPKIDReferralHashToIsActive samplePrefixes (samplePKID 'p')
        "abcdefgh".data) = none) ∧
    ∃ e st', updateOrCreateReferralInfoFromCSVRow samplePrefixes (sampleEnv 'p' false)
        (["", "", "pk", "0", "0", "0", "false", "", "", "", "", "", "maybe"].map String.data) ∅ =
      .error e st' ∧
      (st'.lookup (GlobalStateKeyForReferralHashToReferralInfo samplePrefixes "abcdefgh".data)).isSome :=
  ⟨⟨_, _, rfl, rfl, rfl⟩, _, _, rfl, rfl⟩

end DesoBackend
