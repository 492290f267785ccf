import DesoBackend.Referral.Index

/-!
# Referral links to CSV and back

`AdminDownloadReferralCSV` writes one row per stored record, its columns in
`ReferralCSVHeaders` order; `AdminUploadReferralCSV` feeds each row back through
`updateOrCreateReferralInfoFromCSVRow`. The writer and the reader agree on every column but
one: the creation time is written with `strconv.FormatUint` and read with
`strconv.ParseFloat` and `uint64(...)`, so it comes back as the nearest `float64`, truncated.
-/

namespace DesoBackend

def ReferralCSVHeaders : List Bytes :=
  ["ReferralHashBase58", "Username", "ReferrerPKIDBase58Check", "ReferrerAmountUSDCents",
    "RefereeAmountUSDCents", "MaxReferrals", "RequiresJumio", "NumJumioAttempts",
    "NumJumioSuccesses", "TotalReferrerDeSoNanos", "TotalRefereeDeSoNanos",
    "DateCreatedTStampNanos", "IsActive"].map String.data

/-- The row `AdminDownloadReferralCSV` emits for one record; its last column is the flag its
batch get of the status key reads, `false` when there is none. -/
def referralCSVRow (P : ReferralPrefixes) (env : RequestEnv) (utxoView : UtxoView)
    (st : GlobalState) (referralInfo : ReferralInfo) : List Bytes :=
  let usernameStr := (utxoView.usernameForPKID referralInfo.ReferrerPKID).getD []
  let statusBytes := ((st.lookup (GlobalStateKeyForPKIDReferralHashToIsActive P
    referralInfo.ReferrerPKID referralInfo.ReferralHashBase58)).map GlobalStateValue.toBytes).getD []
  [referralInfo.ReferralHashBase58, usernameStr,
    env.PkToString (PKIDToPublicKey referralInfo.ReferrerPKID),
    FormatUint referralInfo.ReferrerAmountUSDCents, FormatUint referralInfo.RefereeAmountUSDCents,
    FormatUint referralInfo.MaxReferrals, FormatBool referralInfo.RequiresJumio,
    FormatUint referralInfo.NumJumioAttempts, FormatUint referralInfo.NumJumioSuccesses,
    FormatUint referralInfo.TotalReferrerDeSoNanos, FormatUint referralInfo.TotalRefereeDeSoNanos,
    FormatUint referralInfo.DateCreatedTStampNanos, FormatBool (ReadBoolByte statusBytes)]

/-- `getAllReferralInfos`: the records a seek on the record prefix finds. A value that does not
decode is skipped; the write paths store no other kind. -/
def getAllReferralInfos (P : ReferralPrefixes) (st : GlobalState) : List ReferralInfo :=
  (seek st [P.ReferralHashToReferralInfo]).filterMap fun e =>
    match e.2 with
    | .referralInfo referralInfo => some referralInfo
    | .bytes _ => none

/-- `AdminDownloadReferralCSV`: the header row, then one row per record. -/
def AdminDownloadReferralCSV (P : ReferralPrefixes) (env : RequestEnv) (st : GlobalState) :
    Except String (List (List Bytes)) :=
  match env.GetAugmentedUniversalView with
  | .error err => .error ("AdminDownloadReferralCSV: Problem fetching utxoView: " ++ err)
  | .ok utxoView =>
    .ok (ReferralCSVHeaders :: (getAllReferralInfos P st).map (referralCSVRow P env utxoView st))

section RoundTrip

variable {P : ReferralPrefixes} {env : RequestEnv} {utxoView : UtxoView} {st : GlobalState}
  {info : ReferralInfo}

/-- The active flag a record's row carries. -/
def exportedIsActive (P : ReferralPrefixes) (st : GlobalState) (info : ReferralInfo) : Bool :=
  ReadBoolByte (((st.lookup (GlobalStateKeyForPKIDReferralHashToIsActive P info.ReferrerPKID
    info.ReferralHashBase58)).map GlobalStateValue.toBytes).getD [])

/-- A record's row, read in any store that holds the record, names the record's hash. -/
lemma referralHashFromCSVRow_exported {s : GlobalState}
    (hstored : s.lookup (GlobalStateKeyForReferralHashToReferralInfo P info.ReferralHashBase58) =
      some (.referralInfo info)) (hhash : info.ReferralHashBase58 ≠ []) :
    referralHashFromCSVRow P env s (referralCSVRow P env utxoView st info) =
      .ok (info.ReferralHashBase58, some info) := by
  have hget : getInfoForReferralHashBase58 P s info.ReferralHashBase58 = .ok info :=
    getInfoForReferralHashBase58_eq_ok.mpr hstored
  simp only [referralHashFromCSVRow, show rowAt (referralCSVRow P env utxoView st info)
    CSVColumnReferralHash = .ok info.ReferralHashBase58 from rfl, bind, Except.bind,
    List.length_eq_zero, hhash, if_false, hget, pure, Except.pure]

lemma referrerPKIDFromCSVRow_exported
    (hpk : env.Base58CheckDecode (env.PkToString info.ReferrerPKID.bytes) =
      .ok info.ReferrerPKID.bytes) :
    referrerPKIDFromCSVRow env (referralCSVRow P env utxoView st info) = .ok info.ReferrerPKID := by
  simp only [referrerPKIDFromCSVRow, show rowAt (referralCSVRow P env utxoView st info)
    CSVColumnPKID = .ok (env.PkToString info.ReferrerPKID.bytes) from rfl, bind, Except.bind,
    hpk, dif_pos info.ReferrerPKID.length_bytes, pure, Except.pure]
  rfl

lemma parseUintColumn_FormatUint {row : List Bytes} {column shownColumn : Nat} {what : String}
    {v : UInt64} (h : rowAt row column = .ok (FormatUint v)) :
    parseUintColumn row column what shownColumn = .ok v := by
  simp only [parseUintColumn, h, bind, Except.bind, ParseUint_FormatUint, pure, Except.pure]

lemma parseBoolColumn_FormatBool {row : List Bytes} {column shownColumn : Nat} {what : String}
    {b : Bool} (h : rowAt row column = .ok (FormatBool b)) :
    parseBoolColumn row column what shownColumn = .ok b := by
  simp only [parseBoolColumn, h, bind, Except.bind, ParseBool_FormatBool, pure, Except.pure]

lemma tstampNanosFromCSVRow_exported {f : Float64}
    (hf : env.ParseFloat (FormatUint info.DateCreatedTStampNanos) = .ok f) :
    tstampNanosFromCSVRow env (referralCSVRow P env utxoView st info) = .ok (float64ToUint64 f) := by
  have hlen : (FormatUint info.DateCreatedTStampNanos).length > 0 :=
    List.length_pos.mpr (FormatUint_ne_nil _)
  simp only [tstampNanosFromCSVRow, show rowAt (referralCSVRow P env utxoView st info)
    CSVColumnTstampNanos = .ok (FormatUint info.DateCreatedTStampNanos) from rfl, bind,
    Except.bind, hlen, if_true, hf, pure, Except.pure]

/-- Reading a record's row back, in any store that holds the record, gives the record with its
creation time replaced by what `strconv.ParseFloat` and `uint64(...)` make of the printed
time. -/
lemma referralInfoFromCSVRow_exported {f : Float64} {s : GlobalState}
    (hstored : s.lookup (GlobalStateKeyForReferralHashToReferralInfo P info.ReferralHashBase58) =
      some (.referralInfo info)) (hhash : info.ReferralHashBase58 ≠ [])
    (hpk : env.Base58CheckDecode (env.PkToString info.ReferrerPKID.bytes) =
      .ok info.ReferrerPKID.bytes)
    (hf : env.ParseFloat (FormatUint info.DateCreatedTStampNanos) = .ok f) :
    referralInfoFromCSVRow P env s (referralCSVRow P env utxoView st info) =
      .ok { info with DateCreatedTStampNanos := float64ToUint64 f } := by
  have hReferrer : parseUintColumn (referralCSVRow P env utxoView st info) CSVColumnReferrerAmount
      "error parsing referrer amount" 2 = .ok info.ReferrerAmountUSDCents :=
    parseUintColumn_FormatUint rfl
  have hReferee : parseUintColumn (referralCSVRow P env utxoView st info) CSVColumnRefereeAmount
      "error parsing refereer amount" 3 = .ok info.RefereeAmountUSDCents :=
    parseUintColumn_FormatUint rfl
  have hMax : parseUintColumn (referralCSVRow P env utxoView st info) CSVColumnMaxReferrals
      "error parsing max referrals" 4 = .ok info.MaxReferrals :=
    parseUintColumn_FormatUint rfl
  have hJumio : parseBoolColumn (referralCSVRow P env utxoView st info) CSVColumnRequiresJumio
      "error parsing requires jumio" 4 = .ok info.RequiresJumio :=
    parseBoolColumn_FormatBool rfl
  simp only [referralInfoFromCSVRow, referralHashFromCSVRow_exported hstored hhash,
    referrerPKIDFromCSVRow_exported hpk, hReferrer, hReferee, hMax, hJumio,
    tstampNanosFromCSVRow_exported hf, bind, Except.bind, pure, Except.pure]
  rfl

lemma isActiveFromCSVRow_exported :
    isActiveFromCSVRow (referralCSVRow P env utxoView st info) = .ok (exportedIsActive P st info) := by
  have hlen : (FormatBool (exportedIsActive P st info)).length > 0 := by
    cases exportedIsActive P st info <;> decide
  simp only [isActiveFromCSVRow, show rowAt (referralCSVRow P env utxoView st info)
    CSVColumnIsActive = .ok (FormatBool (exportedIsActive P st info)) from rfl, bind, Except.bind,
    hlen, if_true]
  exact parseBoolColumn_FormatBool rfl

/-- A row whose record and flag read cleanly is written, once the record's `Put` succeeds. -/
lemma updateOrCreateReferralInfoFromCSVRow_of_ok {row : List Bytes} {isActive : Bool}
    (hc : referralInfoFromCSVRow P env st row = .ok info)
    (ha : isActiveFromCSVRow row = .ok isActive)
    (hput : env.putError (GlobalStateKeyForReferralHashToReferralInfo P info.ReferralHashBase58) =
      none) :
    ∃ st', updateOrCreateReferralInfoFromCSVRow P env row st = .ok () st' ∧
      st'.lookup (GlobalStateKeyForReferralHashToReferralInfo P info.ReferralHashBase58) =
        some (.referralInfo info) := by
  set st1 := st.insert (GlobalStateKeyForReferralHashToReferralInfo P info.ReferralHashBase58)
    (.referralInfo info)
  have hset : ∃ st2, ignoreError (setReferralHashStatusForPKID P env info.ReferrerPKID
      info.ReferralHashBase58 isActive) st1 = .ok () st2 ∧
      st2.lookup (GlobalStateKeyForReferralHashToReferralInfo P info.ReferralHashBase58) =
        some (.referralInfo info) := by
    cases hs : env.putError (GlobalStateKeyForPKIDReferralHashToIsActive P info.ReferrerPKID
      info.ReferralHashBase58) <;>
      simp only [ignoreError, setReferralHashStatusForPKID, wrapError, globalStatePut, hs]
    · exact ⟨_, rfl, by rw [lookup_info_insert_status]; exact AList.lookup_insert _⟩
    · exact ⟨_, rfl, AList.lookup_insert _⟩
  obtain ⟨st2, h2, hl⟩ := hset
  refine ⟨st2, ?_, hl⟩
  simp only [updateOrCreateReferralInfoFromCSVRow, bind_eq_ok]
  exact ⟨st, st, rfl, info, st, liftCheck_eq_ok.mpr ⟨hc, rfl⟩, (), st1,
    wrapError_eq_ok.mpr (putReferralHashWithInfo_eq_ok.mpr ⟨hput, rfl⟩), isActive, st1,
    liftCheck_eq_ok.mpr ⟨ha, rfl⟩, h2⟩

lemma exportedIsActive_congr {s s' : GlobalState}
    (h : s'.lookup (GlobalStateKeyForPKIDReferralHashToIsActive P info.ReferrerPKID
      info.ReferralHashBase58) = s.lookup (GlobalStateKeyForPKIDReferralHashToIsActive P
        info.ReferrerPKID info.ReferralHashBase58)) :
    exportedIsActive P s' info = exportedIsActive P s info := by
  simp only [exportedIsActive, h]

/-- Export then import of a record, into a store `s` that holds the record and the flag the row
was exported with: the record comes back with its creation time replaced by the `uint64` of the
`float64` `strconv.ParseFloat` reads from the printed time, the flag reads as it did, and no
other key is written. -/
lemma updateOrCreateReferralInfoFromCSVRow_exported {f : Float64} {u : Unit} {s s' : GlobalState}
    (hs : s.lookup (GlobalStateKeyForReferralHashToReferralInfo P info.ReferralHashBase58) =
      some (.referralInfo info)) (hhash : info.ReferralHashBase58 ≠ [])
    (hstat : s.lookup (GlobalStateKeyForPKIDReferralHashToIsActive P info.ReferrerPKID
      info.ReferralHashBase58) = st.lookup (GlobalStateKeyForPKIDReferralHashToIsActive P
        info.ReferrerPKID info.ReferralHashBase58))
    (hpk : env.Base58CheckDecode (env.PkToString info.ReferrerPKID.bytes) =
      .ok info.ReferrerPKID.bytes)
    (hf : env.ParseFloat (FormatUint info.DateCreatedTStampNanos) = .ok f)
    (hrun : updateOrCreateReferralInfoFromCSVRow P env (referralCSVRow P env utxoView st info) s =
      .ok u s') :
    s'.lookup (GlobalStateKeyForReferralHashToReferralInfo P info.ReferralHashBase58) =
        some (.referralInfo { info with DateCreatedTStampNanos := float64ToUint64 f }) ∧
      exportedIsActive P s' info = exportedIsActive P st info ∧
      ∀ k, k ≠ GlobalStateKeyForReferralHashToReferralInfo P info.ReferralHashBase58 →
        k ≠ GlobalStateKeyForPKIDReferralHashToIsActive P info.ReferrerPKID
          info.ReferralHashBase58 → s'.lookup k = s.lookup k := by
  obtain ⟨info', isActive, hc, ha, hst⟩ := updateOrCreateReferralInfoFromCSVRow_eq_ok hrun
  rw [referralInfoFromCSVRow_exported hs hhash hpk hf, Except.ok.injEq] at hc
  rw [isActiveFromCSVRow_exported, Except.ok.injEq] at ha
  subst hc ha
  rcases hst with rfl | rfl
  · refine ⟨by rw [lookup_info_insert_status]; exact AList.lookup_insert _, ?_,
      fun k hk hk' => by rw [AList.lookup_insert_ne hk', AList.lookup_insert_ne hk]⟩
    simp only [exportedIsActive, AList.lookup_insert, Option.map_some', Option.getD_some,
      GlobalStateValue.toBytes, ReadBoolByte_BoolToByte]
  · exact ⟨AList.lookup_insert _, (exportedIsActive_congr (by rw [lookup_status_insert_info])).trans
      (exportedIsActive_congr hstat), fun k hk _ => AList.lookup_insert_ne hk⟩

end RoundTrip

/-- `2^53`, the `float64` nearest to `2^53 + 1`: the tie goes to the even mantissa. -/
def twoPow53 : Float64 := ⟨false, 2 ^ 52, 1, by norm_num, by norm_num, by norm_num⟩

/-- A link created at `2^53 + 1` nanoseconds, as the CSV round trip is run on it. -/
def sampleTimestampInfo : ReferralInfo :=
  ⟨"abcdefgh".data, samplePKID 'p', 100, 200, 5, true, 1, 2, 3, 4, 9007199254740993⟩

def sampleTimestampStore : GlobalState :=
  (∅ : GlobalState).insert (GlobalStateKeyForReferralHashToReferralInfo samplePrefixes
    "abcdefgh".data) (.referralInfo sampleTimestampInfo)

/-- The export then import of a link created at `2^53 + 1` nanoseconds moves its creation time
to `2^53`: the time column goes through a `float64`, which has no `2^53 + 1`. -/
theorem csv_round_trip_rounds_timestamp (env : RequestEnv) (utxoView : UtxoView)
    (hpk : env.Base58CheckDecode (env.PkToString (samplePKID 'p').bytes) =
      .ok (samplePKID 'p').bytes)
    (hf : env.ParseFloat "9007199254740993".data = .ok twoPow53)
    (hput : env.putError (GlobalStateKeyForReferralHashToReferralInfo samplePrefixes
      "abcdefgh".data) = none) :
    ∃ st', updateOrCreateReferralInfoFromCSVRow samplePrefixes env
        (referralCSVRow samplePrefixes env utxoView
          sampleTimestampStore sampleTimestampInfo) sampleTimestampStore = .ok () st' ∧
      st'.lookup (GlobalStateKeyForReferralHashToReferralInfo samplePrefixes "abcdefgh".data) =
        some (.referralInfo
          { sampleTimestampInfo with DateCreatedTStampNanos := 9007199254740992 }) := by
  have hf' : env.ParseFloat (FormatUint sampleTimestampInfo.DateCreatedTStampNanos) =
      .ok twoPow53 := hf
  have hc : referralInfoFromCSVRow samplePrefixes env sampleTimestampStore
      (referralCSVRow samplePrefixes env utxoView sampleTimestampStore sampleTimestampInfo) =
      .ok { sampleTimestampInfo with DateCreatedTStampNanos := float64ToUint64 twoPow53 } :=
    referralInfoFromCSVRow_exported (AList.lookup_insert _) (by decide) hpk hf'
  exact updateOrCreateReferralInfoFromCSVRow_of_ok hc isActiveFromCSVRow_exported hput

/-- A request environment whose `strconv.ParseFloat` reads every string as `2^53`. -/
def sampleCsvEnv : RequestEnv := { sampleEnv 'p' false with ParseFloat := fun _ => .ok twoPow53 }

theorem csv_round_trip_rounds_timestamp_sample :
    (sampleCsvEnv.Base58CheckDecode (sampleCsvEnv.PkToString (samplePKID 'p').bytes) =
        .ok (samplePKID 'p').bytes ∧
      sampleCsvEnv.ParseFloat "9007199254740993".data = .ok twoPow53 ∧
      sampleCsvEnv.putError (GlobalStateKeyForReferralHashToReferralInfo samplePrefixes
        "abcdefgh".data) = none) ∧
    ∃ st', updateOrCreateReferralInfoFromCSVRow samplePrefixes sampleCsvEnv
        (referralCSVRow samplePrefixes sampleCsvEnv ⟨fun _ => none, fun _ => none, fun _ => none⟩
          sampleTimestampStore sampleTimestampInfo) sampleTimestampStore = .ok () st' ∧
      st'.lookup (GlobalStateKeyForReferralHashToReferralInfo samplePrefixes "abcdefgh".data) =
        some (.referralInfo
          { sampleTimestampInfo with DateCreatedTStampNanos := 9007199254740992 }) :=
  ⟨⟨rfl, rfl, rfl⟩, csv_round_trip_rounds_timestamp _ _ rfl rfl rfl⟩

end DesoBackend
