import DesoBackend.Referral.Store
import DesoBackend.Go.Float64

/-!
# The referral admin handlers

`AdminCreateReferralHash`, `AdminUpdateReferralHash` and `updateOrCreateReferralInfoFromCSVRow`
as state transformers of global state. Each handler first reads the request, the row and the
store without writing, then writes the `ReferralInfo` and the link's active flag with two
`GlobalState.Put` calls. A failing call returns the store as it stands when it fails, earlier
writes included. What the handlers see besides the store is a `RequestEnv`: the core
library's Base58Check codec, the UTXO view, the random text of a fresh hash, the clock, and
whether each `Put` fails.
-/

namespace DesoBackend

/-- The augmented UTXO view as the referral handlers query it: the public key of a username's
profile, the PKID of a public key, and the username of a PKID's profile. -/
structure UtxoView where
  profilePublicKeyForUsername : Bytes → Option Bytes
  pkidForPublicKey : Bytes → Option PKID
  usernameForPKID : PKID → Option Bytes

/-- Everything a request sees besides global state. `randBase58` is the Base58 text of the random
bytes `generateNewReferralHash` draws, `now` is `uint64(time.Now().UnixNano())`, and
`putError k` is the error `GlobalState.Put` returns for key `k`, if any. -/
structure RequestEnv where
  Base58CheckDecode : Bytes → Except String Bytes
  PkToString : Bytes → Bytes
  GetAugmentedUniversalView : Except String UtxoView
  randBase58 : Bytes
  now : UInt64
  ParseFloat : Bytes → Except String Float64
  putError : Bytes → Option String

/-- A handler run: failures keep the store as it stands when they happen. -/
abbrev ReferralM := EStateM Failure GlobalState

/-- `fes.GlobalState.Put(key, value)`: the store takes the entry unless the write fails. -/
def globalStatePut (putError : Bytes → Option String) (key : Bytes) (value : GlobalStateValue) :
    ReferralM Unit := fun st =>
  match putError key with
  | some err => .error (.error err) st
  | none => .ok () (st.insert key value)

/-- `if err != nil { return fmt.Errorf(context + "%v", err) }` around a call. -/
def wrapError {α : Type} (context : String) (x : ReferralM α) : ReferralM α := fun st =>
  match x st with
  | .error (.error err) st' => .error (.error (context ++ err)) st'
  | r => r

/-- A call whose returned error is dropped. -/
def ignoreError (x : ReferralM Unit) : ReferralM Unit := fun st =>
  match x st with
  | .error (.error _) st' => .ok () st'
  | r => r

/-- A check that reads but does not write: its error becomes the handler's. -/
def liftCheck {α : Type} (x : Except Failure α) : ReferralM α := fun st =>
  match x with
  | .ok a => .ok a st
  | .error e => .error e st

/-- `row[i]`, which panics past the end of the row. -/
def rowAt (row : List Bytes) (i : Nat) : Except Failure Bytes :=
  match row.get? i with
  | some cell => .ok cell
  | none => .error (.panic ("runtime error: index out of range [" ++ toString i ++
      "] with length " ++ toString row.length))

/-- `generateNewReferralHash`: the first eight characters of the Base58 text of 16 random bytes. -/
def generateNewReferralHash (randBase58 : Bytes) : Except String Bytes :=
  if randBase58.length < 8 then
    .error ("AdminCreateReferralHash: randBase58 string is less than 8 characters (" ++
      toString randBase58.length ++ ")")
  else .ok (randBase58.take 8)

lemma length_of_generateNewReferralHash {randBase58 h : Bytes}
    (hg : generateNewReferralHash randBase58 = .ok h) : h.length = 8 := by
  unfold generateNewReferralHash at hg
  split at hg
  · cases hg
  · cases hg
    simp only [List.length_take]
    omega

section Handlers

variable (P : ReferralPrefixes)

def putReferralHashWithInfo (env : RequestEnv) (referralHashBase58 : Bytes)
    (referralInfo : ReferralInfo) : ReferralM Unit :=
  wrapError ": putReferralHashWithInfo: Problem putting updated referralInfo: " <|
    globalStatePut env.putError (GlobalStateKeyForReferralHashToReferralInfo P referralHashBase58)
      (.referralInfo referralInfo)

/-- `setReferralHashStatusForPKID`; its error text is the one `putReferralHashWithInfo` uses. -/
def setReferralHashStatusForPKID (env : RequestEnv) (pkid : PKID) (referralHashBase58 : Bytes)
    (isActive : Bool) : ReferralM Unit :=
  wrapError ": putReferralHashWithInfo: Problem putting updated referralInfo: " <|
    globalStatePut env.putError (GlobalStateKeyForPKIDReferralHashToIsActive P pkid referralHashBase58)
      (.bytes [BoolToByte isActive])

/-- `getInfoForReferralHashBase58`, a read of the store. Raw bytes under an info key do not
decode as a `ReferralInfo`. -/
def getInfoForReferralHashBase58 (st : GlobalState) (referralHashBase58 : Bytes) :
    Except String ReferralInfo :=
  match st.lookup (GlobalStateKeyForReferralHashToReferralInfo P referralHashBase58) with
  | some (.referralInfo referralInfo) => .ok referralInfo
  | some (.bytes _) => .error ("getInfoForReferralHash: Failed decoding referral info (" ++
      String.mk referralHashBase58 ++ "): gob: decoding error")
  | none => .error ("getInfoForReferralHashBase58: got nil bytes for hash (" ++
      String.mk referralHashBase58 ++ ")")

end Handlers

/-- `ReferralInfoResponse`. `Info = none` is the zero `ReferralInfo{}` of a missing record;
`ReferredUsers` holds the referee PKIDs cut out of the referee keys. -/
structure ReferralInfoResponse where
  IsActive : Bool
  Info : Option ReferralInfo
  ReferredUsers : List Bytes

/-! ### `AdminCreateReferralHash` -/

structure AdminCreateReferralHashRequest where
  UserPublicKeyBase58Check : Bytes
  Username : Bytes
  ReferrerAmountUSDCents : UInt64
  RefereeAmountUSDCents : UInt64
  MaxReferrals : UInt64
  RequiresJumio : Bool

/-- The checks and lookups `AdminCreateReferralHash` makes before it writes: the referrer's PKID,
from the decoded public key or else from the username's profile. -/
def createReferrerPKID (env : RequestEnv) (requestData : AdminCreateReferralHashRequest) :
    Except String PKID := do
  if requestData.UserPublicKeyBase58Check = [] ∧ requestData.Username = [] then
    throw "AdminCreateReferralHashRequest: Must provide a valid username or public key."
  let referralLimitUSD : UInt64 := 100000
  if requestData.ReferrerAmountUSDCents > referralLimitUSD ∨
      requestData.RefereeAmountUSDCents > referralLimitUSD then
    throw "AdminCreateReferralHashRequest: Referrer and referee amounts should not exceed $1000 USD."
  let mut userPublicKeyBytes : Option Bytes := none
  if requestData.UserPublicKeyBase58Check ≠ [] then
    let shown := "AdminCreateReferralHash: Problem decoding updater public key " ++
      String.mk requestData.UserPublicKeyBase58Check ++ ": "
    match env.Base58CheckDecode requestData.UserPublicKeyBase58Check with
    | .ok pkBytes =>
      if pkBytes.length ≠ 33 then throw (shown ++ "<nil>")
      userPublicKeyBytes := some pkBytes
    | .error err => throw (shown ++ err)
  if userPublicKeyBytes = none ∧ requestData.Username ≠ [] then
    match env.GetAugmentedUniversalView with
    | .error err => throw ("AdminCreateReferralHash: Problem fetching utxoView: " ++ err)
    | .ok utxoView =>
      match utxoView.profilePublicKeyForUsername requestData.Username with
      | none => throw ("AdminCreateReferralHash: Problem getting profile for username: <nil> : " ++
          String.mk requestData.Username)
      | some publicKey => userPublicKeyBytes := some publicKey
  let utxoView ← match env.GetAugmentedUniversalView with
    | .error err => throw ("AdminCreateReferralHash: Problem getting utxoView: " ++ err)
    | .ok utxoView => pure utxoView
  match utxoView.pkidForPublicKey (userPublicKeyBytes.getD []) with
  | none => throw ("AdminCreateReferralHash: nil PKID for pubkey: " ++
      String.mk (env.PkToString (userPublicKeyBytes.getD [])))
  | some referrerPKID => pure referrerPKID

/-- The record `AdminCreateReferralHash` writes: the request's amounts, the referrer, a fresh
hash and the current time, with zero statistics. -/
def createReferralInfo (env : RequestEnv) (requestData : AdminCreateReferralHashRequest) :
    Except String ReferralInfo := do
  let referrerPKID ← createReferrerPKID env requestData
  let referralHashBase58 ← match generateNewReferralHash env.randBase58 with
    | .error err => throw ("AdminCreateReferralHash: problem generating referral hash: " ++ err)
    | .ok referralHashBase58 => pure referralHashBase58
  return {
    ReferrerAmountUSDCents := requestData.ReferrerAmountUSDCents
    RefereeAmountUSDCents := requestData.RefereeAmountUSDCents
    MaxReferrals := requestData.MaxReferrals
    RequiresJumio := requestData.RequiresJumio
    ReferralHashBase58 := referralHashBase58
    ReferrerPKID := referrerPKID
    NumJumioAttempts := 0
    NumJumioSuccesses := 0
    TotalReferrerDeSoNanos := 0
    TotalRefereeDeSoNanos := 0
    DateCreatedTStampNanos := env.now }

/-- `AdminCreateReferralHash`: write the new record, then mark the link active. -/
def AdminCreateReferralHash (P : ReferralPrefixes) (env : RequestEnv)
    (requestData : AdminCreateReferralHashRequest) : ReferralM ReferralInfoResponse := do
  let referralInfo ← liftCheck ((createReferralInfo env requestData).mapError .error)
  wrapError "AdminCreateReferralHash: Problem putting new referral hash and info: " <|
    putReferralHashWithInfo P env referralInfo.ReferralHashBase58 referralInfo
  wrapError "AdminCreateReferralHash: Problem setting referral hash status: " <|
    setReferralHashStatusForPKID P env referralInfo.ReferrerPKID referralInfo.ReferralHashBase58 true
  return ⟨true, some referralInfo, []⟩

/-! ### `AdminUpdateReferralHash` -/

structure AdminUpdateReferralHashRequest where
  ReferralHashBase58 : Bytes
  ReferrerAmountUSDCents : UInt64
  RefereeAmountUSDCents : UInt64
  MaxReferrals : UInt64
  RequiresJumio : Bool
  IsActive : Bool

/-- The stored record `AdminUpdateReferralHash` starts from. -/
def updateReferralInfoBase (P : ReferralPrefixes) (st : GlobalState)
    (requestData : AdminUpdateReferralHashRequest) : Except String ReferralInfo :=
  if requestData.ReferralHashBase58 = [] then
    .error "AdminUpdateReferralHashRequest: Must provide a referral hash to update."
  else
    (getInfoForReferralHashBase58 P st requestData.ReferralHashBase58).mapError
      ("AdminUpdateeReferralHash: Problem putting updated referral hash and info: " ++ ·)

/-- `AdminUpdateReferralHash`: overwrite the amounts of a stored record, keeping its referrer,
then set the link's active flag. -/
def AdminUpdateReferralHash (P : ReferralPrefixes) (env : RequestEnv)
    (requestData : AdminUpdateReferralHashRequest) : ReferralM ReferralInfoResponse := do
  let referralInfo ← liftCheck ((updateReferralInfoBase P (← get) requestData).mapError .error)
  let updatedReferralInfo := { referralInfo with
    ReferrerAmountUSDCents := requestData.ReferrerAmountUSDCents
    RefereeAmountUSDCents := requestData.RefereeAmountUSDCents
    MaxReferrals := requestData.MaxReferrals
    RequiresJumio := requestData.RequiresJumio }
  wrapError "AdminUpdateReferralHash: Problem putting updated referral hash and info: " <|
    putReferralHashWithInfo P env requestData.ReferralHashBase58 updatedReferralInfo
  wrapError "AdminUpdateReferralHash: Problem setting referral hash status: " <|
    setReferralHashStatusForPKID P env referralInfo.ReferrerPKID requestData.ReferralHashBase58
      requestData.IsActive
  return ⟨requestData.IsActive, some updatedReferralInfo, []⟩

/-! ### `updateOrCreateReferralInfoFromCSVRow` -/

def CSVColumnReferralHash : Nat := 0
def CSVColumnPKID : Nat := 2
def CSVColumnReferrerAmount : Nat := 3
def CSVColumnRefereeAmount : Nat := 4
def CSVColumnMaxReferrals : Nat := 5
def CSVColumnRequiresJumio : Nat := 6
def CSVColumnTstampNanos : Nat := 11
def CSVColumnIsActive : Nat := 12

/-- `uint64(f)` as Go compiles it for amd64: below `2^63` the signed truncating `CVTTSD2SQ`,
whose result out of the `int64` range is the integer indefinite `2^63`; from `2^63` on the same
conversion of `f - 2^63` with the top bit set, which is `2^63` again from `2^64` on. So the
truncation toward zero modulo `2^64` when it lies in `[-2^63, 2^64)`, and `2^63` otherwise. -/
def float64ToUint64 (f : Float64) : UInt64 :=
  if -2 ^ 63 ≤ bigFloatInt f ∧ bigFloatInt f < 2 ^ 64 then
    UInt64.ofNat (bigFloatInt f % 2 ^ 64).toNat
  else UInt64.ofNat (2 ^ 63)

/-- One `strconv.ParseUint` column of a row; the error names the column `shownColumn`. -/
def parseUintColumn (row : List Bytes) (column : Nat) (what : String) (shownColumn : Nat) :
    Except Failure UInt64 := do
  match ParseUint (← rowAt row column) with
  | .ok v => pure v
  | .error err => throw (.error ("updateOrCreateReferralInfoFromCSVRow: " ++ what ++ " (" ++
      String.mk (← rowAt row shownColumn) ++ "): " ++ err))

/-- One `strconv.ParseBool` column of a row; the error names the column `shownColumn`. -/
def parseBoolColumn (row : List Bytes) (column : Nat) (what : String) (shownColumn : Nat) :
    Except Failure Bool := do
  match ParseBool (← rowAt row column) with
  | .ok b => pure b
  | .error err => throw (.error ("updateOrCreateReferralInfoFromCSVRow: " ++ what ++ " (" ++
      String.mk (← rowAt row shownColumn) ++ "): " ++ err))

/-- The hash a row is written under, and the stored record it updates: a fresh hash when the
hash cell is empty, else the stored record of that hash and the hash it records. -/
def referralHashFromCSVRow (P : ReferralPrefixes) (env : RequestEnv) (st : GlobalState)
    (row : List Bytes) : Except Failure (Bytes × Option ReferralInfo) := do
  let referralHashCell ← rowAt row CSVColumnReferralHash
  if referralHashCell.length = 0 then
    match generateNewReferralHash env.randBase58 with
    | .error err => throw (.error
        ("updateOrCreateReferralInfoFromCSVRow: problem generating referral hash: " ++ err))
    | .ok referralHashBase58 => pure (referralHashBase58, none)
  else
    match getInfoForReferralHashBase58 P st referralHashCell with
    | .error err => throw (.error ("updateOrCreateReferralInfoFromCSVRow: error getting referral info (" ++
        String.mk referralHashCell ++ "): " ++ err))
    | .ok existingReferralInfo =>
      pure (existingReferralInfo.ReferralHashBase58, some existingReferralInfo)

/-- The referrer of a row: its PKID column decoded to a 33-byte public key. -/
def referrerPKIDFromCSVRow (env : RequestEnv) (row : List Bytes) : Except Failure PKID := do
  let pkidCell ← rowAt row CSVColumnPKID
  let shown := "updateOrCreateReferralInfoFromCSVRow: Problem decoding pkid "
  match env.Base58CheckDecode pkidCell with
  | .error err => throw (.error (shown ++ String.mk (← rowAt row 1) ++ ": " ++ err))
  | .ok pkBytes =>
    if h : pkBytes.length = 33 then pure (PublicKeyToPKID pkBytes h)
    else throw (.error (shown ++ String.mk (← rowAt row 1) ++ ": <nil>"))

/-- The creation time of a row: its timestamp column read with `strconv.ParseFloat` and
converted with `uint64(...)`, or the current time when the cell is empty. -/
def tstampNanosFromCSVRow (env : RequestEnv) (row : List Bytes) : Except Failure UInt64 := do
  let tstampCell ← rowAt row CSVColumnTstampNanos
  if tstampCell.length > 0 then
    match env.ParseFloat tstampCell with
    | .ok tstampFloat => pure (float64ToUint64 tstampFloat)
    | .error err => throw (.error ("updateOrCreateReferralInfoFromCSVRow: error parsing tstamp nanos (" ++
        String.mk (← rowAt row 10) ++ "): " ++ err))
  else pure env.now

/-- The record `updateOrCreateReferralInfoFromCSVRow` writes, built before any write: the stored
record of the row's hash, or a fresh one, with the row's PKID, amounts, Jumio flag and
timestamp over it. -/
def referralInfoFromCSVRow (P : ReferralPrefixes) (env : RequestEnv) (st : GlobalState)
    (row : List Bytes) : Except Failure ReferralInfo := do
  let (referralHashBase58, existing) ← referralHashFromCSVRow P env st row
  let referrerPKID ← referrerPKIDFromCSVRow env row
  let referrerAmount ←
    parseUintColumn row CSVColumnReferrerAmount "error parsing referrer amount" 2
  let refereeAmount ←
    parseUintColumn row CSVColumnRefereeAmount "error parsing refereer amount" 3
  let maxReferrals ← parseUintColumn row CSVColumnMaxReferrals "error parsing max referrals" 4
  let requiresJumio ← parseBoolColumn row CSVColumnRequiresJumio "error parsing requires jumio" 4
  let tstampNanos ← tstampNanosFromCSVRow env row
  return {
    ReferralHashBase58 := referralHashBase58
    ReferrerPKID := referrerPKID
    ReferrerAmountUSDCents := referrerAmount
    RefereeAmountUSDCents := refereeAmount
    MaxReferrals := maxReferrals
    RequiresJumio := requiresJumio
    NumJumioAttempts := (existing.map (·.NumJumioAttempts)).getD 0
    NumJumioSuccesses := (existing.map (·.NumJumioSuccesses)).getD 0
    TotalReferrerDeSoNanos := (existing.map (·.TotalReferrerDeSoNanos)).getD 0
    TotalRefereeDeSoNanos := (existing.map (·.TotalRefereeDeSoNanos)).getD 0
    DateCreatedTStampNanos := tstampNanos }

/-- The active flag of a row, read after the record is written; an empty cell means active. -/
def isActiveFromCSVRow (row : List Bytes) : Except Failure Bool := do
  if (← rowAt row CSVColumnIsActive).length > 0 then
    parseBoolColumn row CSVColumnIsActive "error parsing requires jumio" 4
  else pure true

/-- `updateOrCreateReferralInfoFromCSVRow`. The error of the status write is dropped. -/
def updateOrCreateReferralInfoFromCSVRow (P : ReferralPrefixes) (env : RequestEnv)
    (row : List Bytes) : ReferralM Unit := do
  let referralInfo ← liftCheck (referralInfoFromCSVRow P env (← get) row)
  wrapError ("updateOrCreateReferralInfoFromCSVRow: problem putting referral info (" ++
      String.mk referralInfo.ReferralHashBase58 ++ "): ") <|
    putReferralHashWithInfo P env referralInfo.ReferralHashBase58 referralInfo
  let isActive ← liftCheck (isActiveFromCSVRow row)
  ignoreError <|
    setReferralHashStatusForPKID P env referralInfo.ReferrerPKID referralInfo.ReferralHashBase58
      isActive

end DesoBackend
